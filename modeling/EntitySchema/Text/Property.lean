import EntitySchema.Text.Age
import EntitySchema.Text.Segmentation
/-!
Properties of characters by name.

Names are compared without regard to case, blanks, hyphens and underscores, and without a leading
`is`.
-/

namespace EntitySchema

/-- The form in which names are compared. Only ASCII characters count. -/
def propertyName (name : List Char) : String :=
  let (isMarked, unmarked) :=
    match name with
    | first :: second :: rest =>
      if first.toLower = 'i' ∧ second.toLower = 's' then (true, rest) else (false, name)
    | _ => (false, name)
  let plain := unmarked.filter fun character =>
    character.toNat < 0x80 && character ∉ [' ', '_', '-']
  let folded := String.ofList (plain.map Char.toLower)
  if isMarked && folded == "c" then "isc" else folded

example : propertyName "Is_Greek".toList = "greek" := by decide +kernel
example : propertyName "upper case-LETTER".toList = "uppercaseletter" := by decide +kernel

def propertyRanges? (name : List Char) : Option CodeRanges :=
  let name := propertyName name
  ((binaryProperty? name).or (generalCategory? name)).or (script? name)

def propertyValueRanges? (name value : List Char) : Option CodeRanges :=
  let value := propertyName value
  match propertyName name with
  | "gc" | "generalcategory" => generalCategory? value
  | "sc" | "script" => script? value
  | "scx" | "scriptextensions" => scriptExtension? value
  | "age" => age? value
  | "gcb" | "graphemeclusterbreak" => GraphemeBreak.ranges? value
  | "wb" | "wordbreak" => WordBreak.ranges? value
  | "sb" | "sentencebreak" => SentenceBreak.ranges? value
  | _ => none

end EntitySchema
