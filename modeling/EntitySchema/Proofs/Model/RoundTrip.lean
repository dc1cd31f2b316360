import Mathlib
import EntitySchema.Model.Document
import EntitySchema.Proofs.Json.Fields
import EntitySchema.Proofs.Model.Numbers
import EntitySchema.Proofs.Value.NumberToken
/-!
The document of a model is read as that model again.

Every part of a model reads back, from the numbers up to the whole, and so each part only depends on
the parts that it is made of. Numbers that are not finite are the exception: they have no form in a
document.
-/

namespace EntitySchema

open Json (ReadsBack FieldsReadBack required_eq optional_eq defaulted_eq defaulted_eq_of_omits)

/-! ## Constants -/

theorem Json.readsBack_string (value : String) : ReadsBack asString? string value where
  read_write := rfl
  ne_null := by simp

theorem Json.readsBack_bool (value : Bool) : ReadsBack asBool? bool value where
  read_write := rfl
  ne_null := by simp

theorem readsBack_wordToJson (value : UInt64) : ReadsBack Json.asWord? wordToJson value where
  read_write := by
    have small := value.toNat_lt_size
    simp [wordToJson, Json.asWord?, small]
  ne_null := by simp [wordToJson]

theorem TypeId.readsBack (id : TypeId) : ReadsBack ofJson? toJson id where
  read_write := by
    have word := (readsBack_wordToJson id.index).read_write
    rw [wordToJson] at word
    simp [ofJson?, toJson, word]
  ne_null := by simp [toJson]

theorem readsBack_ids (ids : List TypeId) :
    ReadsBack (Json.asList? TypeId.ofJson?) (fun ids => .array (ids.map TypeId.toJson)) ids :=
  ReadsBack.list fun id _ => TypeId.readsBack id

/-- A whole number is an integer token and a double a fraction, so neither is taken for the
other. -/
theorem Number.readsBack {number : Number} (finite : number.isFinite = true) :
    ReadsBack ofJson? toJson number := by
  cases number with
  | int value => exact ⟨by simp [toJson, ofJson?, Value.int64OfInt?_toInt], by simp [toJson]⟩
  | float value =>
      have written : toJson (.float value) = .fraction value := if_pos finite
      exact ⟨by rw [written, ofJson?], by simp [written]⟩

theorem Literal.readsBack {literal : Literal} (finite : AreFinite literal.numbers) :
    ReadsBack ofJson? toJson literal := by
  cases literal with
  | text value => exact ⟨rfl, by simp [toJson]⟩
  | number value =>
      have back := Number.readsBack (finite value List.mem_cons_self)
      have notText : ∀ text, value.toJson ≠ .string text := by
        intro text equal
        have read := back.read_write
        rw [equal] at read
        cases read
      refine ⟨?_, back.ne_null⟩
      rw [toJson, ofJson?.eq_2 _ notText, back.read_write, Option.map_some]

theorem TimestampKind.readsBack (kind : TimestampKind) :
    ReadsBack ofJson? (fun kind => .string kind.name) kind := by
  cases kind <;> exact ⟨rfl, by simp⟩

theorem IndexKind.readsBack (kind : IndexKind) :
    ReadsBack ofJson? (fun kind => .string kind.name) kind := by
  cases kind <;> exact ⟨rfl, by simp⟩

theorem Casing.readsBack (casing : Casing) :
    ReadsBack ofJson? (fun casing => .string casing.name) casing := by
  cases casing <;> exact ⟨rfl, by simp⟩

/-! ## Facets -/

theorem Facets.eq_empty_of_isEmpty {facets : Facets} (empty : facets.isEmpty = true) :
    facets = {} := by
  rcases facets with ⟨_ | _, _ | _, _ | _, _ | _, _ | _⟩ <;> simp_all [isEmpty]

theorem Facets.readsBack {facets : Facets} (finite : AreFinite facets.numbers) :
    ReadsBack ofJson? toJson facets := by
  have bounds : ∀ bound ∈ [facets.minValue, facets.maxValue], ∀ number ∈ bound,
      ReadsBack Number.ofJson? Number.toJson number := by
    intro bound listed number member
    apply Number.readsBack
    apply finite
    rcases List.mem_pair.mp listed with rfl | rfl <;> simp_all [numbers]
  refine ⟨?_, by simp [toJson]⟩
  simp only [ofJson?, toJson, Option.bind_eq_bind, Option.bind_eq_some_iff]
  exact ⟨_, rfl, _, optional_eq (fun word _ => readsBack_wordToJson word) (by simp),
    _, optional_eq (fun word _ => readsBack_wordToJson word) (by simp),
    _, optional_eq (bounds facets.minValue (by simp)) (by simp),
    _, optional_eq (bounds facets.maxValue (by simp)) (by simp),
    _, optional_eq (fun text _ => Json.readsBack_string text) (by simp), rfl⟩

/-! ## Defaults -/

namespace DefaultValue

theorem itemsToJson_eq_map (items : List DefaultValue) : itemsToJson items = items.map toJson := by
  induction items with
  | nil => rfl
  | cons item rest induction => rw [itemsToJson, induction, List.map_cons]

def entryToJson (field : String × DefaultValue) : Json :=
  .array [.string field.1, field.2.toJson]

theorem fieldsToJson_eq_map (fields : List (String × DefaultValue)) :
    fieldsToJson fields = fields.map entryToJson := by
  induction fields with
  | nil => rfl
  | cons field rest induction => rw [fieldsToJson, induction, List.map_cons, entryToJson]

theorem depth_le_itemsDepth {items : List Json} {item : Json} (member : item ∈ items) :
    item.depth ≤ Json.itemsDepth items := by
  induction items with
  | nil => cases member
  | cons first rest induction =>
      rw [Json.itemsDepth]
      rcases List.mem_cons.mp member with rfl | inRest
      · apply le_max_left
      · exact (induction inRest).trans (le_max_right ..)

theorem depth_array {items : List DefaultValue} {item : DefaultValue} (member : item ∈ items) :
    item.toJson.depth + 2 ≤ (array items).toJson.depth := by
  have inside := depth_le_itemsDepth (List.mem_map_of_mem (f := toJson) member)
  simp only [toJson, itemsToJson_eq_map, Json.depth, Json.fieldsDepth]
  omega

theorem depth_object {fields : List (String × DefaultValue)} {field : String × DefaultValue}
    (member : field ∈ fields) : field.2.toJson.depth + 3 ≤ (object fields).toJson.depth := by
  have inside := depth_le_itemsDepth (List.mem_map_of_mem (f := entryToJson) member)
  simp only [entryToJson, Json.depth, Json.itemsDepth] at inside
  simp only [toJson, fieldsToJson_eq_map, Json.depth, Json.fieldsDepth]
  omega

theorem toJson_ne_null (value : DefaultValue) : value.toJson ≠ .null := by
  cases value <;> simp [toJson]

/-- With fuel for its depth, the document of a default is read as that default. -/
theorem ofJsonWithin?_toJson {fuel : Nat} {value : DefaultValue} (finite : AreFinite value.numbers)
    (enough : value.toJson.depth < fuel) (nested : Bool) :
    ofJsonWithin? fuel nested value.toJson = some value := by
  -- A kind is compared with one name after another. Simplification keeps its proofs, since the
  -- kernel would evaluate the comparisons otherwise.
  induction fuel generalizing nested value with
  | zero => cases enough
  | succ fuel induction =>
      rw [ofJsonWithin?]
      cases value with
      | string content =>
          rw [toJson, Json.asTagged?_object (by simp [kinds])]
          simp -implicitDefEqProofs [required_eq (Json.readsBack_string content)]
      | number content =>
          have back := Number.readsBack (finite content List.mem_cons_self)
          rw [toJson, Json.asTagged?_object (by simp [kinds])]
          simp -implicitDefEqProofs [required_eq back]
      | boolean content =>
          rw [toJson, Json.asTagged?_object (by simp [kinds])]
          simp -implicitDefEqProofs [required_eq (Json.readsBack_bool content)]
      | enumMember enumType member =>
          rw [toJson, Json.asTagged?_object (by simp [kinds])]
          simp -implicitDefEqProofs [required_eq (TypeId.readsBack enumType),
            required_eq (Json.readsBack_string member)]
      | null =>
          rw [toJson, Json.asTagged?_object (by simp [kinds])]
          simp -implicitDefEqProofs
      | array items =>
          have each : ∀ item ∈ items, ReadsBack (ofJsonWithin? fuel true) toJson item := by
            intro item member
            have deeper := depth_array member
            rw [numbers_array] at finite
            have inItems := finite.mono fun number inItem =>
              List.mem_flatMap.mpr ⟨item, member, inItem⟩
            exact ⟨induction inItems (by omega) true, item.toJson_ne_null⟩
          rw [toJson, itemsToJson_eq_map, Json.asTagged?_object (by simp [kinds])]
          simp -implicitDefEqProofs [required_eq (ReadsBack.list each)]
      | object fields =>
          have each : ∀ field ∈ fields,
              ReadsBack (entryOfJson? (ofJsonWithin? fuel true)) entryToJson field := by
            intro field member
            have deeper := depth_object member
            rw [numbers_object] at finite
            have inFields := finite.mono fun number inValue =>
              List.mem_flatMap.mpr ⟨field, member, inValue⟩
            have back := induction inFields (by omega) true
            exact ⟨by simp [entryToJson, entryOfJson?, back], by simp [entryToJson]⟩
          rw [toJson, fieldsToJson_eq_map, Json.asTagged?_object (by simp [kinds])]
          simp -implicitDefEqProofs [required_eq (ReadsBack.list each)]

theorem readsBack {value : DefaultValue} (finite : AreFinite value.numbers) (nested : Bool) :
    ReadsBack (ofJson? nested) toJson value where
  read_write := ofJsonWithin?_toJson finite (Nat.lt_succ_self _) nested
  ne_null := value.toJson_ne_null

end DefaultValue

/-! ## Parts of types -/

theorem Property.readsBack {property : Property} (finite : AreFinite property.numbers)
    (nested : Bool) : ReadsBack (ofJsonIn? nested) toJson property := by
  have default : ∀ value ∈ property.default,
      ReadsBack (DefaultValue.ofJson? nested) DefaultValue.toJson value := by
    intro value member
    apply DefaultValue.readsBack
    apply finite.mono
    simp [numbers, Option.mem_def.mp member]
  have facets : ReadsBack Facets.ofJson? Facets.toJson property.facets := by
    apply Facets.readsBack
    apply finite.mono
    simp [numbers]
  refine ⟨?_, by simp [toJson]⟩
  simp only [ofJsonIn?, toJson, Option.bind_eq_bind, Option.bind_eq_some_iff]
  exact ⟨_, rfl, _, required_eq (Json.readsBack_string _) (by simp),
    _, required_eq (TypeId.readsBack _) (by simp),
    _, defaulted_eq (Json.readsBack_bool _) (by simp), _, optional_eq default (by simp),
    _, defaulted_eq_of_omits Facets.eq_empty_of_isEmpty facets (by simp), rfl⟩

theorem ScalarType.readsBack {scalar : ScalarType} (finite : AreFinite scalar.facets.numbers) :
    FieldsReadBack ofJson? fieldsToJson scalar := by
  have facets := Facets.readsBack finite
  intro tag
  simp only [ofJson?, fieldsToJson, Option.bind_eq_bind, Option.bind_eq_some_iff]
  exact ⟨_, rfl, _, required_eq (Json.readsBack_string _) (by simp),
    _, optional_eq (fun id _ => TypeId.readsBack id) (by simp),
    _, defaulted_eq_of_omits Facets.eq_empty_of_isEmpty facets (by simp), rfl⟩

theorem RecordType.readsBack {record : RecordType}
    (finite : AreFinite (record.properties.flatMap Property.numbers)) :
    FieldsReadBack ofJson? fieldsToJson record := by
  have properties : ReadsBack (Json.asList? (Property.ofJsonIn? true))
      (fun properties => .array (properties.map Property.toJson)) record.properties := by
    apply ReadsBack.list
    intro property member
    apply Property.readsBack
    exact finite.mono fun number inProperty => List.mem_flatMap.mpr ⟨property, member, inProperty⟩
  intro tag
  simp only [ofJson?, fieldsToJson, Option.bind_eq_bind, Option.bind_eq_some_iff]
  exact ⟨_, rfl, _, required_eq (Json.readsBack_string _) (by simp),
    _, defaulted_eq properties (by simp),
    _, optional_eq (fun id _ => TypeId.readsBack id) (by simp),
    _, optional_eq (fun id _ => TypeId.readsBack id) (by simp), rfl⟩

theorem EnumMember.readsBack {member : EnumMember} (finite : AreFinite member.numbers) :
    ReadsBack ofJson? toJson member := by
  have value : ∀ literal ∈ member.value, ReadsBack Literal.ofJson? Literal.toJson literal := by
    intro literal inMember
    apply Literal.readsBack
    apply finite.mono
    simp [numbers, Option.mem_def.mp inMember]
  refine ⟨?_, by simp [toJson]⟩
  simp only [ofJson?, toJson, Option.bind_eq_bind, Option.bind_eq_some_iff]
  exact ⟨_, rfl, _, required_eq (Json.readsBack_string _) (by simp),
    _, optional_eq value (by simp), rfl⟩

theorem EnumType.readsBack {enum : EnumType}
    (finite : AreFinite (enum.members.flatMap EnumMember.numbers)) :
    FieldsReadBack ofJson? fieldsToJson enum := by
  have members : ReadsBack (Json.asList? EnumMember.ofJson?)
      (fun members => .array (members.map EnumMember.toJson)) enum.members := by
    apply ReadsBack.list
    intro member inEnum
    apply EnumMember.readsBack
    exact finite.mono fun number inMember => List.mem_flatMap.mpr ⟨member, inEnum, inMember⟩
  intro tag
  simp only [ofJson?, fieldsToJson, Option.bind_eq_bind, Option.bind_eq_some_iff]
  exact ⟨_, rfl, _, required_eq (Json.readsBack_string _) (by simp),
    _, required_eq members (by simp), rfl⟩

theorem UnionType.readsBack (union : UnionType) : FieldsReadBack ofJson? fieldsToJson union := by
  intro tag
  simp only [ofJson?, fieldsToJson, Option.bind_eq_bind, Option.bind_eq_some_iff]
  exact ⟨_, rfl, _, optional_eq (fun text _ => Json.readsBack_string text) (by simp),
    _, required_eq (readsBack_ids _) (by simp), rfl⟩

/-! ## Usable types

A type is only read if nothing in it is unusable. Whatever its numbers are, nothing unusable is
written. -/

@[simp] theorem isUsable_wordToJson (value : UInt64) : (wordToJson value).isUsable = true := by
  simp [wordToJson, Json.isUsable]

@[simp] theorem TypeId.isUsable_toJson (id : TypeId) : id.toJson.isUsable = true := by
  simp [toJson, Json.isUsable]

@[simp] theorem Number.isUsable_toJson (number : Number) : number.toJson.isUsable = true := by
  cases number with
  | int value => rfl
  | float value => cases finite : value.isFinite <;> simp [toJson, finite, Json.isUsable]

@[simp] theorem Literal.isUsable_toJson (literal : Literal) : literal.toJson.isUsable = true := by
  cases literal <;> simp [toJson]

@[simp] theorem Facets.isUsable_toJson (facets : Facets) : facets.toJson.isUsable = true := by
  simp [toJson]

namespace DefaultValue

mutual

theorem isUsable_toJson : ∀ value : DefaultValue, value.toJson.isUsable = true
  | .string _ | .number _ | .boolean _ | .enumMember .. | .null => by simp [toJson]
  | .array items => by simp [toJson, areUsable_itemsToJson items]
  | .object fields => by simp [toJson, areUsable_fieldsToJson fields]

theorem areUsable_itemsToJson :
    ∀ items : List DefaultValue, Json.areUsable (itemsToJson items) = true
  | [] => rfl
  | item :: rest => by
      simp [itemsToJson, Json.areUsable, isUsable_toJson item, areUsable_itemsToJson rest]

theorem areUsable_fieldsToJson :
    ∀ fields : List (String × DefaultValue), Json.areUsable (fieldsToJson fields) = true
  | [] => rfl
  | (_, value) :: rest => by
      simp [fieldsToJson, Json.areUsable, isUsable_toJson value, areUsable_fieldsToJson rest]

end

end DefaultValue

@[simp] theorem Property.isUsable_toJson (property : Property) :
    property.toJson.isUsable = true := by
  simp [toJson, DefaultValue.isUsable_toJson]

@[simp] theorem EnumMember.isUsable_toJson (member : EnumMember) :
    member.toJson.isUsable = true := by
  simp [toJson]

theorem TypeNode.isUsable_toJson (node : TypeNode) : node.toJson.isUsable = true := by
  cases node with
  | scalar node => simp [toJson, tagged, ScalarType.fieldsToJson]
  | record node => simp [toJson, tagged, RecordType.fieldsToJson]
  | enum node => simp [toJson, tagged, EnumType.fieldsToJson]
  | union node => simp [toJson, tagged, UnionType.fieldsToJson]
  | _ => simp [toJson, tagged]

/-! ## Types -/

namespace TypeNode

theorem readsBack {node : TypeNode} (finite : AreFinite node.numbers) :
    ReadsBack ofJson? toJson node := by
  -- The kind that is written is the one that is looked at, and decides what is read next.
  have asTagged : ∀ kind ∈ kinds, ∀ fields,
      (tagged kind fields).asTagged? kinds false = some (kind, tagged kind fields) :=
    fun kind known => Json.asTagged?_object known false
  refine ⟨?_, by cases node <;> simp [toJson, tagged]⟩
  rw [ofJson?, isUsable_toJson]
  cases node with
  | scalar node =>
      have back := ScalarType.readsBack finite (.string "scalar")
      rw [toJson, asTagged _ (by simp [kinds])]
      simp -implicitDefEqProofs [tagged, back]
  | record node =>
      have back := RecordType.readsBack finite (.string "record")
      rw [toJson, asTagged _ (by simp [kinds])]
      simp -implicitDefEqProofs [tagged, back]
  | enum node =>
      have back := EnumType.readsBack finite (.string "enum")
      rw [toJson, asTagged _ (by simp [kinds])]
      simp -implicitDefEqProofs [tagged, back]
  | union node =>
      have back := UnionType.readsBack node (.string "union")
      rw [toJson, asTagged _ (by simp [kinds])]
      simp -implicitDefEqProofs [tagged, back]
  | array element =>
      have back := TypeId.readsBack element
      rw [toJson, asTagged _ (by simp [kinds])]
      simp -implicitDefEqProofs [tagged, required_eq back]
  | stringLiteral value =>
      have back := Json.readsBack_string value
      rw [toJson, asTagged _ (by simp [kinds])]
      simp -implicitDefEqProofs [tagged, required_eq back]
  | numericLiteral value =>
      have back := Number.readsBack (finite value List.mem_cons_self)
      rw [toJson, asTagged _ (by simp [kinds])]
      simp -implicitDefEqProofs [tagged, required_eq back]
  | booleanLiteral value =>
      have back := Json.readsBack_bool value
      rw [toJson, asTagged _ (by simp [kinds])]
      simp -implicitDefEqProofs [tagged, required_eq back]
  | tuple items =>
      have back := readsBack_ids items
      rw [toJson, asTagged _ (by simp [kinds])]
      simp -implicitDefEqProofs [tagged, required_eq back]
  | _ =>
      rw [toJson, asTagged _ (by simp [kinds])]
      simp -implicitDefEqProofs [tagged]

end TypeNode

theorem Graph.readsBack {graph : Graph} (finite : AreFinite graph.numbers) :
    ReadsBack ofJson? toJson graph := by
  have types : ReadsBack (Json.asList? TypeNode.ofJson?)
      (fun types => .array (types.map TypeNode.toJson)) graph.types.toList := by
    apply ReadsBack.list
    intro node member
    apply TypeNode.readsBack
    exact finite.mono fun number inNode => List.mem_flatMap.mpr ⟨node, member, inNode⟩
  refine ⟨?_, by simp [toJson]⟩
  simp only [ofJson?, toJson, Option.bind_eq_bind, Option.bind_eq_some_iff]
  exact ⟨_, rfl, _, required_eq types (by simp), rfl⟩

/-! ## Metadata -/

theorem TimestampMarker.readsBack (marker : TimestampMarker) :
    ReadsBack ofJson? toJson marker := by
  refine ⟨?_, by simp [toJson]⟩
  simp only [ofJson?, toJson, Option.bind_eq_bind, Option.bind_eq_some_iff]
  exact ⟨_, rfl, _, required_eq (TimestampKind.readsBack _) (by simp),
    _, optional_eq (fun text _ => Json.readsBack_string text) (by simp), rfl⟩

theorem PropertyMetadata.readsBack (metadata : PropertyMetadata) :
    ReadsBack ofJson? toJson metadata := by
  refine ⟨?_, by simp [toJson]⟩
  simp only [ofJson?, toJson, Option.bind_eq_bind, Option.bind_eq_some_iff]
  exact ⟨_, rfl, _, optional_eq (fun text _ => Json.readsBack_string text) (by simp),
    _, optional_eq (fun text _ => Json.readsBack_string text) (by simp),
    _, optional_eq (fun marker _ => TimestampMarker.readsBack marker) (by simp), rfl⟩

theorem KeyMetadata.readsBack (key : KeyMetadata) : ReadsBack ofJson? toJson key := by
  have composite : ReadsBack (Json.asList? Json.asString?)
      (fun names => .array (names.map Json.string)) key.composite :=
    ReadsBack.list fun name _ => Json.readsBack_string name
  refine ⟨?_, by simp [toJson]⟩
  simp only [ofJson?, toJson, Option.bind_eq_bind, Option.bind_eq_some_iff]
  exact ⟨_, rfl, _, optional_eq (fun text _ => Json.readsBack_string text) (by simp),
    _, defaulted_eq composite (by simp),
    _, optional_eq (fun casing _ => Casing.readsBack casing) (by simp), rfl⟩

theorem IndexMetadata.readsBack (index : IndexMetadata) : ReadsBack ofJson? toJson index := by
  refine ⟨?_, by simp [toJson]⟩
  simp only [ofJson?, toJson, Option.bind_eq_bind, Option.bind_eq_some_iff]
  exact ⟨_, rfl, _, required_eq (Json.readsBack_string _) (by simp),
    _, required_eq (KeyMetadata.readsBack _) (by simp),
    _, optional_eq (fun key _ => KeyMetadata.readsBack key) (by simp),
    _, optional_eq (fun text _ => Json.readsBack_string text) (by simp),
    _, optional_eq (fun text _ => Json.readsBack_string text) (by simp),
    _, optional_eq (fun kind _ => IndexKind.readsBack kind) (by simp),
    _, optional_eq (fun text _ => Json.readsBack_string text) (by simp), rfl⟩

namespace SortedMap

variable {α : Type}

@[ext] theorem ext {map other : SortedMap α} (same : map.entries = other.entries) :
    map = other := by
  cases map
  cases other
  congr

theorem insertEntry_of_forall_lt {key : String} {entries : List (String × α)}
    (before : ∀ entry ∈ entries, entry.1 < key) (value : α) :
    insertEntry key value entries = entries ++ [(key, value)] := by
  induction entries with
  | nil => rfl
  | cons entry rest induction =>
      rcases List.forall_mem_cons.mp before with ⟨first, others⟩
      have notAfter : ¬key < entry.1 := fun after =>
        String.lt_irrefl key (String.lt_trans after first)
      have different : entry.1 ≠ key := fun equal => String.lt_irrefl key (equal ▸ first)
      rw [insertEntry, if_neg notAfter, if_neg different, induction others, List.cons_append]

/-- Entries that come in their order are put down in that order. -/
theorem entries_foldl_insert (map : SortedMap α) (pairs : List (String × α))
    (sorted : (map.entries ++ pairs).Pairwise fun left right => left.1 < right.1) :
    (pairs.foldl (fun map pair => map.insert pair.1 pair.2) map).entries =
      map.entries ++ pairs := by
  induction pairs generalizing map with
  | nil => simp
  | cons pair rest induction =>
      have before : ∀ entry ∈ map.entries, entry.1 < pair.1 := fun entry member =>
        (List.pairwise_append.mp sorted).2.2 entry member pair List.mem_cons_self
      have inserted : (map.insert pair.1 pair.2).entries = map.entries ++ [pair] :=
        insertEntry_of_forall_lt before pair.2
      rw [List.foldl_cons, induction, inserted, List.append_assoc, List.singleton_append]
      rw [inserted, List.append_assoc]
      exact sorted

theorem ofPairs_entries (map : SortedMap α) : ofPairs map.entries = map := by
  apply SortedMap.ext
  exact entries_foldl_insert empty map.entries map.sorted

end SortedMap

namespace EntityMetadata

theorem readsBack_properties (properties : SortedMap PropertyMetadata) :
    ReadsBack propertiesOfJson? propertiesToJson properties where
  read_write := by
    have each : ∀ entries : List (String × PropertyMetadata),
        (entries.map fun entry => (entry.1, entry.2.toJson)).mapM
          (fun entry => (PropertyMetadata.ofJson? entry.2).map fun metadata =>
            (entry.1, metadata)) = some entries := by
      intro entries
      induction entries with
      | nil => rfl
      | cons entry rest induction =>
          rw [List.map_cons, List.mapM_cons, induction]
          simp [(PropertyMetadata.readsBack entry.2).read_write]
    simp [propertiesOfJson?, propertiesToJson, Json.asObject?, each, SortedMap.ofPairs_entries]
  ne_null := by simp [propertiesToJson]

theorem readsBack (entity : EntityMetadata) : ReadsBack ofJson? toJson entity := by
  have indexes : ReadsBack (Json.asList? IndexMetadata.ofJson?)
      (fun indexes => .array (indexes.map IndexMetadata.toJson)) entity.indexes :=
    ReadsBack.list fun index _ => IndexMetadata.readsBack index
  have noProperties : entity.properties.isEmpty = true → entity.properties = .empty :=
    fun none => SortedMap.ext (List.isEmpty_iff.mp none)
  refine ⟨?_, by simp [toJson]⟩
  simp only [ofJson?, toJson, Option.bind_eq_bind, Option.bind_eq_some_iff]
  exact ⟨_, rfl, _, required_eq (TypeId.readsBack _) (by simp),
    _, required_eq (Json.readsBack_string _) (by simp),
    _, optional_eq (fun text _ => Json.readsBack_string text) (by simp),
    _, optional_eq (fun text _ => Json.readsBack_string text) (by simp),
    _, defaulted_eq_of_omits List.isEmpty_iff.mp indexes (by simp),
    _, defaulted_eq_of_omits noProperties (readsBack_properties _) (by simp), rfl⟩

end EntityMetadata

theorem Metadata.readsBack (metadata : Metadata) : ReadsBack ofJson? toJson metadata := by
  have entities : ReadsBack (Json.asList? EntityMetadata.ofJson?)
      (fun entities => .array (entities.map EntityMetadata.toJson)) metadata.entities :=
    ReadsBack.list fun entity _ => EntityMetadata.readsBack entity
  refine ⟨?_, by simp [toJson]⟩
  simp only [ofJson?, toJson, Option.bind_eq_bind, Option.bind_eq_some_iff]
  exact ⟨_, rfl, _, defaulted_eq entities (by simp), rfl⟩

/-! ## Models -/

/-- The document of a model whose numbers are finite is read as that model. -/
theorem Model.ofJson?_toJson (model : Model) (finite : AreFinite model.graph.numbers) :
    Model.ofJson? model.toJson = some model := by
  simp only [ofJson?, toJson, Option.bind_eq_bind, Option.bind_eq_some_iff]
  exact ⟨_, rfl, _, required_eq (Graph.readsBack finite) (by simp),
    _, defaulted_eq (Metadata.readsBack _) (by simp), rfl⟩

/-- Five as a whole number and as a double, a length beyond the signed words, a default that is
`null` and one that is missing, and a default with a key twice. -/
def ledgerModel : Model where
  graph :=
    { types := #[
        .scalar
          { name := "Amount"
            base := some ⟨0⟩
            facets :=
              { maxLength := some 0xFFFFFFFFFFFFFFFF
                minValue := some (.int 5)
                maxValue := some (.float (.ofInt 5)) } },
        .record
          { name := "Ledger"
            properties := [
              { name := "kind", type := ⟨0⟩, optional := true, default := some .null },
              { name := "total", type := ⟨0⟩ },
              { name := "lines"
                type := ⟨1⟩
                default := some
                  (.array [.object [("x", .number (.float .zero)), ("x", .null)]]) }] },
        .enum
          { name := "Level"
            members := [
              { name := "high", value := some (.number (.int (-1))) }, { name := "low" }] }] }
  metadata :=
    { entities := [
        { node := ⟨1⟩
          entity := "Ledger"
          properties := SortedMap.empty.insert "kind" { label := some "" } }] }

theorem Model.ofJson?_toJson_ledgerModel :
    AreFinite ledgerModel.graph.numbers ∧
      Model.ofJson? ledgerModel.toJson = some ledgerModel := by
  have finite : AreFinite ledgerModel.graph.numbers := by decide +kernel
  exact ⟨finite, Model.ofJson?_toJson ledgerModel finite⟩

end EntitySchema
