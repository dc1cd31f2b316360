import Mathlib
import EntitySchema.Model.Metadata
/-!
The numbers that a model holds: bounds and defaults of properties, bounds of scalars, values of enum
members, and numeric literals. Metadata holds none.
-/

namespace EntitySchema

def Facets.numbers (facets : Facets) : List Number :=
  facets.minValue.toList ++ facets.maxValue.toList

namespace DefaultValue

mutual

def numbers : DefaultValue → List Number
  | .number value => [value]
  | .array items => itemNumbers items
  | .object fields => fieldNumbers fields
  | _ => []

def itemNumbers : List DefaultValue → List Number
  | [] => []
  | item :: rest => numbers item ++ itemNumbers rest

def fieldNumbers : List (String × DefaultValue) → List Number
  | [] => []
  | (_, value) :: rest => numbers value ++ fieldNumbers rest

end

theorem numbers_array (items : List DefaultValue) :
    (array items).numbers = items.flatMap numbers := by
  rw [numbers]
  induction items with
  | nil => rfl
  | cons item rest induction => rw [itemNumbers, induction, List.flatMap_cons]

theorem numbers_object (fields : List (String × DefaultValue)) :
    (object fields).numbers = fields.flatMap fun field => field.2.numbers := by
  rw [numbers]
  induction fields with
  | nil => rfl
  | cons field rest induction => rw [fieldNumbers, induction, List.flatMap_cons]

end DefaultValue

def Property.numbers (property : Property) : List Number :=
  property.default.toList.flatMap DefaultValue.numbers ++ property.facets.numbers

def Literal.numbers : Literal → List Number
  | .text _ => []
  | .number value => [value]

def EnumMember.numbers (member : EnumMember) : List Number :=
  member.value.toList.flatMap Literal.numbers

def TypeNode.numbers : TypeNode → List Number
  | .scalar node => node.facets.numbers
  | .record node => node.properties.flatMap Property.numbers
  | .enum node => node.members.flatMap EnumMember.numbers
  | .numericLiteral value => [value]
  | _ => []

def Graph.numbers (graph : Graph) : List Number := graph.types.toList.flatMap TypeNode.numbers

theorem Graph.numbers_of_get? {graph : Graph} {id : TypeId} {node : TypeNode}
    (found : graph.get? id = some node) : node.numbers ⊆ graph.numbers := by
  intro number member
  have listed : node ∈ graph.types.toList := Array.mem_toList_iff.mpr (Array.mem_of_getElem? found)
  exact List.mem_flatMap.mpr ⟨node, listed, member⟩

def AreFinite (numbers : List Number) : Prop := ∀ number ∈ numbers, number.isFinite = true

instance (numbers : List Number) : Decidable (AreFinite numbers) :=
  inferInstanceAs (Decidable (∀ number ∈ numbers, number.isFinite = true))

theorem AreFinite.mono {numbers others : List Number} (finite : AreFinite others)
    (part : numbers ⊆ others) : AreFinite numbers :=
  fun number member => finite number (part member)

end EntitySchema
