import Mathlib
import EntitySchema.Model.Graph
/-!
When the bases of a scalar or a record can be followed, one link at a time.
-/

namespace EntitySchema

namespace Graph

variable {graph : Graph}

theorem get_eq_ok_iff {id : TypeId} {node : TypeNode} :
    graph.get id = .ok node ↔ graph.get? id = some node := by
  unfold get
  cases graph.get? id <;> simp

/-- A chain goes on with a scalar that it has not passed yet, and then with the base of that. -/
theorem scalarChainFrom_eq_ok_iff {remaining : Nat} {passed : List (TypeId × ScalarType)}
    {id : TypeId} {chain : List ScalarType} :
    graph.scalarChainFrom remaining passed id = .ok chain ↔
      ∃ node left, graph.get? id = some (.scalar node) ∧ id ∉ passed.map Prod.fst ∧
        remaining = left + 1 ∧
        match node.base with
        | none => (passed ++ [(id, node)]).map Prod.snd = chain
        | some base => graph.scalarChainFrom left (passed ++ [(id, node)]) base = .ok chain := by
  rw [scalarChainFrom.eq_def, get]
  cases found : graph.get? id with
  | none => simp
  | some node =>
      cases node with
      | scalar node =>
          have repeated : (passed.any fun entry => entry.1 == id) = true ↔
              id ∈ passed.map Prod.fst := by
            simp
          by_cases isPassed : id ∈ passed.map Prod.fst
          · simp [repeated.mpr isPassed, isPassed]
          · simp only [repeated, isPassed, if_false]
            cases remaining with
            | zero => simp
            | succ left => cases base : node.base <;> simp [base]
      | _ => cases passed.getLast? <;> simp

/-- The properties of a record go on with those of its base, which must not have been passed. -/
theorem recordPropertiesFrom_eq_ok_iff {start current : RecordType} {remaining : Nat}
    {passed : List TypeId} {collected properties : List Property} :
    graph.recordPropertiesFrom start remaining passed collected current = .ok properties ↔
      match current.base with
      | none => addProperties collected current.properties = properties
      | some base => ∃ next left, graph.get? base = some (.record next) ∧ base ∉ passed ∧
          remaining = left + 1 ∧
          graph.recordPropertiesFrom start left (passed ++ [base])
            (addProperties collected current.properties) next = .ok properties := by
  rw [recordPropertiesFrom.eq_def]
  cases current.base with
  | none => simp
  | some base =>
      by_cases isPassed : base ∈ passed
      · simp [isPassed]
      · cases remaining with
        | zero => simp [isPassed]
        | succ left =>
            cases found : graph.get? base with
            | none => simp [isPassed, get, found]
            | some node => cases node <;> simp [isPassed, get, found]

end Graph

end EntitySchema
