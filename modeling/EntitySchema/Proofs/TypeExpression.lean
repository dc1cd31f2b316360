import Mathlib
import EntitySchema.Proofs.Expansion
/-!
Which types can be written as expressions.

One step of the walk succeeds if the type itself is admissible, it can be opened where the walk
stands, and the walk goes on from each of its children. That is how expansion was taken apart, so
the walk succeeds on the types that expand, provided that it may go deep enough. A walk that
succeeds at all also does at the depth that the graph allows, and with no record open.
-/

namespace EntitySchema

/-! ## Parts of the walk -/

theorem fromGraph_eq_ok_iff {α : Type} {result : Except GraphError α} {value : α} :
    fromGraph result = .ok value ↔ result = .ok value := by
  cases result <;> simp [fromGraph]

theorem Intrinsic.ofName?_eq_some_iff {scalarName : String} {intrinsic : Intrinsic} :
    Intrinsic.ofName? scalarName = some intrinsic ↔ intrinsic.name = scalarName := by
  constructor
  · intro found
    have named := List.find?_some found
    simpa using named
  · intro named
    subst named
    cases intrinsic <;> decide

namespace Graph

variable {graph : Graph} {id : TypeId}

theorem fromGraph_get_of_get? {node : TypeNode} (found : graph.get? id = some node) :
    fromGraph (graph.get id) = .ok node := by
  simp [get, found, fromGraph]

theorem scalarRoot_eq_ok_iff {root : ScalarType} : graph.scalarRoot id = .ok root ↔
    ∃ chain, graph.scalarChain id = .ok chain ∧ chain.getLast? = some root := by
  unfold scalarRoot
  cases graph.scalarChain id with
  | error error => simp
  | ok chain => cases last : chain.getLast? <;> simp [last]

theorem succeeds_ofRoot_iff {root : ScalarType} :
    Succeeds (ScalarKind.ofRoot root) ↔ root.name ≠ Intrinsic.bytes.name := by
  rw [ne_comm, Ne, ← Intrinsic.ofName?_eq_some_iff, ScalarKind.ofRoot]
  cases Intrinsic.ofName? root.name with
  | none => simp
  | some intrinsic => cases intrinsic <;> simp [Intrinsic.isBinary] <;> split_ifs <;> simp

theorem succeeds_scalarKind_iff : Succeeds (graph.scalarKind id) ↔ graph.IsTextualScalar id := by
  simp only [scalarKind, succeeds_bind_iff, fromGraph_eq_ok_iff, scalarRoot_eq_ok_iff,
    succeeds_ofRoot_iff, IsTextualScalar]
  constructor
  · rintro ⟨root, ⟨chain, ofId, last⟩, notBytes⟩
    exact ⟨chain, root, ofId, last, notBytes⟩
  · rintro ⟨chain, root, ofId, last, notBytes⟩
    exact ⟨root, ⟨chain, ofId, last⟩, notBytes⟩

theorem someValues_eq_ok_iff {enum : EnumType} {values : List Literal} :
    enum.someValues = .ok values ↔ enum.members ≠ [] ∧ enum.values = values := by
  unfold EnumType.someValues
  cases enum.members <;> simp

theorem succeeds_someValues_iff {enum : EnumType} :
    Succeeds enum.someValues ↔ enum.members ≠ [] := by
  simp [Succeeds, someValues_eq_ok_iff]

theorem fits_singleton_of_notPlain {opened : List TypeId}
    (notPlain : graph.isPlainRecord id = false) :
    graph.Fits opened [id] ↔ opened.length ≤ maxChainDepth := by
  rw [fits_cons, openedBelow, notPlain]
  simp [fits_nil]

theorem openRecord_eq_ok_iff {opened next : List TypeId} {name : String}
    (plain : graph.isPlainRecord id = true) (shallow : opened.length ≤ maxChainDepth) :
    openRecord opened id name = .ok next ↔
      graph.Fits opened [id] ∧ next = graph.openedBelow opened id := by
  rw [fits_cons, openedBelow, if_pos plain, fits_nil, openRecord]
  split_ifs with contained full
  · have member : id ∈ opened := by simpa using contained
    simp [plain, member]
  · simp [full]
  · have notMember : id ∉ opened := by simpa using contained
    have room : opened.length + 1 ≤ maxChainDepth := by omega
    constructor
    · intro equal
      exact ⟨⟨fun _ => notMember, room⟩, (Except.ok.inj equal).symm⟩
    · rintro ⟨_, rfl⟩
      rfl

theorem exists_of_isPlainRecord (plain : graph.isPlainRecord id = true) :
    ∃ record, graph.get? id = some (.record record) ∧ record.arrayElement? = none := by
  unfold isPlainRecord at plain
  split at plain
  · next record found => exact ⟨record, found, Option.isNone_iff_eq_none.mp plain⟩
  · cases plain

end Graph

/-! ## One step -/

namespace TypeExpression

variable {graph : Graph} {depth : Nat} {opened : List TypeId} {id : TypeId}

theorem succeeds_walk_of_isPlainRecord (plain : graph.isPlainRecord id = true)
    (shallow : opened.length ≤ Graph.maxChainDepth) :
    Succeeds (walk graph (depth + 1) opened id) ↔
      graph.IsAdmissible .expression id ∧ graph.Fits opened [id] ∧
        ∀ child ∈ graph.children id,
          Succeeds (walk graph depth (graph.openedBelow opened id) child) := by
  rcases Graph.exists_of_isPlainRecord plain with ⟨record, found, shape⟩
  simp only [walk, Graph.fromGraph_get_of_get? found, ok_bind, shape, succeeds_bind_iff,
    fromGraph_eq_ok_iff, Graph.openRecord_eq_ok_iff plain shallow, Graph.IsAdmissible,
    Graph.children, found]
  constructor
  · rintro ⟨_, ⟨fits, rfl⟩, properties, ofRecord, members, written, _⟩
    have each := succeeds_mapM_iff.mp ⟨members, written⟩
    simp only [bind_pure_comp, succeeds_map_iff] at each
    refine ⟨fun _ => ⟨properties, ofRecord⟩, fits, ?_⟩
    simpa [ofRecord] using each
  · rintro ⟨admissible, fits, each⟩
    rcases admissible trivial with ⟨properties, ofRecord⟩
    have written : Succeeds (properties.mapM fun property =>
        ofMember property <$> walk graph depth (graph.openedBelow opened id) property.type) := by
      simpa [succeeds_mapM_iff, ofRecord] using each
    rcases written with ⟨members, written⟩
    exact ⟨_, ⟨fits, rfl⟩, properties, ofRecord, members, by simpa using written, succeeds_pure _⟩

theorem succeeds_walk_succ_iff (shallow : opened.length ≤ Graph.maxChainDepth) :
    Succeeds (walk graph (depth + 1) opened id) ↔
      graph.IsAdmissible .expression id ∧ graph.Fits opened [id] ∧
        ∀ child ∈ graph.children id,
          Succeeds (walk graph depth (graph.openedBelow opened id) child) := by
  by_cases plain : graph.isPlainRecord id = true
  · exact succeeds_walk_of_isPlainRecord plain shallow
  · have notPlain : graph.isPlainRecord id = false := by simpa using plain
    rw [Graph.fits_singleton_of_notPlain notPlain, Graph.openedBelow, if_neg plain]
    cases found : graph.get? id with
    | none => simp [walk, Graph.get, found, fromGraph, Graph.IsAdmissible]
    | some node =>
        simp only [walk, Graph.fromGraph_get_of_get? found, ok_bind, Graph.IsAdmissible,
          Graph.children, found, shallow, true_and]
        cases node with
        | scalar scalar => simp [Graph.succeeds_scalarKind_iff]
        | record record =>
            cases shape : record.arrayElement? with
            | none => simp [Graph.isPlainRecord, found, shape] at notPlain
            | some element => simp [shape]
        | array element => simp
        | enum enum => simp [Graph.succeeds_someValues_iff]
        | union union =>
            by_cases empty : union.variants = []
            · simp [empty]
            · simp [empty, succeeds_mapM_iff]
        | tuple items => simp [succeeds_mapM_iff]
        | _ => simp

/-! ## The whole walk -/

theorem shallow_openedBelow (fits : graph.Fits opened [id]) :
    (graph.openedBelow opened id).length ≤ Graph.maxChainDepth :=
  Graph.fits_nil.mp (Graph.fits_cons.mp fits).2

theorem contextBelow_expression : graph.contextBelow .expression id = .expression := by
  unfold Graph.contextBelow
  split <;> rfl

theorem expandsFrom_of_succeeds_walk (shallow : opened.length ≤ Graph.maxChainDepth)
    (succeeds : Succeeds (walk graph depth opened id)) :
    graph.ExpandsFrom opened .expression id := by
  induction depth generalizing opened id with
  | zero => exact absurd succeeds (not_succeeds_error _)
  | succ depth induction =>
      rcases (succeeds_walk_succ_iff shallow).mp succeeds with ⟨admissible, fits, each⟩
      refine Graph.expandsFrom_iff.mpr ⟨admissible, fits, fun child below => ?_⟩
      rw [contextBelow_expression]
      exact induction (shallow_openedBelow fits) (each child below)

theorem succeeds_walk_of_expandsFrom (guarded : graph.IsGuarded)
    (expands : graph.ExpandsFrom opened .expression id) (enough : graph.room opened id < depth) :
    Succeeds (walk graph depth opened id) := by
  induction depth generalizing opened id with
  | zero => omega
  | succ depth induction =>
      rcases Graph.expandsFrom_iff.mp expands with ⟨admissible, fits, each⟩
      rw [contextBelow_expression] at each
      refine (succeeds_walk_succ_iff fits.opened_length_le).mpr
        ⟨admissible, fits, fun child below => ?_⟩
      have lower := guarded.room_lt fits below
      exact induction (each child below) (by omega)

/-- How deep the walk may go and which records are open do not matter to what it writes. -/
theorem agree_walk (depth other : Nat) (opened otherOpened : List TypeId) (id : TypeId) :
    Agree (walk graph depth opened id) (walk graph other otherOpened id) := by
  induction depth generalizing other opened otherOpened id with
  | zero => exact fun _ _ impossible => nomatch impossible
  | succ depth induction =>
      cases other with
      | zero => exact fun _ _ _ impossible => nomatch impossible
      | succ other =>
          apply Agree.bind_same
          intro node _
          have ofElement (element : TypeId) :=
            (induction other opened otherOpened element).bind_pure ofArray
          have ofParts (parts : List TypeId) :=
            Agree.mapM parts fun part _ => induction other opened otherOpened part
          cases node with
          | array element => exact ofElement element
          | record record =>
              cases shape : record.arrayElement? with
              | some element => simpa only [shape] using ofElement element
              | none =>
                  simp only [shape]
                  apply Agree.bind
                  intro below otherBelow _ _
                  apply Agree.bind_same
                  intro properties _
                  refine Agree.bind_pure (Agree.mapM properties fun property _ => ?_) _
                  exact (induction other below otherBelow property.type).bind_pure _
          | union union =>
              by_cases empty : union.variants.isEmpty = true
              · simp only [empty, if_true]
                exact .refl _
              · simp only [empty]
                exact (ofParts union.variants).bind_pure _
          | tuple items => exact (ofParts items).bind_pure _
          | _ => exact .refl _

end TypeExpression

/-! ## How deep the walk has to go

The depth only stops walks of types that contain themselves without a record in between. A walk
that succeeds has met no such type, so it takes no more steps than there is room for, and gives the
same with any depth that leaves this room. -/

namespace Graph

variable {graph : Graph} {id child : TypeId}

/-- Expansion of the type cannot go on for ever without opening a record. -/
def Unfolds (graph : Graph) (id : TypeId) : Prop :=
  Acc (fun child parent => graph.Unwraps parent child) id

theorem unfolds_of_children
    (each : graph.isPlainRecord id = false → ∀ child ∈ graph.children id, graph.Unfolds child) :
    graph.Unfolds id :=
  Acc.intro id fun child unwraps => each unwraps.1 child unwraps.2

theorem unfolds_of_leaf (leaf : graph.children id = []) : graph.Unfolds id := by
  apply unfolds_of_children
  simp [leaf]

theorem unfolds_of_isPlainRecord (plain : graph.isPlainRecord id = true) : graph.Unfolds id := by
  apply unfolds_of_children
  simp [plain]

theorem Unfolds.not_unwrapped (unfolds : graph.Unfolds id) (unwraps : graph.Unwraps id child) :
    ¬graph.Unwrapped child id := by
  induction unfolds generalizing child with
  | intro id _ induction =>
      intro back
      -- The way from the child back to the type and to the child again is a cycle at the child.
      rcases back.cases_head with same | ⟨next, first, rest⟩
      · subst same
        exact induction child unwraps unwraps .refl
      · exact induction child unwraps first (rest.tail unwraps)

/-- There is less room below a type that unfolds. -/
theorem Unfolds.room_lt (unfolds : graph.Unfolds id) {opened : List TypeId}
    (fits : graph.Fits opened [id]) (expands : graph.Expands id child) :
    graph.room (graph.openedBelow opened id) child < graph.room opened id :=
  expands.room_lt fits fun notPlain => unfolds.not_unwrapped ⟨notPlain, expands⟩

end Graph

namespace TypeExpression

variable {graph : Graph} {depth other : Nat} {opened : List TypeId} {id : TypeId}

theorem unfolds_of_succeeds_walk (shallow : opened.length ≤ Graph.maxChainDepth)
    (succeeds : Succeeds (walk graph depth opened id)) : graph.Unfolds id := by
  induction depth generalizing opened id with
  | zero => exact absurd succeeds (not_succeeds_error _)
  | succ depth induction =>
      rcases (succeeds_walk_succ_iff shallow).mp succeeds with ⟨_, fits, each⟩
      apply Graph.unfolds_of_children
      intro _ child below
      exact induction (shallow_openedBelow fits) (each child below)

theorem succeeds_walk_of_room_lt (shallow : opened.length ≤ Graph.maxChainDepth)
    (succeeds : Succeeds (walk graph depth opened id)) (enough : graph.room opened id < other) :
    Succeeds (walk graph other opened id) := by
  -- The depth that succeeded bounds the induction, and the room bounds the other depth.
  induction depth generalizing opened id other with
  | zero => exact absurd succeeds (not_succeeds_error _)
  | succ depth induction =>
      have unfolds := unfolds_of_succeeds_walk shallow succeeds
      rcases (succeeds_walk_succ_iff shallow).mp succeeds with ⟨admissible, fits, each⟩
      cases other with
      | zero => omega
      | succ other =>
          refine (succeeds_walk_succ_iff shallow).mpr ⟨admissible, fits, fun child below => ?_⟩
          have lower := unfolds.room_lt fits below
          exact induction (shallow_openedBelow fits) (each child below) (by omega)

/-- The depth that a graph allows is enough for every walk that succeeds. -/
theorem succeeds_walk_walkDepth (shallow : opened.length ≤ Graph.maxChainDepth)
    (succeeds : Succeeds (walk graph depth opened id)) :
    Succeeds (walk graph graph.walkDepth opened id) := by
  have room : graph.room opened id + 2 ≤ graph.walkDepth := Graph.room_add_two_le_walkDepth opened
  exact succeeds_walk_of_room_lt shallow succeeds (by omega)

theorem walk_of_room_lt {written : List Char} (shallow : opened.length ≤ Graph.maxChainDepth)
    (walked : walk graph depth opened id = .ok written) (enough : graph.room opened id < other) :
    walk graph other opened id = .ok written := by
  rcases succeeds_walk_of_room_lt shallow ⟨written, walked⟩ enough with ⟨same, walkedToo⟩
  rw [walkedToo, agree_walk depth other opened opened id written same walked walkedToo]

/-- A walk that succeeds also does with fewer records open. -/
theorem succeeds_walk_of_fewer_opened {fewer : List TypeId} (subset : fewer ⊆ opened)
    (length_le : fewer.length ≤ opened.length) (shallow : opened.length ≤ Graph.maxChainDepth)
    (succeeds : Succeeds (walk graph depth opened id)) : Succeeds (walk graph depth fewer id) := by
  induction depth generalizing opened fewer id with
  | zero => exact absurd succeeds (not_succeeds_error _)
  | succ depth induction =>
      rcases (succeeds_walk_succ_iff shallow).mp succeeds with ⟨admissible, fits, each⟩
      have shallowBelow := shallow_openedBelow fits
      obtain ⟨subsetBelow, length_leBelow⟩ :
          graph.openedBelow fewer id ⊆ graph.openedBelow opened id ∧
            (graph.openedBelow fewer id).length ≤ (graph.openedBelow opened id).length := by
        unfold Graph.openedBelow
        split_ifs
        · exact ⟨List.cons_subset_cons id subset, Nat.succ_le_succ length_le⟩
        · exact ⟨subset, length_le⟩
      have fitsToo : graph.Fits fewer [id] := Graph.fits_cons.mpr
        ⟨fun plain isOpen => (Graph.fits_cons.mp fits).1 plain (subset isOpen),
          Graph.fits_nil.mpr (length_leBelow.trans shallowBelow)⟩
      refine (succeeds_walk_succ_iff (length_le.trans shallow)).mpr
        ⟨admissible, fitsToo, fun child below => ?_⟩
      exact induction subsetBelow length_leBelow shallowBelow (each child below)

end TypeExpression

namespace Graph

variable {graph : Graph} {id : TypeId}

theorem typeExpression_eq_ok_iff {text : String} : graph.typeExpression id = .ok text ↔
    ∃ written, TypeExpression.walk graph graph.walkDepth [] id = .ok written ∧
      String.ofList written = text := by
  unfold typeExpression
  cases TypeExpression.walk graph graph.walkDepth [] id <;> simp [Except.map]

/-- What is written with some records open is what is written for the type alone. -/
theorem typeExpression_of_walk {depth : Nat} {opened : List TypeId} {written : List Char}
    (shallow : opened.length ≤ maxChainDepth)
    (walked : TypeExpression.walk graph depth opened id = .ok written) :
    graph.typeExpression id = .ok (String.ofList written) := by
  have succeeds := TypeExpression.succeeds_walk_of_fewer_opened (List.nil_subset opened)
    (Nat.zero_le _) shallow ⟨written, walked⟩
  rcases TypeExpression.succeeds_walk_walkDepth (Nat.zero_le _) succeeds with ⟨alone, walkedAlone⟩
  cases TypeExpression.agree_walk _ _ _ _ _ alone written walkedAlone walked
  exact typeExpression_eq_ok_iff.mpr ⟨_, walkedAlone, rfl⟩

end Graph

end EntitySchema
