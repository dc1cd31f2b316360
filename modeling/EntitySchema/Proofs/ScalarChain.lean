import Mathlib
import EntitySchema.Proofs.Derivation
/-!
What becomes of following the bases of a scalar.

The types that are met on the way form a walk, which may leave the graph, end at a type that is no
scalar, or go in circles. The first step at which the walk goes wrong decides the error, and a walk
that comes to its end without one is the chain.
-/

namespace EntitySchema

namespace Graph

/-! ## The walk -/

def scalar? (graph : Graph) (id : TypeId) : Option ScalarType :=
  match graph.get? id with
  | some (.scalar node) => some node
  | _ => none

/-- The type that is met after a number of links from a scalar to its base. It need not be a
scalar, and the graph need not have it. -/
def baseAfter? (graph : Graph) (id : TypeId) : Nat → Option TypeId
  | 0 => some id
  | links + 1 =>
    (graph.baseAfter? id links).bind fun derived => (graph.scalar? derived).bind ScalarType.base

/-- The ids are all that the walk meets, and they are different scalars, not too many of them. A
walk has no more than these ids only if the last of the scalars has no base. -/
structure IsDerivation (graph : Graph) (id : TypeId) (ids : List TypeId)
    (chain : List ScalarType) : Prop where
  walk : ∀ links, ids[links]? = graph.baseAfter? id links
  scalars : ids.map graph.scalar? = chain.map some
  nodup : ids.Nodup
  length_le : ids.length ≤ maxChainDepth

inductive FailsAfter (graph : Graph) (id : TypeId) : Nat → GraphError → Prop
  | unknown {links : Nat} {type : TypeId} :
      graph.baseAfter? id links = some type → graph.get? type = none →
      FailsAfter graph id links (.unknownType type)
  | start {node : TypeNode} :
      graph.get? id = some node → graph.scalar? id = none →
      FailsAfter graph id 0 (.unexpectedKind id node.kindName "scalar")
  | base {links : Nat} {derived type : TypeId} {scalar : ScalarType} {node : TypeNode} :
      graph.baseAfter? id links = some derived → graph.scalar? derived = some scalar →
      scalar.base = some type → graph.get? type = some node → graph.scalar? type = none →
      FailsAfter graph id (links + 1) (.invalidBase scalar.name node.kindName "scalar")
  | cycle {earlier links : Nat} {type : TypeId} {scalar : ScalarType} :
      earlier < links → links ≤ maxChainDepth → graph.baseAfter? id earlier = some type →
      graph.baseAfter? id links = some type → graph.scalar? type = some scalar →
      FailsAfter graph id links (.scalarCycle scalar.name)
  | tooDeep {type : TypeId} {leaf scalar : ScalarType} :
      graph.scalar? id = some leaf → graph.baseAfter? id maxChainDepth = some type →
      graph.scalar? type = some scalar →
      (∀ earlier < maxChainDepth, graph.baseAfter? id earlier ≠ some type) →
      FailsAfter graph id maxChainDepth (.chainTooDeep leaf.name maxChainDepth)

def FailsFirst (graph : Graph) (id : TypeId) (error : GraphError) : Prop :=
  ∃ links, graph.FailsAfter id links error ∧ ∀ fewer < links, ∀ other,
    ¬graph.FailsAfter id fewer other

variable {graph : Graph} {id current : TypeId} {links : Nat}

theorem scalar?_eq_some_iff {scalar : ScalarType} :
    graph.scalar? id = some scalar ↔ graph.get? id = some (.scalar scalar) := by
  unfold scalar?
  split <;> simp_all

theorem baseAfter?_succ {derived : TypeId} {scalar : ScalarType}
    (meets : graph.baseAfter? id links = some derived)
    (isScalar : graph.scalar? derived = some scalar) :
    graph.baseAfter? id (links + 1) = scalar.base := by
  simp [baseAfter?, meets, isScalar]

theorem exists_derived_of_baseAfter?_succ
    (meets : graph.baseAfter? id (links + 1) = some current) :
    ∃ derived scalar, graph.baseAfter? id links = some derived ∧
      graph.scalar? derived = some scalar ∧ scalar.base = some current := by
  rcases Option.bind_eq_some_iff.mp meets with ⟨derived, meetsDerived, ofDerived⟩
  rcases Option.bind_eq_some_iff.mp ofDerived with ⟨scalar, isScalar, hasBase⟩
  exact ⟨derived, scalar, meetsDerived, isScalar, hasBase⟩

theorem exists_baseAfter?_of_le {later : Nat} (meets : graph.baseAfter? id later = some current)
    (notAfter : links ≤ later) : ∃ type, graph.baseAfter? id links = some type := by
  induction later, notAfter using Nat.le_induction generalizing current with
  | base => exact ⟨current, meets⟩
  | succ later _ induction =>
      rcases exists_derived_of_baseAfter?_succ meets with ⟨derived, _, meetsDerived, _⟩
      exact induction meetsDerived

/-- A walk that has followed a base started at a scalar. -/
theorem exists_leaf_of_baseAfter?_succ (meets : graph.baseAfter? id (links + 1) = some current) :
    ∃ leaf, graph.scalar? id = some leaf := by
  rcases exists_baseAfter?_of_le meets (Nat.le_add_left 1 links) with ⟨type, meetsBase⟩
  rcases exists_derived_of_baseAfter?_succ meetsBase with ⟨_, leaf, start, isScalar, _⟩
  cases start
  exact ⟨leaf, isScalar⟩

theorem exists_last_of_baseAfter?_eq_none (ended : graph.baseAfter? id links = none) :
    ∃ last current, graph.baseAfter? id last = some current ∧
      graph.baseAfter? id (last + 1) = none := by
  induction links with
  | zero => cases ended
  | succ links induction =>
      cases meets : graph.baseAfter? id links with
      | none => exact induction meets
      | some current => exact ⟨links, current, meets, ended⟩

/-! ## Where a walk goes wrong -/

theorem FailsAfter.exists_meets {error : GraphError} (fails : graph.FailsAfter id links error) :
    ∃ type, graph.baseAfter? id links = some type := by
  cases fails with
  | unknown meets _ => exact ⟨_, meets⟩
  | start => exact ⟨id, rfl⟩
  | base meets derives hasBase => exact ⟨_, (baseAfter?_succ meets derives).trans hasBase⟩
  | cycle _ _ _ meets _ => exact ⟨_, meets⟩
  | tooDeep _ meets => exact ⟨_, meets⟩

/-- Nothing is wrong with a new scalar, unless it is one too many. -/
theorem not_failsAfter_of_scalar? {scalar : ScalarType} (few : links < maxChainDepth)
    (meets : graph.baseAfter? id links = some current)
    (isScalar : graph.scalar? current = some scalar)
    (isNew : ∀ earlier < links, graph.baseAfter? id earlier ≠ some current) (error : GraphError) :
    ¬graph.FailsAfter id links error := by
  intro fails
  cases fails with
  | unknown meetsToo missing =>
      cases meetsToo.symm.trans meets
      simp [scalar?_eq_some_iff.mp isScalar] at missing
  | start _ notScalar =>
      cases meets
      simp [isScalar] at notScalar
  | base meetsDerived derives hasBase _ notScalar =>
      rw [baseAfter?_succ meetsDerived derives, hasBase] at meets
      cases meets
      simp [isScalar] at notScalar
  | cycle before _ meetsEarlier meetsToo _ =>
      cases meetsToo.symm.trans meets
      exact isNew _ before meetsEarlier
  | tooDeep => exact lt_irrefl _ few

/-- A type with which nothing is wrong is a new scalar, and is not one too many. -/
theorem exists_scalar?_of_not_failsAfter (few : links ≤ maxChainDepth)
    (meets : graph.baseAfter? id links = some current)
    (fine : ∀ error, ¬graph.FailsAfter id links error) :
    ∃ scalar, graph.scalar? current = some scalar ∧ links < maxChainDepth ∧
      ∀ earlier < links, graph.baseAfter? id earlier ≠ some current := by
  cases found : graph.get? current with
  | none => exact absurd (.unknown meets found) (fine _)
  | some node =>
      cases isScalar : graph.scalar? current with
      | none =>
          cases links with
          | zero =>
              cases meets
              exact absurd (.start found isScalar) (fine _)
          | succ links =>
              rcases exists_derived_of_baseAfter?_succ meets with
                ⟨derived, scalar, meetsDerived, derives, hasBase⟩
              exact absurd (.base meetsDerived derives hasBase found isScalar) (fine _)
      | some scalar =>
          have isNew : ∀ earlier < links, graph.baseAfter? id earlier ≠ some current := by
            intro earlier before meetsEarlier
            exact fine _ (.cycle before few meetsEarlier meets isScalar)
          refine ⟨scalar, rfl, lt_of_le_of_ne few ?_, isNew⟩
          rintro rfl
          rcases exists_leaf_of_baseAfter?_succ meets with ⟨leaf, ofLeaf⟩
          exact fine _ (.tooDeep ofLeaf meets isScalar isNew)

/-- Something is wrong at the latest when one scalar too many is met. -/
theorem links_le_maxChainDepth (meets : graph.baseAfter? id links = some current)
    (fine : ∀ fewer < links, ∀ error, ¬graph.FailsAfter id fewer error) :
    links ≤ maxChainDepth := by
  by_contra tooMany
  rcases exists_baseAfter?_of_le meets (not_le.mp tooMany).le with ⟨type, meetsType⟩
  rcases exists_scalar?_of_not_failsAfter le_rfl meetsType (fine _ (not_le.mp tooMany)) with
    ⟨_, _, notFull, _⟩
  exact lt_irrefl _ notFull

theorem exists_failsFirst {error : GraphError} (fails : graph.FailsAfter id links error) :
    ∃ first, graph.FailsFirst id first := by
  classical
  have goesWrong : ∃ links, ∃ error, graph.FailsAfter id links error := ⟨links, error, fails⟩
  rcases Nat.find_spec goesWrong with ⟨first, failsFirst⟩
  refine ⟨first, Nat.find goesWrong, failsFirst, fun fewer before other failsBefore => ?_⟩
  exact Nat.find_min goesWrong before ⟨other, failsBefore⟩

/-! ## Following the walk -/

structure HasPassed (graph : Graph) (id : TypeId) (passed : List (TypeId × ScalarType)) : Prop where
  meets : ∀ links < passed.length, (passed.map Prod.fst)[links]? = graph.baseAfter? id links
  scalars : ∀ entry ∈ passed, graph.scalar? entry.1 = some entry.2
  nodup : (passed.map Prod.fst).Nodup

variable {passed : List (TypeId × ScalarType)}

theorem any_eq_true_iff_mem :
    (passed.any fun entry => entry.1 == current) = true ↔ current ∈ passed.map Prod.fst := by
  simp

theorem any_eq_false_of_notMem (absent : current ∉ passed.map Prod.fst) :
    (passed.any fun entry => entry.1 == current) = false :=
  Bool.eq_false_iff.mpr fun found => absent (any_eq_true_iff_mem.mp found)

theorem hasPassed_nil : graph.HasPassed id [] :=
  ⟨by simp, by simp, List.nodup_nil⟩

theorem HasPassed.mem_iff (hasPassed : graph.HasPassed id passed) :
    current ∈ passed.map Prod.fst ↔
      ∃ earlier < passed.length, graph.baseAfter? id earlier = some current := by
  rw [List.mem_iff_getElem?]
  constructor
  · rintro ⟨earlier, atEarlier⟩
    have before : earlier < passed.length := by
      simpa using (List.getElem?_eq_some_iff.mp atEarlier).1
    exact ⟨earlier, before, (hasPassed.meets earlier before).symm.trans atEarlier⟩
  · rintro ⟨earlier, before, meetsEarlier⟩
    exact ⟨earlier, (hasPassed.meets earlier before).trans meetsEarlier⟩

theorem HasPassed.notMem_of_isNew (hasPassed : graph.HasPassed id passed)
    (isNew : ∀ earlier < passed.length, graph.baseAfter? id earlier ≠ some current) :
    current ∉ passed.map Prod.fst := by
  rw [hasPassed.mem_iff]
  rintro ⟨earlier, before, meetsEarlier⟩
  exact isNew earlier before meetsEarlier

theorem HasPassed.append {scalar : ScalarType} (hasPassed : graph.HasPassed id passed)
    (meets : graph.baseAfter? id passed.length = some current)
    (isScalar : graph.scalar? current = some scalar) (isNew : current ∉ passed.map Prod.fst) :
    graph.HasPassed id (passed ++ [(current, scalar)]) := by
  constructor
  · intro links before
    rw [List.length_append, List.length_singleton, Nat.lt_succ_iff] at before
    rw [List.map_append]
    rcases before.lt_or_eq with inPassed | last
    · rw [List.getElem?_append_left (by simpa using inPassed), hasPassed.meets links inPassed]
    · subst last
      rw [meets, List.getElem?_append_right (by simp)]
      simp
  · rw [List.forall_mem_append]
    exact ⟨hasPassed.scalars, by simpa using isScalar⟩
  · rw [List.map_append, List.map_singleton, ← List.concat_eq_append, List.nodup_concat]
    exact ⟨isNew, hasPassed.nodup⟩

theorem HasPassed.getElem? {type : TypeId} {scalar : ScalarType}
    (hasPassed : graph.HasPassed id passed) (before : links < passed.length)
    (meets : graph.baseAfter? id links = some type) (isScalar : graph.scalar? type = some scalar) :
    passed[links]? = some (type, scalar) := by
  have sameType := hasPassed.meets links before
  rw [List.getElem?_map, List.getElem?_eq_getElem before, Option.map_some, meets,
    Option.some.injEq] at sameType
  have ofEntry := hasPassed.scalars _ (List.getElem_mem before)
  rw [sameType, isScalar, Option.some.injEq] at ofEntry
  rw [List.getElem?_eq_getElem before, ofEntry, ← sameType]

/-- All that was passed is a derivation once the walk has ended. -/
theorem HasPassed.isDerivation (hasPassed : graph.HasPassed id passed)
    (few : passed.length ≤ maxChainDepth) (ended : graph.baseAfter? id passed.length = none) :
    graph.IsDerivation id (passed.map Prod.fst) (passed.map Prod.snd) := by
  refine ⟨fun links => ?_, ?_, hasPassed.nodup, by simpa using few⟩
  · rcases lt_or_ge links passed.length with before | after
    · exact hasPassed.meets links before
    · rw [List.getElem?_eq_none (by simpa using after), eq_comm,
        Option.eq_none_iff_forall_ne_some]
      intro type meets
      rcases exists_baseAfter?_of_le meets after with ⟨_, goesOn⟩
      simp [ended] at goesOn
  · rw [List.map_map, List.map_map]
    exact List.map_congr_left hasPassed.scalars

/-- The error of the first type at which the walk goes wrong is the one that is reported. -/
theorem HasPassed.scalarChainFrom_of_failsAfter {error : GraphError}
    (hasPassed : graph.HasPassed id passed) (all : passed.length = links)
    (meets : graph.baseAfter? id links = some current)
    (fails : graph.FailsAfter id links error) :
    graph.scalarChainFrom (maxChainDepth - links) passed current = .error error := by
  rw [scalarChainFrom.eq_def]
  cases fails with
  | unknown meetsToo missing =>
      cases meetsToo.symm.trans meets
      simp [get, missing]
  | @start node found notScalar =>
      cases meets
      cases List.eq_nil_of_length_eq_zero all
      cases node <;> simp_all [get, scalar?]
  | @base links derived type scalar node meetsDerived derives hasBase found notScalar =>
      rw [baseAfter?_succ meetsDerived derives, hasBase] at meets
      cases meets
      have last : passed.getLast? = some (derived, scalar) := by
        rw [List.getLast?_eq_getElem?, all, Nat.add_sub_cancel]
        exact hasPassed.getElem? (by omega) meetsDerived derives
      cases node <;> simp_all [get, scalar?]
  | cycle before _ meetsEarlier meetsToo isScalar =>
      cases meetsToo.symm.trans meets
      have member := hasPassed.mem_iff.mpr ⟨_, all ▸ before, meetsEarlier⟩
      simp [get, scalar?_eq_some_iff.mp isScalar, any_eq_true_iff_mem.mpr member]
  | @tooDeep type leaf scalar ofLeaf meetsToo isScalar isNew =>
      cases meetsToo.symm.trans meets
      have notPassed := hasPassed.notMem_of_isNew (all ▸ isNew)
      have head : passed.head? = some (id, leaf) := by
        rw [List.head?_eq_getElem?]
        exact hasPassed.getElem? (by rw [all]; decide) rfl ofLeaf
      simp [get, scalar?_eq_some_iff.mp isScalar, any_eq_false_of_notMem notPassed, head]

theorem scalarChainFrom_succ {scalar : ScalarType} {remaining : Nat}
    (isScalar : graph.scalar? current = some scalar) (isNew : current ∉ passed.map Prod.fst) :
    graph.scalarChainFrom (remaining + 1) passed current =
      (scalar.base.map fun base =>
        graph.scalarChainFrom remaining (passed ++ [(current, scalar)]) base).getD
          (.ok ((passed ++ [(current, scalar)]).map Prod.snd)) := by
  rw [scalarChainFrom.eq_def]
  cases base : scalar.base <;>
    simp [get, scalar?_eq_some_iff.mp isScalar, any_eq_false_of_notMem isNew, base]

/-- As long as nothing is wrong, the loop follows the walk. -/
theorem exists_hasPassed (few : links ≤ maxChainDepth)
    (meets : graph.baseAfter? id links = some current)
    (fine : ∀ fewer < links, ∀ error, ¬graph.FailsAfter id fewer error) :
    ∃ passed, graph.HasPassed id passed ∧ passed.length = links ∧
      graph.scalarChain id = graph.scalarChainFrom (maxChainDepth - links) passed current := by
  induction links generalizing current with
  | zero =>
      cases meets
      exact ⟨[], hasPassed_nil, rfl, rfl⟩
  | succ links induction =>
      rcases exists_derived_of_baseAfter?_succ meets with
        ⟨derived, scalar, meetsDerived, isScalar, hasBase⟩
      rcases induction (by omega) meetsDerived fun fewer before => fine fewer (by omega) with
        ⟨passed, hasPassed, rfl, follows⟩
      rcases exists_scalar?_of_not_failsAfter (by omega) meetsDerived (fine _ (by omega)) with
        ⟨_, _, _, isNew⟩
      have notPassed := hasPassed.notMem_of_isNew isNew
      refine ⟨_, hasPassed.append meetsDerived isScalar notPassed, by simp, ?_⟩
      have oneMore : maxChainDepth - passed.length = maxChainDepth - (passed.length + 1) + 1 := by
        omega
      rw [follows, oneMore, scalarChainFrom_succ isScalar notPassed, hasBase]
      rfl

/-! ## The result -/

theorem scalarChain_of_failsFirst {error : GraphError} (fails : graph.FailsFirst id error) :
    graph.scalarChain id = .error error := by
  rcases fails with ⟨links, fails, fine⟩
  rcases fails.exists_meets with ⟨current, meets⟩
  rcases exists_hasPassed (links_le_maxChainDepth meets fine) meets fine with
    ⟨passed, hasPassed, all, follows⟩
  rw [follows]
  exact hasPassed.scalarChainFrom_of_failsAfter all meets fails

/-- A walk with which nothing is wrong ends, and gives the chain. -/
theorem exists_isDerivation (fine : ∀ links error, ¬graph.FailsAfter id links error) :
    ∃ ids chain, graph.IsDerivation id ids chain ∧ graph.scalarChain id = .ok chain := by
  have finite : graph.baseAfter? id (maxChainDepth + 1) = none := by
    rw [Option.eq_none_iff_forall_ne_some]
    intro type meets
    have short := links_le_maxChainDepth meets fun fewer _ => fine fewer
    omega
  rcases exists_last_of_baseAfter?_eq_none finite with ⟨links, current, meets, ended⟩
  have short := links_le_maxChainDepth meets fun fewer _ => fine fewer
  rcases exists_scalar?_of_not_failsAfter short meets (fine links) with
    ⟨scalar, isScalar, notFull, isNew⟩
  rcases exists_hasPassed short meets fun fewer _ => fine fewer with
    ⟨passed, hasPassed, rfl, follows⟩
  have notPassed := hasPassed.notMem_of_isNew isNew
  have allPassed := hasPassed.append meets isScalar notPassed
  refine ⟨_, _, allPassed.isDerivation (by simpa using notFull) (by simpa using ended), ?_⟩
  have oneMore : maxChainDepth - passed.length = maxChainDepth - passed.length - 1 + 1 := by
    omega
  rw [follows, oneMore, scalarChainFrom_succ isScalar notPassed,
    ← baseAfter?_succ meets isScalar, ended]
  rfl

theorem IsDerivation.unique {ids others : List TypeId} {chain other : List ScalarType}
    (first : graph.IsDerivation id ids chain) (second : graph.IsDerivation id others other) :
    chain = other := by
  have sameIds : ids = others := by
    apply List.ext_getElem?
    intro links
    rw [first.walk, second.walk]
  subst sameIds
  exact (List.map_inj_right fun _ _ => Option.some.inj).mp (first.scalars.symm.trans second.scalars)

theorem IsDerivation.not_failsAfter {ids : List TypeId} {chain : List ScalarType}
    (derivation : graph.IsDerivation id ids chain) (error : GraphError) :
    ¬graph.FailsAfter id links error := by
  intro fails
  rcases fails.exists_meets with ⟨current, meets⟩
  have atLinks : ids[links]? = some current := (derivation.walk links).trans meets
  rcases List.getElem?_eq_some_iff.mp atLinks with ⟨before, _⟩
  obtain ⟨scalar, isScalar⟩ : ∃ scalar, graph.scalar? current = some scalar := by
    have listed := List.mem_map_of_mem (f := graph.scalar?) (List.mem_of_getElem? atLinks)
    rw [derivation.scalars] at listed
    rcases List.mem_map.mp listed with ⟨scalar, _, same⟩
    exact ⟨scalar, same.symm⟩
  refine not_failsAfter_of_scalar? (before.trans_le derivation.length_le) meets isScalar ?_ error
    fails
  intro earlier earlierBefore meetsEarlier
  have atEarlier : ids[earlier]? = some current := (derivation.walk earlier).trans meetsEarlier
  have same : links = earlier :=
    (List.getElem?_inj before derivation.nodup).mp (atLinks.trans atEarlier.symm)
  omega

/-- Following the bases of a scalar gives the scalars of the walk if they are different and few
enough, and else what goes wrong first. -/
theorem scalarChain_eq_iff_walk (graph : Graph) (id : TypeId) :
    (∀ chain, graph.scalarChain id = .ok chain ↔ ∃ ids, graph.IsDerivation id ids chain) ∧
      ∀ error, graph.scalarChain id = .error error ↔ graph.FailsFirst id error := by
  by_cases fine : ∀ links error, ¬graph.FailsAfter id links error
  · rcases exists_isDerivation fine with ⟨ids, chain, derivation, followed⟩
    refine ⟨fun other => ?_, fun error => ?_⟩
    · rw [followed, Except.ok.injEq]
      constructor
      · rintro rfl
        exact ⟨ids, derivation⟩
      · rintro ⟨others, otherDerivation⟩
        exact derivation.unique otherDerivation
    · rw [followed]
      constructor
      · exact nofun
      · rintro ⟨links, fails, _⟩
        exact absurd fails (fine links error)
  · simp only [not_forall, not_not] at fine
    rcases fine with ⟨links, error, fails⟩
    rcases exists_failsFirst fails with ⟨first, failsFirst⟩
    have failed := scalarChain_of_failsFirst failsFirst
    refine ⟨fun chain => ?_, fun other => ?_⟩
    · rw [failed]
      constructor
      · exact nofun
      · rintro ⟨ids, derivation⟩
        exact absurd fails (derivation.not_failsAfter error)
    · constructor
      · intro failedToo
        cases failed.symm.trans failedToo
        exact failsFirst
      · exact scalarChain_of_failsFirst

end Graph

end EntitySchema
