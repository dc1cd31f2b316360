import Mathlib
import EntitySchema.Proofs.Derivation
/-!
What a record inherits.

The bases of a record are met one link after another, up to a record without a base. If they are
different and few enough, their properties follow those of the record itself, less those whose names
occurred before. If they go in circles, following them ends all the same.
-/

namespace EntitySchema

def firstOfEachName (properties : List Property) : List Property :=
  properties.eraseDupsBy fun left right => left.name == right.name

namespace Graph

/-! ## Links -/

/-- Links lead from a record to its base, to the base of that, and so on to the last record. The
lists hold the ids that the links name and the records that they lead to. -/
inductive Follows (graph : Graph) :
    RecordType → List TypeId → List RecordType → RecordType → Prop
  | start (record : RecordType) : Follows graph record [] [] record
  | link {record next last : RecordType} {id : TypeId} {ids : List TypeId}
      {bases : List RecordType} :
      record.base = some id → graph.get? id = some (.record next) →
      Follows graph next ids bases last →
      Follows graph record (id :: ids) (next :: bases) last

structure IsLineage (graph : Graph) (record : RecordType) (ids : List TypeId)
    (bases : List RecordType) : Prop where
  exists_root : ∃ root, graph.Follows record ids bases root ∧ root.base = none
  length_le : ids.length ≤ maxChainDepth
  nodup : ids.Nodup

def RepeatsWithin (graph : Graph) (record : RecordType) (links : Nat) : Prop :=
  ∃ ids bases last, graph.Follows record ids bases last ∧ ids.length ≤ links ∧ ¬ids.Nodup

def IsCyclic (graph : Graph) (record : RecordType) : Prop :=
  ∃ links, graph.RepeatsWithin record links

variable {graph : Graph} {start current last : RecordType} {ids : List TypeId}
  {bases : List RecordType}

theorem Follows.take (follows : graph.Follows current ids bases last) (links : Nat) :
    ∃ met reached, graph.Follows current (ids.take links) met reached := by
  induction follows generalizing links with
  | start record => exact ⟨[], record, by simpa using .start record⟩
  | @link record next last id ids bases hasBase found _ induction =>
      cases links with
      | zero => exact ⟨[], record, .start record⟩
      | succ links =>
          rcases induction links with ⟨met, reached, follows⟩
          exact ⟨next :: met, reached, .link hasBase found follows⟩

/-! ## Collecting properties -/

section Collecting

variable {known : List Property} {property : Property}

theorem addProperties_append (known added more : List Property) :
    addProperties known (added ++ more) = addProperties (addProperties known added) more :=
  List.foldl_append

theorem addProperties_cons_of_mem (occurs : property.name ∈ known.map Property.name)
    (rest : List Property) : addProperties known (property :: rest) = addProperties known rest := by
  have test : (known.any fun earlier => earlier.name == property.name) = true := by
    simpa using occurs
  rw [addProperties, List.foldl_cons, if_pos test]
  rfl

theorem addProperties_cons_of_notMem (isNew : property.name ∉ known.map Property.name)
    (rest : List Property) :
    addProperties known (property :: rest) = addProperties (known ++ [property]) rest := by
  have test : ¬(known.any fun earlier => earlier.name == property.name) = true := by
    simpa using isNew
  rw [addProperties, List.foldl_cons, if_neg test]
  rfl

/-- The library's loop puts what it keeps in front, so it holds the known properties backwards. -/
theorem addProperties_reverse (known added : List Property) :
    addProperties known.reverse added =
      List.eraseDupsBy.loop (fun left right => left.name == right.name) added known := by
  induction added generalizing known with
  | nil => rfl
  | cons property rest induction =>
      rw [List.eraseDupsBy.loop]
      by_cases occurs : property.name ∈ known.map Property.name
      · have test : (known.any fun earlier => property.name == earlier.name) = true := by
          simpa [eq_comm (a := property.name)] using occurs
        rw [addProperties_cons_of_mem (by simpa using occurs), test]
        exact induction known
      · have test : (known.any fun earlier => property.name == earlier.name) = false := by
          simpa [eq_comm (a := property.name)] using occurs
        rw [addProperties_cons_of_notMem (by simpa using occurs), test, ← List.reverse_cons]
        exact induction (property :: known)

theorem addProperties_nil (added : List Property) :
    addProperties [] added = firstOfEachName added :=
  addProperties_reverse [] added

theorem nodup_names_addProperties (distinct : (known.map Property.name).Nodup)
    (added : List Property) : ((addProperties known added).map Property.name).Nodup := by
  induction added generalizing known with
  | nil => exact distinct
  | cons property rest induction =>
      by_cases occurs : property.name ∈ known.map Property.name
      · rw [addProperties_cons_of_mem occurs]
        exact induction distinct
      · rw [addProperties_cons_of_notMem occurs]
        apply induction
        rw [List.map_append, List.map_singleton, ← List.concat_eq_append, List.nodup_concat]
        exact ⟨occurs, distinct⟩

end Collecting

/-! ## Following the links -/

variable {remaining : Nat} {passed : List TypeId} {collected properties : List Property}

theorem recordPropertiesFrom_link {next : RecordType} {id : TypeId}
    (hasBase : current.base = some id) (found : graph.get? id = some (.record next))
    (isNew : id ∉ passed) :
    graph.recordPropertiesFrom start (remaining + 1) passed collected current =
      graph.recordPropertiesFrom start remaining (passed ++ [id])
        (addProperties collected current.properties) next := by
  rw [recordPropertiesFrom]
  simp [hasBase, isNew, get, found]

theorem notMem_of_nodup_append_cons {id : TypeId} (distinct : (passed ++ id :: ids).Nodup) :
    id ∉ passed := by
  intro isPassed
  exact (List.nodup_cons.mp (List.nodup_middle.mp distinct)).1 (List.mem_append_left ids isPassed)

/-- If the links end at a record without a base, and name new bases, the properties of all of them
are collected. -/
theorem Follows.recordPropertiesFrom_eq_ok (follows : graph.Follows current ids bases last)
    (ended : last.base = none) (short : ids.length ≤ remaining)
    (distinct : (passed ++ ids).Nodup) :
    graph.recordPropertiesFrom start remaining passed collected current =
      .ok (addProperties collected ((current :: bases).flatMap RecordType.properties)) := by
  induction follows generalizing remaining passed collected with
  | start record =>
      rw [recordPropertiesFrom.eq_def]
      simp [ended]
  | link hasBase found _ induction =>
      obtain ⟨left, rfl⟩ := Nat.exists_eq_add_of_le' (Nat.one_le_of_lt short)
      rw [recordPropertiesFrom_link hasBase found (notMem_of_nodup_append_cons distinct),
        induction ended (Nat.le_of_succ_le_succ short) (by simpa using distinct),
        ← addProperties_append]
      rfl

/-- Properties are collected only along such links. -/
theorem exists_follows_of_recordPropertiesFrom (distinct : passed.Nodup)
    (collects :
      graph.recordPropertiesFrom start remaining passed collected current = .ok properties) :
    ∃ ids bases root, graph.Follows current ids bases root ∧ root.base = none ∧
      ids.length ≤ remaining ∧ (passed ++ ids).Nodup := by
  induction remaining generalizing passed collected current with
  | zero =>
      rw [recordPropertiesFrom_eq_ok_iff] at collects
      cases hasBase : current.base with
      | none => exact ⟨[], [], current, .start current, hasBase, le_rfl, by simpa using distinct⟩
      | some id => simp [hasBase] at collects
  | succ remaining induction =>
      rw [recordPropertiesFrom_eq_ok_iff] at collects
      cases hasBase : current.base with
      | none =>
          exact ⟨[], [], current, .start current, hasBase, Nat.zero_le _, by simpa using distinct⟩
      | some id =>
          rw [hasBase] at collects
          rcases collects with ⟨next, left, found, isNew, same, collects⟩
          cases same
          have passedAlso : (passed ++ [id]).Nodup := by
            rw [← List.concat_eq_append, List.nodup_concat]
            exact ⟨isNew, distinct⟩
          rcases induction passedAlso collects with
            ⟨ids, bases, root, follows, ended, short, distinct⟩
          exact ⟨id :: ids, next :: bases, root, .link hasBase found follows, ended,
            Nat.succ_le_succ short, by simpa using distinct⟩

theorem Follows.recordPropertiesFrom_of_repeat (follows : graph.Follows current ids bases last)
    (short : ids.length ≤ remaining + 1) (distinct : passed.Nodup)
    (repeated : ¬(passed ++ ids).Nodup) :
    graph.recordPropertiesFrom start remaining passed collected current =
      .error (.recordCycle start.name) := by
  induction follows generalizing remaining passed collected with
  | start record => exact absurd (by simpa using distinct) repeated
  | @link record next last id ids bases hasBase found _ induction =>
      by_cases isPassed : id ∈ passed
      · rw [recordPropertiesFrom.eq_def]
        simp [hasBase, isPassed]
      · have passedAlso : (passed ++ [id]).Nodup := by
          rw [← List.concat_eq_append, List.nodup_concat]
          exact ⟨isPassed, distinct⟩
        cases remaining with
        | zero =>
            -- The only link left names a new base, so nothing is repeated.
            cases List.eq_nil_of_length_eq_zero (Nat.le_zero.mp (Nat.le_of_succ_le_succ short))
            exact absurd passedAlso repeated
        | succ remaining =>
            rw [recordPropertiesFrom_link hasBase found isPassed]
            exact induction (Nat.le_of_succ_le_succ short) passedAlso (by simpa using repeated)

theorem Follows.recordPropertiesFrom_of_long (follows : graph.Follows current ids bases last)
    (long : ids.length = remaining + 1) (distinct : (passed ++ ids).Nodup) :
    graph.recordPropertiesFrom start remaining passed collected current =
      .error (.chainTooDeep start.name maxChainDepth) := by
  induction follows generalizing remaining passed collected with
  | start record => cases long
  | link hasBase found _ induction =>
      have isNew := notMem_of_nodup_append_cons distinct
      cases remaining with
      | zero =>
          rw [recordPropertiesFrom]
          simp [hasBase, isNew]
      | succ remaining =>
          rw [recordPropertiesFrom_link hasBase found isNew]
          exact induction (Nat.succ.inj long) (by simpa using distinct)

/-! ## The result -/

theorem recordProperties_eq_ok_iff {record : RecordType} :
    graph.recordProperties record = .ok properties ↔
      ∃ ids bases, graph.IsLineage record ids bases ∧
        properties = firstOfEachName ((record :: bases).flatMap RecordType.properties) := by
  constructor
  · intro collects
    rcases exists_follows_of_recordPropertiesFrom List.nodup_nil collects with
      ⟨ids, bases, root, follows, ended, short, distinct⟩
    refine ⟨ids, bases, ⟨⟨root, follows, ended⟩, short, distinct⟩, ?_⟩
    rw [← addProperties_nil]
    apply Except.ok.inj (ε := GraphError)
    rw [← collects]
    exact follows.recordPropertiesFrom_eq_ok ended short distinct
  · intro inherits
    rcases inherits with ⟨ids, bases, lineage, rfl⟩
    rcases lineage.exists_root with ⟨root, follows, ended⟩
    rw [← addProperties_nil]
    exact follows.recordPropertiesFrom_eq_ok ended lineage.length_le lineage.nodup

theorem nodup_names_of_recordProperties {record : RecordType}
    (collects : graph.recordProperties record = .ok properties) :
    (properties.map Property.name).Nodup := by
  rcases recordProperties_eq_ok_iff.mp collects with ⟨ids, bases, _, rfl⟩
  have noNames : (([] : List Property).map Property.name).Nodup := List.nodup_nil
  rw [← addProperties_nil]
  exact nodup_names_addProperties noNames _

theorem recordProperties_of_repeatsWithin {record : RecordType}
    (repeats : graph.RepeatsWithin record (maxChainDepth + 1)) :
    graph.recordProperties record = .error (.recordCycle record.name) := by
  rcases repeats with ⟨ids, bases, last, follows, short, repeated⟩
  exact follows.recordPropertiesFrom_of_repeat short List.nodup_nil repeated

/-- Before the links of a cycle repeat a base, they reach one base too many. -/
theorem recordProperties_of_isCyclic {record : RecordType} (cyclic : graph.IsCyclic record)
    (late : ¬graph.RepeatsWithin record (maxChainDepth + 1)) :
    graph.recordProperties record = .error (.chainTooDeep record.name maxChainDepth) := by
  rcases cyclic with ⟨links, ids, bases, last, follows, _, repeated⟩
  have long : maxChainDepth + 1 ≤ ids.length := by
    by_contra short
    exact late ⟨ids, bases, last, follows, by omega, repeated⟩
  rcases follows.take (maxChainDepth + 1) with ⟨met, reached, followsFirst⟩
  have taken : (ids.take (maxChainDepth + 1)).length = maxChainDepth + 1 := by
    rw [List.length_take]
    omega
  have distinct : (ids.take (maxChainDepth + 1)).Nodup := by
    by_contra repeatedFirst
    exact late ⟨_, met, reached, followsFirst, taken.le, repeatedFirst⟩
  exact followsFirst.recordPropertiesFrom_of_long taken distinct

/-- A record has properties if and only if its bases are different records, not too many of them,
the last of which has no base. They are its own and then those of its bases, of each name the first.
A record whose bases go in circles has none: either one of the first links repeats a base, or there
are too many links before that. -/
theorem recordProperties_eq_iff_lineage (graph : Graph) (record : RecordType) :
    (∀ properties, graph.recordProperties record = .ok properties ↔
      ∃ ids bases, graph.IsLineage record ids bases ∧
        properties = firstOfEachName ((record :: bases).flatMap RecordType.properties)) ∧
    (∀ properties, graph.recordProperties record = .ok properties →
      (properties.map Property.name).Nodup) ∧
    (graph.IsCyclic record →
      (graph.RepeatsWithin record (maxChainDepth + 1) →
        graph.recordProperties record = .error (.recordCycle record.name)) ∧
      (¬graph.RepeatsWithin record (maxChainDepth + 1) →
        graph.recordProperties record = .error (.chainTooDeep record.name maxChainDepth))) := by
  refine ⟨fun properties => recordProperties_eq_ok_iff,
    fun properties collects => nodup_names_of_recordProperties collects, ?_⟩
  intro cyclic
  exact ⟨recordProperties_of_repeatsWithin, recordProperties_of_isCyclic cyclic⟩

def titledItem : RecordType :=
  { name := "Item", properties := [{ name := "id", type := ⟨1⟩ }, { name := "title", type := ⟨1⟩ }] }

/-- It declares the title that it inherits, and it does so twice. -/
def retitledBook : RecordType :=
  { name := "Book", base := some ⟨0⟩,
    properties := [{ name := "title", type := ⟨2⟩ }, { name := "title", type := ⟨3⟩ }] }

def evenRecord : RecordType := { name := "Even", base := some ⟨2⟩ }

def oddRecord : RecordType := { name := "Odd", base := some ⟨1⟩ }

def shelfGraph : Graph := { types := #[.record titledItem, .record evenRecord, .record oddRecord] }

/-- The first title takes the place of the others. Of two records that are the bases of each other,
neither has properties. -/
theorem recordProperties_shelfGraph :
    shelfGraph.recordProperties retitledBook =
      .ok [{ name := "title", type := ⟨2⟩ }, { name := "id", type := ⟨1⟩ }] ∧
    shelfGraph.IsCyclic evenRecord ∧
    shelfGraph.recordProperties evenRecord = .error (.recordCycle "Even") := by
  have lineage : shelfGraph.IsLineage retitledBook [⟨0⟩] [titledItem] :=
    ⟨⟨titledItem, .link rfl rfl (.start titledItem), rfl⟩, by decide, by decide⟩
  have repeats : shelfGraph.RepeatsWithin evenRecord (maxChainDepth + 1) :=
    ⟨[⟨2⟩, ⟨1⟩, ⟨2⟩], [oddRecord, evenRecord, oddRecord], oddRecord,
      .link rfl rfl (.link rfl rfl (.link rfl rfl (.start oddRecord))), by decide, by decide⟩
  have cyclic : shelfGraph.IsCyclic evenRecord := ⟨_, repeats⟩
  refine ⟨?_, cyclic, ((recordProperties_eq_iff_lineage _ _).2.2 cyclic).1 repeats⟩
  exact ((recordProperties_eq_iff_lineage _ _).1 _).mpr ⟨_, _, lineage, rfl⟩

end Graph

end EntitySchema
