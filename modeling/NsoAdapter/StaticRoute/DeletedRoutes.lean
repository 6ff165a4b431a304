import NsoAdapter.StaticRoute.IngestionProperties

/-! What the `deleted_routes` of a push amount to (`core/deleted_routes.py`), without the passes of
the classifier: which ids are executed, degraded and moot, and which rows nothing claims. -/

namespace NsoAdapter.StaticRoute
open Lib Projection Store

section Classification

variable (records : List DeletedRoute) (removed : List StaticRouteIntent)

def Carried (routeId : Nat) : Prop :=
  ∃ row ∈ removed, row.routeId = some routeId

/-- A removed row without a route id is in the lineage of the record. -/
def Claims (record : DeletedRoute) : Prop :=
  ∃ row ∈ removed, row.routeId = none ∧ row.triple ∈ record.triples

/-- A removed row without a route id that is in the lineage of no id that is not executed. -/
structure Unclaimed (row : StaticRouteIntent) : Prop where
  gone : row ∈ removed
  uncorrelated : row.routeId = none
  free : ∀ record ∈ records, ¬Carried removed record.routeId → row.triple ∉ record.triples

/-- No row is bound to the id, but one is detached on its behalf. -/
structure Degrades (record : DeletedRoute) : Prop where
  requested : record ∈ records
  unbound : ¬Carried removed record.routeId
  detached : Claims removed record ∨ record.unverified = true ∧ ∃ row, Unclaimed records removed row

/-- No row is bound to the id and none is detached on its behalf. -/
structure Moot (record : DeletedRoute) : Prop where
  requested : record ∈ records
  unbound : ¬Carried removed record.routeId
  idle : ¬(Claims removed record ∨
    record.unverified = true ∧ ∃ row, Unclaimed records removed row)

end Classification

variable {records : List DeletedRoute} {removed : List StaticRouteIntent}

variable {routeId : Nat} {record : DeletedRoute}

theorem correlated_isSome {removed : List StaticRouteIntent} :
    (removed.find? fun row => row.routeId == some routeId).isSome = true ↔ Carried removed routeId := by
  rw [List.find?_isSome]
  unfold Carried
  simp

theorem correlated_isNone {removed : List StaticRouteIntent} : (removed.find? fun row => row.routeId == some routeId).isNone = true ↔
      ¬Carried removed routeId := by
  rw [← correlated_isSome, Option.isNone_iff_eq_none, Option.not_isSome_iff_eq_none]

theorem mem_executed : routeId ∈ (classifyDeletions records removed).executed ↔
      (∃ record ∈ records, record.routeId = routeId) ∧ Carried removed routeId := by
  unfold classifyDeletions
  rw [mem_orderBy, List.mem_map]
  constructor
  · rintro ⟨record, kept, rfl⟩
    obtain ⟨listed, bound⟩ := List.mem_filter.mp kept
    exact ⟨⟨record, listed, rfl⟩, correlated_isSome.mp bound⟩
  · rintro ⟨⟨record, listed, rfl⟩, bound⟩
    exact ⟨record, List.mem_filter.mpr ⟨listed, correlated_isSome.mpr bound⟩, rfl⟩

theorem mem_byTriple : routeId ∈ (removed.filter fun row => row.routeId.isNone).flatMap (fun row =>
        ((records.filter fun record =>
          (removed.find? fun row => row.routeId == some record.routeId).isNone).filter
            fun record => record.triples.contains row.triple).map (·.routeId)) ↔
      ∃ record ∈ records, record.routeId = routeId ∧ ¬Carried removed routeId ∧ Claims removed record := by
  constructor
  · intro member
    obtain ⟨row, kept, listed⟩ := List.mem_flatMap.mp member
    obtain ⟨gone, uncorrelated⟩ := List.mem_filter.mp kept
    obtain ⟨record, claiming, rfl⟩ := List.mem_map.mp listed
    obtain ⟨remaining, holds⟩ := List.mem_filter.mp claiming
    obtain ⟨requested, unbound⟩ := List.mem_filter.mp remaining
    exact ⟨record, requested, rfl, correlated_isNone.mp unbound, row, gone,
      Option.isNone_iff_eq_none.mp uncorrelated, List.contains_iff_mem.mp holds⟩
  · rintro ⟨record, requested, rfl, unbound, row, gone, uncorrelated, holds⟩
    refine List.mem_flatMap.mpr ⟨row, List.mem_filter.mpr ⟨gone, by rw [uncorrelated]; rfl⟩, ?_⟩
    refine List.mem_map.mpr ⟨record, List.mem_filter.mpr ⟨List.mem_filter.mpr ⟨requested, ?_⟩, ?_⟩, rfl⟩
    · exact correlated_isNone.mpr unbound
    · exact List.contains_iff_mem.mpr holds

variable {row : StaticRouteIntent} {triple : Triple} {rowId : Nat} {other : DeletedRoute}

theorem mem_unclaimedRows : row ∈ (removed.filter fun row => row.routeId.isNone).filter (fun row =>
        (((records.filter fun record =>
          (removed.find? fun row => row.routeId == some record.routeId).isNone).filter
            fun record => record.triples.contains row.triple).map (·.routeId)).isEmpty) ↔
      Unclaimed records removed row := by
  rw [List.mem_filter, List.mem_filter, List.isEmpty_iff, List.map_eq_nil_iff, List.filter_eq_nil_iff]
  constructor
  · rintro ⟨⟨gone, uncorrelated⟩, free⟩
    refine ⟨gone, Option.isNone_iff_eq_none.mp uncorrelated, ?_⟩
    intro record requested unbound holds
    exact free record (List.mem_filter.mpr ⟨requested, correlated_isNone.mpr unbound⟩) (List.contains_iff_mem.mpr holds)
  · intro unclaimed
    refine ⟨⟨unclaimed.gone, by rw [unclaimed.uncorrelated]; rfl⟩, ?_⟩
    intro record remaining holds
    obtain ⟨requested, unbound⟩ := List.mem_filter.mp remaining
    exact unclaimed.free record requested (correlated_isNone.mp unbound) (List.contains_iff_mem.mp holds)

theorem mem_uncorrelated : triple ∈ (classifyDeletions records removed).uncorrelated ↔
      ∃ row, Unclaimed records removed row ∧ row.triple = triple := by
  unfold classifyDeletions orderTriples
  rw [mem_orderBy, List.mem_map]
  exact exists_congr fun row => and_congr_left fun _ => mem_unclaimedRows

theorem uncorrelated_isEmpty : (!(classifyDeletions records removed).uncorrelated.isEmpty) = true ↔
      ∃ row, Unclaimed records removed row := by
  rw [Bool.not_eq_true', List.isEmpty_eq_false_iff_exists_mem]
  constructor
  · rintro ⟨triple, member⟩
    obtain ⟨row, unclaimed, _⟩ := mem_uncorrelated.mp member
    exact ⟨row, unclaimed⟩
  · rintro ⟨row, unclaimed⟩
    exact ⟨row.triple, mem_uncorrelated.mpr ⟨row, unclaimed, rfl⟩⟩

theorem mem_unmatched (distinct : (records.map (·.routeId)).Nodup) : record ∈ (records.filter fun record =>
        (removed.find? fun row => row.routeId == some record.routeId).isNone).filter (fun record =>
          !((removed.filter fun row => row.routeId.isNone).flatMap (fun row =>
            ((records.filter fun record =>
              (removed.find? fun row => row.routeId == some record.routeId).isNone).filter
                fun record => record.triples.contains row.triple).map (·.routeId))).contains
            record.routeId) ↔
      record ∈ records ∧ ¬Carried removed record.routeId ∧ ¬Claims removed record := by
  rw [List.mem_filter, List.mem_filter, correlated_isNone, Bool.not_eq_true', ← Bool.not_eq_true, List.contains_iff_mem, mem_byTriple]
  constructor
  · rintro ⟨⟨requested, unbound⟩, free⟩
    exact ⟨requested, unbound, fun claims => free ⟨record, requested, rfl, unbound, claims⟩⟩
  · rintro ⟨requested, unbound, free⟩
    refine ⟨⟨requested, unbound⟩, ?_⟩
    rintro ⟨other, listed, same, _, claims⟩
    cases List.inj_on_of_nodup_map distinct listed requested same
    exact free claims

theorem mem_degraded (distinct : (records.map (·.routeId)).Nodup) : routeId ∈ (classifyDeletions records removed).degraded ↔
      ∃ record, Degrades records removed record ∧ record.routeId = routeId := by
  unfold classifyDeletions
  rw [mem_orderBy, List.mem_dedup, List.mem_append, mem_byTriple, List.mem_map]
  constructor
  · rintro (⟨record, requested, rfl, unbound, claims⟩ | ⟨record, kept, rfl⟩)
    · exact ⟨record, ⟨requested, unbound, .inl claims⟩, rfl⟩
    · obtain ⟨unmatched, conservative⟩ := List.mem_filter.mp kept
      obtain ⟨requested, unbound, _⟩ := (mem_unmatched distinct).mp unmatched
      obtain ⟨unverified, residue⟩ := Bool.and_eq_true_iff.mp conservative
      exact ⟨record, ⟨requested, unbound, .inr ⟨unverified, uncorrelated_isEmpty.mp residue⟩⟩, rfl⟩
  · rintro ⟨record, degrades, rfl⟩
    by_cases claims : Claims removed record
    · exact .inl ⟨record, degrades.requested, rfl, degrades.unbound, claims⟩
    · obtain ⟨unverified, residue⟩ := degrades.detached.resolve_left claims
      refine .inr ⟨record, List.mem_filter.mpr ⟨?_, ?_⟩, rfl⟩
      · exact (mem_unmatched distinct).mpr ⟨degrades.requested, degrades.unbound, claims⟩
      · exact Bool.and_eq_true_iff.mpr ⟨unverified, uncorrelated_isEmpty.mpr residue⟩

theorem mem_moot (distinct : (records.map (·.routeId)).Nodup) : routeId ∈ (classifyDeletions records removed).moot ↔
      ∃ record, Moot records removed record ∧ record.routeId = routeId := by
  unfold classifyDeletions
  rw [mem_orderBy, List.mem_map]
  refine exists_congr fun record => and_congr_left fun _ => ?_
  rw [List.mem_filter, mem_unmatched distinct, Bool.not_eq_true', ← Bool.not_eq_true, Bool.and_eq_true]
  constructor
  · rintro ⟨⟨requested, unbound, free⟩, idle⟩
    refine ⟨requested, unbound, not_or.mpr ⟨free, fun conservative => idle ⟨conservative.1, ?_⟩⟩⟩
    exact uncorrelated_isEmpty.mpr conservative.2
  · intro moot
    obtain ⟨free, idle⟩ := not_or.mp moot.idle
    exact ⟨⟨moot.requested, moot.unbound, free⟩, fun conservative => idle ⟨conservative.1, uncorrelated_isEmpty.mp conservative.2⟩⟩

theorem mem_genuineRowIds (routeIds : (removed.filterMap (·.routeId)).Nodup) : rowId ∈ (classifyDeletions records removed).genuineRowIds ↔
      ∃ row ∈ removed, row.id = rowId ∧
        ∃ routeId ∈ (classifyDeletions records removed).executed, row.routeId = some routeId := by
  constructor
  · intro member
    obtain ⟨record, listed, bound⟩ := List.mem_filterMap.mp member
    obtain ⟨row, found, rfl⟩ := Option.map_eq_some_iff.mp bound
    have gone := List.mem_of_find?_eq_some found
    have carries : row.routeId = some record.routeId := by simpa using List.find?_some found
    exact ⟨row, gone, rfl, record.routeId, mem_executed.mpr ⟨⟨record, listed, rfl⟩, row, gone, carries⟩, carries⟩
  · rintro ⟨row, gone, rfl, routeId, executed, carries⟩
    obtain ⟨⟨record, listed, rfl⟩, _⟩ := mem_executed.mp executed
    have found : (removed.find? fun other => other.routeId == some record.routeId) = some row := by
      rw [← carries]
      refine find?_eq_some_of_unique gone fun other located same => ?_
      exact eq_of_nodup_filterMap routeIds located gone (same.trans carries) carries
    exact List.mem_filterMap.mpr ⟨record, listed, congrArg (Option.map (·.id)) found⟩

/-! Each list is strictly ordered. -/

theorem executed_ordered (distinct : (records.map (·.routeId)).Nodup) : (classifyDeletions records removed).executed.Pairwise (· < ·) := by
  refine pairwise_lt_orderBy ?_
  rw [List.map_id']
  exact distinct.sublist (List.filter_sublist.map _)

theorem degraded_ordered : (classifyDeletions records removed).degraded.Pairwise (· < ·) := by
  refine pairwise_lt_orderBy ?_
  rw [List.map_id']
  exact List.nodup_dedup _

theorem moot_ordered (distinct : (records.map (·.routeId)).Nodup) : (classifyDeletions records removed).moot.Pairwise (· < ·) := by
  refine pairwise_lt_orderBy ?_
  rw [List.map_id']
  exact distinct.sublist ((List.filter_sublist.trans (List.filter_sublist.trans List.filter_sublist)).map _)

theorem uncorrelated_ordered (triples : (removed.map (·.triple)).Nodup) :
    (classifyDeletions records removed).uncorrelated.Pairwise fun left right => tripleKey left < tripleKey right := by
  refine pairwise_lt_orderBy (List.Nodup.map tripleKey_injective ?_)
  exact triples.sublist ((List.filter_sublist.trans List.filter_sublist).map _)

structure SameRecord (left right : DeletedRoute) : Prop where
  routeId : left.routeId = right.routeId
  triples : ∀ triple, triple ∈ left.triples ↔ triple ∈ right.triples
  unverified : left.unverified = right.unverified

def Reordered (records others : List DeletedRoute) : Prop :=
  ∃ middle, records.Perm middle ∧ List.Forall₂ SameRecord middle others

/-- Each record of the second list is one of the first. -/
def Covers (records others : List DeletedRoute) : Prop :=
  ∀ other ∈ others, ∃ record ∈ records, SameRecord record other

variable {others : List DeletedRoute} {shuffled : List StaticRouteIntent}

theorem SameRecord.symm {left right : DeletedRoute} (same : SameRecord left right) : SameRecord right left :=
  ⟨same.routeId.symm, fun triple => (same.triples triple).symm, same.unverified.symm⟩

theorem SameRecord.trans {first second third : DeletedRoute} (left : SameRecord first second)
    (right : SameRecord second third) : SameRecord first third :=
  ⟨left.routeId.trans right.routeId, fun triple => (left.triples triple).trans (right.triples triple),
    left.unverified.trans right.unverified⟩

theorem routeIds_eq_of_forall₂ (related : List.Forall₂ SameRecord records others) : records.map (·.routeId) = others.map (·.routeId) := by
  induction related with
  | nil => rfl
  | cons first _ ih => rw [List.map_cons, List.map_cons, first.routeId, ih]

theorem Reordered.routeIds (reordered : Reordered records others) : (records.map (·.routeId)).Perm (others.map (·.routeId)) := by
  obtain ⟨middle, perm, related⟩ := reordered
  exact (perm.map _).trans (.of_eq (routeIds_eq_of_forall₂ related))

theorem Reordered.covers (reordered : Reordered records others) : Covers records others ∧ Covers others records := by
  obtain ⟨middle, perm, related⟩ := reordered
  constructor
  · intro other member
    obtain ⟨record, listed, same⟩ := exists_of_forall₂ related member
    exact ⟨record, perm.mem_iff.mpr listed, same⟩
  · intro record member
    obtain ⟨other, listed, same⟩ := exists_of_forall₂ related.flip (perm.mem_iff.mp member)
    exact ⟨other, listed, same.symm⟩

section

variable (perm : removed.Perm shuffled)

include perm

theorem Carried.shuffle (carried : Carried removed routeId) : Carried shuffled routeId := by
  obtain ⟨row, gone, carries⟩ := carried
  exact ⟨row, perm.mem_iff.mp gone, carries⟩

theorem Claims.shuffle (same : SameRecord record other) (claims : Claims removed record) : Claims shuffled other := by
  obtain ⟨row, gone, uncorrelated, holds⟩ := claims
  exact ⟨row, perm.mem_iff.mp gone, uncorrelated, (same.triples _).mp holds⟩

theorem Unclaimed.shuffle (covers : Covers records others) (unclaimed : Unclaimed records removed row) : Unclaimed others shuffled row := by
  refine ⟨perm.mem_iff.mp unclaimed.gone, unclaimed.uncorrelated, ?_⟩
  intro other listed unbound holds
  obtain ⟨record, requested, same⟩ := covers other listed
  refine unclaimed.free record requested (fun carried => unbound ?_) ((same.triples _).mpr holds)
  exact same.routeId ▸ carried.shuffle perm

theorem detached_shuffle (covers : Covers records others) (same : SameRecord record other) (detached : Claims removed record ∨
      record.unverified = true ∧ ∃ row, Unclaimed records removed row) :
    Claims shuffled other ∨ other.unverified = true ∧ ∃ row, Unclaimed others shuffled row := by
  rcases detached with claims | ⟨unverified, row, unclaimed⟩
  · exact .inl (claims.shuffle perm same)
  · exact .inr ⟨same.unverified ▸ unverified, row, unclaimed.shuffle perm covers⟩

theorem mem_executed_shuffle (covers : Covers others records) (member : routeId ∈ (classifyDeletions records removed).executed) :
    routeId ∈ (classifyDeletions others shuffled).executed := by
  obtain ⟨⟨record, requested, rfl⟩, carried⟩ := mem_executed.mp member
  obtain ⟨other, listed, same⟩ := covers record requested
  exact mem_executed.mpr ⟨⟨other, listed, same.routeId⟩, carried.shuffle perm⟩

theorem mem_degraded_shuffle (covers : Covers records others) (back : Covers others records)
    (distinct : (records.map (·.routeId)).Nodup) (apart : (others.map (·.routeId)).Nodup)
    (member : routeId ∈ (classifyDeletions records removed).degraded) :
    routeId ∈ (classifyDeletions others shuffled).degraded := by
  obtain ⟨record, degrades, rfl⟩ := (mem_degraded distinct).mp member
  obtain ⟨other, listed, same⟩ := back record degrades.requested
  refine (mem_degraded apart).mpr ⟨other, ⟨listed, fun carried => degrades.unbound ?_, ?_⟩, same.routeId⟩
  · exact same.routeId ▸ carried.shuffle perm.symm
  · exact detached_shuffle perm covers same.symm degrades.detached

theorem mem_moot_shuffle (back : Covers others records) (distinct : (records.map (·.routeId)).Nodup)
    (apart : (others.map (·.routeId)).Nodup)
    (member : routeId ∈ (classifyDeletions records removed).moot) :
    routeId ∈ (classifyDeletions others shuffled).moot := by
  obtain ⟨record, moot, rfl⟩ := (mem_moot distinct).mp member
  obtain ⟨other, listed, same⟩ := back record moot.requested
  refine (mem_moot apart).mpr ⟨other, ⟨listed, fun carried => moot.unbound ?_, ?_⟩, same.routeId⟩
  · exact same.routeId ▸ carried.shuffle perm.symm
  · exact fun detached => moot.idle (detached_shuffle perm.symm back same detached)

theorem mem_uncorrelated_shuffle (covers : Covers records others) (member : triple ∈ (classifyDeletions records removed).uncorrelated) :
    triple ∈ (classifyDeletions others shuffled).uncorrelated := by
  obtain ⟨row, unclaimed, rfl⟩ := mem_uncorrelated.mp member
  exact mem_uncorrelated.mpr ⟨row, unclaimed.shuffle perm covers, rfl⟩

theorem mem_genuineRowIds_shuffle (back : Covers others records) (routeIds : (removed.filterMap (·.routeId)).Nodup)
    (member : rowId ∈ (classifyDeletions records removed).genuineRowIds) :
    rowId ∈ (classifyDeletions others shuffled).genuineRowIds := by
  obtain ⟨row, gone, same, routeId, executed, carries⟩ := (mem_genuineRowIds routeIds).mp member
  refine (mem_genuineRowIds ((perm.filterMap _).nodup_iff.mp routeIds)).mpr ?_
  exact ⟨row, perm.mem_iff.mp gone, same, routeId, mem_executed_shuffle perm back executed, carries⟩

end

theorem classification_perm (distinct : (records.map (·.routeId)).Nodup) :
    ((classifyDeletions records removed).executed ++ ((classifyDeletions records removed).degraded ++
        (classifyDeletions records removed).moot)).Perm (records.map (·.routeId)) := by
  have apart : ∀ {ids : List Nat}, ids.Pairwise (· < ·) → ids.Nodup := fun ordered => ordered.imp fun less => less.ne
  have own : ∀ {left right : DeletedRoute}, left ∈ records → right ∈ records → left.routeId = right.routeId → left = right :=
    fun first second same => List.inj_on_of_nodup_map distinct first second same
  refine (List.perm_ext_iff_of_nodup ?_ distinct).mpr fun routeId => ?_
  · rw [List.nodup_append, List.nodup_append]
    refine ⟨apart (executed_ordered distinct), ⟨apart degraded_ordered, apart (moot_ordered distinct), ?_⟩, ?_⟩
    · rintro routeId degraded _ moot rfl
      obtain ⟨record, degrades, rfl⟩ := (mem_degraded distinct).mp degraded
      obtain ⟨other, idle, same⟩ := (mem_moot distinct).mp moot
      cases own idle.requested degrades.requested same
      exact idle.idle degrades.detached
    · rintro routeId executed _ later rfl
      have carried := (mem_executed.mp executed).2
      rcases List.mem_append.mp later with degraded | moot
      · obtain ⟨record, degrades, rfl⟩ := (mem_degraded distinct).mp degraded
        exact degrades.unbound carried
      · obtain ⟨record, idle, rfl⟩ := (mem_moot distinct).mp moot
        exact idle.unbound carried
  · rw [List.mem_append, List.mem_append, mem_executed, mem_degraded distinct, mem_moot distinct, List.mem_map]
    constructor
    · rintro (⟨requested, _⟩ | ⟨record, degrades, same⟩ | ⟨record, idle, same⟩)
      · exact requested
      · exact ⟨record, degrades.requested, same⟩
      · exact ⟨record, idle.requested, same⟩
    · rintro ⟨record, requested, rfl⟩
      by_cases carried : Carried removed record.routeId
      · exact .inl ⟨⟨record, requested, rfl⟩, carried⟩
      · by_cases detached : Claims removed record ∨ record.unverified = true ∧ ∃ row, Unclaimed records removed row
        · exact .inr (.inl ⟨record, ⟨requested, carried, detached⟩, rfl⟩)
        · exact .inr (.inr ⟨record, ⟨requested, carried, detached⟩, rfl⟩)

theorem classification_shuffle (perm : removed.Perm shuffled) (covers : Covers records others)
    (back : Covers others records) (distinct : (records.map (·.routeId)).Nodup)
    (apart : (others.map (·.routeId)).Nodup) (triples : (removed.map (·.triple)).Nodup)
    (routeIds : (removed.filterMap (·.routeId)).Nodup) :
    let partition := classifyDeletions records removed
    let other := classifyDeletions others shuffled
    other.executed = partition.executed ∧ other.degraded = partition.degraded ∧
      other.moot = partition.moot ∧ other.uncorrelated = partition.uncorrelated ∧
      ∀ rowId, rowId ∈ other.genuineRowIds ↔ rowId ∈ partition.genuineRowIds := by
  have shuffledTriples := (perm.map _).nodup_iff.mp triples
  have shuffledIds := (perm.filterMap _).nodup_iff.mp routeIds
  refine ⟨?_, ?_, ?_, ?_, fun rowId => ⟨?_, ?_⟩⟩
  · exact eq_of_pairwise_lt (executed_ordered apart) (executed_ordered distinct) fun routeId =>
      ⟨mem_executed_shuffle perm.symm covers, mem_executed_shuffle perm back⟩
  · exact eq_of_pairwise_lt degraded_ordered degraded_ordered fun routeId =>
      ⟨mem_degraded_shuffle perm.symm back covers apart distinct, mem_degraded_shuffle perm covers back distinct apart⟩
  · exact eq_of_pairwise_lt (moot_ordered apart) (moot_ordered distinct) fun routeId =>
      ⟨mem_moot_shuffle perm.symm covers apart distinct, mem_moot_shuffle perm back distinct apart⟩
  · exact eq_of_pairwise_lt (uncorrelated_ordered shuffledTriples) (uncorrelated_ordered triples)
      fun triple => ⟨mem_uncorrelated_shuffle perm.symm back, mem_uncorrelated_shuffle perm covers⟩
  · exact mem_genuineRowIds_shuffle perm.symm covers shuffledIds
  · exact mem_genuineRowIds_shuffle perm back routeIds

theorem deletionRecords_routeIds (records : List DeletedRoute) : (deletionRecords records).map (·.routeId) = records.map (·.routeId) := by
  unfold deletionRecords
  rw [List.map_map]
  rfl

theorem deletionRecords_covers (records : List DeletedRoute) :
    Covers records (deletionRecords records) ∧ Covers (deletionRecords records) records := by
  have same : ∀ record : DeletedRoute, SameRecord record { record with triples := record.triples.eraseDups } :=
    fun record => ⟨rfl, fun _ => List.mem_eraseDups.symm, rfl⟩
  constructor
  · intro other member
    obtain ⟨record, requested, rfl⟩ := List.mem_map.mp member
    exact ⟨record, requested, same record⟩
  · intro record requested
    exact ⟨_, List.mem_map.mpr ⟨record, requested, rfl⟩, (same record).symm⟩

/-- The classification partitions the requested ids, each by what the removed rows carry, whatever
order the request and the rows come in. -/
theorem deletion_classification_exact (records : List DeletedRoute)
    (removed : List StaticRouteIntent) (distinct : (records.map (·.routeId)).Nodup)
    (ids : (removed.map (·.id)).Nodup) (triples : (removed.map (·.triple)).Nodup)
    (routeIds : (removed.filterMap (·.routeId)).Nodup) :
    let partition := classifyDeletions (deletionRecords records) removed
    (partition.executed ++ (partition.degraded ++ partition.moot)).Perm (records.map (·.routeId)) ∧
    (∀ record ∈ records, (record.routeId ∈ partition.executed ↔ Carried removed record.routeId) ∧
      (record.routeId ∈ partition.degraded ↔ record.routeId ∉ partition.executed ∧ (Claims removed record ∨
          record.unverified = true ∧ ∃ row, Unclaimed records removed row))) ∧
    (partition.uncorrelated.Nodup ∧ ∀ triple, triple ∈ partition.uncorrelated ↔
      ∃ row, Unclaimed records removed row ∧ row.triple = triple) ∧
    (∀ rowId ∈ partition.genuineRowIds, ∃ row ∈ removed, row.id = rowId) ∧
    (∀ row ∈ removed, (row.id ∈ partition.genuineRowIds ↔ ∃ routeId ∈ partition.executed, row.routeId = some routeId) ∧
      (removalMarking partition row = .deleteOrigin ↔ row.id ∈ partition.genuineRowIds)) ∧
    ∀ others shuffled, Reordered records others → removed.Perm shuffled →
      let other := classifyDeletions (deletionRecords others) shuffled
      other.executed = partition.executed ∧ other.degraded = partition.degraded ∧
        other.moot = partition.moot ∧ other.uncorrelated = partition.uncorrelated ∧
        ∀ rowId, rowId ∈ other.genuineRowIds ↔ rowId ∈ partition.genuineRowIds := by
  intro partition
  have lineage := deletionRecords_covers records
  have unique : ((deletionRecords records).map (·.routeId)).Nodup := (deletionRecords_routeIds records).symm ▸ distinct
  obtain ⟨executed, degraded, moot, uncorrelated, genuine⟩ :=
    classification_shuffle (.refl removed) lineage.1 lineage.2 distinct unique triples routeIds
  refine ⟨?_, ?_, ⟨?_, ?_⟩, ?_, ?_, ?_⟩
  · rw [executed, degraded, moot]
    exact classification_perm distinct
  · intro record requested
    have bound : record.routeId ∈ partition.executed ↔ Carried removed record.routeId := by
      rw [executed, mem_executed]
      exact and_iff_right ⟨record, requested, rfl⟩
    refine ⟨bound, ?_⟩
    rw [degraded, mem_degraded distinct, bound]
    constructor
    · rintro ⟨other, degrades, same⟩
      cases List.inj_on_of_nodup_map distinct degrades.requested requested same
      exact ⟨degrades.unbound, degrades.detached⟩
    · rintro ⟨unbound, detached⟩
      exact ⟨record, ⟨requested, unbound, detached⟩, rfl⟩
  · exact (uncorrelated_ordered triples).imp fun less same => (same ▸ less).false
  · intro triple
    rw [uncorrelated, mem_uncorrelated]
  · intro rowId member
    obtain ⟨row, gone, same, _⟩ := (mem_genuineRowIds routeIds).mp member
    exact ⟨row, gone, same⟩
  · intro row gone
    refine ⟨?_, ?_⟩
    · rw [mem_genuineRowIds routeIds]
      constructor
      · rintro ⟨other, located, same, rest⟩
        cases List.inj_on_of_nodup_map ids located gone same
        exact rest
      · exact fun rest => ⟨row, gone, rfl, rest⟩
    · unfold removalMarking
      simp
  · intro others shuffled reordered perm
    obtain ⟨covers, back⟩ := reordered.covers
    have apart : (others.map (·.routeId)).Nodup := reordered.routeIds.nodup_iff.mp distinct
    have further := deletionRecords_covers others
    have join {first second third : List DeletedRoute} (left : Covers first second) (right : Covers second third) : Covers first third := by
      intro last listed
      obtain ⟨middle, inner, same⟩ := right last listed
      obtain ⟨record, requested, also⟩ := left middle inner
      exact ⟨record, requested, also.trans same⟩
    exact classification_shuffle perm (join lineage.2 (join covers further.1)) (join further.2 (join back lineage.1)) unique
      ((deletionRecords_routeIds others).symm ▸ apart) triples routeIds

section Scenario

def routeA : Triple := ("", "10.0.0.0/24", "192.0.2.1")
def routeC : Triple := ("", "10.0.2.0/24", "192.0.2.1")
def routeD : Triple := ("", "10.0.3.0/24", "192.0.2.1")

/-- Two ids share a lineage with one row, and an unverified id matches nothing. -/
def sharedLineage : List DeletedRoute :=
  [⟨1, [routeA, routeC], false⟩, ⟨2, [routeC, routeC], false⟩, ⟨3, [], true⟩, ⟨4, [], false⟩]

def sharedRows : List StaticRouteIntent :=
  let state : RouteState := ⟨none, none, none, none, none, none⟩
  [⟨1, some 1, none, routeA, state, "t0", none, none⟩, ⟨2, none, none, routeC, state, "t0", none, none⟩,
    ⟨3, none, none, routeD, state, "t0", none, none⟩]

theorem sharedLineage_classified : classifyDeletions (deletionRecords sharedLineage) sharedRows = ⟨[1], [2, 3], [4], [routeD], [1]⟩ ∧
      ([1] ++ ([2, 3] ++ [4])).Perm (sharedLineage.map DeletedRoute.routeId) := by
  have verdicts : classifyDeletions (deletionRecords sharedLineage) sharedRows = ⟨[1], [2, 3], [4], [routeD], [1]⟩ := by decide +kernel
  have exact := (deletion_classification_exact sharedLineage sharedRows (by decide) (by decide) (by decide) (by decide)).1
  rw [verdicts] at exact
  exact ⟨verdicts, exact⟩

end Scenario

end NsoAdapter.StaticRoute
