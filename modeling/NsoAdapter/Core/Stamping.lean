import Mathlib.Data.List.Dedup
import NsoAdapter.Core.GenerationProperties

/-! What settlement writes on the projection streams: a row rises to a revision that a
generation listed, and only for a generation whose request is complete. -/

namespace NsoAdapter.Core
open Lib Store Projection

/-- Every member of the cohort on the device may be crossed, and some member settled. -/
def Completed (db : Database) (deviceId cohort : Nat) : Prop :=
  (∀ member ∈ db.generations, member.deviceId = deviceId →
    member.settlementCohort = some cohort → member.status.crossable = true) ∧
  ∃ member ∈ db.generations, member.settlementCohort = some cohort ∧ member.status = .settled

/-- A generation stands for the revisions it lists: it settled by itself, or its cohort is
complete. -/
def Vouches (db : Database) (generation : DeploymentGeneration) : Prop :=
  (generation.settlementCohort = none ∧ generation.status = .settled) ∨
    ∃ cohort, generation.settlementCohort = some cohort ∧
      Completed db generation.deviceId cohort

def counts (db : Database) (row : DeviceProjectionStream) (target : RevisionTarget) : Bool :=
  row.deviceId == target.deviceId && row.stream == target.stream &&
    !blockingSibling db target.deviceId target.cohort

variable {db : Database} {target : RevisionTarget} {row : DeviceProjectionStream} {jobId : Nat}

theorem blockingSibling_eq_false {deviceId cohort : Nat} : blockingSibling db deviceId (some cohort) = false ↔
      ∀ member ∈ db.generations, member.deviceId = deviceId →
        member.settlementCohort = some cohort → member.status.crossable = true := by
  unfold blockingSibling
  rw [List.any_eq_false]
  simp only [Bool.and_eq_true, beq_iff_eq, Bool.not_eq_true', not_and, and_imp]
  refine forall_congr' fun member => forall_congr' fun _ => forall_congr' fun device => ?_
  constructor
  · intro unblocked cohort
    by_contra opened
    exact unblocked (Bool.eq_false_iff.mpr opened) cohort
  · intro crossable opened cohort
    rw [crossable cohort] at opened
    cases opened

structure Stamped (db : Database) (targets : List RevisionTarget)
    (row after : DeviceProjectionStream) : Prop where
  same : after = { row with appliedRevision := after.appliedRevision }
  grows : row.appliedRevision ≤ after.appliedRevision
  reached : ∀ target ∈ targets, counts db row target = true →
    target.revision ≤ after.appliedRevision
  cause : after.appliedRevision = row.appliedRevision ∨
    ∃ target ∈ targets, counts db row target = true ∧ after.appliedRevision = target.revision

def stampRow (db : Database) (target : RevisionTarget) (row : DeviceProjectionStream) : DeviceProjectionStream :=
  if row.deviceId == target.deviceId && row.stream == target.stream &&
      decide (row.appliedRevision < target.revision) &&
      !blockingSibling db target.deviceId target.cohort then
    { row with appliedRevision := target.revision }
  else row

theorem Stamped.nil (db : Database) (row : DeviceProjectionStream) : Stamped db [] row row :=
  ⟨rfl, le_refl _, (fun _ member => nomatch member), .inl rfl⟩

variable {after : DeviceProjectionStream} {generation head : DeploymentGeneration}
  {claimed : Database}

theorem Stamped.cons {targets : List RevisionTarget} (rest : Stamped db targets (stampRow db target row) after) :
    Stamped db (target :: targets) row after := by
  have first : Stamped db [target] row (stampRow db target row) := by
    unfold stampRow
    by_cases chosen : (row.deviceId == target.deviceId && row.stream == target.stream && decide (row.appliedRevision < target.revision) &&
      !blockingSibling db target.deviceId target.cohort) = true
    · rw [if_pos chosen]
      simp only [Bool.and_eq_true, decide_eq_true_eq] at chosen
      refine ⟨rfl, chosen.1.2.le, ?_, .inr ⟨target, List.mem_singleton_self _, ?_, rfl⟩⟩
      · intro other member _
        rw [List.mem_singleton.mp member]
      · unfold counts
        rw [Bool.and_eq_true]
        exact ⟨Bool.and_eq_true _ _ ▸ chosen.1.1, chosen.2⟩
    · rw [if_neg chosen]
      refine ⟨rfl, le_refl _, ?_, .inl rfl⟩
      intro other member counted
      unfold counts at counted
      by_contra low
      simp_all
  have sameCount : ∀ other, counts db (stampRow db target row) other = counts db row other := by
    intro other
    rw [first.same]
    rfl
  refine ⟨?_, first.grows.trans rest.grows, ?_, ?_⟩
  · rw [rest.same, first.same]
  · intro other member counted
    rcases List.mem_cons.mp member with rfl | later
    · exact (first.reached other (List.mem_singleton_self _) counted).trans rest.grows
    · exact rest.reached other later ((sameCount other).trans counted)
  · rcases rest.cause with kept | ⟨other, member, counted, revision⟩
    · rcases first.cause with unmoved | ⟨other, member, counted, revision⟩
      · exact .inl (kept.trans unmoved)
      · exact .inr ⟨other, List.mem_cons.mpr (.inl (List.mem_singleton.mp member)), counted, kept.trans revision⟩
    · exact .inr ⟨other, List.mem_cons_of_mem _ member, (sameCount other).symm.trans counted, revision⟩

theorem stampAppliedRevisions_spec (targets : List RevisionTarget) (db : Database) :
    ∃ update, (stampAppliedRevisions db targets).streams = db.streams.map update ∧
      ∀ row, Stamped db targets row (update row) := by
  induction targets generalizing db with
  | nil => exact ⟨_, (List.map_id' _).symm, Stamped.nil db⟩
  | cons target targets ih =>
    obtain ⟨update, streams, stamped⟩ := ih (stampTarget db target)
    refine ⟨fun row => update (stampRow db target row), ?_, ?_⟩
    · have stepped : (stampTarget db target).streams = db.streams.map (stampRow db target) := rfl
      have folded : stampAppliedRevisions db (target :: targets) = stampAppliedRevisions (stampTarget db target) targets := rfl
      rw [folded, streams, stepped, List.map_map]
      rfl
    · intro row
      have rest := stamped (stampRow db target row)
      -- Stamping leaves the generations alone, so the same targets count.
      exact Stamped.cons ⟨rest.same, rest.grows, rest.reached, rest.cause⟩

theorem mem_targets : target ∈ DeploymentGeneration.targets generation ↔ ∃ entry ∈ generation.streamRevisions,
      target = ⟨generation.deviceId, entry.1, entry.2, generation.settlementCohort⟩ := by
  unfold DeploymentGeneration.targets
  simp only [List.mem_map, eq_comm]

def Vouched (db : Database) (row : DeviceProjectionStream) (revision : Nat) : Prop :=
  ∃ generation ∈ db.generations, generation.deviceId = row.deviceId ∧
    (row.stream, revision) ∈ generation.streamRevisions ∧ Vouches db generation

structure Raises (db : Database) (row after : DeviceProjectionStream) : Prop where
  same : after = { row with appliedRevision := after.appliedRevision }
  grows : row.appliedRevision ≤ after.appliedRevision
  cause : after.appliedRevision = row.appliedRevision ∨ Vouched db row after.appliedRevision

theorem Raises.refl (db : Database) (row : DeviceProjectionStream) : Raises db row row := ⟨rfl, le_refl _, .inl rfl⟩

theorem Raises.trans {first second third : DeviceProjectionStream} (before : Raises db first second)
    (after : Raises db second third) : Raises db first third := by
  refine ⟨?_, before.grows.trans after.grows, ?_⟩
  · rw [after.same, before.same]
  · rcases after.cause with kept | vouched
    · rw [kept]
      exact before.cause
    · rw [before.same] at vouched
      exact .inr vouched

theorem Stamped.raises {targets : List RevisionTarget} (stamped : Stamped db targets row after)
    (vouched : ∀ target ∈ targets, counts db row target = true →
      Vouched db row target.revision) : Raises db row after := by
  refine ⟨stamped.same, stamped.grows, ?_⟩
  rcases stamped.cause with kept | ⟨target, member, counted, revision⟩
  · exact .inl kept
  · rw [revision]
    exact .inr (vouched target member counted)

theorem vouched_of_counts (member : generation ∈ db.generations)
    (own : target ∈ DeploymentGeneration.targets generation) (counted : counts db row target = true)
    (settled : generation.settlementCohort = none → generation.status = .settled)
    (joined : ∀ cohort, generation.settlementCohort = some cohort →
      ∃ sibling ∈ db.generations, sibling.settlementCohort = some cohort ∧
        sibling.status = .settled) : Vouched db row target.revision := by
  obtain ⟨entry, listed, rfl⟩ := mem_targets.mp own
  unfold counts at counted
  simp only [Bool.and_eq_true, beq_iff_eq, Bool.not_eq_true'] at counted
  obtain ⟨⟨device, stream⟩, unblocked⟩ := counted
  refine ⟨generation, member, device.symm, ?_, ?_⟩
  · rw [stream]
    exact listed
  · cases cohort : generation.settlementCohort with
    | none => exact .inl ⟨cohort, settled cohort⟩
    | some named =>
      rw [cohort] at unblocked
      exact .inr ⟨named, cohort, blockingSibling_eq_false.mp unblocked, joined named cohort⟩

theorem stampSettledCohort_spec (db : Database) (cohort : Nat) : ∃ update, (stampSettledCohort db cohort).streams = db.streams.map update ∧
      ∀ row, Raises db row (update row) ∧ ∀ member ∈ db.generations, member.settlementCohort = some cohort →
          Completed db member.deviceId cohort → member.deviceId = row.deviceId →
          ∀ revision, (row.stream, revision) ∈ member.streamRevisions → revision ≤ (update row).appliedRevision := by
  have members : ∀ member, member ∈ db.generations.filter (fun generation =>
      generation.settlementCohort == some cohort) ↔
      member ∈ db.generations ∧ member.settlementCohort = some cohort := by
    simp
  unfold stampSettledCohort
  dsimp only
  split
  · rename_i some
    obtain ⟨sibling, siblingMember, siblingSettled⟩ := List.any_eq_true.mp some
    obtain ⟨present, siblingCohort⟩ := (members sibling).mp siblingMember
    obtain ⟨update, streams, stamped⟩ := stampAppliedRevisions_spec
      ((db.generations.filter fun generation => generation.settlementCohort == Option.some cohort).flatMap DeploymentGeneration.targets) db
    refine ⟨update, streams, fun row => ⟨(stamped row).raises ?_, ?_⟩⟩
    · intro target member counted
      obtain ⟨generation, listed, own⟩ := List.mem_flatMap.mp member
      obtain ⟨inside, sameCohort⟩ := (members generation).mp listed
      refine vouched_of_counts inside own counted ?_ ?_
      · intro none
        rw [sameCohort] at none
        cases none
      · intro other named
        rw [sameCohort] at named
        cases named
        exact ⟨sibling, present, siblingCohort, beq_iff_eq.mp siblingSettled⟩
    · intro member inside sameCohort completed device revision listed
      refine (stamped row).reached ⟨member.deviceId, row.stream, revision, member.settlementCohort⟩
        (List.mem_flatMap.mpr ⟨member, (members member).mpr ⟨inside, sameCohort⟩, ?_⟩) ?_
      · exact mem_targets.mpr ⟨(row.stream, revision), listed, rfl⟩
      · unfold counts
        simp only [Bool.and_eq_true, beq_iff_eq, Bool.not_eq_true', sameCohort]
        exact ⟨⟨device.symm, trivial⟩, blockingSibling_eq_false.mpr completed.1⟩
  · rename_i none
    refine ⟨_, (List.map_id' _).symm, fun row => ⟨.refl db row, ?_⟩⟩
    intro member inside sameCohort completed
    obtain ⟨sibling, present, siblingCohort, settled⟩ := completed.2
    refine absurd (List.any_eq_true.mpr ⟨sibling, (members sibling).mpr ⟨present, siblingCohort⟩, ?_⟩) none
    exact beq_iff_eq.mpr settled

theorem Raises.of_generations {before after : Database} {moved : DeviceProjectionStream}
    (same : after.generations = before.generations) (raises : Raises before row moved) :
    Raises after row moved := by
  refine ⟨raises.same, raises.grows, raises.cause.imp_right ?_⟩
  rintro ⟨generation, member, device, listed, vouches⟩
  refine ⟨generation, same ▸ member, device, listed, ?_⟩
  unfold Vouches Completed at vouches ⊢
  rw [same]
  exact vouches

theorem stampCohorts_spec (cohorts : List Nat) (db : Database) :
    ∃ update, (cohorts.foldl stampSettledCohort db).streams = db.streams.map update ∧
      ∀ row, Raises db row (update row) ∧
        ∀ cohort ∈ cohorts, ∀ member ∈ db.generations, member.settlementCohort = some cohort →
          Completed db member.deviceId cohort → member.deviceId = row.deviceId →
          ∀ revision, (row.stream, revision) ∈ member.streamRevisions → revision ≤ (update row).appliedRevision := by
  induction cohorts generalizing db with
  | nil =>
    refine ⟨_, (List.map_id' _).symm, fun row => ⟨.refl db row, ?_⟩⟩
    intro cohort member
    cases member
  | cons cohort cohorts ih =>
    obtain ⟨first, streams, head⟩ := stampSettledCohort_spec db cohort
    have same := (onlyStreams_stampSettledCohort db cohort).generations
    obtain ⟨update, restStreams, tail⟩ := ih (stampSettledCohort db cohort)
    refine ⟨fun row => update (first row), ?_, fun row => ⟨?_, ?_⟩⟩
    · rw [List.foldl_cons, restStreams, streams, List.map_map]
      rfl
    · exact (head row).1.trans ((tail (first row)).1.of_generations same.symm)
    · intro other member generation inside sameCohort completed device revision listed
      rcases List.mem_cons.mp member with rfl | later
      · exact ((head row).2 generation inside sameCohort completed device revision listed).trans (tail (first row)).1.grows
      · refine (tail (first row)).2 other later generation (same.symm ▸ inside) sameCohort ?_ ?_ revision ?_
        · unfold Completed
          rw [same]
          exact completed
        · rw [(head row).1.same]
          exact device
        · rw [(head row).1.same]
          exact listed

/-- What a settled job leaves: its generations are settled, and every stream rises by what one of
them vouches for. -/
structure Settlement (db after : Database) (jobId : Nat)
    (update : DeploymentGeneration → DeploymentGeneration)
    (stamp : DeviceProjectionStream → DeviceProjectionStream) : Prop where
  jobs : after.jobs = db.jobs
  generations : after.generations = db.generations.map update
  inPlace : InPlace update
  settled : ∀ row, (update row).status = .settled ∧ row.jobId = some jobId ∨
    update row = row ∧ (row ∈ db.generations → row.jobId ≠ some jobId)
  streams : after.streams = db.streams.map stamp
  raises : ∀ row, Raises after row (stamp row)
  reached : ∀ carried ∈ db.generations, carried.jobId = some jobId →
    ∀ cohort, carried.settlementCohort = some cohort →
      ∀ member ∈ after.generations, member.settlementCohort = some cohort →
        Completed after member.deviceId cohort → ∀ row, member.deviceId = row.deviceId →
          ∀ revision, (row.stream, revision) ∈ member.streamRevisions →
            revision ≤ (stamp row).appliedRevision

theorem InPlace.targets {update : DeploymentGeneration → DeploymentGeneration} (inPlace : InPlace update) (row : DeploymentGeneration) :
    DeploymentGeneration.targets (update row) = DeploymentGeneration.targets row := by
  unfold DeploymentGeneration.targets
  rw [inPlace.deviceId, inPlace.streamRevisions, inPlace.settlementCohort]

theorem terminalizes_carried {row : DeploymentGeneration} :
    (∃ generation ∈ db.jobGenerations jobId, terminalizes generation none row = true) → row.jobId = some jobId := by
  rintro ⟨generation, member, selected⟩
  simp only [terminalizes, Bool.and_true, Bool.and_eq_true, beq_iff_eq] at selected
  exact selected.2.trans (mem_jobGenerations.mp member).2

theorem not_carried_of_unselected {row : DeploymentGeneration}
    (unselected : ∀ generation ∈ db.jobGenerations jobId, terminalizes generation none row = false)
    (member : row ∈ db.generations) : row.jobId ≠ some jobId := by
  intro held
  have missed := unselected row (mem_jobGenerations.mpr ⟨member, held⟩)
  simp [terminalizes] at missed

theorem settleJobGenerations_settlement {after : Database} {error : Option Json}
    (settles : settleJobGenerations db jobId .settled error = .ok after) :
    ∃ update stamp, Settlement db after jobId update stamp := by
  unfold settleJobGenerations at settles
  dsimp only at settles
  split at settles
  · rename_i empty
    cases settles
    have nothing : ∀ row ∈ db.generations, row.jobId ≠ some jobId := by
      intro row member held
      have carried := mem_jobGenerations.mpr ⟨member, held⟩
      rw [List.isEmpty_iff.mp empty] at carried
      cases carried
    refine ⟨_, _, rfl, (List.map_id' _).symm, .refl, fun row => .inr ⟨rfl, nothing row⟩, (List.map_id' _).symm, Raises.refl db, ?_⟩
    intro carried member held
    exact absurd held (nothing carried member)
  · split at settles
    · cases settles
    · rename_i middle landedIds written
      obtain ⟨_, update, inPlace, rfl, wrote⟩ := terminalizeGenerations_spec written
      have lands : ∀ row ∈ db.generations, row.jobId = some jobId → (update row).status = .settled := by
        intro row member held
        rcases wrote row with ⟨status, _⟩ | ⟨_, unselected⟩
        · exact status
        · exact absurd held (not_carried_of_unselected unselected member)
      cases settles
      -- The two rounds of stamping, over the generations the terminal write leaves.
      let middle : Database := { db with generations := db.generations.map update }
      let landed := (db.jobGenerations jobId).filter fun generation =>
        landedIds.contains generation.id
      let members := middle.generations.filter (inCohorts (landed.filterMap (·.settlementCohort)))
      let targets := ((landed.filter fun generation => generation.settlementCohort.isNone) ++ members).flatMap DeploymentGeneration.targets
      let names := ((db.jobGenerations jobId).filterMap (·.settlementCohort)).dedup
      let stampedOnce := stampAppliedRevisions middle targets
      obtain ⟨first, firstStreams, stamped⟩ := stampAppliedRevisions_spec targets middle
      obtain ⟨second, secondStreams, cohorts⟩ := stampCohorts_spec names stampedOnce
      have once : stampedOnce.generations = middle.generations := (onlyStreams_stampAppliedRevisions middle targets).generations
      have finished :
    (names.foldl stampSettledCohort stampedOnce).generations = middle.generations ∧
          (names.foldl stampSettledCohort stampedOnce).jobs = middle.jobs := by
        have only := (onlyStreams_stampAppliedRevisions middle targets).trans
          (onlyStreams_foldl onlyStreams_stampSettledCohort names stampedOnce)
        exact ⟨only.generations, only.jobs⟩
      have carriedRow : ∀ generation ∈ landed, generation ∈ db.generations ∧ generation.jobId = some jobId := fun generation member =>
        mem_jobGenerations.mp (List.mem_filter.mp member).1
      have after : ∀ generation ∈ landed, update generation ∈ middle.generations ∧
          (update generation).status = .settled := fun generation member =>
        ⟨List.mem_map.mpr ⟨generation, (carriedRow generation member).1, rfl⟩,
          lands generation (carriedRow generation member).1 (carriedRow generation member).2⟩
      have firstRaises : ∀ row, Raises middle row (first row) := by
        intro row
        refine (stamped row).raises fun target member counted => ?_
        obtain ⟨generation, listed, own⟩ := List.mem_flatMap.mp member
        rcases List.mem_append.mp listed with alone | joined
        · obtain ⟨inLanded, uncohorted⟩ := List.mem_filter.mp alone
          have none := (inPlace.settlementCohort generation).trans (Option.isNone_iff_eq_none.mp uncohorted)
          refine vouched_of_counts (after generation inLanded).1 ((inPlace.targets generation).symm ▸ own) counted
            (fun _ => (after generation inLanded).2) ?_
          intro cohort named
          rw [none] at named
          cases named
        · obtain ⟨inside, named⟩ := List.mem_filter.mp joined
          unfold inCohorts at named
          refine vouched_of_counts inside own counted ?_ ?_
          · intro none
            rw [none] at named
            cases named
          · intro cohort named'
            rw [named'] at named
            obtain ⟨sibling, siblingLanded, siblingCohort⟩ := List.mem_filterMap.mp (List.contains_iff_mem.mp named)
            exact ⟨update sibling, (after sibling siblingLanded).1, (inPlace.settlementCohort sibling).trans siblingCohort,
              (after sibling siblingLanded).2⟩
      refine ⟨update, fun row => second (first row), finished.2, finished.1, inPlace, ?_, ?_, ?_, ?_⟩
      · intro row
        rcases wrote row with ⟨status, selected⟩ | ⟨unchanged, unselected⟩
        · exact .inl ⟨status, terminalizes_carried selected⟩
        · exact .inr ⟨unchanged, not_carried_of_unselected unselected⟩
      · refine secondStreams.trans ?_
        rw [firstStreams, List.map_map]
        rfl
      · intro row
        exact ((firstRaises row).trans ((cohorts (first row)).1.of_generations once.symm)).of_generations finished.1
      · intro carried member held cohort named generation inside sameCohort completed row device revision listed
        have cohortListed : cohort ∈ names := List.mem_dedup.mpr (List.mem_filterMap.mpr
            ⟨carried, mem_jobGenerations.mpr ⟨member, held⟩, named⟩)
        have same := once.trans finished.1.symm
        refine (cohorts (first row)).2 cohort cohortListed generation (same ▸ inside) sameCohort ?_ ?_ revision ?_
        · unfold Completed at completed ⊢
          rw [same]
          exact completed
        · rw [(firstRaises row).same]
          exact device
        · rw [(firstRaises row).same]
          exact listed

theorem stampAbandoned_nextIds (claim : claimBlockedHead db head .abandoned = .ok claimed) :
    (stampAbandoned claimed head).nextJobId = db.nextJobId ∧
      (stampAbandoned claimed head).nextGenerationId = db.nextGenerationId := by
  obtain ⟨landed, written⟩ := claimBlockedHead_terminal rfl claim
  obtain ⟨_, update, _, rfl, _⟩ := terminalizeGenerations_spec written
  exact (onlyStreams_stampAbandoned _ head).nextIds

structure Abandonment (db after : Database) (head : DeploymentGeneration)
    (update : DeploymentGeneration → DeploymentGeneration)
    (stamp : DeviceProjectionStream → DeviceProjectionStream) : Prop where
  jobs : after.jobs = db.jobs
  generations : after.generations = db.generations.map update
  inPlace : InPlace update
  abandoned : ∀ row, (update row).status = .abandoned ∧ row.id = head.id ∧
    row.status.blocked = true ∨ update row = row
  streams : after.streams = db.streams.map stamp
  raises : ∀ row, Raises after row (stamp row)
  reached : ∀ cohort, head.settlementCohort = some cohort →
    ∀ member ∈ after.generations, member.settlementCohort = some cohort →
      Completed after member.deviceId cohort → ∀ row, member.deviceId = row.deviceId →
        ∀ revision, (row.stream, revision) ∈ member.streamRevisions →
          revision ≤ (stamp row).appliedRevision

theorem claimBlockedHead_abandonment (claim : claimBlockedHead db head .abandoned = .ok claimed) :
    ∃ update stamp, Abandonment db (stampAbandoned claimed head) head update stamp := by
  obtain ⟨landed, written⟩ := claimBlockedHead_terminal rfl claim
  obtain ⟨_, update, inPlace, rfl, wrote⟩ := terminalizeGenerations_spec written
  have abandoned : ∀ row, (update row).status = .abandoned ∧ row.id = head.id ∧ row.status.blocked = true ∨ update row = row := by
    intro row
    rcases wrote row with ⟨status, generation, member, selected⟩ | ⟨unchanged, _⟩
    · rw [List.mem_singleton.mp member] at selected
      simp only [terminalizes, Bool.and_eq_true, beq_iff_eq, List.contains_iff_mem] at selected
      refine .inl ⟨status, selected.1.1, ?_⟩
      rcases List.mem_cons.mp selected.2 with failed | rest
      · rw [failed]
        rfl
      · rw [List.mem_singleton.mp rest]
        rfl
    · exact .inr unchanged
  let middle : Database := { db with generations := db.generations.map update }
  unfold stampAbandoned
  cases cohort : head.settlementCohort with
  | none =>
    refine ⟨update, _, rfl, rfl, inPlace, abandoned, (List.map_id' _).symm, Raises.refl middle, ?_⟩
    intro named same
    rw [cohort] at same
    cases same
  | some named =>
    obtain ⟨stamp, streams, stamped⟩ := stampSettledCohort_spec middle named
    have only := onlyStreams_stampSettledCohort middle named
    refine ⟨update, stamp, only.jobs, only.generations, inPlace, abandoned, streams,
      fun row => (stamped row).1.of_generations only.generations, ?_⟩
    intro other same member inside sameCohort completed row device revision listed
    rw [cohort] at same
    cases same
    refine (stamped row).2 member (only.generations ▸ inside) sameCohort ?_ device revision listed
    unfold Completed at completed ⊢
    rw [only.generations] at completed
    exact completed

end NsoAdapter.Core
