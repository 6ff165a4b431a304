import NsoAdapter.Core.RevisionOrder

/-! The generations of one request settle together. Whichever member of a cohort ends last,
and however often the others failed, were retried or abandoned in between, the streams the
members list are stamped once all of them may be crossed and one settled. -/

namespace NsoAdapter.Core
open Lib Store Projection

/-- The streams listed are applied at the listed revisions or later. -/
def Reached (db : Database) (deviceId : Nat) (revisions : List (ProjectionStream × Nat)) : Prop :=
  ∀ entry ∈ revisions, ∃ row ∈ db.streams, streamKey deviceId entry.1 row = true ∧
    entry.2 ≤ row.appliedRevision

def CohortsApplied (chain : DeploymentChain) : Prop :=
  ∀ member ∈ chain.db.generations, ∀ cohort, member.settlementCohort = some cohort →
    Completed chain.db member.deviceId cohort →
      Reached chain.db member.deviceId member.streamRevisions

variable {before after : DeploymentChain} {deviceId cohort : Nat}
  {update : DeploymentGeneration → DeploymentGeneration} {kind : MoveKind}

theorem Reached.grows {revisions : List (ProjectionStream × Nat)} (grows : Grows before after)
    (reached : Reached before.db deviceId revisions) : Reached after.db deviceId revisions := by
  intro entry member
  obtain ⟨row, present, key, below⟩ := reached entry member
  obtain ⟨later, inside, newer⟩ := grows row present
  refine ⟨later, inside, ?_, below.trans newer.applied⟩
  unfold streamKey at key ⊢
  rw [newer.deviceId, newer.stream]
  exact key

structure Enlisted (update : DeploymentGeneration → DeploymentGeneration) : Prop where
  deviceId : ∀ row, (update row).deviceId = row.deviceId
  settlementCohort : ∀ row, (update row).settlementCohort = row.settlementCohort
  streamRevisions : ∀ row, (update row).streamRevisions = row.streamRevisions

theorem InPlace.enlisted (inPlace : InPlace update) : Enlisted update :=
  ⟨inPlace.deviceId, inPlace.settlementCohort, inPlace.streamRevisions⟩

theorem Enlisted.bind (generationId jobId : Nat) : Enlisted fun row : DeploymentGeneration =>
    if row.id == generationId then { row with jobId := some jobId } else row := by
  constructor
  case deviceId => exact fun row => by split <;> rfl
  case settlementCohort => exact fun row => by split <;> rfl
  case streamRevisions => exact fun row => by split <;> rfl

theorem Completed.of_mapped {before after : Database}
    (generations : after.generations = before.generations.map update) (enlisted : Enlisted update)
    (sides : ∀ row ∈ before.generations, row.settlementCohort = some cohort → SameSide row.status (update row).status) :
    Completed after deviceId cohort ↔ Completed before deviceId cohort := by
  unfold Completed
  rw [generations]
  constructor
  · rintro ⟨crossable, member, located, named, settled⟩
    refine ⟨fun row present device joined => ?_, ?_⟩
    · rw [← (sides row present joined).1]
      exact crossable (update row) (List.mem_map_of_mem present)
        ((enlisted.deviceId row).trans device) ((enlisted.settlementCohort row).trans joined)
    · obtain ⟨old, present, rfl⟩ := List.mem_map.mp located
      rw [enlisted.settlementCohort] at named
      exact ⟨old, present, named, (sides old present named).2.mp settled⟩
  · rintro ⟨crossable, member, present, named, settled⟩
    refine ⟨fun row located device joined => ?_, update member, List.mem_map_of_mem present,
      (enlisted.settlementCohort member).trans named, (sides member present named).2.mpr settled⟩
    obtain ⟨old, inside, rfl⟩ := List.mem_map.mp located
    rw [enlisted.deviceId] at device
    rw [enlisted.settlementCohort] at joined
    rw [(sides old inside joined).1]
    exact crossable old inside device joined

theorem CohortsApplied.mapped (applied : CohortsApplied before) (grows : Grows before after)
    (generations : after.db.generations = before.db.generations.map update)
    (enlisted : Enlisted update)
    (sides : ∀ row ∈ before.db.generations, SameSide row.status (update row).status) :
    CohortsApplied after := by
  intro member located cohort named completed
  rw [generations] at located
  obtain ⟨old, present, rfl⟩ := List.mem_map.mp located
  rw [enlisted.settlementCohort] at named
  rw [enlisted.deviceId] at completed ⊢
  rw [enlisted.streamRevisions]
  have before := (Completed.of_mapped generations enlisted fun row inside _ => sides row inside).mp completed
  exact (applied old present cohort named before).grows grows

variable {chain : DeploymentChain} {db : Database} {reason : DeviceProjectionStream → Nat → Prop}

theorem Completed.of_created {device : Nat} {content : GenerationContent}
    (digestDocument : DocumentDigest) (own : OwnCohort chain device content.settlementCohort) :
    Completed (insertGeneration digestDocument chain.db device content).1 deviceId cohort ↔
      Completed chain.db deviceId cohort ∧ content.settlementCohort ≠ some cohort := by
  have located : ∀ row, row ∈ (insertGeneration digestDocument chain.db device content).1.generations ↔
      row ∈ chain.db.generations ∨ row = (insertGeneration digestDocument chain.db device content).2 := by
    intro row
    exact List.mem_append.trans (or_congr Iff.rfl List.mem_singleton)
  constructor
  · rintro ⟨crossable, member, inside, named, settled⟩
    have old : member ∈ chain.db.generations := by
      rcases (located member).mp inside with old | new
      · exact old
      · rw [new] at settled
        cases settled
    refine ⟨⟨fun row present => crossable row ((located row).mpr (.inl present)), member, old, named, settled⟩, fun joined => ?_⟩
    have pending := ((own cohort joined).2 member old named).2
    rw [settled] at pending
    cases pending
  · rintro ⟨⟨crossable, member, present, named, settled⟩, outside⟩
    refine ⟨fun row inside device joined => ?_, member, (located member).mpr (.inl present), named, settled⟩
    rcases (located row).mp inside with old | new
    · exact crossable row old device joined
    · rw [new] at joined
      exact absurd joined outside

variable {stamp : DeviceProjectionStream → DeviceProjectionStream} {row : DeviceProjectionStream}
  {kinds : List MoveKind}

theorem CohortsApplied.stamped {after : Database} (applied : CohortsApplied before)
    (ordered : Ordered before) (grows : Grows before { before with db := after })
    (generations : after.generations = before.db.generations.map update) (inPlace : InPlace update)
    (streams : after.streams = before.db.streams.map stamp)
    (raises : ∀ row, Raises after row (stamp row)) (each : ∀ cohort, (∀ row ∈ before.db.generations, row.settlementCohort = some cohort →
        SameSide row.status (update row).status) ∨
      ∀ member ∈ after.generations, member.settlementCohort = some cohort →
        Completed after member.deviceId cohort → ∀ row, member.deviceId = row.deviceId →
          ∀ revision, (row.stream, revision) ∈ member.streamRevisions → revision ≤ (stamp row).appliedRevision) :
    CohortsApplied { before with db := after } := by
  intro member located cohort named completed
  rcases each cohort with unmoved | reached
  · rw [generations] at located
    obtain ⟨old, present, rfl⟩ := List.mem_map.mp located
    rw [inPlace.settlementCohort] at named
    rw [inPlace.deviceId] at completed ⊢
    rw [inPlace.streamRevisions]
    have earlier := (Completed.of_mapped generations inPlace.enlisted unmoved).mp completed
    exact (applied old present cohort named earlier).grows grows
  · intro entry inside
    obtain ⟨row, present, key, _⟩ := ordered.listed_mapped generations inPlace member located entry inside
    have matched := key
    unfold streamKey at matched
    rw [Bool.and_eq_true, beq_iff_eq, beq_iff_eq] at matched
    refine ⟨stamp row, ?_, ?_, ?_⟩
    · rw [streams]
      exact List.mem_map_of_mem present
    · unfold streamKey at key ⊢
      rw [(raises row).deviceId, (raises row).stream]
      exact key
    · refine reached member located named completed row matched.1.symm entry.2 ?_
      rw [matched.2]
      exact inside

theorem Settlement.cohorts {after : Database} {jobId : Nat} (settlement : Settlement db after jobId update stamp) (cohort : Nat) :
    (∀ row ∈ db.generations, row.settlementCohort = some cohort → SameSide row.status (update row).status) ∨
    ∃ row ∈ db.generations, row.jobId = some jobId ∧ row.settlementCohort = some cohort := by
  by_cases carried : ∃ row ∈ db.generations, row.jobId = some jobId ∧ row.settlementCohort = some cohort
  · exact .inr carried
  · refine .inl fun row present joined => ?_
    rcases settlement.settled row with ⟨_, held⟩ | ⟨same, _⟩
    · exact absurd ⟨row, present, held, joined⟩ carried
    · rw [same]
      exact .refl row.status

theorem Abandonment.cohorts {after : Database} {head : DeploymentGeneration} (valid : Identified db)
    (member : head ∈ db.generations) (abandonment : Abandonment db after head update stamp)
    (cohort : Nat) :
    (∀ row ∈ db.generations, row.settlementCohort = some cohort →
      SameSide row.status (update row).status) ∨ head.settlementCohort = some cohort := by
  by_cases own : head.settlementCohort = some cohort
  · exact .inr own
  · refine .inl fun row present joined => ?_
    rcases abandonment.abandoned row with ⟨_, same, _⟩ | unchanged
    · rw [valid.generation_unique row present head member same] at joined
      exact absurd joined own
    · rw [unchanged]
      exact .refl row.status

theorem CohortsApplied.move (lawful : Lawful before) (ordered : Ordered before)
    (applied : CohortsApplied before) (move : Move kind before after) : CohortsApplied after := by
  have grows := (move.ordered lawful ordered).2
  cases move with
  | job | cohort | stream | firstWrite => exact fun member inside cohort named completed =>
    (applied member inside cohort named completed).grows grows
  | @bind _ generation job member present fits =>
    refine applied.mapped grows rfl (.bind generation.id job.id) fun row _ => ?_
    split <;> exact .refl row.status
  | rewrite rewrites =>
    obtain ⟨update, inPlace, generations, sides⟩ := rewrites.generations
    exact applied.mapped grows generations inPlace.enlisted sides
  | create digestDocument listed reissue own =>
    intro member located cohort named completed
    obtain ⟨earlier, outside⟩ := (Completed.of_created digestDocument own).mp completed
    rcases List.mem_append.mp located with old | new
    · exact (applied member old cohort named earlier).grows grows
    · rw [List.mem_singleton.mp new] at named
      exact absurd named outside
  | settle settled =>
    obtain ⟨update, stamp, settlement⟩ := settleJobGenerations_settlement settled
    refine applied.stamped ordered grows settlement.generations settlement.inPlace settlement.streams settlement.raises fun cohort => ?_
    rcases settlement.cohorts cohort with unmoved | ⟨row, present, held, joined⟩
    · exact .inl unmoved
    · exact .inr (settlement.reached row present held cohort joined)
  | abandon member blocked claim =>
    obtain ⟨update, stamp, abandonment⟩ := claimBlockedHead_abandonment claim
    refine applied.stamped ordered grows abandonment.generations abandonment.inPlace abandonment.streams abandonment.raises fun cohort => ?_
    rcases abandonment.cohorts lawful.identified member cohort with unmoved | own
    · exact .inl unmoved
    · exact .inr (abandonment.reached cohort own)

inductive GenerationsMove (before after : DeploymentChain) : Prop where
  | mapped {update : DeploymentGeneration → DeploymentGeneration}
      (generations : after.db.generations = before.db.generations.map update)
      (enlisted : Enlisted update)
      (settled : ∀ row ∈ before.db.generations, row.status = .settled →
        (update row).status = .settled)
      (crossable : ∀ row ∈ before.db.generations, row.status.crossable = true →
        (update row).status.crossable = true)
  | created {deviceId : Nat} {content : GenerationContent} (digestDocument : DocumentDigest)
      (generations : after.db.generations =
        (insertGeneration digestDocument before.db deviceId content).1.generations)
      (own : OwnCohort before deviceId content.settlementCohort)

theorem GenerationsMove.of_same (generations : after.db.generations = before.db.generations) : GenerationsMove before after :=
  .mapped (generations.trans (List.map_id' _).symm) ⟨fun _ => rfl, fun _ => rfl, fun _ => rfl⟩
    (fun _ _ settled => settled) fun _ _ crossable => crossable

theorem Move.generations (move : Move kind before after) : GenerationsMove before after := by
  cases move with
  | job | cohort | stream | firstWrite => exact .of_same rfl
  | @bind _ generation job member present fits =>
    refine .mapped rfl (.bind generation.id job.id) (fun row _ settled => ?_) fun row _ crossable => ?_
    · split <;> exact settled
    · split <;> exact crossable
  | rewrite rewrites =>
    obtain ⟨update, inPlace, generations, sides⟩ := rewrites.generations
    refine .mapped generations inPlace.enlisted (fun row member settled => ?_) fun row member crossable => ?_
    · exact (sides row member).2.mpr settled
    · rw [(sides row member).1]
      exact crossable
  | create digestDocument listed reissue own => exact .created digestDocument rfl own
  | settle settled =>
    obtain ⟨update, stamp, settlement⟩ := settleJobGenerations_settlement settled
    refine .mapped settlement.generations settlement.inPlace.enlisted (fun row member final => ?_) fun row member crossable => ?_
    · rcases settlement.settled row with ⟨status, _⟩ | ⟨same, _⟩
      · exact status
      · rw [same]
        exact final
    · rcases settlement.settled row with ⟨status, _⟩ | ⟨same, _⟩
      · rw [status]
        rfl
      · rw [same]
        exact crossable
  | abandon member blocked claim =>
    obtain ⟨update, stamp, abandonment⟩ := claimBlockedHead_abandonment claim
    refine .mapped abandonment.generations abandonment.inPlace.enlisted (fun row _ final => ?_) fun row _ crossable => ?_
    · rcases abandonment.abandoned row with ⟨_, _, open_⟩ | same
      · rw [final] at open_
        cases open_
      · rw [same]
        exact final
    · rcases abandonment.abandoned row with ⟨status, _⟩ | same
      · rw [status]
        rfl
      · rw [same]
        exact crossable

def OneDevice (chain : DeploymentChain) : Prop :=
  ∀ left ∈ chain.db.generations, ∀ right ∈ chain.db.generations, ∀ cohort,
    left.settlementCohort = some cohort → right.settlementCohort = some cohort →
      left.deviceId = right.deviceId

theorem OneDevice.move (one : OneDevice before) (move : GenerationsMove before after) : OneDevice after := by
  intro left leftMember right rightMember cohort leftNamed rightNamed
  cases move with
  | mapped generations enlisted settled crossable =>
    rw [generations] at leftMember rightMember
    obtain ⟨first, firstMember, rfl⟩ := List.mem_map.mp leftMember
    obtain ⟨second, secondMember, rfl⟩ := List.mem_map.mp rightMember
    rw [enlisted.settlementCohort] at leftNamed rightNamed
    rw [enlisted.deviceId, enlisted.deviceId]
    exact one first firstMember second secondMember cohort leftNamed rightNamed
  | created digestDocument generations own =>
    rw [generations] at leftMember rightMember
    rcases List.mem_append.mp leftMember with leftOld | leftNew
    · rcases List.mem_append.mp rightMember with rightOld | rightNew
      · exact one left leftOld right rightOld cohort leftNamed rightNamed
      · rw [List.mem_singleton.mp rightNew] at rightNamed ⊢
        exact ((own cohort rightNamed).2 left leftOld leftNamed).1
    · rcases List.mem_append.mp rightMember with rightOld | rightNew
      · rw [List.mem_singleton.mp leftNew] at leftNamed ⊢
        exact ((own cohort leftNamed).2 right rightOld rightNamed).1.symm
      · rw [List.mem_singleton.mp leftNew, List.mem_singleton.mp rightNew]

theorem Completed.move (completed : Completed before.db deviceId cohort) (move : GenerationsMove before after) :
    Completed after.db deviceId cohort := by
  cases move with
  | mapped generations enlisted settled crossable =>
    obtain ⟨crossed, member, present, named, final⟩ := completed
    refine ⟨fun row located device joined => ?_, ?_⟩
    · rw [generations] at located
      obtain ⟨old, inside, rfl⟩ := List.mem_map.mp located
      rw [enlisted.deviceId] at device
      rw [enlisted.settlementCohort] at joined
      exact crossable old inside (crossed old inside device joined)
    · refine ⟨_, ?_, (enlisted.settlementCohort member).trans named, settled member present final⟩
      rw [generations]
      exact List.mem_map_of_mem present
  | @created device content digestDocument generations own =>
    have outside : content.settlementCohort ≠ some cohort := by
      intro joined
      obtain ⟨_, member, present, named, final⟩ := completed
      have pending := ((own cohort joined).2 member present named).2
      rw [final] at pending
      cases pending
    have created := (Completed.of_created digestDocument own).mpr ⟨completed, outside⟩
    unfold Completed at created ⊢
    rw [generations]
    exact created

theorem Vouched.move {revision : Nat} (vouched : Vouched before.db row revision) (move : GenerationsMove before after) :
    Vouched after.db row revision := by
  obtain ⟨generation, member, device, lists, vouches⟩ := vouched
  have later : ∃ next ∈ after.db.generations, next.deviceId = generation.deviceId ∧ next.streamRevisions = generation.streamRevisions ∧
      next.settlementCohort = generation.settlementCohort ∧
      (generation.status = .settled → next.status = .settled) := by
    cases move with
    | @mapped update generations enlisted settled crossable =>
      refine ⟨update generation, ?_, enlisted.deviceId _, enlisted.streamRevisions _,
        enlisted.settlementCohort _, settled generation member⟩
      rw [generations]
      exact List.mem_map_of_mem member
    | created digestDocument generations own =>
      refine ⟨generation, ?_, rfl, rfl, rfl, fun settled => settled⟩
      rw [generations]
      exact List.mem_append_left _ member
  obtain ⟨next, present, sameDevice, sameList, sameCohort, final⟩ := later
  refine ⟨next, present, sameDevice.trans device, sameList ▸ lists, ?_⟩
  rcases vouches with ⟨alone, settled⟩ | ⟨cohort, named, completed⟩
  · exact .inl ⟨sameCohort.trans alone, final settled⟩
  · refine .inr ⟨cohort, sameCohort.trans named, ?_⟩
    rw [sameDevice]
    exact completed.move move

def Idle (db : Database) (deviceId : Nat) : Prop :=
  ∀ generation ∈ db.generations, generation.deviceId = deviceId →
    generation.status.crossable = true

/-- A row and its later version, which has another applied revision only for a reason. -/
def Stamps (reason : DeviceProjectionStream → Nat → Prop) (before after : DeploymentChain) : Prop :=
  ∀ row ∈ before.db.streams, ∃ later ∈ after.db.streams, later.deviceId = row.deviceId ∧
    later.stream = row.stream ∧
    (later.appliedRevision = row.appliedRevision ∨ reason row later.appliedRevision)

theorem Stamps.of_streams (streams : after.db.streams = before.db.streams) : Stamps reason before after :=
  fun row member => ⟨row, streams ▸ member, rfl, rfl, .inl rfl⟩

theorem Stamps.of_map {update : DeviceProjectionStream → DeviceProjectionStream} (streams : after.db.streams = before.db.streams.map update)
    (each : ∀ row ∈ before.db.streams, (update row).deviceId = row.deviceId ∧
      (update row).stream = row.stream ∧ ((update row).appliedRevision = row.appliedRevision ∨
        reason row (update row).appliedRevision)) : Stamps reason before after := by
  intro row member
  refine ⟨update row, ?_, each row member⟩
  rw [streams]
  exact List.mem_map_of_mem member

theorem Stamps.trans (reason : DeploymentChain → DeviceProjectionStream → Nat → Prop) {first second third : DeploymentChain}
    {last : DeviceProjectionStream → Nat → Prop}
    (before : Stamps (reason second) first second) (after : Stamps last second third)
    (lasts : ∀ row revision, reason second row revision → reason third row revision)
    (arises : ∀ row middle revision, middle.deviceId = row.deviceId → middle.stream = row.stream →
      last middle revision → reason third row revision) :
    Stamps (reason third) first third := by
  intro row member
  obtain ⟨middle, present, device, stream, cause⟩ := before row member
  obtain ⟨later, inside, laterDevice, laterStream, laterCause⟩ := after middle present
  refine ⟨later, inside, laterDevice.trans device, laterStream.trans stream, ?_⟩
  rcases laterCause with same | stamped
  · rw [same]
    rcases cause with unmoved | stamped
    · exact .inl unmoved
    · exact .inr (lasts row _ stamped)
  · exact .inr (arises row middle _ device stream stamped)

theorem StreamMove.applied {after : DeviceProjectionStream} (move : StreamMove kind row after) (other : kind ≠ .equivalent) :
    after.appliedRevision = row.appliedRevision := by
  cases move with
  | equivalent fragment selected => exact absurd rfl other
  | _ => rfl

theorem Move.stamps (move : Move kind before after) (other : kind ≠ .equivalent) : Stamps (Vouched after.db) before after := by
  cases move with
  | job | cohort | bind | create => exact .of_streams rfl
  | rewrite rewrites => exact .of_streams rewrites.streams
  | stream moves idle =>
    refine .of_map rfl fun row member => ?_
    split
    · rename_i chosen
      have move := moves row member chosen
      exact ⟨move.deviceId, move.stream, .inl (move.applied other)⟩
    · exact ⟨rfl, rfl, .inl rfl⟩
  | firstWrite pushSeq fresh =>
    exact fun row member => ⟨row, List.mem_append_left _ member, rfl, rfl, .inl rfl⟩
  | settle settled =>
    obtain ⟨update, stamp, settlement⟩ := settleJobGenerations_settlement settled
    exact .of_map settlement.streams fun row _ => ⟨(settlement.raises row).deviceId,
      (settlement.raises row).stream, (settlement.raises row).cause⟩
  | abandon member blocked claim =>
    obtain ⟨update, stamp, abandonment⟩ := claimBlockedHead_abandonment claim
    exact .of_map abandonment.streams fun row _ => ⟨(abandonment.raises row).deviceId,
      (abandonment.raises row).stream, (abandonment.raises row).cause⟩

theorem Moves.stamps (moves : Moves kinds before after) (other : .equivalent ∉ kinds) : Stamps (Vouched after.db) before after := by
  induction moves with
  | refl => exact .of_streams rfl
  | @tail middle last _ final ih =>
    obtain ⟨kind, permitted, move⟩ := final
    have stamped := move.stamps fun equivalent => other (equivalent ▸ permitted)
    refine Stamps.trans (fun chain => Vouched chain.db) ih stamped (fun row revision vouched => vouched.move move.generations) ?_
    intro row middleRow revision device stream vouched
    unfold Vouched at vouched ⊢
    rw [← device, ← stream]
    exact vouched

theorem Move.idle (move : Move kind before after) (unsettled : kind ≠ .settle)
    (unabandoned : kind ≠ .abandon) (idle : Idle after.db deviceId) : Idle before.db deviceId := by
  intro generation member device
  cases move with
  | job | cohort | stream | firstWrite => exact idle generation member device
  | @bind _ bound job inside present fits =>
    have located : (if generation.id == bound.id then { generation with jobId := some job.id }
        else generation) ∈ (bindToJob before.db bound.id job.id).generations :=
      mem_updateWhere_of_mem member
    have crossable := idle _ located (by split <;> exact device)
    split at crossable <;> exact crossable
  | rewrite rewrites =>
    obtain ⟨update, inPlace, generations, sides⟩ := rewrites.generations
    rw [← (sides generation member).1]
    refine idle (update generation) ?_ ((inPlace.deviceId generation).trans device)
    rw [generations]
    exact List.mem_map_of_mem member
  | create digestDocument listed reissue own =>
    exact idle generation (List.mem_append_left _ member) device
  | settle settled => exact absurd rfl unsettled
  | abandon inside blocked claim => exact absurd rfl unabandoned

theorem Move.idleStamps (move : Move kind before after) (unsettled : kind ≠ .settle) (unabandoned : kind ≠ .abandon) :
    Stamps (fun row _ => Idle before.db row.deviceId) before after := by
  cases move with
  | job | cohort | bind | create => exact .of_streams rfl
  | rewrite rewrites => exact .of_streams rewrites.streams
  | stream moves quiet =>
    refine .of_map rfl fun row member => ?_
    split
    · rename_i chosen
      have move := moves row member chosen
      refine ⟨move.deviceId, move.stream, ?_⟩
      by_cases equivalent : kind = .equivalent
      · exact .inr (quiet equivalent row member chosen)
      · exact .inl (move.applied equivalent)
    · exact ⟨rfl, rfl, .inl rfl⟩
  | firstWrite pushSeq fresh =>
    exact fun row member => ⟨row, List.mem_append_left _ member, rfl, rfl, .inl rfl⟩
  | settle settled => exact absurd rfl unsettled
  | abandon inside blocked claim => exact absurd rfl unabandoned

theorem Moves.idleStamps (moves : Moves kinds before after) (unsettled : .settle ∉ kinds) (unabandoned : .abandon ∉ kinds) :
    Stamps (fun row _ => Idle before.db row.deviceId) before after := by
  have both : (∀ deviceId, Idle after.db deviceId → Idle before.db deviceId) ∧
      Stamps (fun row _ => Idle before.db row.deviceId) before after := by
    induction moves with
    | refl => exact ⟨fun _ idle => idle, .of_streams rfl⟩
    | @tail middle last _ final ih =>
      obtain ⟨kind, permitted, move⟩ := final
      have settles : kind ≠ .settle := fun same => unsettled (same ▸ permitted)
      have abandons : kind ≠ .abandon := fun same => unabandoned (same ▸ permitted)
      refine ⟨fun deviceId idle => ih.1 deviceId (move.idle settles abandons idle), ?_⟩
      refine Stamps.trans (fun _ row _ => Idle before.db row.deviceId) ih.2 (move.idleStamps settles abandons) (fun _ _ idle => idle) ?_
      intro row middleRow _ device _ idle
      rw [← device]
      exact ih.1 _ idle
  exact both.2

theorem AdapterEvent.kinds_cases (event : AdapterEvent) : .equivalent ∉ event.kinds ∨ (.settle ∉ event.kinds ∧ .abandon ∉ event.kinds) := by
  cases event with
  | chain operation =>
    cases operation <;> simp [kinds, Operation.kinds]
  | edit | noteWrite | prepareSnapshot => exact .inl (by simp [kinds])
  | deliverRequest => exact .inl (by simp [kinds, enqueueKinds])
  | reissueRemoval => exact .inl (by simp [kinds])
  | createActionApply | createAutomaticApply => exact .inr (by simp [kinds, chainKinds])

structure Cohorts (adapter : Adapter) : Prop extends InOrder adapter where
  applied : CohortsApplied adapter.chain
  device : OneDevice adapter.chain

theorem Moves.cohorts (moves : Moves kinds before after) (lawful : Lawful before)
    (ordered : Ordered before) (applied : CohortsApplied before) (one : OneDevice before) :
    CohortsApplied after ∧ OneDevice after := by
  have each : ∀ kind ∈ kinds, ∀ first second : DeploymentChain, Lawful first ∧ Ordered first ∧ CohortsApplied first ∧ OneDevice first →
      Move kind first second →
      Lawful second ∧ Ordered second ∧ CohortsApplied second ∧ OneDevice second := by
    intro kind _ first second ⟨law, order, stamped, device⟩ move
    exact ⟨move.lawful law, (move.ordered law order).1, stamped.move law order move, device.move move.generations⟩
  exact (moves.keeps each ⟨lawful, ordered, applied, one⟩).2.2

theorem Cohorts.reachable {env : Environment} {adapter : Adapter} (reached : (adapterSystem env).Reachable adapter) : Cohorts adapter := by
  refine reached.invariant (fun start empty => ?_) fun event before after valid stepped => ?_
  · have generations := empty.2.1
    refine ⟨⟨.initial empty, .initial empty⟩, ?_, ?_⟩
    · simp [CohortsApplied, Adapter.chain, generations]
    · simp [OneDevice, Adapter.chain, generations]
  · have moves := (adapterStep_moves valid.toStanding stepped).2
    obtain ⟨applied, one⟩ := moves.cohorts valid.lawful valid.ordered valid.applied valid.device
    exact ⟨(adapterStep_inOrder valid.toInOrder stepped).1, applied, one⟩

def MoveKind.writesStream : MoveKind → Bool
  | prune | write | prepare | promote | equivalent => true
  | _ => false

theorem StreamMove.written {after : DeviceProjectionStream} (move : StreamMove kind row after) : kind.writesStream = true := by
  cases move <;> rfl

theorem Moves.carriers (moves : Moves [.job, .bind] before after) : after.db.streams = before.db.streams ∧
      ∀ row ∈ before.db.generations, ∃ later ∈ after.db.generations,
        later.settlementCohort = row.settlementCohort ∧ later.status = row.status := by
  induction moves with
  | refl => exact ⟨rfl, fun row member => ⟨row, member, rfl, rfl⟩⟩
  | @tail middle last _ final ih =>
    obtain ⟨kind, permitted, move⟩ := final
    have step : last.db.streams = middle.db.streams ∧ ∀ row ∈ middle.db.generations, ∃ later ∈ last.db.generations,
          later.settlementCohort = row.settlementCohort ∧ later.status = row.status := by
      cases move with
      | job => exact ⟨rfl, fun row member => ⟨row, member, rfl, rfl⟩⟩
      | bind member present fits =>
        refine ⟨rfl, fun row inside => ⟨_, mem_updateWhere_of_mem inside, ?_⟩⟩
        split <;> exact ⟨rfl, rfl⟩
      | stream moves quiet =>
        refine ⟨?_, fun row member => ⟨row, member, rfl, rfl⟩⟩
        refine updateWhere_eq_self fun row member => Bool.eq_false_iff.mpr fun chosen => ?_
        have written := (moves row member chosen).written
        simp only [List.mem_cons, List.not_mem_nil, or_false] at permitted
        rcases permitted with rfl | rfl <;> cases written
      | _ => simp at permitted
    refine ⟨step.1.trans ih.1, fun row member => ?_⟩
    obtain ⟨between, inside, cohort, status⟩ := ih.2 row member
    obtain ⟨later, located, laterCohort, laterStatus⟩ := step.2 between inside
    exact ⟨later, located, laterCohort.trans cohort, laterStatus.trans status⟩

theorem reconcileGeneration_unsettled (valid : Orderly chain.db) (lawful : Lawful chain)
    {after : Database} {generationId now : Nat} {job : Option Job}
    {generation : DeploymentGeneration} (member : generation ∈ chain.db.generations)
    (named : generation.id = generationId) (joined : generation.settlementCohort = some cohort)
    (unsettled : ∀ row ∈ after.generations, row.settlementCohort = some cohort → row.status ≠ .settled)
    (reconciled : reconcileGeneration chain.db generationId now = .ok (after, job)) :
    after.streams = chain.db.streams := by
  rcases reconcileGeneration_cases reconciled with
    rfl | ⟨found, head, claimed, lookup, required, claim, advanced⟩
  · rfl
  obtain ⟨headMember, sameId, blocked⟩ := requireBlockedHead_spec required
  have foundId := List.find?_some lookup
  rw [beq_iff_eq] at foundId
  have same : head = generation := valid.generation_unique head headMember generation member (sameId.trans (foundId.trans named.symm))
  subst same
  have abandons : Move .abandon chain { chain with db := stampAbandoned claimed head } := .abandon headMember blocked claim
  have sound := (Sound.abandon valid headMember blocked claim).of_onlyStreams (onlyStreams_stampAbandoned claimed head)
  have advances : Moves [.job, .bind] { chain with db := stampAbandoned claimed head } { chain with db := after } :=
    .advanceGenerationsLocked sound.orderly (abandons.lawful lawful) advanced
  obtain ⟨streams, rows⟩ := advances.carriers
  obtain ⟨landed, written⟩ := claimBlockedHead_terminal rfl claim
  obtain ⟨_, update, _, rfl, _⟩ := terminalizeGenerations_spec written
  refine streams.trans ?_
  unfold stampAbandoned stampSettledCohort
  rw [joined]
  dsimp only
  split
  · rename_i settled
    obtain ⟨row, inside, final⟩ := List.any_eq_true.mp settled
    obtain ⟨present, own⟩ := List.mem_filter.mp inside
    have stamped : row ∈ (stampAbandoned { chain.db with
        generations := chain.db.generations.map update } head).generations := by
      rw [(onlyStreams_stampAbandoned _ head).generations]
      exact present
    obtain ⟨later, located, laterCohort, laterStatus⟩ := rows row stamped
    exact absurd (laterStatus.trans (beq_iff_eq.mp final)) (unsettled later located (laterCohort.trans (beq_iff_eq.mp own)))
  · rfl

/-- A stream is stamped only for a generation that settled alone or for a complete cohort, unless it
is wire equivalent on an idle device; and a cohort that ends without a settled member stamps
nothing. -/
theorem cohort_atomicity {env : Environment} {adapter : Adapter} (reached : (adapterSystem env).Reachable adapter) :
    (∀ event after, adapterStep env event adapter = some after →
      ∀ row ∈ adapter.db.streams, ∀ later ∈ after.db.streams, later.deviceId = row.deviceId → later.stream = row.stream →
        later.appliedRevision ≠ row.appliedRevision →
          (∀ generation ∈ adapter.db.generations, generation.deviceId = row.deviceId →
            generation.status.crossable = true) ∨
          ∃ generation ∈ after.db.generations, generation.deviceId = row.deviceId ∧
            (row.stream, later.appliedRevision) ∈ generation.streamRevisions ∧
            (generation.settlementCohort = none ∧ generation.status = .settled ∨
              ∃ cohort, generation.settlementCohort = some cohort ∧
                (∀ member ∈ after.db.generations, member.settlementCohort = some cohort →
                  member.status.crossable = true) ∧
                ∃ member ∈ after.db.generations, member.settlementCohort = some cohort ∧ member.status = .settled)) ∧
    (∀ cohort, (∀ member ∈ adapter.db.generations, member.settlementCohort = some cohort →
        member.status.crossable = true) →
      (∃ member ∈ adapter.db.generations, member.settlementCohort = some cohort ∧ member.status = .settled) →
      ∀ member ∈ adapter.db.generations, member.settlementCohort = some cohort →
        ∀ entry ∈ member.streamRevisions, ∃ row ∈ adapter.db.streams, row.deviceId = member.deviceId ∧ row.stream = entry.1 ∧
            entry.2 ≤ row.appliedRevision) ∧
    ∀ generation ∈ adapter.db.generations, ∀ cohort, generation.settlementCohort = some cohort →
      ∀ now after, adapterStep env (.chain (.reconcileGeneration generation.id now)) adapter = some after →
        (∀ member ∈ after.db.generations, member.settlementCohort = some cohort → member.status = .abandoned) →
          after.db.streams = adapter.db.streams := by
  have valid := Cohorts.reachable reached
  refine ⟨?_, ?_, ?_⟩
  · intro event after stepped row member later present device stream moved
    have next := Cohorts.reachable (reached.step stepped)
    have moves := (adapterStep_moves valid.toStanding stepped).2
    -- The row of a stream is unique, so the later version is the one that was stamped.
    have unique : ∀ other ∈ after.db.streams, other.deviceId = row.deviceId →
        other.stream = row.stream → other = later := fun other inside otherDevice otherStream =>
      next.lawful.keyed other inside later present (otherDevice.trans device.symm) (otherStream.trans stream.symm)
    rcases event.kinds_cases with settling | promoting
    · obtain ⟨other, inside, otherDevice, otherStream, cause⟩ := moves.stamps settling row member
      rw [unique other inside otherDevice otherStream] at cause
      obtain ⟨generation, located, own, lists, vouches⟩ := cause.resolve_left moved
      refine .inr ⟨generation, located, own, lists, ?_⟩
      rcases vouches with alone | ⟨cohort, named, crossable, settled⟩
      · exact .inl alone
      · refine .inr ⟨cohort, named, fun sibling joins same => ?_, settled⟩
        exact crossable sibling joins (next.device sibling joins generation located cohort same named) same
    · obtain ⟨other, inside, otherDevice, otherStream, cause⟩ := moves.idleStamps promoting.1 promoting.2 row member
      rw [unique other inside otherDevice otherStream] at cause
      exact .inl (cause.resolve_left moved)
  · intro cohort crossable settled member present named entry listed
    obtain ⟨row, inside, key, below⟩ := valid.applied member present cohort named
      ⟨fun sibling joins _ same => crossable sibling joins same, settled⟩ entry listed
    unfold streamKey at key
    rw [Bool.and_eq_true, beq_iff_eq, beq_iff_eq] at key
    exact ⟨row, inside, key.1, key.2, below⟩
  · intro generation member cohort named now after stepped abandoned
    simp only [adapterStep] at stepped
    split at stepped
    · obtain ⟨db, ran, rfl⟩ := Option.map_eq_some_iff.mp stepped
      obtain ⟨job, reconciled⟩ := toOption_fst_eq_some ran
      refine reconcileGeneration_unsettled valid.orderly valid.lawful member rfl named ?_ reconciled
      intro sibling joins same settled
      have final := abandoned sibling joins same
      rw [settled] at final
      cases final
    · cases stepped

def vlanRemoval : RemovalAdmission where
  request := ⟨.vlan, some .deleteOrigin, false, [], [("vlan", [.num 10])], [], false, false, true⟩
  promotes := [.vlan]
  settlementCohort := none
  allowedRemovalKeys := none
  document := none
  tombstoneIds := []
  applyAttemptId := none
  frozen _ := none

/-- A request with a removal and an apply: the removal runs first. -/
def removalAndApply : List AdapterEvent :=
  [.noteWrite 7 .vlan (some 1), .deliverRequest 7 ⟨[vlanRemoval], some .vlan⟩ 0,
    .chain (.startHead 7 none),
    .chain (.terminalize 1 ⟨.succeeded, .running, some 1, none, none, none, none⟩),
    .chain (.startHead 7 none),
    .chain (.terminalize 2 ⟨.succeeded, .running, some 1, none, none, none, none⟩)]

example : (((adapterSystem constantEnvironment).trace (removalAndApply.take 4) freshAdapter).map
    fun adapter => adapter.db.streams.map revisions) = some [(7, .vlan, 1, 1, 0, none)] := by
  rfl

theorem cohort_atomicity_removal_and_apply :
    ∃ adapter, (adapterSystem constantEnvironment).trace removalAndApply freshAdapter = some adapter ∧
      adapter.db.generations.map (fun generation => (generation.settlementCohort, generation.status)) =
        [(some 0, .settled), (some 0, .settled)] ∧
      ∀ member ∈ adapter.db.generations, ∀ entry ∈ member.streamRevisions,
        ∃ row ∈ adapter.db.streams, row.deviceId = member.deviceId ∧ row.stream = entry.1 ∧
          entry.2 ≤ row.appliedRevision := by
  have found : ((adapterSystem constantEnvironment).trace removalAndApply freshAdapter).any
      (fun adapter => adapter.db.generations.map (fun generation => (generation.settlementCohort, generation.status)) ==
          [(some 0, .settled), (some 0, .settled)]) = true := by decide +kernel
  obtain ⟨adapter, executed, statuses⟩ := (Option.any_eq_true _ _).mp found
  have pairs := beq_iff_eq.mp statuses
  have each : ∀ member ∈ adapter.db.generations, member.settlementCohort = some 0 ∧ member.status = .settled := by
    intro member inside
    have pair := List.mem_map_of_mem (f := fun generation => (generation.settlementCohort, generation.status)) inside
    rw [pairs] at pair
    simpa using pair
  have some : ∃ member ∈ adapter.db.generations, member.settlementCohort = some 0 ∧ member.status = .settled := by
    cases generations : adapter.db.generations with
    | nil =>
      rw [generations] at pairs
      cases pairs
    | cons first rest =>
      have inside : first ∈ adapter.db.generations := generations ▸ List.mem_cons_self
      exact ⟨first, List.mem_cons_self, each first inside⟩
  refine ⟨adapter, executed, pairs, fun member inside => ?_⟩
  refine (cohort_atomicity (.trace (.initial freshAdapter_initial) executed)).2.1 0
    (fun sibling joins _ => ?_) some member inside (each member inside).1
  rw [(each sibling joins).2]
  rfl

end NsoAdapter.Core
