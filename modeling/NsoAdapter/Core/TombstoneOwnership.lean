import Mathlib.Data.List.Dedup
import NsoAdapter.Core.Custody
import NsoAdapter.Core.TombstoneSweep

/-! Who owns a tombstone while a removal runs. The owner column holds one job, and
the failed original and its reissue by the sweeper both name the tombstone, so a
retry of the original is sound only while no other job has taken the carrier. -/

namespace NsoAdapter.Core
open Lib Store Projection

inductive RemovalEvent where
  | enqueue (push : RemovalPush)
  | sweep (deviceId : Nat) (document : Document)
      (sourcePushSeq : List (ProjectionStream × Option Nat)) (now : Nat)
  | prepare (jobId : Nat)
  | respond (jobId runAttempt : Nat) (kind : CheckpointKind)
  | settle (jobId : Nat) (request : TerminalRequest)
  | chain (operation : Operation)

/-- The chain operations that are no events of their own here. -/
def Operation.outsideRemoval : Operation → Bool
  | .createGeneration _ content => content.document.tombstoneIds.isEmpty
  | .terminalize _ _ => false
  | _ => true

variable (digestDocument : DocumentDigest)

/-- One transaction. The composed document that a push or a sweep deploys names no tombstone yet. -/
def RemovalEvent.run (event : RemovalEvent) (store : RemovalStore) : Option RemovalStore :=
  match event with
  | .enqueue push =>
    if push.document.tombstoneIds.isEmpty then
      (enqueueStaticRouteRemovals digestDocument store push).toOption
    else none
  | .sweep deviceId document sourcePushSeq now =>
    if document.tombstoneIds.isEmpty then
      (sweepOneDevice digestDocument store deviceId document sourcePushSeq now).toOption
    else none
  | .prepare jobId => (prepareExecutionAttempt store jobId).toOption
  | .respond jobId runAttempt kind => some (recordClassifiedResponse store jobId runAttempt kind)
  | .settle jobId request =>
    if request.expect.live then settleRun store jobId request else none
  | .chain operation =>
    if operation.outsideRemoval then
      (operation.run digestDocument store.db).map fun db => { store with db }
    else none

def removals : TransitionSystem RemovalStore RemovalEvent where
  initial store := store.db.jobs = [] ∧ store.db.generations = [] ∧ store.db.tombstones = []
  step := RemovalEvent.run digestDocument

/-- Every tombstone the generation names is on its device and without an owner, or
still owned by the job the generation had. -/
def carriersUnmoved (db : Database) (generationId : Nat) : Bool :=
  match db.generation? generationId with
  | none => true
  | some generation => generation.document.tombstoneIds.all fun tombstoneId =>
    db.tombstones.any fun tombstone =>
      tombstone.id == tombstoneId && tombstone.deviceId == generation.deviceId &&
        (tombstone.jobId.isNone || tombstone.jobId == generation.jobId)

/-- The condition on a step: a retry finds the carriers of its generation unmoved. -/
def RemovalEvent.retriesUnmoved (store : RemovalStore) : RemovalEvent → Bool
  | .chain (.retryGeneration generationId _) => carriersUnmoved store.db generationId
  | _ => true

def Named (db : Database) (tombstoneId : Nat) : Prop :=
  ∃ generation ∈ db.generations, generation.status.terminal = false ∧
    tombstoneId ∈ generation.document.tombstoneIds

structure Owned (db : Database) : Prop where
  unique : (db.tombstones.map (·.id)).Nodup
  owner : ∀ generation ∈ db.generations, generation.status.terminal = false →
    ∀ tombstoneId ∈ generation.document.tombstoneIds,
      ∃ jobId, generation.jobId = some jobId ∧ ∃ tombstone ∈ db.tombstones,
        tombstone.id = tombstoneId ∧ tombstone.deviceId = generation.deviceId ∧
          tombstone.jobId = some jobId
  context : ∀ generation ∈ db.generations, generation.document.tombstoneIds ≠ [] →
    generation.removalContext.isSome = true

variable {db after : Database} {generation : DeploymentGeneration} {jobId now deviceId : Nat}
  {job : Job} {store : RemovalStore}

theorem Owned.eq_of_id (owned : Owned db) {left right : StaticRouteTombstone}
    (leftMember : left ∈ db.tombstones) (rightMember : right ∈ db.tombstones)
    (sameId : left.id = right.id) : left = right :=
  List.inj_on_of_nodup_map owned.unique leftMember rightMember sameId

theorem Owned.custodial {before : Database} (owned : Owned before) (custodial : Custodial before after) : Owned after := by
  constructor
  case unique =>
    rw [custodial.tombstones]
    exact owned.unique
  case owner =>
    intro row member opened tombstoneId named
    rcases custodial.rows row member with unnamed | ⟨old, oldMember, continues⟩
    · rw [unnamed] at named
      cases named
    · rw [← continues.document] at named
      obtain ⟨oldOpen, sameJob⟩ := continues.opened opened
      obtain ⟨jobId, attached, carried⟩ := owned.owner old oldMember oldOpen tombstoneId named
      rw [custodial.tombstones, ← continues.deviceId]
      rcases sameJob with same | unbound
      · exact ⟨jobId, same.symm.trans attached, carried⟩
      · rw [unbound] at attached
        cases attached
  case context =>
    intro row member named
    rcases custodial.rows row member with unnamed | ⟨old, oldMember, continues⟩
    · exact absurd unnamed named
    · rw [← continues.removalContext]
      exact owned.context old oldMember (continues.document ▸ named)

theorem Orderly.open_job (valid : Orderly db) (member : generation ∈ db.generations)
    (opened : generation.status.terminal = false) (attached : generation.jobId = some jobId) :
    ∃ job ∈ db.jobs, job.id = jobId ∧ job.status.live = true := by
  obtain ⟨job, present, sameId, carries⟩ := valid.carried generation member jobId attached
  refine ⟨job, present, sameId, ?_⟩
  have agreed := carries.status
  cases status : job.status with
  | queued | running => rfl
  | succeeded | failed =>
    rw [status] at agreed
    have ended : generation.status.terminal = true := agreed
    rw [opened] at ended
    cases ended

variable {tombstone : StaticRouteTombstone} {content : GenerationContent}
  {tombstoneIds clearIds : List Nat} {streams : List ProjectionStream} {request : TerminalRequest}

theorem Owned.not_named (valid : Orderly db) (owned : Owned db) (member : tombstone ∈ db.tombstones)
    (ownerless : ∀ job ∈ db.jobs, tombstone.jobId = some job.id → job.status.live = false) :
    ¬ Named db tombstone.id := by
  rintro ⟨generation, inside, opened, named⟩
  obtain ⟨jobId, attached, carrier, carrierMember, sameId, _, held⟩ := owned.owner generation inside opened tombstone.id named
  obtain ⟨job, present, rfl, live⟩ := valid.open_job inside opened attached
  rw [owned.eq_of_id carrierMember member sameId] at held
  have ended := ownerless job present held
  rw [live] at ended
  cases ended

theorem takeOverTombstones_ids (db : Database) (generation : DeploymentGeneration) (previousCarrier : Option Nat) (jobId : Nat) :
    (takeOverTombstones db generation previousCarrier jobId).tombstones.map (·.id) = db.tombstones.map (·.id) := by
  refine map_updateWhere ?_ _
  exact fun _ => rfl

theorem assignTombstones_ids (db : Database) (tombstoneIds : List Nat) (jobId : Nat) :
    (assignTombstones db tombstoneIds jobId).tombstones.map (·.id) = db.tombstones.map (·.id) := by
  refine map_updateWhere ?_ _
  exact fun _ => rfl

variable {digestDocument} {generationId : Nat} {context : RemovalContext} {document : Document}
  {sourcePushSeq : List (ProjectionStream × Option Nat)} {push : RemovalPush}
  {operation : Operation}

theorem retryGeneration_cases {job : Option Job} (valid : Orderly db)
    (retried : retryGeneration digestDocument db generationId now = .ok (after, job)) :
    after = db ∨ ∃ head jobId update, head ∈ db.generations ∧
      db.generation? generationId = some head ∧ head.status.blocked = true ∧
      after.generations = db.generations.map update ∧
      (∀ row, row.id ≠ head.id → update row = row) ∧
      ((update head).document = head.document ∧ (update head).deviceId = head.deviceId ∧
        (update head).removalContext = head.removalContext ∧
        (update head).jobId = some jobId) ∧
      after.tombstones = if head.removalContext.isSome then
        (takeOverTombstones db head head.jobId jobId).tombstones else db.tombstones := by
  rcases retryGeneration_claims retried with
    same | ⟨generation, head, carried, fresh, found, required, created, shape⟩
  · exact .inl same
  obtain ⟨member, sameId, blocked⟩ := requireBlockedHead_spec required
  have same : generation = head := valid.generation_unique generation (List.mem_of_find?_eq_some found) head member sameId.symm
  subst same
  obtain ⟨jobType, context, rfl, rfl⟩ := createDedicatedCarrier_eq created
  let pended := fun row : DeploymentGeneration =>
    if row.id == generation.id && row.status.blocked then { row with status := .pending } else row
  let update := fun row : DeploymentGeneration =>
    if (pended row).id == generation.id then
      { pended row with jobId := some db.nextJobId } else pended row
  have others : ∀ row, row.id ≠ generation.id → update row = row := by
    intro row different
    simp [update, pended, different]
  have bound : (update generation).document = generation.document ∧ (update generation).deviceId = generation.deviceId ∧
      (update generation).removalContext = generation.removalContext ∧
      (update generation).jobId = some db.nextJobId := by
    simp [update, pended, blocked]
  refine .inr ⟨generation, db.nextJobId, update, member, found, blocked, ?_, others, bound, ?_⟩
  · rw [shape]
    split <;> exact List.map_map
  · rw [shape]
    split <;> rfl

theorem Owned.retryGeneration {job : Option Job} (valid : Orderly db) (owned : Owned db) (unmoved : carriersUnmoved db generationId = true)
    (retried : retryGeneration digestDocument db generationId now = .ok (after, job)) :
    Owned after := by
  rcases retryGeneration_cases valid retried with rfl | ⟨head, jobId, update, member, found,
    blocked, generations, others, ⟨document, deviceId, context, attached⟩, tombstones⟩
  · exact owned
  have ended := GenerationStatus.terminal_of_blocked blocked
  have rowOf : ∀ row ∈ after.generations, row = update head ∨ row ∈ db.generations := by
    intro row inside
    rw [generations] at inside
    obtain ⟨old, oldMember, rfl⟩ := List.mem_map.mp inside
    by_cases same : old.id = head.id
    · rw [valid.generation_unique old oldMember head member same]
      exact .inl rfl
    · rw [others old same]
      exact .inr oldMember
  constructor
  case unique =>
    rw [tombstones]
    split
    · rw [takeOverTombstones_ids]
      exact owned.unique
    · exact owned.unique
  case context =>
    intro row inside named
    rcases rowOf row inside with rfl | old
    · rw [context]
      exact owned.context head member (document ▸ named)
    · exact owned.context row old named
  case owner =>
    intro row inside opened tombstoneId named
    rcases rowOf row inside with rfl | old
    · rw [document] at named
      refine ⟨jobId, attached, ?_⟩
      have removal := owned.context head member (List.ne_nil_of_mem named)
      unfold carriersUnmoved at unmoved
      rw [found] at unmoved
      have kept := List.all_eq_true.mp unmoved tombstoneId named
      obtain ⟨tombstone, present, free⟩ := List.any_eq_true.mp kept
      simp only [Bool.and_eq_true, beq_iff_eq] at free
      rw [tombstones, if_pos removal, deviceId]
      refine ⟨_, mem_updateWhere_of_mem present, ?_⟩
      rw [if_pos]
      · exact ⟨free.1.1, free.1.2, rfl⟩
      · rw [free.1.1, free.1.2, free.2]
        simpa using named
    · -- The owner of another open generation is live, so the retry does not take it.
      obtain ⟨owner, held, tombstone, present, sameId, sameDevice, carried⟩ := owned.owner row old opened tombstoneId named
      obtain ⟨carrier, carrierMember, rfl, live⟩ := valid.open_job old opened held
      refine ⟨carrier.id, held, tombstone, ?_, sameId, sameDevice, carried⟩
      have different : head.jobId ≠ some carrier.id := by
        intro shared
        have stopped := valid.terminal_job member ended carrierMember shared
        rw [live] at stopped
        cases stopped
      rw [tombstones]
      split
      · refine mem_updateWhere.mpr ⟨tombstone, present, if_neg ?_⟩
        simp [carried, Ne.symm different]
      · exact present

theorem storeGeneration_removal (removal : content.removalContext = some context) (scope : context.scope = .staticRoute)
    (unnamed : content.document.tombstoneIds = [])
    (stored : storeGeneration digestDocument db deviceId content tombstoneIds clearIds streams = .ok (after, generation)) :
    ∃ document, (after, generation) = insertGeneration digestDocument db deviceId { content with document } ∧
      (∀ tombstoneId ∈ Document.tombstoneIds document, tombstoneId ∈ tombstoneIds) ∧
      ∀ tombstoneId ∈ tombstoneIds, ∃ tombstone ∈ db.tombstones, tombstone.id = tombstoneId ∧ tombstone.deviceId = deviceId := by
  unfold storeGeneration at stored
  split at stored
  · rename_i absent
    rw [removal] at absent
    cases absent
  rename_i found present
  cases removal.symm.trans present
  obtain ⟨document, addressed, inserted⟩ := bind_eq_ok.mp stored
  refine ⟨document, (Except.ok.inj inserted).symm, ?_⟩
  unfold addressSection at addressed
  split at addressed
  · cases addressed
  obtain ⟨operation, built, placed⟩ := bind_eq_ok.mp addressed
  unfold buildOperation at built
  rw [if_pos scope] at built
  obtain ⟨plan, selected, planned⟩ := bind_eq_ok.mp built
  cases planned
  cases placed
  constructor
  · intro tombstoneId named
    obtain ⟨entry, inside, listed⟩ := List.mem_flatMap.mp named
    obtain ⟨original, originalMember, rfl⟩ := List.mem_map.mp inside
    split at listed
    · simpa using listed
    · have stale : tombstoneId ∈ content.document.tombstoneIds := List.mem_flatMap.mpr ⟨original, originalMember, listed⟩
      rw [unnamed] at stale
      cases stale
  · intro tombstoneId wanted
    unfold buildStaticRouteOperation at selected
    dsimp only at selected
    split at selected
    · rename_i all
      have present := List.all_eq_true.mp all tombstoneId wanted
      obtain ⟨carrier, chosen, same⟩ := List.any_eq_true.mp present
      have known := (List.mem_filter.mp chosen).1
      simp only [deviceCarriers, List.mem_map, mem_orderBy, List.mem_filter, beq_iff_eq] at known
      obtain ⟨tombstone, ⟨member, device⟩, rfl⟩ := known
      exact ⟨tombstone, member, beq_iff_eq.mp same, device⟩
    · cases selected

theorem carryRemoval_eq
    (carried : carryRemoval digestDocument db deviceId content tombstoneIds clearIds streams now = .ok (after, generation, job)) :
    ∃ stored, storeGeneration digestDocument db deviceId content tombstoneIds clearIds streams = .ok (stored, generation) ∧
      attachDedicatedJob stored deviceId .removal (content.removalContext.map JobContext.removal) generation now = .ok (after, job) := by
  unfold carryRemoval at carried
  split at carried
  · cases carried
  rename_i stored written stores
  split at carried
  · cases carried
  · rename_i bound fresh attaches
    cases carried
    exact ⟨stored, stores, attaches⟩

structure Custody (db : Database) : Prop where
  orderly : Orderly db
  owned : Owned db

theorem Custody.carryRemoval (custody : Custody db) (removal : content.removalContext = some context) (scope : context.scope = .staticRoute)
    (unnamed : content.document.tombstoneIds = [])
    (free : ∀ tombstoneId ∈ tombstoneIds, ¬ Named db tombstoneId)
    (carried : carryRemoval digestDocument db deviceId content tombstoneIds clearIds streams now = .ok (after, generation, job)) :
    Custody (assignTombstones after tombstoneIds job.id) ∧
      (∀ tombstoneId, Named (assignTombstones after tombstoneIds job.id) tombstoneId →
        Named db tombstoneId ∨ tombstoneId ∈ tombstoneIds) ∧
      (assignTombstones after tombstoneIds job.id).tombstones.map (·.id) = db.tombstones.map (·.id) := by
  obtain ⟨stored, stores, carrier⟩ := carryRemoval_eq carried
  obtain ⟨rfl, attached⟩ := attachDedicatedJob_eq carrier
  obtain ⟨document, inserted, selected, present⟩ := storeGeneration_removal removal scope unnamed stores
  have storedShape : stored = (insertGeneration digestDocument db deviceId { content with document }).1 := congrArg Prod.fst inserted
  have fresh : generation = (insertGeneration digestDocument db deviceId { content with document }).2 := congrArg Prod.snd inserted
  have orderly : Orderly stored := by
    rw [storedShape]
    exact custody.orderly.insertGeneration ..
  have jobbed := orderly.insertJob (some deviceId) .removal false (content.removalContext.map JobContext.removal) now
  have member : generation ∈ stored.generations := by
    rw [storedShape, fresh]
    exact List.mem_append_right _ (List.mem_singleton_self _)
  have unbound : generation.jobId = none := by rw [fresh]; rfl
  have device : generation.deviceId = deviceId := by rw [fresh]; rfl
  have sound := Sound.attach jobbed member unbound
    (List.mem_append_right _ (List.mem_singleton_self _)) rfl (congrArg some device.symm) attached
  rcases attachToJob_cases attached with ⟨refused, _⟩ | ⟨_, bound, _⟩
  · cases refused
  -- A row is the new generation, bound to the new job, or an old one.
  have rowOf : ∀ row ∈ after.generations, row = { generation with jobId := some stored.nextJobId } ∨ row ∈ db.generations := by
    intro row inside
    rw [bound] at inside
    obtain ⟨old, oldMember, rfl⟩ := mem_updateWhere.mp inside
    have origin : old ∈ db.generations ∨ old = generation := by
      have located : old ∈ stored.generations := oldMember
      rw [storedShape] at located
      rcases List.mem_append.mp located with earlier | new
      · exact .inl earlier
      · exact .inr ((List.mem_singleton.mp new).trans fresh.symm)
    rcases origin with earlier | rfl
    · have different : old.id ≠ generation.id := by
        have below := custody.orderly.generation_below old earlier
        have freshId : generation.id = db.nextGenerationId := by rw [fresh]; rfl
        omega
      simp only [beq_iff_eq, different, if_false]
      exact .inr earlier
    · simp only [beq_self_eq_true, if_true]
      exact .inl rfl
  have tombstones : after.tombstones = db.tombstones := by
    rw [bound, storedShape]
    rfl
  have names : generation.document = document := by rw [fresh]; rfl
  have sameIds := (assignTombstones_ids after tombstoneIds stored.nextJobId).trans (congrArg (List.map (·.id)) tombstones)
  refine ⟨⟨sound.orderly.of_same rfl rfl rfl rfl rfl, ?_, ?_, ?_⟩, ?_, sameIds⟩
  case refine_1 => exact sameIds ▸ custody.owned.unique
  case refine_2 =>
    intro row inside opened tombstoneId named
    rcases rowOf row inside with rfl | old
    · refine ⟨stored.nextJobId, rfl, ?_⟩
      have wanted := selected tombstoneId (names ▸ named)
      obtain ⟨tombstone, carrier, sameId, sameDevice⟩ := present tombstoneId wanted
      refine ⟨_, mem_updateWhere_of_mem (tombstones ▸ carrier), ?_⟩
      rw [if_pos (by rw [sameId]; simpa using wanted)]
      exact ⟨sameId, sameDevice.trans device.symm, rfl⟩
    · obtain ⟨jobId, held, tombstone, carrier, sameId, sameDevice, owner⟩ := custody.owned.owner row old opened tombstoneId named
      refine ⟨jobId, held, tombstone, ?_, sameId, sameDevice, owner⟩
      refine mem_updateWhere.mpr ⟨tombstone, tombstones ▸ carrier, if_neg ?_⟩
      rw [sameId]
      simpa using fun wanted => free tombstoneId wanted ⟨row, old, opened, named⟩
  case refine_3 =>
    intro row inside named
    rcases rowOf row inside with rfl | old
    · have kept : generation.removalContext = some context := by rw [fresh]; exact removal
      rw [kept]
      rfl
    · exact custody.owned.context row old named
  case refine_4 =>
    rintro tombstoneId ⟨row, inside, opened, named⟩
    rcases rowOf row inside with rfl | old
    · exact .inr (selected tombstoneId (names ▸ named))
    · exact .inl ⟨row, old, opened, named⟩

theorem Custody.foldlM {Item : Type} {step : Database → Item → Except PromotionError Database}
    {items : List Item} (carriers : Item → List Nat)
    (steps : ∀ before next item, item ∈ items → Custody before →
      (∀ tombstoneId ∈ carriers item, ¬ Named before tombstoneId) →
      step before item = .ok next →
      Custody next ∧ (∀ tombstoneId, Named next tombstoneId → Named before tombstoneId ∨ tombstoneId ∈ carriers item) ∧
        next.tombstones.map (·.id) = before.tombstones.map (·.id))
    (disjoint : items.Pairwise fun first second =>
      ∀ tombstoneId ∈ carriers second, tombstoneId ∉ carriers first) (custody : Custody db)
    (free : ∀ item ∈ items, ∀ tombstoneId ∈ carriers item, ¬ Named db tombstoneId)
    (finished : items.foldlM step db = .ok after) :
    Custody after ∧ after.tombstones.map (·.id) = db.tombstones.map (·.id) := by
  induction items generalizing db with
  | nil =>
    cases finished
    exact ⟨custody, rfl⟩
  | cons item items ih =>
    obtain ⟨middle, stepped, rest⟩ := bind_eq_ok.mp finished
    obtain ⟨apart, disjoint⟩ := List.pairwise_cons.mp disjoint
    obtain ⟨kept, named, sameIds⟩ := steps db middle item List.mem_cons_self custody (free item List.mem_cons_self) stepped
    have later := ih (fun before next other member => steps before next other (List.mem_cons_of_mem _ member)) disjoint kept ?_ rest
    · exact ⟨later.1, later.2.trans sameIds⟩
    · intro other member tombstoneId carried held
      rcases named tombstoneId held with before | mine
      · exact free other (List.mem_cons_of_mem _ member) tombstoneId carried before
      · exact apart other member tombstoneId carried mine

theorem Custody.reissueRemovalJob {attempts : List ExecutionAttempt} (unnamed : document.tombstoneIds = []) (custody : Custody db)
    (free : ¬ Named db tombstone.id)
    (reissued : reissueRemovalJob digestDocument attempts document sourcePushSeq now db tombstone = .ok after) :
    Custody after ∧ (∀ tombstoneId, Named after tombstoneId → Named db tombstoneId ∨ tombstoneId ∈ [tombstone.id]) ∧
      after.tombstones.map (·.id) = db.tombstones.map (·.id) := by
  unfold Core.reissueRemovalJob at reissued
  split at reissued
  · cases reissued
    exact ⟨custody, fun _ named => .inl named, rfl⟩
  · dsimp only at reissued
    split at reissued
    · cases reissued
    rename_i stored generation job carried
    cases reissued
    exact custody.carryRemoval rfl rfl unnamed (fun tombstoneId wanted => List.mem_singleton.mp wanted ▸ free) carried

theorem eligible_ownerless (valid : Orderly db) (uncarried : eligible db tombstone = true) :
    ∀ job ∈ db.jobs, tombstone.jobId = some job.id → job.status.live = false := by
  intro job present owned
  unfold eligible at uncarried
  rw [owned] at uncarried
  obtain ⟨other, otherPresent, failed⟩ := List.any_eq_true.mp uncarried
  simp only [Bool.and_eq_true, beq_iff_eq] at failed
  rw [← valid.job_unique other otherPresent job present failed.1, failed.2]
  rfl

theorem Custody.sweepOneDevice {after : RemovalStore} (unnamed : document.tombstoneIds = []) (custody : Custody store.db)
    (swept : sweepOneDevice digestDocument store deviceId document sourcePushSeq now = .ok after) :
    Custody after.db ∧ after.db.tombstones.map (·.id) = store.db.tombstones.map (·.id) ∧
      after.nextTombstoneId = store.nextTombstoneId := by
  unfold Core.sweepOneDevice at swept
  dsimp only at swept
  split at swept
  · cases swept
  rename_i db finished
  cases swept
  have result := Custody.foldlM (fun tombstone => [tombstone.id]) (fun before next tombstone _ valid free stepped =>
      valid.reissueRemovalJob unnamed (free _ (List.mem_singleton_self _)) stepped)
    ?_ custody ?_ finished
  · exact ⟨result.1, result.2, rfl⟩
  · have distinct : ((store.db.tombstones.filter fun tombstone =>
        tombstone.deviceId == deviceId && eligible store.db tombstone).map (·.id)).Nodup :=
      custody.owned.unique.sublist (List.filter_sublist.map _)
    refine (pairwise_ne_orderBy distinct).imp fun different tombstoneId second first => ?_
    exact different ((List.mem_singleton.mp first).symm.trans (List.mem_singleton.mp second))
  · intro tombstone selected tombstoneId carried
    simp only [mem_orderBy, List.mem_filter, Bool.and_eq_true] at selected
    rw [List.mem_singleton.mp carried]
    exact custody.owned.not_named custody.orderly selected.1 (eligible_ownerless custody.orderly selected.2.2)

theorem Custody.enqueueMarking {written : List StaticRouteTombstone} {marking : Option Marking} {first : Bool}
    (unnamed : push.document.tombstoneIds = []) (custody : Custody db)
    (free : ∀ tombstoneId ∈ (written.filter fun tombstone =>
      some tombstone.marking == marking).map (·.id), ¬ Named db tombstoneId)
    (enqueued : enqueueMarking digestDocument push written db marking first = .ok after) :
    Custody after ∧ (∀ tombstoneId, Named after tombstoneId → Named db tombstoneId ∨
        tombstoneId ∈ (written.filter fun tombstone =>
          some tombstone.marking == marking).map (·.id)) ∧
      after.tombstones.map (·.id) = db.tombstones.map (·.id) := by
  unfold Core.enqueueMarking at enqueued
  dsimp only at enqueued
  split at enqueued
  · cases enqueued
  split at enqueued
  · cases enqueued
  rename_i stored generation job carried
  cases enqueued
  exact custody.carryRemoval rfl rfl unnamed free carried

theorem RemovalPush.markings_distinct (push : RemovalPush) : push.markings.Pairwise fun first second => first.1 ≠ second.1 := by
  have distinct : push.present.Nodup := List.Nodup.filter _ (by decide : markingOrder.Nodup)
  unfold RemovalPush.markings
  cases present : push.present with
  | nil => exact List.pairwise_singleton _ _
  | cons first rest =>
    rw [present] at distinct
    obtain ⟨fresh, restDistinct⟩ := List.nodup_cons.mp distinct
    refine List.pairwise_cons.mpr ⟨fun later member same => ?_, ?_⟩
    · obtain ⟨marking, inside, rfl⟩ := List.mem_map.mp member
      exact fresh (Option.some.inj same ▸ inside)
    · exact List.pairwise_map.mpr (restDistinct.imp fun different same =>
        different (Option.some.inj same))

/-- Every tombstone an open generation names is there, on its device and owned by its job, and
identifiers are not used again. -/
structure RemovalStore.Valid (store : RemovalStore) : Prop where
  custody : Custody store.db
  below : ∀ tombstone ∈ store.db.tombstones, tombstone.id < store.nextTombstoneId

theorem RemovalStore.Valid.of_sameIds {after : RemovalStore} (valid : store.Valid) (custody : Custody after.db)
    (sameIds : after.db.tombstones.map (·.id) = store.db.tombstones.map (·.id))
    (sameNext : after.nextTombstoneId = store.nextTombstoneId) : after.Valid := by
  refine ⟨custody, fun tombstone member => ?_⟩
  have listed : tombstone.id ∈ after.db.tombstones.map (·.id) := List.mem_map_of_mem member
  rw [sameIds] at listed
  obtain ⟨other, present, same⟩ := List.mem_map.mp listed
  rw [sameNext, ← same]
  exact valid.below other present

theorem writeTombstones_ids (store : RemovalStore) (push : RemovalPush) : (writeTombstones store push).2.map (·.id) =
      (List.range push.carriers.length).map (store.nextTombstoneId + ·) := by
  rw [List.range_eq_range', ← List.zipIdx_map_snd 0 push.carriers, List.map_map]
  simp only [writeTombstones, carriersOf, List.map_map]
  rfl

theorem RemovalStore.Valid.writeTombstones (valid : store.Valid) (push : RemovalPush) : (writeTombstones store push).1.Valid ∧
      ∀ tombstone ∈ (writeTombstones store push).2, tombstone ∈ (writeTombstones store push).1.db.tombstones ∧
          ¬ Named (writeTombstones store push).1.db tombstone.id := by
  have ids := writeTombstones_ids store push
  have range : ∀ tombstone ∈ (Core.writeTombstones store push).2, store.nextTombstoneId ≤ tombstone.id ∧
        tombstone.id < store.nextTombstoneId + push.carriers.length := by
    intro tombstone member
    have listed : tombstone.id ∈ (Core.writeTombstones store push).2.map (·.id) := List.mem_map_of_mem member
    rw [ids] at listed
    obtain ⟨index, small, same⟩ := List.mem_map.mp listed
    have bounded := List.mem_range.mp small
    omega
  have owned := valid.custody.owned
  refine ⟨⟨⟨valid.custody.orderly.of_same rfl rfl rfl rfl rfl, ?_, ?_, owned.context⟩, ?_⟩, ?_⟩
  · change ((store.db.tombstones ++ (Core.writeTombstones store push).2).map (·.id)).Nodup
    rw [List.map_append]
    refine List.nodup_append.mpr ⟨owned.unique, ?_, ?_⟩
    · rw [ids]
      exact List.nodup_range.map fun _ _ same => Nat.add_left_cancel same
    · intro old oldMember new newMember
      obtain ⟨tombstone, present, rfl⟩ := List.mem_map.mp oldMember
      obtain ⟨other, fresh, rfl⟩ := List.mem_map.mp newMember
      have low := valid.below tombstone present
      have high := (range other fresh).1
      omega
  · intro generation member opened tombstoneId named
    obtain ⟨jobId, held, tombstone, present, carried⟩ := owned.owner generation member opened tombstoneId named
    exact ⟨jobId, held, tombstone, List.mem_append_left _ present, carried⟩
  · intro tombstone member
    rcases List.mem_append.mp member with old | new
    · exact Nat.lt_of_lt_of_le (valid.below tombstone old) (Nat.le_add_right _ _)
    · exact (range tombstone new).2
  · intro tombstone member
    refine ⟨List.mem_append_right _ member, ?_⟩
    rintro ⟨generation, inside, opened, named⟩
    obtain ⟨_, _, other, present, sameId, _⟩ := owned.owner generation inside opened tombstone.id named
    have low := valid.below other present
    have high := (range tombstone member).1
    omega

theorem RemovalStore.Valid.enqueueStaticRouteRemovals
    {after : RemovalStore} (valid : store.Valid) (unnamed : push.document.tombstoneIds = [])
    (enqueued : enqueueStaticRouteRemovals digestDocument store push = .ok after) :
    after.Valid := by
  obtain ⟨stored, fresh⟩ := valid.writeTombstones push
  unfold Core.enqueueStaticRouteRemovals at enqueued
  dsimp only at enqueued
  split at enqueued
  · cases enqueued
    exact stored
  · split at enqueued
    · cases enqueued
    rename_i db finished
    split at enqueued
    · cases enqueued
    cases enqueued
    have result := Custody.foldlM (fun job => ((Core.writeTombstones store push).2.filter fun tombstone =>
        some tombstone.marking == job.1).map (·.id))
      (fun before next job _ custody free stepped =>
        custody.enqueueMarking unnamed free stepped)
      ?_ stored.custody ?_ finished
    · exact stored.of_sameIds result.1 result.2 rfl
    · refine push.markings_distinct.imp fun different tombstoneId second first => ?_
      obtain ⟨right, rightMember, rfl⟩ := List.mem_map.mp second
      obtain ⟨left, leftMember, same⟩ := List.mem_map.mp first
      obtain ⟨rightWritten, rightMarking⟩ := List.mem_filter.mp rightMember
      obtain ⟨leftWritten, leftMarking⟩ := List.mem_filter.mp leftMember
      have equal := stored.custody.owned.eq_of_id (fresh left leftWritten).1 (fresh right rightWritten).1 same
      rw [equal] at leftMarking
      exact different ((beq_iff_eq.mp leftMarking).symm.trans (beq_iff_eq.mp rightMarking))
    · intro job _ tombstoneId carried
      obtain ⟨tombstone, member, rfl⟩ := List.mem_map.mp carried
      exact (fresh tombstone (List.mem_filter.mp member).1).2

theorem settleJobGenerations_inPlace {outcome : GenerationStatus} {error : Option Json}
    (settled : settleJobGenerations db jobId outcome error = .ok after) :
    after.jobs = db.jobs ∧ ∃ update, InPlace update ∧ after.generations = db.generations.map update := by
  rcases settleJobGenerations_cases settled with ⟨_, rfl⟩ | ⟨middle, landed, written, stamped⟩
  · exact ⟨rfl, _, .refl, (List.map_id' _).symm⟩
  · obtain ⟨_, update, inPlace, rfl, _⟩ := terminalizeGenerations_spec written
    rw [stamped]
    exact ⟨rfl, update, inPlace, rfl⟩

theorem terminalize_landed {write : TerminalWrite} (valid : Orderly db) (observed : request.expect.live = true)
    (written : terminalize db jobId request = .ok (after, some write)) :
    (∃ job ∈ db.jobs, job.id = jobId ∧ job.status.live = true) ∧
      (∀ job ∈ after.jobs, job.id = jobId → job.status.live = false) ∧
      ∃ update, InPlace update ∧ after.generations = db.generations.map update := by
  obtain ⟨ended, ⟨missed, _⟩ | ⟨owned, present, owns, settled, settles, landed⟩⟩ := terminalize_cases written
  · cases missed
  have owner := owns
  simp only [ownership, Bool.and_eq_true, beq_iff_eq] at owner
  obtain ⟨sameJobs, update, inPlace, rows⟩ := settleJobGenerations_inPlace settles
  have stopped : ∀ job ∈ settled.jobs, job.id = jobId → job.status.live = false := by
    intro job member same
    rw [sameJobs] at member
    obtain ⟨old, oldMember, rfl⟩ := mem_updateWhere.mp member
    have sameId : old.id = jobId := by
      split at same <;> exact same
    rw [valid.job_unique old oldMember owned present (sameId.trans owner.1.1.symm), if_pos owns]
    exact ended
  refine ⟨⟨owned, present, owner.1.1, by rw [owner.1.2]; exact observed⟩, ?_⟩
  rcases landed with ⟨_, rfl, _⟩ | ⟨_, _, rfl, _⟩
  · exact ⟨stopped, update, inPlace, rows⟩
  · refine ⟨fun job member same => ?_, update, inPlace, rows⟩
    obtain ⟨old, oldMember, rfl⟩ := mem_updateWhere.mp member
    split at same
    · rw [if_pos (by assumption)]
      exact stopped old oldMember same
    · rw [if_neg (by assumption)]
      exact stopped old oldMember same

theorem terminalize_lands (present : job ∈ db.jobs) (ended : request.status.live = false) (terminal : request.outcome.terminal = true)
    (owns : ownership job.id request.expect request.runAttempt job = true) :
    ∃ after write, terminalize db job.id request = .ok (after, some write) := by
  unfold terminalize
  rw [if_neg (by rw [ended]; exact Bool.false_ne_true)]
  cases found : db.jobs.find? (ownership job.id request.expect request.runAttempt) with
  | none =>
    have missed := List.find?_eq_none.mp found job present
    exact absurd owns missed
  | some owned =>
    have settles : ∃ settled, settleJobGenerations (casTerminalStatus db job.id request) job.id
        request.outcome request.error = .ok settled := by
      unfold settleJobGenerations terminalizeGenerations
      have accepted : ¬ request.outcome.terminal = false := by rw [terminal]; exact nofun
      simp only [if_neg accepted]
      split
      · exact ⟨_, rfl⟩
      · split <;> exact ⟨_, rfl⟩
    obtain ⟨settled, settles⟩ := settles
    simp only [settles]
    split
    · exact ⟨_, _, rfl⟩
    · exact ⟨_, _, rfl⟩

theorem RemovalStore.Valid.settleRun {after : RemovalStore} (valid : store.Valid)
    (observed : request.expect.live = true) (settled : settleRun store jobId request = some after) :
    after.Valid := by
  unfold Core.settleRun at settled
  split at settled
  · cases settled
  · cases settled
    exact valid
  · rename_i db write written
    have custodial := Custodial.terminalize written
    have owned := valid.custody.owned.custodial custodial
    have orderly := (Sound.terminalize valid.custody.orderly observed written).orderly
    have below : ∀ tombstone ∈ db.tombstones, tombstone.id < store.nextTombstoneId := by
      rw [custodial.tombstones]
      exact valid.below
    split at settled
    · cases settled
      unfold consumeTombstones
      split
      · exact ⟨⟨orderly, owned⟩, below⟩
      rename_i executing found
      refine ⟨⟨orderly.of_same rfl rfl rfl rfl rfl, ?_, ?_, owned.context⟩, ?_⟩
      · exact owned.unique.sublist (List.filter_sublist.map _)
      · intro row member opened tombstoneId named
        obtain ⟨owner, held, tombstone, present, carried⟩ := owned.owner row member opened tombstoneId named
        refine ⟨owner, held, tombstone, List.mem_filter.mpr ⟨present, ?_⟩, carried⟩
        by_contra consumed
        simp only [Bool.not_eq_true', Bool.not_eq_false, Bool.and_eq_true, beq_iff_eq, List.contains_iff_mem] at consumed
        -- The settled run owned the tombstone, so the open row would be on its ended job.
        obtain ⟨⟨job, jobMember, sameJob, live⟩, stopped, _⟩ := terminalize_landed valid.custody.orderly observed written
        have running := mem_jobGenerations.mp (List.mem_of_getLast? found)
        have executingOpen : executing.status.terminal = false := by
          by_contra terminal
          have dead := valid.custody.orderly.terminal_job running.1 (Bool.not_eq_false _ ▸ terminal) jobMember (sameJob ▸ running.2)
          rw [live] at dead
          cases dead
        obtain ⟨carrierJob, attached, other, otherPresent, sameId, _, otherOwner⟩ :=
          valid.custody.owned.owner executing running.1 executingOpen _ consumed.1
        rw [custodial.tombstones] at present
        rw [valid.custody.owned.eq_of_id otherPresent present sameId, carried.2.2] at otherOwner
        rw [running.2] at attached
        cases attached
        cases otherOwner
        obtain ⟨carrier, carrierMember, carrierId, carrierLive⟩ := orderly.open_job member opened held
        rw [stopped carrier carrierMember carrierId] at carrierLive
        cases carrierLive
      · intro tombstone member
        exact below tombstone (List.mem_filter.mp member).1
    · cases settled
      exact ⟨⟨orderly, owned⟩, below⟩

theorem prepareExecutionAttempt_db {after : RemovalStore} (prepared : prepareExecutionAttempt store jobId = .ok after) :
    after.db = store.db ∧ after.nextTombstoneId = store.nextTombstoneId := by
  unfold prepareExecutionAttempt at prepared
  split at prepared
  · split at prepared
    · cases prepared
    split at prepared
    · cases prepared
      exact ⟨rfl, rfl⟩
    · cases prepared
  · cases prepared

theorem Operation.keepsCarriers_or_retry (outside : operation.outsideRemoval = true) : operation.keepsCarriers = true ∨
      ∃ generationId now, operation = .retryGeneration generationId now := by
  cases operation with
  | createGeneration deviceId content => exact .inl outside
  | retryGeneration generationId now => exact .inr ⟨generationId, now, rfl⟩
  | terminalize jobId request => cases outside
  | _ => exact .inl rfl

theorem RemovalStore.Valid.chain (valid : store.Valid) (outside : operation.outsideRemoval = true)
    (unmoved : (RemovalEvent.chain operation).retriesUnmoved store = true)
    (ran : operation.run digestDocument store.db = some db) :
    RemovalStore.Valid { store with db } := by
  have orderly := (Operation.run_sound valid.custody.orderly ran).orderly
  rcases Operation.keepsCarriers_or_retry outside with keeps | ⟨generationId, now, rfl⟩
  · have custodial := Operation.run_custodial valid.custody.orderly keeps ran
    refine ⟨⟨orderly, valid.custody.owned.custodial custodial⟩, ?_⟩
    rw [custodial.tombstones]
    exact valid.below
  · obtain ⟨job, retried⟩ := toOption_fst_eq_some ran
    refine valid.of_sameIds ⟨orderly, valid.custody.owned.retryGeneration valid.custody.orderly unmoved retried⟩ ?_ rfl
    rcases retryGeneration_cases valid.custody.orderly retried with
      rfl | ⟨head, jobId, update, _, _, _, _, _, _, tombstones⟩
    · rfl
    · rw [tombstones]
      split
      · exact takeOverTombstones_ids ..
      · rfl

theorem RemovalStore.Valid.run {after : RemovalStore}
    {event : RemovalEvent} (valid : store.Valid) (unmoved : event.retriesUnmoved store = true)
    (ran : event.run digestDocument store = some after) : after.Valid := by
  cases event with
  | enqueue push =>
    simp only [RemovalEvent.run] at ran
    split at ran
    · rename_i unnamed
      exact valid.enqueueStaticRouteRemovals (List.isEmpty_iff.mp unnamed) (toOption_eq_some.mp ran)
    · cases ran
  | sweep deviceId document sourcePushSeq now =>
    simp only [RemovalEvent.run] at ran
    split at ran
    · rename_i unnamed
      obtain ⟨custody, sameIds, sameNext⟩ := valid.custody.sweepOneDevice (List.isEmpty_iff.mp unnamed) (toOption_eq_some.mp ran)
      exact valid.of_sameIds custody sameIds sameNext
    · cases ran
  | prepare jobId =>
    obtain ⟨sameDb, sameNext⟩ := prepareExecutionAttempt_db (toOption_eq_some.mp ran)
    refine ⟨sameDb ▸ valid.custody, ?_⟩
    rw [sameDb, sameNext]
    exact valid.below
  | respond jobId runAttempt kind =>
    cases ran
    exact ⟨valid.custody, valid.below⟩
  | settle jobId request =>
    simp only [RemovalEvent.run] at ran
    split at ran
    · exact valid.settleRun (by assumption) ran
    · cases ran
  | chain operation =>
    simp only [RemovalEvent.run] at ran
    split at ran
    · obtain ⟨db, stepped, rfl⟩ := Option.map_eq_some_iff.mp ran
      exact valid.chain (by assumption) unmoved stepped
    · cases ran

theorem RemovalStore.Valid.initial (starts : (removals digestDocument).initial store) : store.Valid := by
  obtain ⟨jobs, generations, tombstones⟩ := starts
  refine ⟨⟨.of_empty jobs generations, ?_, ?_, ?_⟩, ?_⟩
  · rw [tombstones]
    exact List.nodup_nil
  · intro generation member
    rw [generations] at member
    cases member
  · intro generation member
    rw [generations] at member
    cases member
  · intro tombstone member
    rw [tombstones] at member
    cases member

theorem RemovalStore.Valid.owner_of_running (valid : store.Valid)
    (member : generation ∈ store.db.generations) (running : generation.status = .running)
    (attached : generation.jobId = some jobId) {tombstoneId : Nat}
    (named : tombstoneId ∈ generation.document.tombstoneIds) :
    ∃ tombstone ∈ store.db.tombstones, tombstone.id = tombstoneId ∧
      tombstone.deviceId = generation.deviceId ∧ tombstone.jobId = some jobId := by
  obtain ⟨owner, held, carried⟩ := valid.custody.owned.owner generation member (by rw [running]; rfl) tombstoneId named
  cases held.symm.trans attached
  exact carried

theorem RemovalStore.Valid.prepareExecutionAttempt (valid : store.Valid) (present : job ∈ store.db.jobs) (running : job.status = .running)
    (member : generation ∈ store.db.generations) (attached : generation.jobId = some job.id) :
    ∃ prepared, prepareExecutionAttempt store job.id = .ok prepared ∧ prepared.db = store.db := by
  have orderly := valid.custody.orderly
  cases highest : (store.db.jobGenerations job.id).getLast? with
  | none =>
    have empty := List.getLast?_eq_none_iff.mp highest
    exact absurd (empty ▸ mem_jobGenerations.mpr ⟨member, attached⟩) List.not_mem_nil
  | some last =>
    obtain ⟨lastMember, lastAttached⟩ := mem_jobGenerations.mp (List.mem_of_getLast? highest)
    have carries := orderly.carrier_status lastMember present lastAttached
    have lastRunning : last.status = .running := by
      have agreed := carries.status
      rw [running] at agreed
      exact agreed
    have device := carries.device (by rw [running]; rfl)
    have owns : ownsTombstones store.db job (attemptTombstones job last) = true := by
      refine List.all_eq_true.mpr fun tombstoneId listed => ?_
      have named : tombstoneId ∈ last.document.tombstoneIds := by
        unfold attemptTombstones at listed
        split at listed
        · exact List.mem_dedup.mp listed
        · cases listed
      obtain ⟨tombstone, carrier, sameId, sameDevice, owner⟩ := valid.owner_of_running lastMember lastRunning lastAttached named
      refine List.any_eq_true.mpr ⟨tombstone, carrier, ?_⟩
      simp [sameId, sameDevice, device, owner]
    unfold Core.prepareExecutionAttempt
    rw [orderly.job?_eq present, highest]
    dsimp only
    rw [if_neg (not_not.mpr running), if_pos owns]
    exact ⟨_, rfl, rfl⟩

/-- In a run whose retries find their carriers unmoved, a running generation's tombstones are owned
by its job, so its attempt passes the ownership check and its terminal write lands. -/
theorem tombstone_ownership {digestDocument : DocumentDigest} {store : RemovalStore}
    (reached : (removals digestDocument).ReachableUnder (fun store event => event.retriesUnmoved store = true) store)
    {generation : DeploymentGeneration} (member : generation ∈ store.db.generations)
    (running : generation.status = .running) :
    ∃ job ∈ store.db.jobs, generation.jobId = some job.id ∧ job.status = .running ∧
      (∀ tombstoneId ∈ generation.document.tombstoneIds, ∃ tombstone ∈ store.db.tombstones, tombstone.id = tombstoneId ∧
          tombstone.deviceId = generation.deviceId ∧ tombstone.jobId = some job.id) ∧
      ∃ prepared, prepareExecutionAttempt store job.id = .ok prepared ∧
        ∀ request : TerminalRequest, request.status.live = false →
          request.outcome.terminal = true → request.expect = .running →
          ownership job.id .running request.runAttempt job = true →
          ∃ settled, settleRun prepared job.id request = some settled ∧
            ∀ row ∈ settled.db.generations, row.id = generation.id → row.status.terminal = true := by
  have valid : store.Valid := reached.invariant (fun _ => RemovalStore.Valid.initial) fun _ _ _ valid unmoved ran => valid.run unmoved ran
  have orderly := valid.custody.orderly
  obtain ⟨job, present, attached, jobRunning⟩ := orderly.running_job member running
  refine ⟨job, present, attached, jobRunning, fun _ named => valid.owner_of_running member running attached named, ?_⟩
  obtain ⟨prepared, prepares, sameDb⟩ := valid.prepareExecutionAttempt present jobRunning member attached
  refine ⟨prepared, prepares, fun request ended terminal expect owns => ?_⟩
  have observed : request.expect.live = true := by rw [expect]; rfl
  obtain ⟨after, write, written⟩ := terminalize_lands present ended terminal (expect ▸ owns)
  obtain ⟨_, stopped, update, inPlace, rows⟩ := terminalize_landed orderly observed written
  have later := (Sound.terminalize orderly observed written).orderly
  have kept : ∀ row ∈ after.generations, row.id = generation.id → row.status.terminal = true := by
    intro row inside same
    rw [rows] at inside
    obtain ⟨old, oldMember, rfl⟩ := List.mem_map.mp inside
    rw [inPlace.id] at same
    cases orderly.generation_unique old oldMember generation member same
    by_contra opened
    obtain ⟨carrier, carrierMember, carrierId, live⟩ := later.open_job (rows ▸ List.mem_map_of_mem member) (Bool.not_eq_true _ ▸ opened)
      ((inPlace.jobId generation).trans attached)
    rw [stopped carrier carrierMember carrierId] at live
    cases live
  unfold settleRun
  rw [sameDb, written]
  dsimp only
  split
  · refine ⟨_, rfl, ?_⟩
    unfold consumeTombstones
    split
    · exact kept
    · exact kept
  · exact ⟨_, rfl, kept⟩

/-- The composed document of a device with no route left. -/
def emptiedRoutes : Document :=
  [(.staticRoute, ⟨[(.staticRouteIntent, [])], ⟨none, .identity⟩, none, none⟩)]

def deleteRoute : RemovalPush where
  deviceId := 7
  removed
    | .deleteOrigin => [("", "10.0.0.0/8", "192.0.2.1")]
    | .detach => []
  carriers := [⟨5, ("", "10.0.0.0/8", "192.0.2.1"), none, .deleteOrigin, ""⟩]
  retract := false
  cohort := none
  document := emptiedRoutes
  sourcePushSeq := []
  streamRevisions := [(.staticRoute, 1)]
  now := 0

def failedRun : TerminalRequest :=
  ⟨.failed, .running, none, none, none, none, none⟩

def removalStoreEmpty : RemovalStore :=
  ⟨.empty, [], 1⟩

def retriedRemoval : List RemovalEvent :=
  [.enqueue deleteRoute, .chain (.startHead 7 none), .prepare 1, .settle 1 failedRun,
    .sweep 7 emptiedRoutes [] 1, .chain (.retryGeneration 1 2), .chain (.startHead 7 none)]

theorem tombstone_ownership_retried : ∃ store, (removals fun _ _ _ => "").traceUnder
        (fun store event => event.retriesUnmoved store) retriedRemoval removalStoreEmpty =
        some store ∧
      ∃ generation ∈ store.db.generations, generation.status = .running ∧ generation.document.tombstoneIds = [1] ∧
        ∃ job ∈ store.db.jobs, generation.jobId = some job.id ∧
          ∃ prepared, prepareExecutionAttempt store job.id = .ok prepared := by
  have found : ((removals fun _ _ _ => "").traceUnder (fun store event => event.retriesUnmoved store) retriedRemoval removalStoreEmpty).any
      (fun store => store.db.generations.any fun generation =>
        generation.status == .running && generation.document.tombstoneIds == [1]) = true := by
    decide +kernel
  have starts : (removals fun _ _ _ => "").initial removalStoreEmpty := ⟨rfl, rfl, rfl⟩
  obtain ⟨store, executed, hasRunning⟩ := (Option.any_eq_true _ _).mp found
  obtain ⟨generation, member, shape⟩ := List.any_eq_true.mp hasRunning
  simp only [Bool.and_eq_true, beq_iff_eq] at shape
  obtain ⟨job, present, attached, _, _, prepared, prepares, _⟩ := tombstone_ownership (.trace (.initial starts) executed) member shape.1
  exact ⟨store, executed, generation, member, shape.1, shape.2, job, present, attached, prepared, prepares⟩

/-- The removal fails before its attempt is prepared, so the sweeper reissues the
tombstone before the operator retries the failed head. -/
def sweptThenRetried : List RemovalEvent :=
  [.enqueue deleteRoute, .chain (.startHead 7 none), .settle 1 failedRun,
    .sweep 7 emptiedRoutes [] 1, .chain (.retryGeneration 1 2), .chain (.startHead 7 none)]

/-- The retried head runs on job 3 while job 2 owns its tombstone, and its attempt is
refused. -/
theorem swept_tombstone_not_owned : ((removals fun _ _ _ => "").trace sweptThenRetried removalStoreEmpty).any (fun store =>
        (store.db.generations.any fun generation => generation.status == .running &&
          generation.jobId == some 3 && generation.document.tombstoneIds == [1]) &&
        (store.db.tombstones.map fun tombstone => (tombstone.id, tombstone.jobId)) == [(1, some 2)] &&
        match prepareExecutionAttempt store 3 with
        | .ok _ => false
        | .error refused => refused == .attemptOwnershipLost 3) = true := by
  decide +kernel

end NsoAdapter.Core
