import NsoAdapter.Core.ChainWalk
import NsoAdapter.Core.FragmentTables

/-! What a request adds to the chain, as moves: promotions, generations and their
carriers, over one device and under the cohort of the request. -/

namespace NsoAdapter.Core
open Lib Store Projection

def PromotionStore.chain (store : PromotionStore) : DeploymentChain :=
  ⟨store.db, store.nextCohort⟩

structure Serving (cohort : Option Nat) (store : PromotionStore) : Prop where
  orderly : Orderly store.db
  lawful : Lawful store.chain
  own : OwnCohort store.chain store.deviceId cohort

structure Serves (cohort : Option Nat) (kinds : List MoveKind) (store after : PromotionStore) :
    Prop where
  serving : Serving cohort after
  device : after.deviceId = store.deviceId
  moves : Moves kinds store.chain after.chain

/-- A generation of the request that has no job yet. -/
structure Fresh (store : PromotionStore) (generation : DeploymentGeneration) : Prop where
  member : generation ∈ store.db.generations
  unbound : generation.jobId = none
  device : generation.deviceId = store.deviceId

variable {cohort : Option Nat} {kinds wider : List MoveKind} {store middle after : PromotionStore}

namespace Serves

theorem refl (serving : Serving cohort store) : Serves cohort kinds store store := ⟨serving, rfl, .refl _⟩

theorem trans (first : Serves cohort kinds store middle) (second : Serves cohort kinds middle after) : Serves cohort kinds store after :=
  ⟨second.serving, second.device.trans first.device, first.moves.trans second.moves⟩

theorem mono (serves : Serves cohort kinds store after) (weaker : kinds ⊆ wider) : Serves cohort wider store after :=
  ⟨serves.serving, serves.device, serves.moves.mono weaker⟩

theorem of_same (serving : Serving cohort store) (db : after.db = store.db)
    (nextCohort : after.nextCohort = store.nextCohort) (device : after.deviceId = store.deviceId) :
    Serves cohort kinds store after := by
  have same : after.chain = store.chain := by
    unfold PromotionStore.chain
    rw [db, nextCohort]
  refine ⟨⟨?_, ?_, ?_⟩, device, ?_⟩
  · rw [db]
    exact serving.orderly
  · rw [same]
    exact serving.lawful
  · rw [same, device]
    exact serving.own
  · rw [same]
    exact .refl _

theorem updateStreams {kind : MoveKind} (serving : Serving cohort store) {selected : ProjectionStream → Bool}
    {update : DeviceProjectionStream → DeviceProjectionStream}
    (moves : ∀ row ∈ store.db.streams, row.deviceId = store.deviceId →
      selected row.stream = true → StreamMove kind row (update row))
    (idle : kind = .equivalent → ∀ generation ∈ store.db.generations,
      generation.deviceId = store.deviceId → generation.status.crossable = true) :
    Serves cohort [kind] store (store.updateStreams selected update) := by
  have move : Move kind store.chain (store.updateStreams selected update).chain := by
    refine .stream (fun row member chosen => ?_) (fun equivalent row _ chosen generation inside own => ?_)
    · rw [Bool.and_eq_true, beq_iff_eq] at chosen
      exact moves row member chosen.1 chosen.2
    · rw [Bool.and_eq_true, beq_iff_eq] at chosen
      exact idle equivalent generation inside (own.trans chosen.1)
  exact ⟨⟨serving.orderly.of_same rfl rfl rfl rfl rfl, move.lawful serving.lawful, serving.own⟩,
    rfl, .single move (List.mem_singleton_self _)⟩

theorem refreshConsumedCarriers (serving : Serving cohort store) {selected : List Nat}
    (refreshed : refreshConsumedCarriers store selected = .ok after) :
    Serves cohort [.prune] store after ∧
      after = store.updateStreams (fun _ => true) (pruneRow (store.deviceTombstones.map (·.id))) := by
  unfold Core.refreshConsumedCarriers at refreshed
  dsimp only at refreshed
  split at refreshed
  · cases refreshed
    exact ⟨updateStreams serving (fun row _ _ _ => .prune row _) nofun, rfl⟩
  · cases refreshed

end Serves

variable {stream : ProjectionStream} {generation : DeploymentGeneration}

variable {row : DeviceProjectionStream} {promotion : StreamPromotion} {deviceId : Nat}
  {db : Database} {selection : Selection}

theorem streamRow_eq_some (found : store.streamRow stream = some row) :
    row ∈ store.db.streams ∧ row.deviceId = store.deviceId ∧ row.stream = stream := by
  have key := List.find?_some found
  simp only [Bool.and_eq_true, beq_iff_eq] at key
  exact ⟨List.mem_of_find?_eq_some found, key.1, key.2⟩

theorem Keyed.streamRow (keyed : Keyed store.db.streams) (member : row ∈ store.db.streams)
    (device : row.deviceId = store.deviceId) (same : row.stream = stream) :
    store.streamRow stream = some row := by
  unfold PromotionStore.streamRow
  cases found : store.db.streams.find? fun row =>
      row.deviceId == store.deviceId && row.stream == stream with
  | none =>
    have absent := List.find?_eq_none.mp found row member
    simp [device, same] at absent
  | some other =>
    have present := List.mem_of_find?_eq_some found
    have key := List.find?_some found
    simp only [Bool.and_eq_true, beq_iff_eq] at key
    rw [keyed other present row member (key.1.trans device.symm) (key.2.trans same.symm)]

def Current (store : PromotionStore) (stream : ProjectionStream) (revision : Nat) : Prop :=
  ∃ row, store.streamRow stream = some row ∧ selectedRevision row = some revision ∧
    row.authorizedRevision = revision

def Selects (store : PromotionStore) (promotions : List StreamPromotion) : Prop :=
  ∀ promotion ∈ promotions, ∃ row, store.streamRow promotion.stream = some row ∧
    selectedRevision row = some promotion.revision

theorem promoteStream_selects {frozen : Fragments} (promoted : promoteStream store frozen stream = .ok promotion) :
    ∃ row, store.streamRow promotion.stream = some row ∧ selectedRevision row = some promotion.revision := by
  have same := promoteStream_stream promoted
  unfold promoteStream at promoted
  split at promoted
  · split at promoted
    · split at promoted <;> cases promoted
    · cases promoted
  · rename_i row found
    have stream := (streamRow_eq_some found).2.2
    refine ⟨row, same.symm ▸ found, ?_⟩
    unfold selectedRevision
    rw [stream]
    split at promoted
    · rename_i out
      rw [if_pos out]
      split at promoted
      · cases promoted
      · cases promoted
      · rename_i prepared
        cases promoted
        exact prepared
    · rename_i inside
      rw [if_neg inside]
      split at promoted
      · cases promoted
        rfl
      · split at promoted <;> cases promoted
        rfl

def authorizeStream (store : PromotionStore) (promotion : StreamPromotion) : PromotionStore :=
  store.updateStreams (fun stream => stream == promotion.stream) fun row =>
    { row with
      authorizedRevision := promotion.revision
      authorizedDocument := some promotion.fragment }

theorem streamRow_authorizeStream (promotion : StreamPromotion) (stream : ProjectionStream) :
    (authorizeStream store promotion).streamRow stream = (store.streamRow stream).map fun row => if stream == promotion.stream then
        { row with
          authorizedRevision := promotion.revision
          authorizedDocument := some promotion.fragment } else row := by
  refine streamRow_updateStreams store _ _ ?_ ?_ stream
  · exact fun _ => rfl
  · exact fun _ => rfl

theorem Selects.authorizeStream {promotions : List StreamPromotion} (selects : Selects store promotions) :
    Selects (authorizeStream store promotion) promotions := by
  intro other member
  obtain ⟨row, found, revision⟩ := selects other member
  refine ⟨_, by rw [streamRow_authorizeStream, found, Option.map_some], ?_⟩
  split
  · exact revision
  · exact revision

variable {revision : Nat} {existing : List Nat} {job : Job}

theorem Current.authorizeStream (found : store.streamRow promotion.stream = some row)
    (selects : selectedRevision row = some promotion.revision)
    (current : Current store stream revision) :
    Current (authorizeStream store promotion) stream revision := by
  obtain ⟨old, present, selected, authorized⟩ := current
  refine ⟨_, by rw [streamRow_authorizeStream, present, Option.map_some], ?_⟩
  by_cases same : stream = promotion.stream
  · rw [same] at present
    rw [found] at present
    cases present
    rw [selects] at selected
    rw [if_pos (beq_iff_eq.mpr same)]
    exact ⟨selects.trans selected, Option.some.inj selected⟩
  · rw [if_neg fun equal => same (beq_iff_eq.mp equal)]
    exact ⟨selected, authorized⟩

theorem authorizeStreams_current (promotions : List StreamPromotion) (store : PromotionStore) (selects : Selects store promotions) :
    (∀ stream revision, Current store stream revision → Current (authorizeStreams store promotions) stream revision) ∧
    ∀ promotion ∈ promotions, Current (authorizeStreams store promotions) promotion.stream promotion.revision := by
  induction promotions generalizing store with
  | nil => exact ⟨fun _ _ current => current, fun _ member => nomatch member⟩
  | cons promotion promotions ih =>
    obtain ⟨row, found, revision⟩ := selects promotion List.mem_cons_self
    have rest : Selects (authorizeStream store promotion) promotions :=
      Selects.authorizeStream fun later member => selects later (List.mem_cons_of_mem _ member)
    obtain ⟨kept, reached⟩ := ih (authorizeStream store promotion) rest
    refine ⟨fun stream other current =>
      kept stream other (current.authorizeStream found revision), fun other member => ?_⟩
    rcases List.mem_cons.mp member with rfl | later
    · refine kept _ _ ⟨_, by rw [streamRow_authorizeStream, found, Option.map_some], ?_⟩
      rw [if_pos (beq_self_eq_true _)]
      exact ⟨revision, rfl⟩
    · exact reached other later

theorem Serves.authorizeStreams (promotions : List StreamPromotion) (serving : Serving cohort store) (selects : Selects store promotions) :
    Serves cohort [.promote] store (authorizeStreams store promotions) := by
  induction promotions generalizing store with
  | nil => exact refl serving
  | cons promotion promotions ih =>
    have first : Serves cohort [.promote] store (authorizeStream store promotion) := by
      refine updateStreams serving (fun row member device same => ?_) nofun
      obtain ⟨found, lookup, revision⟩ := selects promotion List.mem_cons_self
      rw [serving.lawful.keyed.streamRow member device (beq_iff_eq.mp same)] at lookup
      cases lookup
      exact .promote promotion.fragment revision
    exact first.trans (ih first.serving (Selects.authorizeStream fun later member => selects later (List.mem_cons_of_mem _ member)))

theorem listed_of_current {revisions : List (ProjectionStream × Nat)} (current : ∀ entry ∈ revisions, Current store entry.1 entry.2) :
    Listed store.db store.deviceId revisions := by
  intro entry member
  obtain ⟨row, found, _, authorized⟩ := current entry member
  obtain ⟨present, device, stream⟩ := streamRow_eq_some found
  refine ⟨row, present, ?_, authorized.ge⟩
  unfold streamKey
  rw [device, stream, beq_self_eq_true, beq_self_eq_true]
  rfl

theorem Current.pruned (current : Current store stream revision) :
    Current (store.updateStreams (fun _ => true) (pruneRow existing)) stream revision := by
  obtain ⟨row, found, selected, authorized⟩ := current
  refine ⟨pruneRow existing row, ?_, selected, authorized⟩
  rw [streamRow_updateStreams store _ (pruneRow existing) (fun _ => rfl) (fun _ => rfl), found]
  rfl

namespace Serves

theorem composePromoted (serving : Serving cohort store) {given : Option Document} {promotions : List StreamPromotion} {document : Document}
    (composed : composePromoted store given promotions = .ok (after, document)) :
    Serves cohort [.prune] store after ∧
      ∀ stream revision, Current store stream revision → Current after stream revision := by
  unfold Core.composePromoted at composed
  split at composed
  · cases composed
    exact ⟨refl serving, fun _ _ current => current⟩
  · obtain ⟨current, refreshed, composed⟩ := bind_eq_ok.mp composed
    obtain ⟨document, _, returned⟩ := bind_eq_ok.mp composed
    cases returned
    obtain ⟨serves, rfl⟩ := refreshConsumedCarriers serving refreshed
    exact ⟨serves, fun _ _ current => current.pruned⟩

variable {tombstoneIds dischargedClearIds : List Nat}

variable {generation : DeploymentGeneration}

theorem storeGeneration (serving : Serving cohort store) {digestDocument : DocumentDigest}
    {content : GenerationContent} {immediateClearStreams : List ProjectionStream}
    (listed : Listed store.db store.deviceId content.streamRevisions)
    (reissue : content.streamRevisions = [] → content.removalContext.isSome = true ∧ content.settlementCohort = none)
    (joins : content.settlementCohort = cohort ∨ content.settlementCohort = none)
    (written : store.write (storeGeneration digestDocument store.db store.deviceId content
      tombstoneIds dischargedClearIds immediateClearStreams) = .ok (after, generation)) :
    Serves cohort [.create] store after ∧ Fresh after generation ∧
      generation.mode = content.mode ∧ generation.removalContext = content.removalContext := by
  unfold PromotionStore.write at written
  split at written
  · cases written
  rename_i db stored stores
  cases written
  obtain ⟨document, inserted⟩ := storeGeneration_eq stores
  cases inserted
  have own : OwnCohort store.chain store.deviceId content.settlementCohort := by
    rcases joins with same | none
    · rw [same]
      exact serving.own
    · rw [none]
      exact nofun
  have move : Move .create store.chain ⟨(insertGeneration digestDocument store.db store.deviceId { content with document }).1,
        store.nextCohort⟩ := .create digestDocument listed reissue own
  refine ⟨⟨⟨serving.orderly.insertGeneration .., move.lawful serving.lawful, ?_⟩, rfl, .single move (List.mem_singleton_self _)⟩,
    ⟨List.mem_append_right _ (List.mem_singleton_self _), rfl, rfl⟩, rfl, rfl⟩
  intro named same
  refine ⟨(serving.own named same).1, fun row located joined => ?_⟩
  rcases List.mem_append.mp located with old | new
  · exact (serving.own named same).2 row old joined
  · rw [List.mem_singleton.mp new]
    exact ⟨rfl, rfl⟩

/-- The promoted streams are listed at what they are authorized at. -/
theorem createGeneration {env : Environment} {request : GenerationRequest} (serving : Serving cohort store)
    (joins : request.settlementCohort = cohort)
    (created : createGeneration env store request = .ok (after, generation)) :
    Serves cohort [.prune, .promote, .create] store after ∧ Fresh after generation ∧
      generation.mode = request.mode ∧ generation.removalContext = request.removalContext := by
  unfold Core.createGeneration at created
  split at created
  · cases created
  rename_i nonempty
  obtain ⟨refreshed, refresh, created⟩ := bind_eq_ok.mp created
  obtain ⟨promotions, promoted, created⟩ := bind_eq_ok.mp created
  obtain ⟨⟨composed, document⟩, composes, written⟩ := bind_eq_ok.mp created
  have selects : Selects refreshed promotions := by
    intro promotion member
    obtain ⟨stream, _, promotes⟩ := exists_of_mem_mapM promoted member
    exact promoteStream_selects promotes
  obtain ⟨first, _⟩ := refreshConsumedCarriers serving refresh
  have second := authorizeStreams promotions first.serving selects
  obtain ⟨third, kept⟩ := composePromoted second.serving composes
  have current := (authorizeStreams_current promotions refreshed selects).2
  have listed : Listed composed.db composed.deviceId (request.content promotions document).streamRevisions := by
    refine listed_of_current fun entry member => ?_
    obtain ⟨promotion, inside, rfl⟩ := List.mem_map.mp member
    exact kept _ _ (current promotion inside)
  -- A request names a stream, so its generation lists a revision.
  have promotes : (request.content promotions document).streamRevisions ≠ [] := by
    intro unlisted
    have nothing : promotions = [] := List.map_eq_nil_iff.mp unlisted
    have streams := promoteStreams_streams promoted
    rw [nothing] at streams
    obtain ⟨stream, member⟩ := List.exists_mem_of_ne_nil request.streams fun empty => nonempty (List.isEmpty_iff.mpr empty)
    have sorted := mem_sortedStreams.mpr member
    rw [← streams] at sorted
    cases sorted
  obtain ⟨fourth, fresh, mode, context⟩ := storeGeneration third.serving listed
    (fun unlisted => absurd unlisted promotes) (.inl joins) written
  exact ⟨(((first.mono (by simp)).trans (second.mono (by simp))).trans
    (third.mono (by simp))).trans (fourth.mono (by simp)), fresh, mode, context⟩

/-- `create_reissue_generation` promotes nothing and joins no cohort. -/
theorem createReissueGeneration {env : Environment} {mode : GenerationMode}
    {context : RemovalContext} {allowedRemovalKeys : RemovalAuthority}
    (serving : Serving cohort store)
    (created : createReissueGeneration env store mode (some context) allowedRemovalKeys
      tombstoneIds dischargedClearIds = .ok (after, generation)) :
    Serves cohort [.prune, .create] store after ∧ Fresh after generation ∧
      generation.mode = mode ∧ generation.removalContext = some context := by
  obtain ⟨refreshed, refresh, created⟩ := bind_eq_ok.mp created
  obtain ⟨document, _, written⟩ := bind_eq_ok.mp created
  obtain ⟨first, _⟩ := refreshConsumedCarriers serving refresh
  have unlisted : Listed refreshed.db refreshed.deviceId [] := fun _ member => nomatch member
  obtain ⟨second, fresh, sameMode, sameContext⟩ := storeGeneration first.serving unlisted (fun _ => ⟨rfl, rfl⟩) (.inr rfl) written
  exact ⟨(first.mono (by simp)).trans (second.mono (by simp)), fresh, sameMode, sameContext⟩

end Serves

theorem OwnCohort.bind {chain : DeploymentChain} (valid : Identified chain.db) (own : OwnCohort chain deviceId cohort) (jobId : Nat)
    (member : generation ∈ chain.db.generations) :
    OwnCohort { chain with db := bindToJob chain.db generation.id jobId } deviceId cohort := by
  intro named same
  obtain ⟨below, members⟩ := own named same
  refine ⟨below, fun row located joined => ?_⟩
  rcases mem_bindToJob valid member located with rfl | ⟨old, _⟩
  · exact members generation member joined
  · exact members row old joined

theorem Fits.of_attached {bound : Database} (carriers : Carriers db) (type : job.jobType = carrierType generation)
    (accepted : attachToJob db generation job = .ok (bound, true)) : Fits db job generation := by
  refine ⟨type, ?_⟩
  unfold attachToJob at accepted
  cases highest : (db.jobGenerations job.id).getLast? with
  | none =>
    refine .inl fun row member held => ?_
    have empty := List.getLast?_eq_none_iff.mp highest
    exact List.not_mem_nil (empty ▸ mem_jobGenerations.mpr ⟨member, held⟩)
  | some last =>
    rw [highest] at accepted
    dsimp only at accepted
    split at accepted
    · cases accepted
    rename_i coalesces
    split at accepted
    · cases accepted
    rename_i mode
    obtain ⟨present, carried⟩ := mem_jobGenerations.mp (List.mem_of_getLast? highest)
    refine .inr ⟨Bool.not_eq_false _ ▸ coalesces, fun row member held => ?_⟩
    exact (carriers.mode row member last present _ held carried).trans (not_not.mp mode)

namespace Serves

variable {job : Job} {jobType : JobType}

theorem attachToJob (serving : Serving cohort store) {generation : DeploymentGeneration}
    {db : Database} {attached : Bool} (fresh : Fresh store generation)
    (present : job ∈ store.db.jobs) (queued : job.status = .queued)
    (device : job.deviceId = some store.deviceId) (type : job.jobType = carrierType generation)
    (accepted : attachToJob store.db generation job = .ok (db, attached)) :
    Serves cohort [.bind] store { store with db } := by
  have sound := Sound.attach serving.orderly fresh.member fresh.unbound present queued (fresh.device ▸ device) accepted
  cases attached with
  | false =>
    rcases attachToJob_cases accepted with ⟨_, rfl⟩ | ⟨refused, _⟩
    · exact refl serving
    · cases refused
  | true =>
    have fits := Fits.of_attached serving.lawful.carriers type accepted
    rcases attachToJob_cases accepted with ⟨refused, _⟩ | ⟨_, rfl, _⟩
    · cases refused
    · have move :
  Move .bind store.chain ⟨bindToJob store.db generation.id job.id, store.nextCohort⟩ := .bind fresh.member present fits
      exact ⟨⟨sound.orderly, move.lawful serving.lawful, serving.own.bind serving.lawful.identified job.id fresh.member⟩, rfl,
        .single move (List.mem_singleton_self _)⟩

theorem insertJob (serving : Serving cohort store) (deviceId : Option Nat) {coalescible : Bool}
    (context : Option JobContext) (now : Nat) (dedicated : jobType = .removal → coalescible = false) :
    Serves cohort [.job] store { store with db := (insertJob store.db deviceId jobType coalescible context now).1 } := by
  have move : Move .job store.chain ⟨(Core.insertJob store.db deviceId jobType coalescible context now).1, store.nextCohort⟩ :=
    .job store.chain deviceId context now dedicated
  exact ⟨⟨serving.orderly.insertJob .., move.lawful serving.lawful, serving.own⟩, rfl, .single move (List.mem_singleton_self _)⟩

theorem attachDedicatedJob (serving : Serving cohort store) {generation : DeploymentGeneration}
    {context : Option JobContext} {now : Nat} {db : Database} (fresh : Fresh store generation)
    (type : jobType = carrierType generation)
    (carried : attachDedicatedJob store.db store.deviceId jobType context generation now =
      .ok (db, job)) : Serves cohort [.job, .bind] store { store with db } := by
  obtain ⟨rfl, accepted⟩ := attachDedicatedJob_eq carried
  have inserted : Serves cohort [.job] store
      { store with db := (Core.insertJob store.db (some store.deviceId) jobType false context now).1 } :=
    insertJob serving (some store.deviceId) context now fun _ => rfl
  have bound := attachToJob inserted.serving ⟨fresh.member, fresh.unbound, fresh.device⟩
    (List.mem_append_right _ (List.mem_singleton_self _)) rfl rfl type accepted
  exact (inserted.mono (by simp)).trans (bound.mono (by simp))

end Serves

theorem admitCoalescibleJob_type {admitted : Database} {now : Nat} {jobType : JobType} {context : Option JobContext}
    (admits : admitCoalescibleJob db deviceId jobType context now = .ok (admitted, job)) :
    job.jobType = jobType := by
  unfold admitCoalescibleJob at admits
  split at admits
  · cases admits
  split at admits
  · rename_i winner found
    cases admits
    have member := mem_of_head?_orderBy found
    simp only [List.mem_filter, Bool.and_eq_true, beq_iff_eq] at member
    exact member.2.1.1.2
  · cases admits
    rfl

namespace Serves

theorem admitCoalescedApply (serving : Serving cohort store) {generation : DeploymentGeneration}
    {now : Nat} {db : Database} {job : Job} (fresh : Fresh store generation)
    (type : carrierType generation = .apply)
    (admitted : admitCoalescedApply store.db generation now = .ok (db, job)) :
    Serves cohort [.job, .bind] store { store with db } := by
  unfold Core.admitCoalescedApply at admitted
  split at admitted
  · cases admitted
  split at admitted
  · cases admitted
  rename_i joined candidate admits
  have apply := (admitCoalescibleJob_type admits).trans type.symm
  split at admitted
  · cases admitted
  rename_i attached accepted
  cases admitted
  rcases admitCoalescibleJob_cases admits with ⟨rfl, present, device, queued⟩ | inserted
  · exact (attachToJob serving fresh present queued (device.trans (congrArg some fresh.device)) apply accepted).mono (by simp)
  · cases inserted
    have inserts : Serves cohort [.job] store { store with
        db := (Core.insertJob store.db (some generation.deviceId) .apply true none now).1 } :=
      insertJob serving (some generation.deviceId) none now nofun
    have binds := attachToJob inserts.serving ⟨fresh.member, fresh.unbound, fresh.device⟩
      (List.mem_append_right _ (List.mem_singleton_self _)) rfl
      (congrArg some fresh.device) apply accepted
    exact (inserts.mono (by simp)).trans (binds.mono (by simp))

theorem admitApplyGeneration (serving : Serving cohort store) {generation : DeploymentGeneration}
    {now : Nat} (fresh : Fresh store generation) (type : carrierType generation = .apply)
    (admitted : store.over (admitApplyGeneration store.db generation now) = .ok after) :
    Serves cohort [.job, .bind] store after := by
  unfold PromotionStore.over at admitted
  split at admitted
  · cases admitted
  rename_i db job carried
  cases admitted
  unfold Core.admitApplyGeneration at carried
  split at carried
  · rw [fresh.device] at carried
    exact attachDedicatedJob serving fresh type.symm carried
  · exact admitCoalescedApply serving fresh type carried

end Serves

theorem recordPendingClear_same (recorded : recordPendingClear store stream = .ok after) :
    after.db = store.db ∧ after.nextCohort = store.nextCohort ∧ after.deviceId = store.deviceId := by
  unfold recordPendingClear at recorded
  split at recorded
  · cases recorded
  · split at recorded <;> cases recorded <;> exact ⟨rfl, rfl, rfl⟩

theorem recordDeferredClears_same {admission : RemovalAdmission} (recorded : recordDeferredClears store admission = .ok after) :
    after.db = store.db ∧ after.nextCohort = store.nextCohort ∧ after.deviceId = store.deviceId := by
  unfold recordDeferredClears at recorded
  split at recorded
  · refine foldlM_ok (fun current => current.db = store.db ∧ current.nextCohort = store.nextCohort ∧
      current.deviceId = store.deviceId) ?_ ⟨rfl, rfl, rfl⟩ recorded
    intro stream _ before next held stepped
    obtain ⟨db, nextCohort, device⟩ := recordPendingClear_same stepped
    exact ⟨db.trans held.1, nextCohort.trans held.2.1, device.trans held.2.2⟩
  · cases recorded
    exact ⟨rfl, rfl, rfl⟩

theorem settlePendingClears_same (store : PromotionStore) (scope : DocumentSection)
    (promotes : List ProjectionStream) (mode : GenerationMode) (force : Bool) :
    (settlePendingClears store scope promotes mode force).db = store.db ∧
      (settlePendingClears store scope promotes mode force).nextCohort = store.nextCohort ∧
      (settlePendingClears store scope promotes mode force).deviceId = store.deviceId := by
  unfold settlePendingClears
  split
  · exact ⟨rfl, rfl, rfl⟩
  · split <;> exact ⟨rfl, rfl, rfl⟩

theorem carrierType_removal {context : RemovalContext}
    (removal : generation.removalContext = some context) : carrierType generation = .removal := by
  unfold carrierType
  rw [removal]
  rfl

theorem carrierType_apply (context : generation.removalContext = none) (mode : generation.mode = .networked) :
    carrierType generation = .apply := by
  unfold carrierType
  rw [context, mode]
  rfl

def enqueueKinds : List MoveKind :=
  [.prune, .promote, .create, .job, .bind]

namespace Serves

variable {env : Environment} {plan : ChainPlan} {generations : List DeploymentGeneration}

variable {admission : RemovalAdmission} {union authority : RemovalAuthority}
  {streams : List ProjectionStream}

variable {generation : DeploymentGeneration}

theorem createRemovalGeneration {dischargedClearIds : List Nat}
    (serving : Serving cohort store) (joins : admission.settlementCohort = cohort)
    (created : createRemovalGeneration env store admission dischargedClearIds = .ok (after, generation)) :
    Serves cohort enqueueKinds store after ∧ Fresh after generation ∧
      generation.removalContext = some admission.request.context := by
  unfold Core.createRemovalGeneration at created
  dsimp only at created
  split at created
  · obtain ⟨serves, fresh, _, context⟩ := createReissueGeneration serving created
    exact ⟨serves.mono (by simp [enqueueKinds]), fresh, context⟩
  · obtain ⟨serves, fresh, _, context⟩ := createGeneration serving joins created
    exact ⟨serves.mono (by simp [enqueueKinds]), fresh, context⟩

theorem enqueueRemoval (serving : Serving cohort store) (joins : admission.settlementCohort = cohort)
    (enqueued : enqueueRemoval env store admission = .ok (after, generation)) :
    Serves cohort enqueueKinds store after := by
  unfold Core.enqueueRemoval at enqueued
  dsimp only at enqueued
  split at enqueued
  · cases enqueued
  obtain ⟨recorded, records, enqueued⟩ := bind_eq_ok.mp enqueued
  obtain ⟨⟨created, fresh⟩, creates, enqueued⟩ := bind_eq_ok.mp enqueued
  obtain ⟨carried, carries, returned⟩ := bind_eq_ok.mp enqueued
  cases returned
  obtain ⟨db, nextCohort, device⟩ := recordDeferredClears_same records
  have first : Serves cohort enqueueKinds store recorded := of_same serving db nextCohort device
  obtain ⟨second, unbound, context⟩ := createRemovalGeneration first.serving joins creates
  have third : Serves cohort enqueueKinds created carried := by
    unfold PromotionStore.over at carries
    split at carries
    · cases carries
    rename_i db job attaches
    cases carries
    exact (attachDedicatedJob second.serving unbound (carrierType_removal context).symm attaches).mono (by simp [enqueueKinds])
  obtain ⟨settledDb, settledCohort, settledDevice⟩ := settlePendingClears_same carried
    admission.request.scope admission.promotes admission.request.mode admission.request.force
  exact ((first.trans second).trans third).trans (of_same third.serving settledDb settledCohort settledDevice)

theorem enqueueLinks {links : List ClassifiedLink} (serving : Serving plan.cohort store)
    (enqueued : links.foldlM (enqueueLink env plan union) (store, []) = .ok (after, generations)) :
    Serves plan.cohort enqueueKinds store after := by
  refine foldlM_ok (fun progress => Serves plan.cohort enqueueKinds store progress.1) ?_ (refl serving) enqueued
  intro classified _ before next held stepped
  obtain ⟨⟨removed, generation⟩, removes, returned⟩ := bind_eq_ok.mp stepped
  cases returned
  exact held.trans (enqueueRemoval held.serving rfl removes)

theorem enqueueActionRemovalLinks {links : List RemovalLink} (serving : Serving plan.cohort store)
    (enqueued : enqueueActionRemovalLinks env plan store links authority =
      .ok (after, generations, union)) : Serves plan.cohort enqueueKinds store after := by
  obtain ⟨classified, _, enqueued⟩ := bind_eq_ok.mp enqueued
  obtain ⟨⟨removed, made⟩, removes, returned⟩ := bind_eq_ok.mp enqueued
  cases returned
  exact enqueueLinks serving removes

theorem applyGeneration {request : GenerationRequest} {created : PromotionStore} (serving : Serving cohort store)
    (joins : request.settlementCohort = cohort) (networked : request.mode = .networked)
    (plain : request.removalContext = none)
    (creates : Core.createGeneration env store request = .ok (created, generation))
    (admits : created.over (Core.admitApplyGeneration created.db generation env.now) = .ok after) :
    Serves cohort enqueueKinds store after := by
  obtain ⟨first, fresh, mode, context⟩ := createGeneration serving joins creates
  have second := admitApplyGeneration first.serving fresh (carrierType_apply (context.trans plain) (mode.trans networked)) admits
  exact (first.mono (by simp [enqueueKinds])).trans (second.mono (by simp [enqueueKinds]))

theorem enqueueApplies (serving : Serving plan.cohort store)
    (enqueued : enqueueApplies env plan store streams authority = .ok (after, generations)) :
    Serves plan.cohort enqueueKinds store after := by
  unfold Core.enqueueApplies at enqueued
  split at enqueued
  · cases enqueued
    exact refl serving
  · obtain ⟨⟨applied, generation⟩, applies, returned⟩ := bind_eq_ok.mp enqueued
    cases returned
    obtain ⟨⟨created, made⟩, creates, applies⟩ := bind_eq_ok.mp applies
    obtain ⟨admitted, admits, returned⟩ := bind_eq_ok.mp applies
    cases returned
    exact applyGeneration serving rfl rfl rfl creates admits

theorem enqueueChain {actions : ActionPlan} (serving : Serving plan.cohort store)
    (enqueued : enqueueChain env plan actions store streams authority = .ok (after, generations)) :
    Serves plan.cohort enqueueKinds store after := by
  obtain ⟨⟨removed, networked, union⟩, removes, enqueued⟩ := bind_eq_ok.mp enqueued
  obtain ⟨⟨applied, made⟩, applies, enqueued⟩ := bind_eq_ok.mp enqueued
  obtain ⟨⟨detached, last, own⟩, detaches, returned⟩ := bind_eq_ok.mp enqueued
  cases returned
  have first := enqueueActionRemovalLinks serving removes
  have second := enqueueApplies first.serving applies
  exact (first.trans second).trans (enqueueActionRemovalLinks second.serving detaches)

end Serves

def Promotion.Selected (store : PromotionStore) (promotion : Promotion) : Prop :=
  ∃ row, store.streamRow promotion.stream = some row ∧
    selectedRevision row = some (promotion.revision.getD promotion.row.desiredRevision)

theorem streamRow_settleWireEquivalent (promotion : Promotion) (stream : ProjectionStream) :
    (settleWireEquivalent store promotion).streamRow stream = (store.streamRow stream).map fun row => if stream == promotion.stream then
        { row with
          authorizedRevision := promotion.revision.getD promotion.row.desiredRevision
          appliedRevision := promotion.revision.getD promotion.row.desiredRevision
          authorizedDocument := some promotion.desired } else row := by
  refine streamRow_updateStreams store _ _ ?_ ?_ stream
  · exact fun _ => rfl
  · exact fun _ => rfl

variable {promotion : Promotion}

theorem Promotion.Selected.settleWireEquivalent {settled : Promotion} (selected : promotion.Selected store) :
    promotion.Selected (settleWireEquivalent store settled) := by
  obtain ⟨row, found, revision⟩ := selected
  refine ⟨_, by rw [streamRow_settleWireEquivalent, found, Option.map_some], ?_⟩
  split
  · exact revision
  · exact revision

theorem crossable_of_no_head (headless : executableHead db deviceId = none)
    (member : generation ∈ db.generations) (device : generation.deviceId = deviceId) :
    generation.status.crossable = true := by
  have empty := orderBy_eq_nil.mp (List.head?_eq_none_iff.mp headless)
  have unselected := List.filter_eq_nil_iff.mp empty generation member
  simpa [device] using unselected

namespace Serves

theorem settleWireEquivalent {promotion : Promotion} (serving : Serving cohort store) (selected : promotion.Selected store)
    (settles : canSettleWireEquivalent store promotion = true) :
    Serves cohort [.equivalent] store (settleWireEquivalent store promotion) := by
  unfold Core.settleWireEquivalent
  refine updateStreams serving (fun row member device same => ?_) fun _ generation inside own => ?_
  · obtain ⟨found, lookup, revision⟩ := selected
    rw [serving.lawful.keyed.streamRow member device (beq_iff_eq.mp same)] at lookup
    cases lookup
    exact .equivalent promotion.desired revision
  · unfold canSettleWireEquivalent at settles
    rw [Bool.and_eq_true] at settles
    exact crossable_of_no_head (Option.isNone_iff_eq_none.mp settles.2) inside own

theorem settleEquivalents (promotions : List Promotion)
    (progress : PromotionStore × List ProjectionStream) (serving : Serving cohort progress.1)
    (selected : ∀ promotion ∈ promotions, promotion.Selected progress.1) :
    Serves cohort [.equivalent] progress.1 (promotions.foldl settleIfEquivalent progress).1 := by
  induction promotions generalizing progress with
  | nil => exact refl serving
  | cons promotion promotions ih =>
    have later : ∀ other ∈ promotions, other.Selected progress.1 := fun other member => selected other (List.mem_cons_of_mem _ member)
    rw [List.foldl_cons]
    unfold settleIfEquivalent
    split
    · rename_i settles
      have first := settleWireEquivalent serving (selected promotion List.mem_cons_self) settles
      exact first.trans (ih (Core.settleWireEquivalent progress.1 promotion, _) first.serving
        fun other member => (later other member).settleWireEquivalent)
    · exact ih progress serving later

theorem allocateCohort (serving : Serving none store) (linkCount : Nat) :
    Serving (allocateCohort store linkCount).2 (allocateCohort store linkCount).1 ∧
      (allocateCohort store linkCount).1.deviceId = store.deviceId ∧
      Moves [.cohort] store.chain (allocateCohort store linkCount).1.chain := by
  unfold Core.allocateCohort
  split
  · have move : Move .cohort store.chain ⟨store.db, store.nextCohort + 1⟩ := .cohort store.chain
    refine ⟨⟨serving.orderly, move.lawful serving.lawful, ?_⟩, rfl, .single move (List.mem_singleton_self _)⟩
    intro named same
    cases same
    refine ⟨Nat.lt_succ_self _, fun row member joined => ?_⟩
    exact absurd (serving.lawful.cohorts row member _ joined) (Nat.lt_irrefl _)
  · exact ⟨serving, rfl, .refl _⟩

theorem ended (serves : Serves cohort kinds store after) : Serves none kinds store after :=
  ⟨⟨serves.serving.orderly, serves.serving.lawful, nofun⟩, serves.device, serves.moves⟩

end Serves

def Selection.Prepared (store : PromotionStore) (selection : Selection) : Prop :=
  ∀ revision, selection.revision = some revision →
    ∃ row, store.streamRow selection.stream = some row ∧ row.preparedRevision = some revision

theorem promotionOf_row (promoted : promotionOf store selection = .ok promotion) : store.streamRow selection.stream = some promotion.row ∧
      promotion.revision = selection.revision := by
  unfold promotionOf at promoted
  split at promoted
  · cases promoted
  rename_i row found
  split at promoted
  · rename_i receipt
    obtain ⟨desired, _, promoted⟩ := bind_eq_ok.mp promoted
    obtain ⟨deletions, _, promoted⟩ := bind_eq_ok.mp promoted
    obtain ⟨replacement, _, promoted⟩ := bind_eq_ok.mp promoted
    obtain ⟨positive, _, returned⟩ := bind_eq_ok.mp promoted
    cases returned
    exact ⟨found, receipt.symm⟩
  · rename_i revision prepared
    obtain ⟨desired, _, promoted⟩ := bind_eq_ok.mp promoted
    obtain ⟨replacement, _, promoted⟩ := bind_eq_ok.mp promoted
    obtain ⟨positive, _, returned⟩ := bind_eq_ok.mp promoted
    cases returned
    exact ⟨found, prepared.symm⟩

theorem promotionOf_selected (prepared : selection.Prepared store)
    (promoted : promotionOf store selection = .ok promotion) : promotion.Selected store := by
  obtain ⟨found, revision⟩ := promotionOf_row promoted
  have same := promotionOf_stream promoted
  have stream := (streamRow_eq_some found).2.2
  refine ⟨promotion.row, same.symm ▸ found, ?_⟩
  unfold selectedRevision
  rw [stream, ← selection.prepared, revision]
  cases named : selection.revision with
  | none => rfl
  | some number =>
    obtain ⟨row, lookup, slot⟩ := prepared number named
    rw [found] at lookup
    cases lookup
    exact slot

theorem Selection.Prepared.pruned (prepared : selection.Prepared store) :
    selection.Prepared (store.updateStreams (fun _ => true) (pruneRow existing)) := by
  intro revision named
  obtain ⟨row, found, slot⟩ := prepared revision named
  refine ⟨pruneRow existing row, ?_, slot⟩
  rw [streamRow_updateStreams store _ (pruneRow existing) (fun _ => rfl) (fun _ => rfl), found]
  rfl

def chainKinds : List MoveKind :=
  [.prune, .promote, .create, .job, .bind, .equivalent, .cohort]

namespace Serves

variable {applyAttemptId : Option Nat} {result : ActionApplyResult}

theorem deliverPromotions {env : Environment} {promotions : List Promotion}
    (serving : Serving none store) (selected : ∀ promotion ∈ promotions, promotion.Selected store)
    (delivered : deliverPromotions env store promotions applyAttemptId = .ok result) :
    Serves none chainKinds store result.store := by
  obtain ⟨authority, _, delivered⟩ := bind_eq_ok.mp delivered
  obtain ⟨⟨intermediateDocument, finalDocument⟩, _, delivered⟩ := bind_eq_ok.mp delivered
  obtain ⟨actions, _, delivered⟩ := bind_eq_ok.mp delivered
  obtain ⟨⟨enqueued, generations⟩, chain, returned⟩ := bind_eq_ok.mp delivered
  cases returned
  have settles := settleEquivalents (promotions.filter fun promotion =>
      actions.wireEquivalentStreams.contains promotion.stream) (store, []) serving
    fun promotion member => selected promotion (List.mem_filter.mp member).1
  obtain ⟨allocated, device, cohorts⟩ := allocateCohort settles.serving _
  have links := enqueueChain allocated chain
  have consumed : Serves none chainKinds enqueued (consumeReceipts enqueued promotions) := of_same links.ended.serving rfl rfl rfl
  refine ⟨consumed.serving, ?_, ?_⟩
  · exact consumed.device.trans (links.device.trans (device.trans settles.device))
  · exact (((settles.moves.mono (by simp [chainKinds])).trans (cohorts.mono (by simp [chainKinds]))).trans
      (links.moves.mono (by simp [enqueueKinds, chainKinds]))).trans consumed.moves

theorem createApplyChain {env : Environment} {selections : List Selection}
    (serving : Serving none store) (prepared : ∀ selection ∈ selections, selection.Prepared store)
    (created : createApplyChain env store selections applyAttemptId = .ok result) :
    Serves none chainKinds store result.store := by
  obtain ⟨⟨refreshed, promotions⟩, frozen, delivered⟩ := bind_eq_ok.mp created
  obtain ⟨middle, refresh, frozen⟩ := bind_eq_ok.mp frozen
  obtain ⟨frozenPromotions, promoted, returned⟩ := bind_eq_ok.mp frozen
  cases returned
  -- Authorizing the parked clears rewrites intent rows only.
  have clears : Serves none chainKinds store (if selections.any fun selection => selection.stream == .staticRoute then
        promoteStaticRouteClears store else store) := by
    split
    · exact of_same serving rfl rfl rfl
    · exact refl serving
  have same : ∀ selection ∈ selections, selection.Prepared (if selections.any fun selection => selection.stream == .staticRoute then
        promoteStaticRouteClears store else store) := by
    split
    · exact prepared
    · exact prepared
  obtain ⟨first, rfl⟩ := refreshConsumedCarriers clears.serving refresh
  refine (clears.trans (first.mono (by simp [chainKinds]))).trans (deliverPromotions first.serving (fun promotion member => ?_) delivered)
  obtain ⟨selection, inside, promotes⟩ := exists_of_mem_mapM promoted member
  exact promotionOf_selected (same selection inside).pruned promotes

end Serves

end NsoAdapter.Core
