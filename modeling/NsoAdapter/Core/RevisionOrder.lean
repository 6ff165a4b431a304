import NsoAdapter.Core.CarrierShape

/-! The order of a stream's revisions. A settlement may stamp a revision long after newer
ones were promoted, so the invariant says of every generation that what it lists is
authorized. -/

namespace NsoAdapter.Core
open Lib Store Projection

structure RowOrder (row : DeviceProjectionStream) : Prop where
  applied : row.appliedRevision ≤ row.authorizedRevision
  authorized : row.authorizedRevision ≤ row.desiredRevision
  prepared : ∀ revision, row.preparedRevision = some revision → revision ≤ row.desiredRevision
  slot : row.stream.outOfProtocol = true → ∀ revision, row.preparedRevision = some revision →
    row.authorizedRevision ≤ revision

/-- A row and a later version of it. -/
structure RowGrows (row later : DeviceProjectionStream) : Prop where
  deviceId : later.deviceId = row.deviceId
  stream : later.stream = row.stream
  desired : row.desiredRevision ≤ later.desiredRevision
  authorized : row.authorizedRevision ≤ later.authorizedRevision
  applied : row.appliedRevision ≤ later.appliedRevision
  prepared : ∀ revision, row.preparedRevision = some revision →
    ∃ newer, later.preparedRevision = some newer ∧ revision ≤ newer

theorem RowGrows.refl (row : DeviceProjectionStream) : RowGrows row row :=
  ⟨rfl, rfl, le_refl _, le_refl _, le_refl _, fun revision slot => ⟨revision, slot, le_refl _⟩⟩

theorem RowGrows.trans {first second third : DeviceProjectionStream}
    (before : RowGrows first second) (after : RowGrows second third) : RowGrows first third := by
  refine ⟨after.deviceId.trans before.deviceId, after.stream.trans before.stream,
    before.desired.trans after.desired, before.authorized.trans after.authorized,
    before.applied.trans after.applied, fun revision slot => ?_⟩
  obtain ⟨newer, middle, older⟩ := before.prepared revision slot
  obtain ⟨newest, last, old⟩ := after.prepared newer middle
  exact ⟨newest, last, older.trans old⟩

variable {row : DeviceProjectionStream} {before after : DeploymentChain} {env : Environment}
  {db : Database} {jobId : Nat} {adapter : Adapter}

theorem RowOrder.selected (order : RowOrder row) {revision : Nat} (selects : selectedRevision row = some revision) :
    row.authorizedRevision ≤ revision ∧ revision ≤ row.desiredRevision ∧
      (row.stream.outOfProtocol = true → row.preparedRevision = some revision) := by
  unfold selectedRevision at selects
  split at selects
  · rename_i out
    exact ⟨order.slot out revision selects, order.prepared revision selects, fun _ => selects⟩
  · rename_i inside
    cases selects
    exact ⟨order.authorized, le_refl _, fun out => absurd out inside⟩

variable {kind : MoveKind} {chain : DeploymentChain} {error : Option Json}

theorem StreamMove.ordered {after : DeviceProjectionStream} (order : RowOrder row) (move : StreamMove kind row after) :
    RowOrder after ∧ RowGrows row after := by
  cases move with
  | prune existing =>
    exact ⟨⟨order.applied, order.authorized, order.prepared, order.slot⟩,
      ⟨rfl, rfl, le_refl _, le_refl _, le_refl _, fun revision slot => ⟨revision, slot, le_refl _⟩⟩⟩
  | write pushSeq =>
    have next : row.desiredRevision ≤ row.desiredRevision + 1 := Nat.le_succ _
    exact ⟨⟨order.applied, order.authorized.trans next, fun revision slot => (order.prepared revision slot).trans next, order.slot⟩,
      ⟨rfl, rfl, next, le_refl _, le_refl _, fun revision slot => ⟨revision, slot, le_refl _⟩⟩⟩
  | prepare tables deletions =>
    refine ⟨⟨order.applied, order.authorized, ?_, ?_⟩, ⟨rfl, rfl, le_refl _, le_refl _, le_refl _, ?_⟩⟩
    · intro revision slot
      cases slot
      exact le_refl _
    · intro _ revision slot
      cases slot
      exact order.authorized
    · intro revision slot
      exact ⟨_, rfl, order.prepared revision slot⟩
  | promote fragment selects =>
    obtain ⟨above, below, slot⟩ := order.selected selects
    refine ⟨⟨order.applied.trans above, below, order.prepared, ?_⟩,
      ⟨rfl, rfl, le_refl _, above, le_refl _, fun revision slot => ⟨revision, slot, le_refl _⟩⟩⟩
    intro out revision named
    rw [slot out] at named
    cases named
    exact le_refl _
  | equivalent fragment selects =>
    obtain ⟨above, below, slot⟩ := order.selected selects
    refine ⟨⟨le_refl _, below, order.prepared, ?_⟩, ⟨rfl, rfl, le_refl _, above, order.applied.trans above,
        fun revision slot => ⟨revision, slot, le_refl _⟩⟩⟩
    intro out revision named
    rw [slot out] at named
    cases named
    exact le_refl _

structure Ordered (chain : DeploymentChain) : Prop where
  rows : ∀ row ∈ chain.db.streams, RowOrder row
  listed : ∀ generation ∈ chain.db.generations,
    Listed chain.db generation.deviceId generation.streamRevisions

/-- Every row is still there and did not fall back. -/
def Grows (before after : DeploymentChain) : Prop :=
  ∀ row ∈ before.db.streams, ∃ later ∈ after.db.streams, RowGrows row later

theorem Grows.refl (chain : DeploymentChain) : Grows chain chain := fun row member => ⟨row, member, .refl row⟩

theorem Grows.trans {first second third : DeploymentChain} (before : Grows first second)
    (after : Grows second third) : Grows first third := by
  intro row member
  obtain ⟨middle, present, older⟩ := before row member
  obtain ⟨last, inside, newer⟩ := after middle present
  exact ⟨last, inside, older.trans newer⟩

theorem Listed.grows {deviceId : Nat} {revisions : List (ProjectionStream × Nat)}
    (grows : Grows before after) (listed : Listed before.db deviceId revisions) :
    Listed after.db deviceId revisions := by
  intro entry member
  obtain ⟨row, present, key, below⟩ := listed entry member
  obtain ⟨later, inside, newer⟩ := grows row present
  refine ⟨later, inside, ?_, below.trans newer.authorized⟩
  unfold streamKey at key ⊢
  rw [newer.deviceId, newer.stream]
  exact key

theorem Ordered.of_streams (ordered : Ordered before)
    (streams : after.db.streams = before.db.streams) (generations : ∀ row ∈ after.db.generations,
      Listed before.db row.deviceId row.streamRevisions) :
    Ordered after ∧ Grows before after := by
  have grows : Grows before after := fun row member => ⟨row, streams ▸ member, .refl row⟩
  refine ⟨⟨fun row member => ordered.rows row (streams ▸ member), fun row member => ?_⟩, grows⟩
  exact (generations row member).grows grows

theorem Ordered.of_map {update : DeviceProjectionStream → DeviceProjectionStream}
    (streams : after.db.streams = before.db.streams.map update)
    (each : ∀ row ∈ before.db.streams, RowOrder (update row) ∧ RowGrows row (update row))
    (generations : ∀ row ∈ after.db.generations, Listed before.db row.deviceId row.streamRevisions) :
    Ordered after ∧ Grows before after := by
  have grows : Grows before after := by
    intro row member
    refine ⟨update row, ?_, (each row member).2⟩
    rw [streams]
    exact List.mem_map_of_mem member
  refine ⟨⟨fun row member => ?_, fun row member => (generations row member).grows grows⟩, grows⟩
  rw [streams] at member
  obtain ⟨old, present, rfl⟩ := List.mem_map.mp member
  exact (each old present).1

theorem Ordered.append (ordered : Ordered before) (streams : after.db.streams = before.db.streams ++ [row]) (order : RowOrder row)
    (generations : after.db.generations = before.db.generations) :
    Ordered after ∧ Grows before after := by
  have grows : Grows before after := by
    intro old member
    refine ⟨old, ?_, .refl old⟩
    rw [streams]
    exact List.mem_append_left _ member
  refine ⟨⟨fun other member => ?_, fun generation member => ?_⟩, grows⟩
  · rw [streams] at member
    rcases List.mem_append.mp member with old | new
    · exact ordered.rows other old
    · rw [List.mem_singleton.mp new]
      exact order
  · exact (ordered.listed generation (generations ▸ member)).grows grows

theorem Ordered.listed_mapped {generations : List DeploymentGeneration}
    {update : DeploymentGeneration → DeploymentGeneration} (ordered : Ordered chain)
    (mapped : generations = chain.db.generations.map update) (inPlace : InPlace update) :
    ∀ row ∈ generations, Listed chain.db row.deviceId row.streamRevisions := by
  intro row member
  rw [mapped] at member
  obtain ⟨old, present, rfl⟩ := List.mem_map.mp member
  rw [inPlace.deviceId, inPlace.streamRevisions]
  exact ordered.listed old present

theorem Raises.ordered {after : Database} {later : DeviceProjectionStream} (ordered : Ordered chain)
    (keyed : Keyed chain.db.streams) (member : row ∈ chain.db.streams)
    (listed : ∀ generation ∈ after.generations, Listed chain.db generation.deviceId generation.streamRevisions)
    (raises : Raises after row later) : RowOrder later ∧ RowGrows row later := by
  have order := ordered.rows row member
  have below : later.appliedRevision ≤ row.authorizedRevision := by
    rcases raises.cause with unmoved | ⟨generation, inside, device, lists, _⟩
    · rw [unmoved]
      exact order.applied
    · obtain ⟨other, present, key, below⟩ := listed generation inside _ lists
      unfold streamKey at key
      rw [Bool.and_eq_true, beq_iff_eq, beq_iff_eq] at key
      rw [keyed row member other present (device.symm.trans key.1.symm) key.2.symm]
      exact below
  rw [raises.same]
  exact ⟨⟨below, order.authorized, order.prepared, order.slot⟩,
    ⟨rfl, rfl, le_refl _, le_refl _, raises.grows, fun revision slot => ⟨revision, slot, le_refl _⟩⟩⟩

theorem Move.ordered (lawful : Lawful before) (ordered : Ordered before) (move : Move kind before after) :
    Ordered after ∧ Grows before after := by
  cases move with
  | job | cohort => exact ordered.of_streams rfl ordered.listed
  | bind member present fits =>
    refine ordered.of_streams rfl fun row located => ?_
    rcases mem_bindToJob lawful.identified member located with rfl | ⟨old, _⟩
    · have listed := ordered.listed _ member
      exact listed
    · exact ordered.listed row old
  | rewrite rewrites =>
    obtain ⟨update, inPlace, generations, _⟩ := rewrites.generations
    exact ordered.of_streams rewrites.streams (ordered.listed_mapped generations inPlace)
  | create digestDocument listed reissue cohort =>
    refine ordered.of_streams rfl fun row located => ?_
    rcases List.mem_append.mp located with old | new
    · exact ordered.listed row old
    · rw [List.mem_singleton.mp new]
      exact listed
  | stream moves idle =>
    refine Ordered.of_map rfl (fun row member => ?_) ordered.listed
    split
    · rename_i chosen
      exact (moves row member chosen).ordered (ordered.rows row member)
    · exact ⟨ordered.rows row member, .refl row⟩
  | firstWrite pushSeq fresh =>
    exact ordered.append rfl ⟨le_refl _, Nat.zero_le _, nofun, nofun⟩ rfl
  | settle settled =>
    obtain ⟨update, stamp, settlement⟩ := settleJobGenerations_settlement settled
    have listed := ordered.listed_mapped settlement.generations settlement.inPlace
    exact Ordered.of_map settlement.streams (fun row member =>
      (settlement.raises row).ordered ordered lawful.keyed member listed) listed
  | abandon member blocked claim =>
    obtain ⟨update, stamp, abandonment⟩ := claimBlockedHead_abandonment claim
    have listed := ordered.listed_mapped abandonment.generations abandonment.inPlace
    exact Ordered.of_map abandonment.streams (fun row member =>
      (abandonment.raises row).ordered ordered lawful.keyed member listed) listed

theorem Moves.ordered {kinds : List MoveKind} (lawful : Lawful before) (ordered : Ordered before) (moves : Moves kinds before after) :
    Ordered after ∧ Grows before after := by
  have each : ∀ kind ∈ kinds, ∀ first second : DeploymentChain, Lawful first ∧ Ordered first →
      Move kind first second → (Lawful second ∧ Ordered second) ∧ Grows first second := by
    intro kind _ first second stands move
    obtain ⟨next, grows⟩ := move.ordered stands.1 stands.2
    exact ⟨⟨move.lawful stands.1, next⟩, grows⟩
  have walked := moves.related Grows.refl (fun _ _ _ => Grows.trans) each ⟨lawful, ordered⟩
  exact ⟨walked.1.2, walked.2⟩

def revisions (row : DeviceProjectionStream) : Nat × ProjectionStream × Nat × Nat × Nat × Option Nat :=
  (row.deviceId, row.stream, row.desiredRevision, row.authorizedRevision, row.appliedRevision,
    row.preparedRevision)

theorem createReissueGeneration_revisions {store created : PromotionStore} {mode : GenerationMode}
    {context : Option RemovalContext} {allowedRemovalKeys : RemovalAuthority}
    {tombstoneIds dischargedClearIds : List Nat} {generation : DeploymentGeneration}
    (creates : createReissueGeneration env store mode context allowedRemovalKeys tombstoneIds
      dischargedClearIds = .ok (created, generation)) :
    generation.streamRevisions = [] ∧ created.db.streams.map revisions = store.db.streams.map revisions := by
  obtain ⟨refreshed, refresh, creates⟩ := bind_eq_ok.mp creates
  obtain ⟨document, _, written⟩ := bind_eq_ok.mp creates
  unfold PromotionStore.write at written
  dsimp only at written
  split at written
  · cases written
  rename_i db stored stores
  cases written
  obtain ⟨_, inserted⟩ := storeGeneration_eq stores
  cases inserted
  refine ⟨rfl, ?_⟩
  unfold refreshConsumedCarriers at refresh
  dsimp only at refresh
  split at refresh
  · cases refresh
    have untouched : ∀ row, revisions (pruneRow (store.deviceTombstones.map (·.id)) row) = revisions row := fun _ => rfl
    exact map_updateWhere untouched _
  · cases refresh

section

variable (unlisted : ∀ row ∈ db.generations, row.jobId = some jobId →
  row.streamRevisions = [] ∧ row.settlementCohort = none)

include unlisted

theorem settleJobGenerations_unlisted {after : Database} {outcome : GenerationStatus}
    (settled : settleJobGenerations db jobId outcome error = .ok after) :
    after.streams = db.streams := by
  have carried : ∀ row ∈ db.jobGenerations jobId, row.streamRevisions = [] ∧ row.settlementCohort = none := fun row member =>
    unlisted row (mem_jobGenerations.mp member).1 (mem_jobGenerations.mp member).2
  have uncohorted : (db.jobGenerations jobId).filterMap (·.settlementCohort) = [] :=
    List.filterMap_eq_nil_iff.mpr fun row member => (carried row member).2
  unfold settleJobGenerations at settled
  dsimp only at settled
  split at settled
  · cases settled
    rfl
  · split at settled
    · cases settled
    rename_i middle landedIds written
    obtain ⟨_, update, _, rfl, _⟩ := terminalizeGenerations_spec written
    split at settled
    · cases settled
      rfl
    · have joined : ((db.jobGenerations jobId).filter fun generation =>
          landedIds.contains generation.id).filterMap (·.settlementCohort) = [] :=
        List.filterMap_eq_nil_iff.mpr fun row member =>
          (carried row (List.mem_filter.mp member).1).2
      rw [uncohorted, joined] at settled
      cases settled
      have unstamped : ∀ (written : Database) (targets : List RevisionTarget), targets = [] →
          (stampAppliedRevisions written targets).streams = written.streams := by
        rintro written _ rfl
        rfl
      refine unstamped _ _ (List.flatMap_eq_nil_iff.mpr fun row member => ?_)
      rcases List.mem_append.mp member with alone | joins
      · have none := (carried row (List.mem_filter.mp (List.mem_filter.mp alone).1).1).1
        unfold DeploymentGeneration.targets
        rw [none]
        rfl
      · have named := (List.mem_filter.mp joins).2
        unfold inCohorts at named
        split at named
        · cases named
        · cases named

theorem terminalize_unlisted {after : Database} {request : TerminalRequest}
    {write : Option TerminalWrite} (written : terminalize db jobId request = .ok (after, write)) :
    after.streams = db.streams := by
  obtain ⟨_, ⟨_, rfl, _⟩ | ⟨_, _, _, settled, settles, landed⟩⟩ := terminalize_cases written
  · rfl
  · have cast : ∀ row ∈ (casTerminalStatus db jobId request).generations,
        row.jobId = some jobId → row.streamRevisions = [] ∧ row.settlementCohort = none := unlisted
    have kept := settleJobGenerations_unlisted cast settles
    rcases landed with ⟨_, rfl, _⟩ | ⟨_, _, rfl, _⟩
    · exact kept
    · exact kept

theorem terminalizeRunning_unlisted {after : Database} {status : JobStatus} {expectedAttempt : Option Nat} {written : Option JobStatus}
    (moved : terminalizeRunning db jobId status error expectedAttempt = .ok (after, written)) :
    after.streams = db.streams := by
  rcases terminalizeRunning_cases moved with ⟨request, write, ended, _⟩ | rfl
  · exact terminalize_unlisted unlisted ended
  · unfold requeueRunning
    split <;> rfl

end

theorem Lawful.reissue_alone (orderly : Orderly chain.db) (lawful : Lawful chain)
    {reissue : DeploymentGeneration} (member : reissue ∈ chain.db.generations)
    (held : reissue.jobId = some jobId) (unlisted : reissue.streamRevisions = []) :
    ∀ row ∈ chain.db.generations, row.jobId = some jobId → row.streamRevisions = [] ∧ row.settlementCohort = none := by
  obtain ⟨context, uncohorted⟩ := lawful.reissues reissue member unlisted
  obtain ⟨job, present, rfl, _⟩ := orderly.carried reissue member jobId held
  obtain ⟨removal, named⟩ := Option.isSome_iff_exists.mp context
  have type := (lawful.carriers.jobType reissue member job present held).trans (carrierType_removal named)
  intro row inside carried
  rw [lawful.carriers.dedicated job present (lawful.removals job present type) row inside reissue member carried held]
  exact ⟨unlisted, uncohorted⟩

def Operation.settles (jobId : Nat) : Operation → Bool
  | .terminalize settled _ => settled == jobId
  | .terminalizeRunning settled _ _ _ => settled == jobId
  | _ => false

theorem Operation.run_unlisted {digestDocument : DocumentDigest} {operation : Operation}
    {after : Database} (settles : operation.settles jobId = true)
    (unlisted : ∀ row ∈ db.generations, row.jobId = some jobId → row.streamRevisions = [] ∧ row.settlementCohort = none)
    (ran : operation.run digestDocument db = some after) : after.streams = db.streams := by
  cases operation with
  | terminalize settled request =>
    rw [← beq_iff_eq.mp settles] at unlisted
    simp only [Operation.run] at ran
    split at ran
    · obtain ⟨write, written⟩ := toOption_fst_eq_some ran
      exact terminalize_unlisted unlisted written
    · cases ran
  | terminalizeRunning settled status error expectedAttempt =>
    rw [← beq_iff_eq.mp settles] at unlisted
    obtain ⟨write, written⟩ := toOption_fst_eq_some ran
    exact terminalizeRunning_unlisted unlisted written
  | _ => cases settles

theorem Ordered.initial (empty : (adapterSystem env).initial adapter) : Ordered adapter.chain := by
  obtain ⟨_, generations, streams⟩ := empty
  constructor <;> simp [Adapter.chain, generations, streams]

structure InOrder (adapter : Adapter) : Prop extends Standing adapter where
  ordered : Ordered adapter.chain

theorem adapterStep_inOrder {event : AdapterEvent} {after : Adapter} (valid : InOrder adapter)
    (stepped : adapterStep env event adapter = some after) :
    InOrder after ∧ Grows adapter.chain after.chain := by
  obtain ⟨standing, moves⟩ := adapterStep_moves valid.toStanding stepped
  obtain ⟨next, grows⟩ := moves.ordered valid.lawful valid.ordered
  exact ⟨⟨standing, next⟩, grows⟩

theorem InOrder.reachable (reached : (adapterSystem env).Reachable adapter) : InOrder adapter :=
  reached.invariant (fun _ empty => ⟨.initial empty, .initial empty⟩) fun _ _ _ valid stepped => (adapterStep_inOrder valid stepped).1

theorem InOrder.grows {later : Adapter} (valid : InOrder adapter)
    (taken : (adapterSystem env).Steps adapter later) : Grows adapter.chain later.chain := by
  let related (before after : Adapter) : Prop := Grows before.chain after.chain
  have reflexive : ∀ state, related state state := fun state => .refl state.chain
  exact taken.related valid (fun _ _ _ valid stepped => (adapterStep_inOrder valid stepped).1)
    reflexive (fun _ _ _ => Grows.trans) fun _ _ _ valid stepped =>
      (adapterStep_inOrder valid stepped).2

/-- In every run of the adapter the revisions of a stream are ordered and none of them falls,
and a reissue moves none of them, neither when it is created nor when it settles. -/
theorem revision_order {env : Environment} {adapter : Adapter} (reached : (adapterSystem env).Reachable adapter) :
    (∀ row ∈ adapter.db.streams, row.appliedRevision ≤ row.authorizedRevision ∧
        row.authorizedRevision ≤ row.desiredRevision ∧
        (row.stream = .lag ∨ row.stream = .switchport → ∀ prepared, row.preparedRevision = some prepared →
            row.authorizedRevision ≤ prepared ∧ prepared ≤ row.desiredRevision)) ∧
    (∀ later, (adapterSystem env).Steps adapter later → ∀ row ∈ adapter.db.streams,
      (∃ next ∈ later.db.streams, next.deviceId = row.deviceId ∧ next.stream = row.stream) ∧
        ∀ next ∈ later.db.streams, next.deviceId = row.deviceId → next.stream = row.stream →
          row.appliedRevision ≤ next.appliedRevision ∧ row.authorizedRevision ≤ next.authorizedRevision ∧
            row.desiredRevision ≤ next.desiredRevision ∧
            ∀ prepared, row.preparedRevision = some prepared →
              ∃ newer, next.preparedRevision = some newer ∧ prepared ≤ newer) ∧
    (∀ (store created : PromotionStore) (mode : GenerationMode) (context : Option RemovalContext)
      (allowedRemovalKeys : RemovalAuthority) (tombstoneIds dischargedClearIds : List Nat)
      (generation : DeploymentGeneration),
      createReissueGeneration env store mode context allowedRemovalKeys tombstoneIds dischargedClearIds = .ok (created, generation) →
      generation.streamRevisions = [] ∧ created.db.streams.map revisions = store.db.streams.map revisions) ∧
    ∀ reissue ∈ adapter.db.generations, reissue.streamRevisions = [] →
      ∀ jobId, reissue.jobId = some jobId → ∀ operation : Operation, operation.settles jobId = true → ∀ after,
        adapterStep env (.chain operation) adapter = some after → after.db.streams = adapter.db.streams := by
  have valid := InOrder.reachable reached
  refine ⟨?_, ?_, ?_, ?_⟩
  · intro row member
    have order := valid.ordered.rows row member
    refine ⟨order.applied, order.authorized, fun out prepared slot => ?_⟩
    have outside : row.stream.outOfProtocol = true := by
      rcases out with lag | switchport
      · rw [lag]; rfl
      · rw [switchport]; rfl
    exact ⟨order.slot outside prepared slot, order.prepared prepared slot⟩
  · intro later taken row member
    have keyed := (Standing.reachable (reached.steps taken)).lawful.keyed
    obtain ⟨next, present, newer⟩ := valid.grows taken row member
    refine ⟨⟨next, present, newer.deviceId, newer.stream⟩, fun other inside device stream => ?_⟩
    rw [keyed other inside next present (device.trans newer.deviceId.symm) (stream.trans newer.stream.symm)]
    exact ⟨newer.applied, newer.authorized, newer.desired, newer.prepared⟩
  · intro store created mode context keys tombstoneIds clearIds generation creates
    exact createReissueGeneration_revisions creates
  · intro reissue member unlisted jobId held operation settles after stepped
    simp only [adapterStep] at stepped
    split at stepped
    · obtain ⟨db, ran, rfl⟩ := Option.map_eq_some_iff.mp stepped
      exact operation.run_unlisted settles (valid.lawful.reissue_alone valid.orderly member held unlisted) ran
    · cases stepped

/-- A delivered stream that is written again, and a prepared one that is promoted. -/
def writtenAndPrepared : List AdapterEvent :=
  [.noteWrite 7 .vlan (some 1), .deliverRequest 7 ⟨[], some .vlan⟩ 0,
    .chain (.startHead 7 none),
    .chain (.terminalize 1 ⟨.succeeded, .running, some 1, none, none, none, none⟩),
    .noteWrite 7 .vlan (some 2), .prepareSnapshot 7 .lag [] (fun _ => []) false,
    .createActionApply 7 [(.lag, 1)] 5 0]

theorem revision_order_written_and_prepared :
    ∃ adapter, (adapterSystem constantEnvironment).trace writtenAndPrepared freshAdapter = some adapter ∧
      adapter.db.streams.map revisions = [(7, .vlan, 2, 1, 1, none), (7, .lag, 1, 1, 0, some 1)] ∧
      ∀ row ∈ adapter.db.streams, row.appliedRevision ≤ row.authorizedRevision ∧
        row.authorizedRevision ≤ row.desiredRevision := by
  have found : ((adapterSystem constantEnvironment).trace writtenAndPrepared freshAdapter).any
      (fun adapter => adapter.db.streams.map revisions ==
        [(7, .vlan, 2, 1, 1, none), (7, .lag, 1, 1, 0, some 1)]) = true := by decide +kernel
  obtain ⟨adapter, executed, numbers⟩ := (Option.any_eq_true _ _).mp found
  have ordered := (revision_order (.trace (.initial freshAdapter_initial) executed)).1
  exact ⟨adapter, executed, beq_iff_eq.mp numbers, fun row member =>
    ⟨(ordered row member).1, (ordered row member).2.1⟩⟩

end NsoAdapter.Core
