import NsoAdapter.Core.FragmentTables

/-! Store-only isolation. Two stores that agree on the promoted streams, on the
non-intent facts and on every stream's last-authorized fragment produce the same
generations, whatever un-promoted rows the other streams hold. -/

namespace NsoAdapter.Core
open Lib Projection Store Intent
open StaticRoute

/-- The database without its projection streams, which every operation on jobs and
generations leaves alone. -/
def withStreams (streams : List DeviceProjectionStream) (db : Database) : Database :=
  { db with streams }

/-- The two stores of one device differ at most in what the streams outside `promoted` hold
un-promoted. -/
structure Agrees (promoted : List ProjectionStream) (left right : PromotionStore) : Prop where
  deviceId : left.deviceId = right.deviceId
  db : withStreams [] left.db = withStreams [] right.db
  nedId : left.nedId = right.nedId
  interfaces : left.interfaces = right.interfaces
  nextCohort : left.nextCohort = right.nextCohort
  authorized : ∀ stream, left.authorized stream = right.authorized stream
  streamRow : ∀ stream ∈ promoted, left.streamRow stream = right.streamRow stream
  rows : ∀ stream ∈ promoted, ∀ table ∈ stream.streamTables,
    rowsFor left.live stream table = rowsFor right.live stream table
  attributeStates : .interfaceConfig ∈ promoted → left.attributeStates = right.attributeStates
  receipts : ∀ stream ∈ promoted, left.receipts stream = right.receipts stream
  pendingClears :
    (left.pendingClears.filter fun clear => promoted.contains clear.stream) =
      right.pendingClears.filter fun clear => promoted.contains clear.stream

/-- An operation on jobs and generations that neither reads nor writes the streams. -/
def Framed {Value : Type} (operation : Database → Except PromotionError (Database × Value)) : Prop :=
  ∀ streams db, operation (withStreams streams db) =
    (operation db).map fun result => (withStreams streams result.1, result.2)

/-- What a framed operation gives on two databases that differ in their streams only. -/
structure SameResult {Value : Type} (left right : Database)
    (leftResult rightResult : Database × Value) : Prop where
  db : withStreams [] leftResult.1 = withStreams [] rightResult.1
  leftStreams : leftResult.1.streams = left.streams
  rightStreams : rightResult.1.streams = right.streams
  value : leftResult.2 = rightResult.2

theorem Framed.alike {Value : Type} {operation : Database → Except PromotionError (Database × Value)} (framed : Framed operation)
    {left right : Database} (same : withStreams [] left = withStreams [] right) :
    Alike (SameResult left right) (operation left) (operation right) := by
  have leftRun := framed left.streams (withStreams [] left)
  have rightRun := framed right.streams (withStreams [] left)
  have leftShape : withStreams left.streams (withStreams [] left) = left := rfl
  have rightShape : withStreams right.streams (withStreams [] left) = right := by
    rw [same]
    rfl
  rw [leftShape] at leftRun
  rw [rightShape] at rightRun
  rw [leftRun, rightRun]
  cases operation (withStreams [] left) with
  | error refused => exact .error refused
  | ok result => exact .ok ⟨rfl, rfl, rfl, rfl⟩

theorem storeGeneration_framed (digestDocument : DocumentDigest) (deviceId : Nat)
    (content : GenerationContent) (tombstoneIds clearIds : List Nat)
    (clearStreams : List ProjectionStream) :
    Framed fun db => storeGeneration digestDocument db deviceId content tombstoneIds clearIds clearStreams := by
  intro streams db
  unfold storeGeneration
  dsimp only
  split
  · rfl
  · have carriers : deviceCarriers (withStreams streams db) deviceId = deviceCarriers db deviceId := rfl
    rw [carriers]
    generalize addressSection _ _ _ _ = addressed
    cases addressed with
    | error | ok => rfl

theorem attachToJob_withStreams (streams : List DeviceProjectionStream) (db : Database) (generation : DeploymentGeneration) (job : Job) :
    attachToJob (withStreams streams db) generation job = (attachToJob db generation job).map
        fun result => (withStreams streams result.1, result.2) := by
  have same : (withStreams streams db).jobGenerations job.id = db.jobGenerations job.id := rfl
  unfold attachToJob
  rw [same]
  cases (db.jobGenerations job.id).getLast? with
  | none => rfl
  | some last =>
    dsimp only
    split
    · rfl
    · split
      · rfl
      · split <;> rfl

theorem createDedicatedJob_withStreams (streams : List DeviceProjectionStream) (db : Database)
    (deviceId now : Nat) (jobType : JobType) (context : Option JobContext) :
    createDedicatedJob (withStreams streams db) deviceId jobType context now =
      (createDedicatedJob db deviceId jobType context now).map fun result => (withStreams streams result.1, result.2) := by
  unfold createDedicatedJob
  split <;> rfl

theorem attachDedicatedJob_framed (deviceId now : Nat) (jobType : JobType)
    (context : Option JobContext) (generation : DeploymentGeneration) :
    Framed fun db => attachDedicatedJob db deviceId jobType context generation now := by
  intro streams db
  unfold attachDedicatedJob
  dsimp only
  rw [createDedicatedJob_withStreams]
  cases createDedicatedJob db deviceId jobType context now with
  | error refused => rfl
  | ok created =>
    obtain ⟨inserted, job⟩ := created
    simp only [Except.map]
    unfold requireAttachToJob
    rw [attachToJob_withStreams]
    cases attachToJob inserted generation job with
    | error refused => rfl
    | ok result =>
      obtain ⟨after, attached⟩ := result
      cases attached <;> rfl

theorem admitCoalescibleJob_withStreams (streams : List DeviceProjectionStream) (db : Database)
    (deviceId now : Nat) (jobType : JobType) (context : Option JobContext) :
    admitCoalescibleJob (withStreams streams db) deviceId jobType context now =
      (admitCoalescibleJob db deviceId jobType context now).map fun result => (withStreams streams result.1, result.2) := by
  have same : lockQueuedWinner (withStreams streams db) deviceId jobType = lockQueuedWinner db deviceId jobType := rfl
  unfold admitCoalescibleJob
  rw [same]
  split
  · rfl
  · cases lockQueuedWinner db deviceId jobType with
    | none | some => rfl

theorem admitCoalescedApply_framed (generation : DeploymentGeneration) (now : Nat) :
    Framed fun db => admitCoalescedApply db generation now := by
  intro streams db
  have same : lockQueuedWinner (withStreams streams db) generation.deviceId .apply = lockQueuedWinner db generation.deviceId .apply := rfl
  unfold admitCoalescedApply
  dsimp only
  rw [same]
  split
  · rfl
  rw [admitCoalescibleJob_withStreams]
  cases admitCoalescibleJob db generation.deviceId .apply none now with
  | error refused => rfl
  | ok admitted =>
    obtain ⟨inserted, job⟩ := admitted
    simp only [Except.map]
    rw [attachToJob_withStreams]
    cases attachToJob inserted generation job with
    | error | ok => rfl

theorem admitApplyGeneration_framed (generation : DeploymentGeneration) (now : Nat) :
    Framed fun db => admitApplyGeneration db generation now := by
  intro streams db
  unfold admitApplyGeneration
  split
  · exact attachDedicatedJob_framed _ _ _ _ _ streams db
  · exact admitCoalescedApply_framed _ _ streams db

section Agreement

variable {promoted : List ProjectionStream} {left right : PromotionStore}

theorem Agrees.tombstones (agrees : Agrees promoted left right) : left.deviceTombstones = right.deviceTombstones := by
  have same : (withStreams [] left.db).tombstones = (withStreams [] right.db).tombstones := congrArg Database.tombstones agrees.db
  have tombstones : left.db.tombstones = right.db.tombstones := same
  unfold PromotionStore.deviceTombstones
  rw [tombstones, agrees.deviceId]

variable {stream : ProjectionStream} {table : IntentTable} {admission : RemovalAdmission}

theorem rowsFor_congr {leftStore rightStore : PromotionStore} (tombstones : leftStore.deviceTombstones = rightStore.deviceTombstones)
    (rows : table ≠ .staticRouteTombstone →
      rowsFor leftStore.live stream table = rowsFor rightStore.live stream table) :
    rowsFor leftStore.live stream table = rowsFor rightStore.live stream table := by
  by_cases carrier : table = .staticRouteTombstone
  · subst carrier
    unfold rowsFor PromotionStore.live
    rw [tombstones]
  · exact rows carrier

theorem live_rows (store : PromotionStore) (intent : table ≠ .staticRouteTombstone) : store.live.rows table = store.intentRows table := by
  cases table <;> first
    | rfl
    | exact absurd rfl intent

theorem rowsFor_of_intentRows (before after : PromotionStore) (same : after.intentRows = before.intentRows) (stream : ProjectionStream)
    (intent : table ≠ .staticRouteTombstone) :
    rowsFor after.live stream table = rowsFor before.live stream table := by
  unfold rowsFor
  rw [live_rows after intent, live_rows before intent, same]

section

variable (agrees : Agrees promoted left right)

include agrees

theorem Agrees.over {leftDb rightDb : Database} (db : withStreams [] leftDb = withStreams [] rightDb)
    (leftStreams : leftDb.streams = left.db.streams)
    (rightStreams : rightDb.streams = right.db.streams) :
    Agrees promoted { left with db := leftDb } { right with db := rightDb } := by
  have leftRow : ∀ stream, ({ left with db := leftDb } : PromotionStore).streamRow stream = left.streamRow stream := by
    intro stream
    unfold PromotionStore.streamRow
    rw [leftStreams]
  have rightRow : ∀ stream, ({ right with db := rightDb } : PromotionStore).streamRow stream = right.streamRow stream := by
    intro stream
    unfold PromotionStore.streamRow
    rw [rightStreams]
  have carriers : (withStreams [] leftDb).tombstones = (withStreams [] rightDb).tombstones := congrArg Database.tombstones db
  refine { agrees with db, authorized := ?_, streamRow := ?_, rows := ?_ }
  · intro stream
    unfold PromotionStore.authorized
    rw [leftRow, rightRow]
    exact agrees.authorized stream
  · intro stream chosen
    rw [leftRow, rightRow]
    exact agrees.streamRow stream chosen
  · intro stream chosen table owned
    refine rowsFor_congr ?_ fun intent => ?_
    · unfold PromotionStore.deviceTombstones
      rw [agrees.deviceId]
      exact congrArg _ carriers
    · rw [rowsFor_of_intentRows left { left with db := leftDb } rfl stream intent,
        rowsFor_of_intentRows right { right with db := rightDb } rfl stream intent]
      exact agrees.rows stream chosen table owned

theorem Agrees.updateStreams (selected : ProjectionStream → Bool) {update : DeviceProjectionStream → DeviceProjectionStream}
    (sameDevice : ∀ row, (update row).deviceId = row.deviceId)
    (sameStream : ∀ row, (update row).stream = row.stream) (rewrite : Fragment → Fragment)
    (outside : ∀ stream, stream ∉ promoted → selected stream = true →
      ∀ row, (update row).authorizedDocument = row.authorizedDocument.map rewrite) :
    Agrees promoted (left.updateStreams selected update) (right.updateStreams selected update) := by
  refine
    { deviceId := agrees.deviceId, db := ?_, nedId := agrees.nedId
      interfaces := agrees.interfaces, nextCohort := agrees.nextCohort
      authorized := ?_, streamRow := ?_, rows := ?_
      attributeStates := agrees.attributeStates, receipts := agrees.receipts
      pendingClears := agrees.pendingClears }
  · exact agrees.db
  · intro stream
    rw [authorized_updateStreams left selected update sameDevice sameStream,
      authorized_updateStreams right selected update sameDevice sameStream]
    by_cases chosen : stream ∈ promoted
    · rw [agrees.streamRow stream chosen]
    by_cases touched : selected stream = true
    · have same := agrees.authorized stream
      unfold PromotionStore.authorized at same
      have rewritten : ∀ store : PromotionStore, ((store.streamRow stream).bind fun row =>
          (update row).authorizedDocument) = ((store.streamRow stream).bind (·.authorizedDocument)).map rewrite := by
        intro store
        cases store.streamRow stream with
        | none => rfl
        | some row => exact outside stream chosen touched row
      simp only [touched, if_true]
      rw [rewritten, rewritten, same]
    · simp only [touched]
      exact agrees.authorized stream
  · intro stream chosen
    rw [streamRow_updateStreams left selected update sameDevice sameStream,
      streamRow_updateStreams right selected update sameDevice sameStream,
      agrees.streamRow stream chosen]
  · exact agrees.rows

theorem Agrees.refreshConsumedCarriers (selected : List Nat) :
    Alike (Agrees promoted) (refreshConsumedCarriers left selected) (refreshConsumedCarriers right selected) := by
  unfold Core.refreshConsumedCarriers
  dsimp only
  rw [agrees.tombstones]
  split
  · refine .ok (agrees.updateStreams _ (fun _ => rfl) (fun _ => rfl)
      (fun fragment => pruneConsumedCarriers fragment (right.deviceTombstones.map (·.id))) ?_)
    intro stream _ _ row
    rfl
  · exact .error _

theorem Agrees.updatePromoted (chosen : stream ∈ promoted) {update : DeviceProjectionStream → DeviceProjectionStream}
    (sameDevice : ∀ row, (update row).deviceId = row.deviceId)
    (sameStream : ∀ row, (update row).stream = row.stream) :
    Agrees promoted (left.updateStreams (fun other => other == stream) update)
      (right.updateStreams (fun other => other == stream) update) := by
  refine agrees.updateStreams _ sameDevice sameStream id ?_
  intro other outside touched
  rw [beq_iff_eq.mp touched] at outside
  exact absurd chosen outside

theorem Agrees.authorizeStreams (promotions : List StreamPromotion) (chosen : ∀ promotion ∈ promotions, promotion.stream ∈ promoted) :
    Agrees promoted (authorizeStreams left promotions) (authorizeStreams right promotions) := by
  induction promotions generalizing left right with
  | nil => exact agrees
  | cons promotion promotions ih =>
    refine ih ?_ fun later member => chosen later (List.mem_cons_of_mem _ member)
    exact agrees.updatePromoted (chosen promotion List.mem_cons_self) (fun _ => rfl) fun _ => rfl

theorem Agrees.freezeStream (chosen : stream ∈ promoted) {tables : Tables}
    (noAttributes : stream = .ip → tables.rows .interfaceIntent = []) :
    freezeStream left.live stream tables = freezeStream right.live stream tables := by
  have proof : freezeProof left.live stream tables = freezeProof right.live stream tables := by
    have interfaces : left.live.interfaces = right.live.interfaces := agrees.interfaces
    unfold freezeProof
    split
    · have states : left.live.attributeStates = right.live.attributeStates := agrees.attributeStates chosen
      unfold freezeInterfaceProof
      rw [interfaces, states]
    · unfold freezeInterfaceProof buildInterfaceProof
      rw [interfaces, noAttributes rfl]
      rfl
    · rfl
    · rfl
  have ned : left.live.nedId = right.live.nedId := agrees.nedId
  unfold Core.freezeStream freezeFragment
  rw [proof, ned]

theorem Agrees.snapshotStream (chosen : stream ∈ promoted) : snapshotStream left.live stream = snapshotStream right.live stream := by
  have tables : (stream.streamTables.map fun table =>
      (table, rowsFor left.live stream table)) = stream.streamTables.map fun table =>
        (table, rowsFor right.live stream table) := by
    refine List.map_congr_left fun table owned => ?_
    rw [agrees.rows stream chosen table owned]
  have ned : left.live.nedId = right.live.nedId := agrees.nedId
  unfold Projection.snapshotStream
  rw [tables, ned]

theorem Agrees.freezeLive (chosen : stream ∈ promoted) : freezeLive left stream = freezeLive right stream := by
  unfold Core.freezeLive
  rw [agrees.snapshotStream chosen]
  cases snapshot : Projection.snapshotStream right.live stream with
  | error refused => rfl
  | ok tables =>
    refine agrees.freezeStream chosen ?_
    rintro rfl
    rw [snapshotStream_tables snapshot]
    rfl

theorem Agrees.promoteStream (frozen : Fragments) (chosen : stream ∈ promoted) :
    promoteStream left frozen stream = promoteStream right frozen stream := by
  unfold Core.promoteStream
  rw [agrees.streamRow stream chosen, agrees.freezeLive chosen]

end

/-- Agreeing stores with one result beside them. -/
def Together {Value : Type} (promoted : List ProjectionStream) (left right : PromotionStore × Value) : Prop :=
  Agrees promoted left.1 right.1 ∧ left.2 = right.2

section

variable (agrees : Agrees promoted left right)

include agrees

theorem Agrees.write {operation : Database → Except PromotionError (Database × DeploymentGeneration)} (framed : Framed operation) :
    Alike (Together promoted) (left.write (operation left.db)) (right.write (operation right.db)) := by
  have alike := framed.alike agrees.db
  generalize operation left.db = leftRun, operation right.db = rightRun at alike ⊢
  cases alike with
  | error refused => exact .error refused
  | ok same => exact .ok ⟨agrees.over same.db same.leftStreams same.rightStreams, same.value⟩

theorem Agrees.carry {operation : Database → Except PromotionError (Database × Job)} (framed : Framed operation) :
    Alike (Agrees promoted) (left.over (operation left.db)) (right.over (operation right.db)) := by
  have alike := framed.alike agrees.db
  generalize operation left.db = leftRun, operation right.db = rightRun at alike ⊢
  cases alike with
  | error refused => exact .error refused
  | ok same => exact .ok (agrees.over same.db same.leftStreams same.rightStreams)

theorem Agrees.composePromoted (given : Option Document) (promotions : List StreamPromotion) :
    Alike (Together promoted) (composePromoted left given promotions) (composePromoted right given promotions) := by
  cases given with
  | some document => exact .ok ⟨agrees, rfl⟩
  | none =>
    refine (agrees.refreshConsumedCarriers []).bind fun leftCurrent rightCurrent current => ?_
    rw [funext current.authorized]
    refine Alike.bind_same fun document _ => ?_
    exact .ok ⟨current, rfl⟩

/-- `create_generation` reads the promoted streams and the authorized fragments only. -/
theorem Agrees.createGeneration (env : Environment) (request : GenerationRequest) (chosen : ∀ stream ∈ request.streams, stream ∈ promoted) :
    Alike (Together promoted) (createGeneration env left request) (createGeneration env right request) := by
  unfold Core.createGeneration
  split
  · exact .error _
  refine (agrees.refreshConsumedCarriers _).bind fun leftRefreshed rightRefreshed refreshed => ?_
  have promotes : (sortedStreams request.streams).mapM
      (Core.promoteStream leftRefreshed request.frozen) = (sortedStreams request.streams).mapM
        (Core.promoteStream rightRefreshed request.frozen) := by
    refine mapM_congr fun stream member => ?_
    exact refreshed.promoteStream _ (chosen stream (mem_sortedStreams.mp member))
  rw [promotes]
  refine Alike.bind_same fun promotions promoted => ?_
  have authorized := refreshed.authorizeStreams promotions <| by
    intro promotion member
    obtain ⟨stream, requested, promotes⟩ := exists_of_mem_mapM promoted member
    rw [promoteStream_stream promotes]
    exact chosen stream (mem_sortedStreams.mp requested)
  refine (authorized.composePromoted request.document promotions).bind ?_
  rintro ⟨leftComposed, document⟩ ⟨rightComposed, _⟩ ⟨composed, rfl⟩
  dsimp only
  rw [composed.deviceId]
  exact composed.write (storeGeneration_framed _ _ _ _ _ _)

theorem Agrees.pendingClears_filter {selected : StreamPendingClear → Bool}
    (chosen : ∀ clear, selected clear = true → clear.stream ∈ promoted) :
    left.pendingClears.filter selected = right.pendingClears.filter selected := by
  have within : ∀ clears : List StreamPendingClear, clears.filter selected =
      (clears.filter fun clear => promoted.contains clear.stream).filter selected := by
    intro clears
    rw [List.filter_filter]
    refine List.filter_congr fun clear _ => ?_
    cases kept : selected clear with
    | false => rfl
    | true => rw [List.contains_iff_mem.mpr (chosen clear kept)]; rfl
  rw [within, within right.pendingClears, agrees.pendingClears]

theorem Agrees.desiredRevisionOf (chosen : stream ∈ promoted) : desiredRevisionOf left stream = desiredRevisionOf right stream := by
  unfold Core.desiredRevisionOf
  rw [agrees.streamRow stream chosen]

theorem Agrees.settlePendingClears (scope : DocumentSection) (promotes : List ProjectionStream) (mode : GenerationMode) :
    Agrees promoted (settlePendingClears left scope promotes mode false) (settlePendingClears right scope promotes mode false) := by
  unfold Core.settlePendingClears
  split
  · refine { agrees with pendingClears := ?_ }
    rw [List.filter_filter, List.filter_filter]
    refine agrees.pendingClears_filter fun clear kept => ?_
    rw [Bool.and_eq_true] at kept
    exact List.contains_iff_mem.mp kept.1
  · split
    · exact agrees
    refine { agrees with pendingClears := ?_ }
    unfold updateWhere
    rw [List.filter_map, List.filter_map]
    have kept : ∀ store : PromotionStore, ((fun clear : StreamPendingClear =>
        promoted.contains clear.stream) ∘ fun clear => if promotes.contains clear.stream then
          { clear with
            authorized := true
            revision := max clear.revision
              ((Core.desiredRevisionOf store clear.stream).getD 0) }
        else clear) = fun clear => promoted.contains clear.stream := by
      intro store
      funext clear
      dsimp only [Function.comp]
      split <;> rfl
    rw [kept, kept, agrees.pendingClears]
    refine List.map_congr_left fun clear member => ?_
    have chosen := List.contains_iff_mem.mp (List.mem_filter.mp member).2
    dsimp only
    rw [agrees.desiredRevisionOf chosen]

theorem Agrees.recordDeferredClears (immediate : admission.request.deferRetract = false) :
    Alike (Agrees promoted) (recordDeferredClears left admission) (recordDeferredClears right admission) := by
  unfold Core.recordDeferredClears
  rw [immediate, Bool.and_false, Bool.false_and]
  exact .ok agrees

theorem Agrees.pendingClearsDischargedBy (scope : DocumentSection)
    {promotes : List ProjectionStream} (chosen : ∀ stream ∈ promotes, stream ∈ promoted)
    (mode : GenerationMode) :
    pendingClearsDischargedBy left (dischargedStreams scope promotes mode false) =
      pendingClearsDischargedBy right (dischargedStreams scope promotes mode false) := by
  unfold Core.pendingClearsDischargedBy
  rw [agrees.pendingClears_filter fun clear discharged => ?_]
  have member := List.contains_iff_mem.mp discharged
  unfold dischargedStreams at member
  simp only [Bool.false_eq_true, if_false] at member
  split at member
  · exact chosen _ member
  · exact absurd member List.not_mem_nil

theorem Agrees.createRemovalGeneration (env : Environment) (chosen : ∀ stream ∈ admission.promotes, stream ∈ promoted)
    (unforced : admission.request.force = false) (clearIds : List Nat) :
    Alike (Together promoted) (createRemovalGeneration env left admission clearIds)
      (createRemovalGeneration env right admission clearIds) := by
  unfold Core.createRemovalGeneration
  simp only [unforced, Bool.false_eq_true, if_false]
  exact agrees.createGeneration env _ chosen

theorem Agrees.enqueueRemoval (env : Environment) (chosen : ∀ stream ∈ admission.promotes, stream ∈ promoted)
    (immediate : admission.request.deferRetract = false)
    (unforced : admission.request.force = false) :
    Alike (Together promoted) (enqueueRemoval env left admission) (enqueueRemoval env right admission) := by
  unfold Core.enqueueRemoval
  dsimp only
  split
  · exact .error _
  refine (agrees.recordDeferredClears immediate).bind fun leftStore rightStore recorded => ?_
  rw [unforced, recorded.pendingClearsDischargedBy _ chosen]
  refine (recorded.createRemovalGeneration env chosen unforced _).bind ?_
  rintro ⟨leftCreated, generation⟩ ⟨rightCreated, _⟩ ⟨created, rfl⟩
  rw [created.deviceId]
  refine (created.carry (attachDedicatedJob_framed _ _ _ _ _)).bind fun _ _ carried => ?_
  exact .ok ⟨carried.settlePendingClears _ _ _, rfl⟩

end

end Agreement

section Chain

variable {promoted : List ProjectionStream} {left right : PromotionStore} (env : Environment)

theorem Agrees.enqueueActionRemovalLinks (agrees : Agrees promoted left right) (plan : ChainPlan)
    {links : List RemovalLink} (chosen : ∀ link ∈ links, link.stream ∈ promoted)
    (authority : RemovalAuthority) :
    Alike (Together promoted) (enqueueActionRemovalLinks env plan left links authority)
      (enqueueActionRemovalLinks env plan right links authority) := by
  have classifies : links.mapM (classifyLink env left.live authority) = links.mapM (classifyLink env right.live authority) := by
    have ned : left.live.nedId = right.live.nedId := agrees.nedId
    have interfaces : left.live.interfaces = right.live.interfaces := agrees.interfaces
    unfold classifyLink promotionRemovalContext
    rw [ned, interfaces]
  unfold Core.enqueueActionRemovalLinks
  rw [classifies]
  refine Alike.bind_same fun classified classifiedLinks => ?_
  have enqueued : Alike (Together promoted) (classified.foldlM (enqueueLink env plan (unionAuthority authority classified)) (left, []))
      (classified.foldlM (enqueueLink env plan (unionAuthority authority classified)) (right, [])) := by
    refine Alike.foldlM ⟨agrees, rfl⟩ ?_
    rintro link member ⟨leftStore, before⟩ ⟨rightStore, _⟩ ⟨stores, rfl⟩
    obtain ⟨source, listed, classifiesLink⟩ := exists_of_mem_mapM classifiedLinks member
    have promotes : ∀ stream ∈ (linkAdmission plan (unionAuthority authority classified) link).promotes, stream ∈ promoted := by
      intro stream only
      rw [List.mem_singleton.mp only, classifyLink_link classifiesLink]
      exact chosen source listed
    refine (stores.enqueueRemoval env promotes rfl rfl).bind ?_
    rintro ⟨leftAfter, generation⟩ ⟨rightAfter, _⟩ ⟨after, rfl⟩
    exact .ok ⟨after, rfl⟩
  refine enqueued.bind ?_
  rintro ⟨leftAfter, generations⟩ ⟨rightAfter, _⟩ ⟨after, rfl⟩
  exact .ok ⟨after, rfl⟩

theorem Agrees.enqueueApplies (agrees : Agrees promoted left right) (plan : ChainPlan)
    {streams : List ProjectionStream} (chosen : ∀ stream ∈ streams, stream ∈ promoted)
    (authority : RemovalAuthority) :
    Alike (Together promoted) (enqueueApplies env plan left streams authority) (enqueueApplies env plan right streams authority) := by
  unfold Core.enqueueApplies enqueueActionApplyJob
  split
  · exact .ok ⟨agrees, rfl⟩
  refine Alike.bind (?_ : Alike (Together promoted) _ _) ?_
  · refine (agrees.createGeneration env _ chosen).bind ?_
    rintro ⟨leftCreated, generation⟩ ⟨rightCreated, _⟩ ⟨created, rfl⟩
    refine (created.carry (admitApplyGeneration_framed _ _)).bind fun _ _ carried => ?_
    exact .ok ⟨carried, rfl⟩
  · rintro ⟨leftAfter, generation⟩ ⟨rightAfter, _⟩ ⟨after, rfl⟩
    exact .ok ⟨after, rfl⟩

variable {actions : ActionPlan} {selected : List Selection} {promotions : List Promotion}

theorem Agrees.enqueueChain (agrees : Agrees promoted left right) (plan : ChainPlan) {applyStreams : List ProjectionStream}
    (networked : ∀ link ∈ actions.networkedLinks, link.stream ∈ promoted)
    (applied : ∀ stream ∈ applyStreams, stream ∈ promoted)
    (detached : ∀ link ∈ actions.detachLinks, link.stream ∈ promoted) (authority : RemovalAuthority) :
    Alike (Together promoted) (enqueueChain env plan actions left applyStreams authority)
      (enqueueChain env plan actions right applyStreams authority) := by
  refine (agrees.enqueueActionRemovalLinks env plan networked authority).bind ?_
  rintro ⟨leftRemoved, generations, union⟩ ⟨rightRemoved, _⟩ ⟨removed, rfl⟩
  refine (removed.enqueueApplies env plan applied union).bind ?_
  rintro ⟨leftApplied, applies⟩ ⟨rightApplied, _⟩ ⟨appliedStores, rfl⟩
  refine (appliedStores.enqueueActionRemovalLinks env plan detached []).bind ?_
  rintro ⟨leftDetached, detaches, _⟩ ⟨rightDetached, _⟩ ⟨detachedStores, rfl⟩
  exact .ok ⟨detachedStores, rfl⟩

theorem idOf_promoteClear (row : Row) : idOf (promoteClear row) = idOf row := by
  have sameId : (promoteClear row).get "id" = row.get "id" := by
    unfold promoteClear
    dsimp only
    split
    · rfl
    · rw [Row.get_set]
      rfl
  unfold idOf
  rw [sameId]

theorem Agrees.promoteStaticRouteClears (agrees : Agrees promoted left right) (chosen : .staticRoute ∈ promoted) :
    Agrees promoted (promoteStaticRouteClears left) (promoteStaticRouteClears right) := by
  refine { agrees with rows := ?_ }
  intro stream member table owned
  by_cases route : table = .staticRouteIntent
  · subst route
    have unfiltered : ∀ store : PromotionStore, rowsFor (Core.promoteStaticRouteClears store).live
        stream .staticRouteIntent = (rowsFor store.live .staticRoute .staticRouteIntent).map promoteClear := by
      intro store
      have rows : (Core.promoteStaticRouteClears store).live.rows .staticRouteIntent =
          (store.live.rows .staticRouteIntent).map promoteClear := by
        have intent : IntentTable.staticRouteIntent ≠ .staticRouteTombstone := by decide
        rw [live_rows _ intent, live_rows _ intent]
        unfold Core.promoteStaticRouteClears
        dsimp only
        rw [Function.update_self]
      unfold rowsFor discriminator
      simp only [List.filter_true, rows]
      exact orderBy_map idOf_promoteClear _
    rw [unfiltered, unfiltered, agrees.rows .staticRoute chosen _ (by decide)]
  · have elsewhere : ∀ store : PromotionStore, rowsFor (Core.promoteStaticRouteClears store).live
        stream table = rowsFor store.live stream table := by
      intro store
      have rows : (Core.promoteStaticRouteClears store).live.rows table = store.live.rows table := by
        by_cases carrier : table = .staticRouteTombstone
        · subst carrier
          rfl
        · rw [live_rows _ carrier, live_rows _ carrier]
          unfold Core.promoteStaticRouteClears
          dsimp only
          rw [Function.update_of_ne route]
      unfold rowsFor
      rw [rows]
    rw [elsewhere, elsewhere]
    exact agrees.rows stream member table owned

theorem Agrees.promotionOf (agrees : Agrees promoted left right) {selection : Selection} (chosen : selection.stream ∈ promoted) :
    promotionOf left selection = promotionOf right selection := by
  unfold Core.promotionOf
  rw [agrees.streamRow _ chosen]
  cases right.streamRow selection.stream with
  | none => rfl
  | some row =>
    cases found : selection.revision with
    | none =>
      unfold receiptPromotion
      rw [agrees.receipts _ chosen, agrees.freezeLive chosen]
    | some revision =>
      have switching := selection.prepared
      rw [found] at switching
      unfold preparedPromotion
      dsimp only
      rw [agrees.freezeStream chosen fun address => ?_]
      rw [address] at switching
      cases switching

theorem Agrees.chainPromotions (agrees : Agrees promoted left right) (chosen : ∀ selection ∈ selected, selection.stream ∈ promoted) :
    Alike (fun leftResult rightResult => Together promoted leftResult rightResult ∧
        ∀ promotion ∈ rightResult.2, promotion.stream ∈ promoted)
      (chainPromotions left selected) (chainPromotions right selected) := by
  have cleared : Agrees promoted (if selected.any fun selection => selection.stream == .staticRoute then
        Core.promoteStaticRouteClears left else left)
      (if selected.any fun selection => selection.stream == .staticRoute then
        Core.promoteStaticRouteClears right else right) := by
    split
    · rename_i found
      obtain ⟨selection, member, route⟩ := List.any_eq_true.mp found
      exact agrees.promoteStaticRouteClears (beq_iff_eq.mp route ▸ chosen selection member)
    · exact agrees
  refine (cleared.refreshConsumedCarriers []).bind fun leftRefreshed rightRefreshed refreshed => ?_
  have freezes : selected.mapM (Core.promotionOf leftRefreshed) = selected.mapM (Core.promotionOf rightRefreshed) :=
    mapM_congr fun selection member => refreshed.promotionOf (chosen selection member)
  rw [freezes]
  refine Alike.bind_same fun promotions frozen => .ok ⟨⟨refreshed, rfl⟩, ?_⟩
  intro promotion member
  obtain ⟨selection, listed, freezes⟩ := exists_of_mem_mapM frozen member
  rw [promotionOf_stream freezes]
  exact chosen selection listed

theorem planActionLinks_streams (planned : planActionLinks promotions = .ok actions)
    (chosen : ∀ promotion ∈ promotions, promotion.stream ∈ promoted) :
    (∀ link ∈ actions.networkedLinks, link.stream ∈ promoted) ∧ (∀ link ∈ actions.detachLinks, link.stream ∈ promoted) ∧
      ∀ settled, ∀ stream ∈ actions.applied settled, stream ∈ promoted := by
  obtain ⟨_, plans, mapped, rfl⟩ := planActionLinks_ok planned
  have scheduled : ∀ plan, ∀ stream ∈ plannedStreams plans plan, stream ∈ promoted := by
    intro plan stream member
    obtain ⟨entry, kept, rfl⟩ := List.mem_map.mp member
    obtain ⟨promotion, listed, entryOf⟩ := exists_of_mem_mapM mapped (List.mem_filter.mp kept).1
    rw [(plannedEntry_ok entryOf).1]
    exact chosen promotion listed
  refine ⟨?_, ?_, ?_⟩
  · intro link member
    obtain ⟨promotion, kept, rfl⟩ := List.mem_map.mp member
    exact chosen promotion (List.mem_filter.mp kept).1
  · intro link member
    obtain ⟨promotion, kept, rfl⟩ := List.mem_map.mp member
    exact chosen promotion (List.mem_filter.mp kept).1
  · intro settled stream member
    rcases List.mem_append.mp member with planned | unsettled
    · exact scheduled .apply stream planned
    · exact scheduled .wireEquivalent stream (List.mem_filter.mp unsettled).1

section

variable (agrees : Agrees promoted left right)

include agrees

theorem Agrees.canSettleWireEquivalent (promotion : Promotion) :
    canSettleWireEquivalent left promotion = canSettleWireEquivalent right promotion := by
  have head : executableHead left.db left.deviceId = executableHead right.db right.deviceId := by
    have unframed : ∀ db, executableHead db left.deviceId = executableHead (withStreams [] db) left.deviceId := fun _ => rfl
    rw [unframed, agrees.db, ← unframed, agrees.deviceId]
  unfold Core.canSettleWireEquivalent
  rw [head]

theorem Agrees.settleEach (chosen : ∀ promotion ∈ promotions, promotion.stream ∈ promoted) (settled : List ProjectionStream) :
    Together promoted (promotions.foldl settleIfEquivalent (left, settled)) (promotions.foldl settleIfEquivalent (right, settled)) := by
  induction promotions generalizing left right settled with
  | nil => exact ⟨agrees, rfl⟩
  | cons promotion promotions ih =>
    have later := fun other member => chosen other (List.mem_cons_of_mem promotion member)
    rw [List.foldl_cons, List.foldl_cons]
    unfold settleIfEquivalent
    rw [agrees.canSettleWireEquivalent]
    split
    · refine ih (agrees.updatePromoted (chosen promotion List.mem_cons_self) ?_ ?_) later _
      · exact fun _ => rfl
      · exact fun _ => rfl
    · exact ih agrees later settled

theorem Agrees.allocateCohort (linkCount : Nat) : Together promoted (allocateCohort left linkCount) (allocateCohort right linkCount) := by
  unfold Core.allocateCohort
  rw [agrees.nextCohort]
  split
  · exact ⟨{ agrees with nextCohort := rfl }, rfl⟩
  · exact ⟨agrees, rfl⟩

theorem Agrees.consumeReceipts (promotions : List Promotion) :
    Agrees promoted (consumeReceipts left promotions) (consumeReceipts right promotions) := by
  refine { agrees with receipts := ?_ }
  intro stream chosen
  unfold Core.consumeReceipts
  dsimp only
  rw [agrees.receipts stream chosen]

end

structure SameChain (promoted : List ProjectionStream) (left right : ActionApplyResult) :
    Prop where
  store : Agrees promoted left.store right.store
  generations : left.generations = right.generations
  settled : left.settled = right.settled

theorem Agrees.deliverPromotions (agrees : Agrees promoted left right)
    (chosen : ∀ promotion ∈ promotions, promotion.stream ∈ promoted) (applyAttemptId : Option Nat) :
    Alike (SameChain promoted) (deliverPromotions env left promotions applyAttemptId)
      (deliverPromotions env right promotions applyAttemptId) := by
  unfold Core.deliverPromotions
  rw [funext agrees.authorized]
  refine Alike.bind_same fun authority _ => ?_
  refine Alike.bind_same ?_
  rintro ⟨intermediateDocument, finalDocument⟩ _
  refine Alike.bind_same fun actions planned => ?_
  obtain ⟨networked, detached, applied⟩ := planActionLinks_streams planned chosen
  have equivalents : Together promoted (settleEquivalents left (promotions.filter fun promotion =>
        actions.wireEquivalentStreams.contains promotion.stream))
      (settleEquivalents right (promotions.filter fun promotion =>
        actions.wireEquivalentStreams.contains promotion.stream)) :=
    agrees.settleEach (fun promotion member => chosen promotion (List.mem_filter.mp member).1) []
  dsimp only
  rw [equivalents.2]
  have allocated := equivalents.1.allocateCohort (actions.linkCount
    (actions.applied (settleEquivalents right (promotions.filter fun promotion =>
      actions.wireEquivalentStreams.contains promotion.stream)).2))
  rw [allocated.2]
  refine (allocated.1.enqueueChain env _ networked (applied _) detached authority).bind ?_
  rintro ⟨leftEnqueued, generations⟩ ⟨rightEnqueued, _⟩ ⟨enqueued, rfl⟩
  exact .ok ⟨enqueued.consumeReceipts promotions, rfl, rfl⟩

theorem Agrees.createApplyChain (agrees : Agrees promoted left right)
    (chosen : ∀ selection ∈ selected, selection.stream ∈ promoted) (applyAttemptId : Option Nat) :
    Alike (SameChain promoted) (createApplyChain env left selected applyAttemptId)
      (createApplyChain env right selected applyAttemptId) := by
  refine (agrees.chainPromotions chosen).bind ?_
  rintro ⟨leftRefreshed, promotions⟩ ⟨rightRefreshed, _⟩ ⟨⟨refreshed, rfl⟩, listed⟩
  exact refreshed.deliverPromotions env listed applyAttemptId

structure SameDocument (left right : DeploymentGeneration) : Prop where
  document : left.document = right.document
  digest : left.digest = right.digest

theorem SameDocument.of_eq {left right : DeploymentGeneration} (same : left = right) : SameDocument left right := by
  subst same
  exact ⟨rfl, rfl⟩

theorem storeGeneration_sameDocument (digestDocument : DocumentDigest) {leftDb rightDb : Database}
    (same : withStreams [] leftDb = withStreams [] rightDb) (deviceId : Nat)
    (content : GenerationContent) (leftSeq rightSeq : List (ProjectionStream × Option Nat))
    (tombstoneIds clearIds : List Nat) (clearStreams : List ProjectionStream) :
    Alike (fun left right => SameDocument left.2 right.2)
      (storeGeneration digestDocument leftDb deviceId { content with sourcePushSeq := leftSeq } tombstoneIds clearIds clearStreams)
      (storeGeneration digestDocument rightDb deviceId { content with sourcePushSeq := rightSeq } tombstoneIds clearIds clearStreams) := by
  have carriers : deviceCarriers leftDb deviceId = deviceCarriers rightDb deviceId := by
    have unframed : ∀ db, deviceCarriers db deviceId = deviceCarriers (withStreams [] db) deviceId := fun _ => rfl
    rw [unframed, same, ← unframed]
  unfold storeGeneration
  dsimp only
  split
  · exact .ok ⟨rfl, rfl⟩
  · rw [carriers]
    exact Alike.bind_same fun document _ => .ok ⟨rfl, rfl⟩

theorem Agrees.createReissueGeneration (agrees : Agrees promoted left right)
    (mode : GenerationMode) (removalContext : Option RemovalContext)
    (allowedRemovalKeys : RemovalAuthority) (tombstoneIds dischargedClearIds : List Nat) :
    Alike (fun leftResult rightResult => SameDocument leftResult.2 rightResult.2)
      (createReissueGeneration env left mode removalContext allowedRemovalKeys tombstoneIds dischargedClearIds)
      (createReissueGeneration env right mode removalContext allowedRemovalKeys tombstoneIds dischargedClearIds) := by
  refine (agrees.refreshConsumedCarriers tombstoneIds).bind fun before after refreshed => ?_
  rw [funext refreshed.authorized]
  refine Alike.bind_same fun document _ => ?_
  have stored := storeGeneration_sameDocument env.digestDocument refreshed.db after.deviceId
    ⟨mode, document, allowedRemovalKeys, [], [], none, removalContext, none⟩
    ((before.db.streams.filter fun row =>
      row.deviceId == after.deviceId && row.authorizedDocument.isSome).map fun row => (row.stream, row.sourcePushSeq))
    ((after.db.streams.filter fun row =>
      row.deviceId == after.deviceId && row.authorizedDocument.isSome).map fun row => (row.stream, row.sourcePushSeq))
    tombstoneIds dischargedClearIds []
  rw [refreshed.deviceId]
  dsimp only at stored ⊢
  revert stored
  generalize storeGeneration env.digestDocument before.db after.deviceId _ _ _ _ = leftRun
  generalize storeGeneration env.digestDocument after.db after.deviceId _ _ _ _ = rightRun
  intro stored
  cases stored with
  | error refused => exact .error refused
  | ok same => exact .ok same

end Chain

/-- Generations created over two stores that agree on what they promote send the same
documents, whatever the other streams hold un-promoted. -/
theorem store_only_isolation (env : Environment) {promoted : List ProjectionStream}
    {left right : PromotionStore} (agrees : Agrees promoted left right) :
    (∀ request : GenerationRequest, (∀ stream ∈ request.streams, stream ∈ promoted) →
      Alike (fun leftResult rightResult => SameDocument leftResult.2 rightResult.2)
        (createGeneration env left request) (createGeneration env right request)) ∧
    (∀ (selected : List Selection) (applyAttemptId : Option Nat), (∀ selection ∈ selected, selection.stream ∈ promoted) →
      Alike (fun leftResult rightResult =>
          List.Forall₂ SameDocument leftResult.generations rightResult.generations ∧
            leftResult.settled = rightResult.settled)
        (createApplyChain env left selected applyAttemptId)
        (createApplyChain env right selected applyAttemptId)) ∧
    ∀ (mode : GenerationMode) (removalContext : Option RemovalContext)
      (allowedRemovalKeys : RemovalAuthority) (tombstoneIds dischargedClearIds : List Nat),
      Alike (fun leftResult rightResult => SameDocument leftResult.2 rightResult.2)
        (createReissueGeneration env left mode removalContext allowedRemovalKeys tombstoneIds dischargedClearIds)
        (createReissueGeneration env right mode removalContext allowedRemovalKeys tombstoneIds dischargedClearIds) := by
  refine ⟨?_, ?_, ?_⟩
  · intro request chosen
    exact (agrees.createGeneration env request chosen).mono fun _ _ together => SameDocument.of_eq together.2
  · intro selected applyAttemptId chosen
    refine (agrees.createApplyChain env chosen applyAttemptId).mono fun _ _ same => ?_
    rw [same.generations]
    exact ⟨List.forall₂_same.mpr fun generation _ => SameDocument.of_eq rfl, same.settled⟩
  · exact agrees.createReissueGeneration env

/-- One accepted write of a stream that was never promoted. -/
def acceptedStream (stream : ProjectionStream) (revision : Nat) : DeviceProjectionStream :=
  { deviceId := 1, stream, desiredRevision := revision, authorizedRevision := 0
    appliedRevision := 0, sourcePushSeq := some revision, authorizedDocument := none
    preparedRevision := none, preparedTables := none, preparedDeletions := none }

def flexAlgoStore (revision : Nat) (flexAlgos : List Row) : PromotionStore where
  deviceId := 1
  db := { Database.empty with
    streams := [acceptedStream .isis 1, acceptedStream .isisFlexAlgo revision] }
  nedId := none
  intentRows
    | .isisProcessIntent => [[("id", .num 1), ("process_tag", .str "core")]]
    | .isisFlexAlgoIntent => flexAlgos
    | _ => []
  interfaces := []
  attributeStates := []
  receipts := fun _ => none
  pendingClears := []
  nextPendingClearId := 1
  nextCohort := 1

theorem flexAlgoStore_agrees (revision : Nat) (flexAlgos : List Row) :
    Agrees [.isis] (flexAlgoStore 1 []) (flexAlgoStore revision flexAlgos) where
  deviceId := rfl
  db := rfl
  nedId := rfl
  interfaces := rfl
  nextCohort := rfl
  authorized stream := by cases stream <;> rfl
  streamRow stream chosen := by
    rw [List.mem_singleton.mp chosen]
    rfl
  rows stream chosen table owned := by
    rw [List.mem_singleton.mp chosen] at owned ⊢
    have elsewhere : table ≠ .isisFlexAlgoIntent := by
      rintro rfl
      exact absurd owned (by decide)
    cases table <;> first
      | rfl
      | exact absurd rfl elsewhere
  attributeStates _ := rfl
  receipts _ _ := rfl
  pendingClears := rfl

/-- A store-only push of the sibling stream of the IS-IS section is invisible to a
chain that promotes IS-IS alone. -/
theorem store_only_isolation_flex_algo : let env : Environment := ⟨fun _ document _ => toString document.length, fun _ => none, 0⟩
    let pushed := flexAlgoStore 2 [[("id", .num 7), ("algo_id", .num 128)]]
    let selected : List Selection := [⟨.isis, none, rfl⟩]
    (createApplyChain env pushed selected none).toOption.isSome = true ∧ Alike (fun leftResult rightResult =>
          List.Forall₂ SameDocument leftResult.generations rightResult.generations ∧
            leftResult.settled = rightResult.settled)
        (createApplyChain env (flexAlgoStore 1 []) selected none)
        (createApplyChain env pushed selected none) := by
  refine ⟨by decide +kernel, ?_⟩
  refine (store_only_isolation _ (flexAlgoStore_agrees _ _)).2.1 _ _ ?_
  intro selection member
  rw [List.mem_singleton.mp member]
  exact List.mem_singleton.mpr rfl

end NsoAdapter.Core
