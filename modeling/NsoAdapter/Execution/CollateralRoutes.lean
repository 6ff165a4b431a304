import NsoAdapter.Core.Reclaim
import NsoAdapter.Execution.RouteRetention

/-! No collateral retraction of static routes: the built body keeps what other operations own,
and a push that deletes at both markings does not retract what it only detaches. -/

namespace NsoAdapter.Execution
open Lib Store Projection NsoAdapter.Core StaticRoute

/-! ### The operation plane of a generation -/

variable {carriers : List Carrier} {key : Triple} {document : Document}
  {digestDocument : DocumentDigest} {generation : DeploymentGeneration}
  {tombstone : StaticRouteTombstone}

theorem mem_classifyRemovalPlan_authorized {rows : List Row} {allowed : List Triple} {suppressed : Bool} :
    key ∈ (classifyRemovalPlan rows carriers allowed suppressed).authorized ↔
      (key ∈ allowed ∨ ∃ carrier ∈ carriers, key ∈ carrier.keys) ∧ key ∉ rows.map tripleOf := by
  simp only [classifyRemovalPlan, mem_sortedKeys, List.mem_filter, List.mem_append,
    List.mem_flatMap, Bool.not_eq_true', List.contains_eq_mem, decide_eq_false_iff_not]

theorem mapM_routeKey (keys : List Triple) : (keys.map tripleJson).mapM routeKey = .ok keys := by
  have step : (fun key => routeKey (tripleJson key)) = fun key => (pure key : Except PromotionError Triple) := rfl
  rw [List.mapM_map]
  change keys.mapM (fun key => routeKey (tripleJson key)) = _
  rw [step, List.mapM_pure, List.map_id']
  rfl

variable {body : SectionBody} {push : RemovalPush} {store : RemovalStore}

theorem lookup_addressed {scope : DocumentSection} (operation : SectionOperation) (located : document.lookup scope = some body) :
    (document.map fun entry =>
      if entry.1 = scope then (entry.1, { entry.2 with operation := some operation })
      else entry).lookup scope = some { body with operation := some operation } := by
  induction document with
  | nil => cases located
  | cons entry rest ih =>
    obtain ⟨name, found⟩ := entry
    rw [List.lookup_cons] at located
    by_cases same : scope = name
    · subst same
      rw [beq_self_eq_true] at located
      cases located
      simp
    · rw [beq_false_of_ne same] at located
      rw [List.map_cons, if_neg (Ne.symm same), List.lookup_cons, beq_false_of_ne same]
      exact ih located

theorem addressSection_static {after : Document} {request : OperationRequest}
    {allowed : RemovalAuthority} (scope : request.context.scope = .staticRoute)
    (located : document.lookup .staticRoute = some body)
    (addressed : addressSection carriers document request allowed = .ok after) :
    ∃ addressedBody keys, after.lookup .staticRoute = some addressedBody ∧
      addressedBody.tables = body.tables ∧ addressedBody.proof = body.proof ∧
      removalKeys allowed = .ok keys ∧
      ∀ key ∈ operationSelectedRoutes addressedBody, key ∈ keys ∨
        ∃ carrier ∈ carriers, carrier.id ∈ request.tombstoneIds ∧ key ∈ carrier.keys := by
  unfold addressSection at addressed
  rw [scope, located] at addressed
  obtain ⟨operation, builds, returned⟩ := bind_eq_ok.mp addressed
  cases returned
  unfold buildOperation at builds
  rw [if_pos scope] at builds
  obtain ⟨removal, classifies, returned⟩ := bind_eq_ok.mp builds
  cases returned
  unfold buildStaticRouteOperation at classifies
  dsimp only at classifies
  split at classifies
  · obtain ⟨keys, read, returned⟩ := bind_eq_ok.mp classifies
    cases returned
    refine ⟨_, keys, lookup_addressed _ located, rfl, rfl, read, fun key selected => ?_⟩
    rcases (mem_classifyRemovalPlan_authorized.mp selected).1 with named | ⟨carrier, held, claimed⟩
    · exact .inl named
    · obtain ⟨listed, chosen⟩ := List.mem_filter.mp held
      exact .inr ⟨carrier, listed, by simpa using chosen, claimed⟩
  · cases classifies

/-! ### The generations of a push -/

theorem deviceCarriers_assign (db : Database) (tombstoneIds : List Nat) (jobId deviceId : Nat) :
    deviceCarriers (assignTombstones db tombstoneIds jobId) deviceId = deviceCarriers db deviceId := by
  unfold deviceCarriers assignTombstones
  have filtered : (updateWhere (fun tombstone => tombstoneIds.contains tombstone.id)
      (fun tombstone => { tombstone with jobId := some jobId }) db.tombstones).filter (fun tombstone => tombstone.deviceId == deviceId) =
      updateWhere (fun tombstone => tombstoneIds.contains tombstone.id) (fun tombstone => { tombstone with jobId := some jobId })
        (db.tombstones.filter fun tombstone => tombstone.deviceId == deviceId) := by
    unfold updateWhere
    rw [List.filter_map]
    refine congrArg _ (List.filter_congr fun tombstone _ => ?_)
    simp only [Function.comp]
    split <;> rfl
  have ordered : orderBy (fun tombstone : StaticRouteTombstone => tombstone.id)
      (updateWhere (fun tombstone => tombstoneIds.contains tombstone.id) (fun tombstone => { tombstone with jobId := some jobId })
        (db.tombstones.filter fun tombstone => tombstone.deviceId == deviceId)) =
      (orderBy (fun tombstone : StaticRouteTombstone => tombstone.id)
        (db.tombstones.filter fun tombstone => tombstone.deviceId == deviceId)).map fun tombstone => if tombstoneIds.contains tombstone.id
            then { tombstone with jobId := some jobId } else tombstone :=
    orderBy_map (fun tombstone => by split <;> rfl) _
  rw [filtered, ordered, List.map_map]
  refine List.map_congr_left fun tombstone _ => ?_
  simp only [Function.comp]
  split <;> rfl

/-- A generation of the store before a push, or one that a job of the push carries. -/
def PushedBy (push : RemovalPush) (written : List StaticRouteTombstone) (carriers : List Carrier)
    (generation : DeploymentGeneration) : Prop :=
  ∃ marking first, generation.mode = (push.request marking first).mode ∧
    addressSection carriers push.document
      ⟨(push.request marking first).context,
        (written.filter fun tombstone => some tombstone.marking == marking).map (·.id), [], []⟩
      (scopeQualified .staticRoute (push.request marking first).removedKeys) =
        .ok generation.document

variable {marking : Option Marking} {first : Bool}

theorem enqueueMarking_pushes {written : List StaticRouteTombstone} {db after : Database}
    (enqueued : enqueueMarking digestDocument push written db marking first = .ok after) :
    deviceCarriers after push.deviceId = deviceCarriers db push.deviceId ∧
      ∀ generation ∈ after.generations, (∃ old ∈ db.generations, old.id = generation.id ∧
          old.mode = generation.mode ∧ old.document = generation.document) ∨
        PushedBy push written (deviceCarriers db push.deviceId) generation := by
  unfold enqueueMarking at enqueued
  dsimp only at enqueued
  split at enqueued
  · cases enqueued
  split at enqueued
  · cases enqueued
  rename_i carriedDb created job carried
  cases enqueued
  rw [deviceCarriers_assign]
  refine ⟨by rw [deviceCarriers, carryRemoval_tombstones carried, deviceCarriers], fun generation member => ?_⟩
  obtain ⟨stored, stores, attaches⟩ := carryRemoval_eq carried
  obtain ⟨rfl, attached⟩ := attachDedicatedJob_eq attaches
  obtain ⟨document, addressed, returned⟩ := bind_eq_ok.mp stores
  have shape := Except.ok.inj returned
  have generations : stored.generations = db.generations ++ [created] := by
    have first := congrArg (fun result => result.1.generations) shape
    have second := congrArg Prod.snd shape
    dsimp only at first second
    rw [← first, ← second]
    rfl
  have mode : created.mode = (push.request marking first).mode := (congrArg (fun result => result.2.mode) shape).symm
  have carriedDocument : created.document = document := (congrArg (fun result => result.2.document) shape).symm
  rcases attachToJob_cases attached with ⟨refused, _⟩ | ⟨_, bound, _⟩
  · cases refused
  have listed : generation ∈ carriedDb.generations := member
  rw [bound] at listed
  obtain ⟨row, present, updated⟩ := mem_updateWhere.mp listed
  have kept : row.id = generation.id ∧ row.mode = generation.mode ∧ row.document = generation.document := by
    rw [← updated]
    split <;> exact ⟨rfl, rfl, rfl⟩
  have inserted : row ∈ db.generations ++ [created] := generations ▸ present
  rcases List.mem_append.mp inserted with old | new
  · exact .inl ⟨row, old, kept⟩
  · obtain rfl := List.mem_singleton.mp new
    refine .inr ⟨marking, first, kept.2.1.symm.trans mode, ?_⟩
    rw [← kept.2.2, carriedDocument]
    exact addressed

theorem enqueueStaticRouteRemovals_pushes {after : RemovalStore}
    (enqueued : enqueueStaticRouteRemovals digestDocument store push = .ok after)
    (member : generation ∈ after.db.generations)
    (new : generation.id ∉ store.db.generations.map (·.id)) :
    PushedBy push (writeTombstones store push).2 (deviceCarriers (writeTombstones store push).1.db push.deviceId) generation := by
  unfold enqueueStaticRouteRemovals at enqueued
  dsimp only at enqueued
  split at enqueued
  · cases enqueued
    exact absurd (List.mem_map_of_mem member) new
  · split at enqueued
    · cases enqueued
    rename_i db loop
    split at enqueued
    · cases enqueued
    cases enqueued
    have run := foldlM_ok (fun reached =>
      deviceCarriers reached push.deviceId = deviceCarriers (writeTombstones store push).1.db push.deviceId ∧
        ∀ row ∈ reached.generations, row.id ∈ store.db.generations.map (·.id) ∨ PushedBy push (writeTombstones store push).2
            (deviceCarriers (writeTombstones store push).1.db push.deviceId) row)
      (fun job _ before next held step => by
        obtain ⟨carriers, rows⟩ := enqueueMarking_pushes step
        refine ⟨carriers.trans held.1, fun row listed => ?_⟩
        rcases rows row listed with ⟨old, present, sameId, sameMode, sameDocument⟩ | pushed
        · rcases held.2 old present with earlier | ⟨marking, first, mode, addressed⟩
          · exact .inl (sameId ▸ earlier)
          · exact .inr ⟨marking, first, sameMode ▸ mode, sameDocument ▸ addressed⟩
        · exact .inr (held.1 ▸ pushed))
      ⟨rfl, fun row listed => .inl (List.mem_map_of_mem listed)⟩ loop
    exact (run.2 generation member).resolve_left new

def originKeys (push : RemovalPush) : List Triple :=
  push.removed .deleteOrigin ++
    (push.carriers.filter fun route => route.marking == .deleteOrigin).flatMap fun route =>
      route.triple :: route.deployedKey.toList

theorem networked_marking (networked : (push.request marking first).mode = .networked) : marking ≠ some .detach := by
  rintro rfl
  simp [RemovalRequest.mode, RemovalRequest.detaches, RemovalRequest.deletes, RemovalPush.request] at networked

theorem removalKeys_request {keys : List Triple}
    (read : removalKeys (scopeQualified .staticRoute (push.request marking first).removedKeys) =
      .ok keys) : ∀ key ∈ keys, ∃ present, marking = some present ∧ key ∈ push.removed present := by
  cases marking with
  | none =>
    cases read
    intro key listed
    cases listed
  | some present =>
    by_cases empty : push.removed present = []
    · simp only [RemovalRequest.removedKeys, RemovalPush.request, empty] at read
      cases read
      intro key listed
      cases listed
    · have shape : removalKeys (scopeQualified .staticRoute (push.request (some present) first).removedKeys) =
          ((push.removed present).map tripleJson).mapM routeKey := by
        simp [removalKeys, scopeQualified, RemovalRequest.removedKeys, RemovalPush.request, empty]
      rw [shape, mapM_routeKey] at read
      cases read
      exact fun key listed => ⟨present, rfl, listed⟩

theorem mem_written (member : tombstone ∈ (writeTombstones store push).2) : ∃ route ∈ push.carriers, tombstone.triple = route.triple ∧
      tombstone.deployedKey = route.deployedKey ∧ tombstone.marking = route.marking := by
  obtain ⟨⟨route, index⟩, listed, rfl⟩ := List.mem_map.mp member
  exact ⟨route, (List.mem_zipIdx' listed).2 ▸ List.getElem_mem _, rfl, rfl, rfl⟩

structure Numbered (store : RemovalStore) : Prop where
  unique : (store.db.tombstones.map (·.id)).Nodup
  below : ∀ tombstone ∈ store.db.tombstones, tombstone.id < store.nextTombstoneId

theorem Numbered.writeTombstones (numbered : Numbered store) (push : RemovalPush) :
    ((writeTombstones store push).1.db.tombstones.map (·.id)).Nodup := by
  change ((store.db.tombstones ++ (Core.writeTombstones store push).2).map (·.id)).Nodup
  rw [List.map_append, writeTombstones_ids]
  refine List.nodup_append.mpr ⟨numbered.unique, ?_, ?_⟩
  · exact List.nodup_range.map fun _ _ same => Nat.add_left_cancel same
  · intro old oldMember new newMember
    obtain ⟨tombstone, present, rfl⟩ := List.mem_map.mp oldMember
    obtain ⟨index, _, rfl⟩ := List.mem_map.mp newMember
    have low := numbered.below tombstone present
    omega

theorem PushedBy.networked (numbered : Numbered store) (networked : generation.mode = .networked)
    (pushed : PushedBy push (writeTombstones store push).2 (deviceCarriers (writeTombstones store push).1.db push.deviceId) generation)
    (located : push.document.lookup .staticRoute = some body) :
    ∃ addressedBody, generation.document.lookup .staticRoute = some addressedBody ∧
      addressedBody.tables = body.tables ∧ addressedBody.proof = body.proof ∧
      ∀ key ∈ operationSelectedRoutes addressedBody, key ∈ originKeys push := by
  obtain ⟨marking, first, mode, addressed⟩ := pushed
  have undetached := networked_marking (mode.symm.trans networked)
  obtain ⟨addressedBody, keys, found, tables, proof, read, selected⟩ := addressSection_static rfl located addressed
  have origin : ∀ present, marking = some present → present = .deleteOrigin := by
    rintro present rfl
    cases present with
    | deleteOrigin => rfl
    | detach => exact absurd rfl undetached
  refine ⟨addressedBody, found, tables, proof, fun key chosen => List.mem_append.mpr ?_⟩
  rcases selected key chosen with named | ⟨carrier, held, listed, claimed⟩
  · obtain ⟨present, marked, removed⟩ := removalKeys_request read key named
    exact .inl (origin present marked ▸ removed)
  · -- a selected carrier is a written tombstone of the job's marking: ids are unique
    obtain ⟨tombstone, inside, sameId⟩ := List.mem_map.mp listed
    obtain ⟨written, marked⟩ := List.mem_filter.mp inside
    obtain ⟨stored, stores, rfl⟩ := List.mem_map.mp held
    have same : stored = tombstone := List.inj_on_of_nodup_map (numbered.writeTombstones push)
      (List.mem_filter.mp (mem_orderBy.mp stores)).1 (List.mem_append_right _ written) sameId.symm
    subst same
    obtain ⟨route, carried, triple, deployed, marks⟩ := mem_written written
    refine .inr (List.mem_flatMap.mpr ⟨route, List.mem_filter.mpr ⟨carried, ?_⟩, ?_⟩)
    · rw [← marks]
      exact beq_iff_eq.mpr (origin _ (beq_iff_eq.mp marked).symm)
    · simpa [StaticRouteTombstone.carrier, Carrier.keys, triple, deployed] using claimed

/-- The written carriers of a push are frozen in the document its jobs deploy. -/
def CarriesWritten (store : RemovalStore) (push : RemovalPush) (body : SectionBody) : Prop :=
  ∀ tombstone ∈ (writeTombstones store push).2, ∃ row ∈ body.tables.rows .staticRouteTombstone,
    tripleOf row = tombstone.triple ∧ deployedOf row = tombstone.deployedKey

theorem CarriesWritten.claimed {addressed : SectionBody} (carries : CarriesWritten store push body)
    (tables : addressed.tables = body.tables) (written : tombstone ∈ (writeTombstones store push).2)
    (claims : key ∈ tombstoneKeys tombstone) : Claimed addressed key := by
  obtain ⟨row, listed, triple, deployed⟩ := carries tombstone written
  refine ⟨row, tables ▸ listed, ?_⟩
  rw [triple, deployed]
  simpa [tombstoneKeys, eq_comm] using claims

/-- A body built over a certified read has the rendered keys and, verbatim, the live entries that a
frozen carrier claims and the operation does not remove. A guarded write omits no live route outside
its authority. A push that deletes at both markings keeps every detached live key that it does not
also delete at the origin. -/
theorem no_collateral_route_retraction (encode : SectionEncoder) (asNumbersValid : AsCheck) (digestDocument : DocumentDigest) :
    (∀ (document : Document) (body : SectionBody) (request : BuildRequest),
      document.lookup .staticRoute = some body → FrozenSection body → request.Faithful body →
      request.retain = true →
      (certifiedStaticRouteSection request.live).inconclusive = false →
      ∃ built routes, buildDeviceContainers encode request document = .ok built ∧
        built.containers.lookup .staticRoute = some (routeContainer routes) ∧
        built.sentRouteKeys = some (routes.map (·.key)) ∧
        built.staticRoute = some (certifiedStaticRouteSection request.live) ∧
        (∀ key, key ∈ routes.map (·.key) ↔ Rendered body key ∨
          (∃ entry ∈ (certifiedStaticRouteSection request.live).routes, entry.key = key) ∧
            Claimed body key ∧ ¬ Rendered body key ∧ key ∉ operationSelectedRoutes body) ∧
        ∀ entry ∈ routes, ¬ Rendered body entry.key → entry ∈ (certifiedStaticRouteSection request.live).routes) ∧
    (∀ (document : Document) (request : BuildRequest) (built : DeviceBody) (read : ServiceState)
        (authority : RemovalAuthority) (removal : Option RemovalContext) (routeKeys : List Triple)
        (sent : Containers),
      buildDeviceContainers encode request document = .ok built →
      guardedDeviceWrite asNumbersValid ⟨false, false⟩ built.snapshot read built.containers
        (guardAllowed authority removal routeKeys) = .ok sent →
      ∀ entry ∈ (certifiedStaticRouteSection (comparedRead request built read)).routes, entry.key ∉ built.sentRouteKeys.getD [] →
        ∃ permitted ∈ authorityKeys (guardAllowed authority removal routeKeys) .staticRoute "route",
          (keyParts permitted).map partText = [entry.key.1, entry.key.2.1, entry.key.2.2]) ∧
    ∀ (store after : RemovalStore) (push : RemovalPush) (body : SectionBody) (generation : DeploymentGeneration) (live : ServiceState),
      Numbered store → enqueueStaticRouteRemovals digestDocument store push = .ok after →
      push.document.lookup .staticRoute = some body → FrozenSection body →
      CarriesWritten store push body →
      generation ∈ after.db.generations → generation.id ∉ store.db.generations.map (·.id) →
      generation.mode = .networked →
      (certifiedStaticRouteSection live).inconclusive = false →
      ∃ built keys, buildDeviceContainers encode ⟨none, live, true⟩ generation.document = .ok built ∧ built.sentRouteKeys = some keys ∧
        ∀ tombstone ∈ (writeTombstones store push).2, tombstone.marking = .detach →
          ∀ entry ∈ (certifiedStaticRouteSection live).routes, entry.key ∈ tombstoneKeys tombstone → entry.key ∉ originKeys push →
            entry.key ∈ keys := by
  refine ⟨?_, ?_, ?_⟩
  · intro document body request located frozen faithful retain conclusive
    exact buildDeviceContainers_routes located frozen faithful retain conclusive
  · intro document request built read authority removal routeKeys sent run written entry live omitted
    exact (guardedDeviceWrite_routes run rfl written live).resolve_left omitted
  · intro store after push body generation live numbered enqueued located frozen carries member new networked conclusive
    obtain ⟨addressed, found, tables, proof, selected⟩ :=
      PushedBy.networked numbered networked (enqueueStaticRouteRemovals_pushes enqueued member new) located
    have frozenToo : FrozenSection addressed := by
      obtain ⟨plan, recorded, closed⟩ := frozen
      exact ⟨plan, proof ▸ recorded, tables ▸ closed⟩
    have faithful : BuildRequest.Faithful ⟨none, live, true⟩ addressed := fun _ handed => nomatch handed
    obtain ⟨built, routes, run, _, sent, _, keys, _⟩ := buildDeviceContainers_routes found frozenToo faithful rfl conclusive
    refine ⟨built, _, run, sent, fun tombstone written _ entry present claims kept => ?_⟩
    rw [keys]
    by_cases rendered : Rendered addressed entry.key
    · exact .inl rendered
    · exact .inr ⟨⟨entry, present, rfl⟩, carries.claimed tables written claims, rendered, fun chosen => kept (selected _ chosen)⟩

/-! ### Two deletions of one push -/

def firstKey : Triple := ("", "10.0.0.0/24", "192.0.2.1")

def secondKey : Triple := ("", "10.0.1.0/24", "192.0.2.1")

def tombstoneRow (tombstoneId : Nat) (key : Triple) (deployed : Option Triple) : Row :=
  [("id", .num tombstoneId), ("vrf", .str key.1), ("prefix", .str key.2.1),
    ("next_hop", .str key.2.2), ("deployed_key", (deployed.map tripleJson).getD .null)]

/-- A section with no row left and two carriers, frozen as the push found it. -/
def deletedSection (deployed : Option Triple) : SectionBody :=
  let tables : Tables := [(.staticRouteIntent, []), (.staticRouteTombstone,
    [tombstoneRow 1 firstKey deployed, tombstoneRow 2 secondKey none])]
  { tables, context := ⟨none, .identity⟩, proof := some (freezeStaticRouteProof tables)
    operation := none }

/-- A push that deletes the first route at the origin and detaches the second one. -/
def mixedPush (deployed : Option Triple) : RemovalPush :=
  { deviceId := 7
    removed := fun marking => match marking with
      | .deleteOrigin => [firstKey]
      | .detach => [secondKey]
    carriers := [⟨1, firstKey, deployed, .deleteOrigin, "t0"⟩,
      ⟨2, secondKey, none, .detach, "t0"⟩]
    retract := false, cohort := some 1, document := [(.staticRoute, deletedSection deployed)]
    sourcePushSeq := [], streamRevisions := [(.staticRoute, 1)], now := 0 }

def bothLive : ServiceState :=
  .answered (some (.obj [("static-route", .obj [("route", .arr
    ([firstKey, secondKey].map fun key => entryJson ⟨key, []⟩))])]))

/-- The first route was deployed at the key that the second one has taken since: the deletion
at the origin drops the detached key. -/
theorem origin_deletion_drops_detached_key : ∃ after generation built, enqueueStaticRouteRemovals (fun _ _ _ => "d") removalStoreEmpty
        (mixedPush (some secondKey)) = .ok after ∧
      generation ∈ after.db.generations ∧ generation.mode = .networked ∧
      (∃ tombstone ∈ (writeTombstones removalStoreEmpty (mixedPush (some secondKey))).2,
        tombstone.marking = .detach ∧ tombstone.triple = secondKey) ∧
      secondKey ∈ (certifiedStaticRouteSection bothLive).routes.map (·.key) ∧
      buildDeviceContainers (fun _ _ => .ok .null) ⟨none, bothLive, true⟩ generation.document = .ok built ∧
      built.sentRouteKeys = some [] := by
  have found : (enqueueStaticRouteRemovals (fun _ _ _ => "d") removalStoreEmpty
      (mixedPush (some secondKey))).toOption.any (fun after => after.db.generations.any
        fun generation => generation.mode == .networked && (buildDeviceContainers (fun _ _ => .ok .null) ⟨none, bothLive, true⟩
            generation.document).toOption.any fun built => built.sentRouteKeys == some []) =
        true := by decide +kernel
  obtain ⟨after, enqueued, found⟩ := toOption_any_eq_true found
  obtain ⟨generation, member, found⟩ := List.any_eq_true.mp found
  rw [Bool.and_eq_true] at found
  obtain ⟨built, run, sent⟩ := toOption_any_eq_true found.2
  refine ⟨after, generation, built, enqueued, member, beq_iff_eq.mp found.1, ?_, ?_, run, beq_iff_eq.mp sent⟩
  · exact ⟨_, List.mem_cons_of_mem _ List.mem_cons_self, rfl, rfl⟩
  · decide +kernel

theorem no_collateral_route_retraction_mixed : ∃ after generation built sent, enqueueStaticRouteRemovals (fun _ _ _ => "d")
        removalStoreEmpty (mixedPush none) = .ok after ∧
      generation ∈ after.db.generations ∧ generation.mode = .networked ∧
      buildDeviceContainers (fun _ _ => .ok .null) ⟨none, bothLive, true⟩ generation.document = .ok built ∧
      secondKey ∈ built.sentRouteKeys.getD [] ∧
      guardedDeviceWrite (fun _ _ => true) ⟨false, false⟩ built.snapshot .inconclusive
        built.containers (guardAllowed generation.allowedRemovalKeys none []) = .ok sent ∧
      firstKey ∉ built.sentRouteKeys.getD [] ∧
      ∃ permitted ∈ authorityKeys (guardAllowed generation.allowedRemovalKeys none [])
        .staticRoute "route", (keyParts permitted).map partText = ["", "10.0.0.0/24", "192.0.2.1"] := by
  obtain ⟨_, guarded, pushed⟩ := no_collateral_route_retraction (fun _ _ => .ok .null) (fun _ _ => true) (fun _ _ _ => "d")
  have found : (enqueueStaticRouteRemovals (fun _ _ _ => "d") removalStoreEmpty
      (mixedPush none)).toOption.any (fun after => after.db.generations.any fun generation => generation.mode == .networked &&
          (buildDeviceContainers (fun _ _ => .ok .null) ⟨none, bothLive, true⟩ generation.document).toOption.any fun built =>
              built.sentRouteKeys == some [secondKey] && built.staticRoute.isSome &&
              (guardedDeviceWrite (fun _ _ => true) ⟨false, false⟩ built.snapshot .inconclusive built.containers
                (guardAllowed generation.allowedRemovalKeys none [])).toOption.isSome) =
        true := by decide +kernel
  obtain ⟨after, enqueued, found⟩ := toOption_any_eq_true found
  obtain ⟨generation, member, found⟩ := List.any_eq_true.mp found
  rw [Bool.and_eq_true] at found
  have networked := beq_iff_eq.mp found.1
  obtain ⟨built, run, parts⟩ := toOption_any_eq_true found.2
  simp only [Bool.and_eq_true, beq_iff_eq] at parts
  obtain ⟨⟨keys, read⟩, written⟩ := parts
  obtain ⟨sent, written⟩ := Option.isSome_iff_exists.mp written
  rw [toOption_eq_some] at written
  have frozen : FrozenSection (deletedSection none) := ⟨_, rfl, FrozenPlan.freeze List.nodup_nil (by decide +kernel)⟩
  have carries : CarriesWritten removalStoreEmpty (mixedPush none) (deletedSection none) := by
    intro tombstone listed
    rcases List.mem_cons.mp listed with rfl | listed
    · exact ⟨_, List.mem_cons_self, rfl, rfl⟩
    · obtain rfl := List.mem_singleton.mp listed
      exact ⟨_, List.mem_cons_of_mem _ List.mem_cons_self, rfl, rfl⟩
  obtain ⟨other, sentKeys, rerun, same, kept⟩ := pushed removalStoreEmpty after (mixedPush none)
    (deletedSection none) generation bothLive ⟨List.nodup_nil, fun _ listed => nomatch listed⟩
    enqueued rfl frozen carries member (List.not_mem_nil) networked (by decide +kernel)
  obtain rfl := Except.ok.inj (run.symm.trans rerun)
  have first : firstKey ∈ (certifiedStaticRouteSection bothLive).routes.map (·.key) := by
    decide +kernel
  have second : secondKey ∈ (certifiedStaticRouteSection bothLive).routes.map (·.key) := by
    decide +kernel
  obtain ⟨firstEntry, firstLive, firstSame⟩ := List.mem_map.mp first
  obtain ⟨secondEntry, secondLive, secondSame⟩ := List.mem_map.mp second
  have omitted : firstKey ∉ built.sentRouteKeys.getD [] := by
    rw [keys]
    decide +kernel
  refine ⟨after, generation, built, sent, enqueued, member, networked, run, ?_, written, omitted, ?_⟩
  · have retained := kept _ (List.mem_cons_of_mem _ List.mem_cons_self) rfl secondEntry secondLive
      (secondSame ▸ List.mem_cons_self) (by rw [secondSame]; decide +kernel)
    rw [same]
    exact secondSame ▸ retained
  · have compared : comparedRead ⟨none, bothLive, true⟩ built .inconclusive = bothLive := if_pos read
    have listed : firstEntry ∈ (certifiedStaticRouteSection (comparedRead ⟨none, bothLive, true⟩ built .inconclusive)).routes := by
      rw [compared]
      exact firstLive
    have authorized := guarded _ _ _ _ _ _ _ _ run written firstEntry listed (firstSame ▸ omitted)
    rw [firstSame] at authorized
    exact authorized

end NsoAdapter.Execution
