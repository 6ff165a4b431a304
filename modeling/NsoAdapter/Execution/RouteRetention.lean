import NsoAdapter.Core.FrozenRoutes
import NsoAdapter.Execution.DeviceBody

/-! The static-route keys of a built body, and what the guard lets a body omit. -/

namespace NsoAdapter.Execution
open Lib Store Projection NsoAdapter.Core StaticRoute

/-! ### Hydration -/

variable {rows : List Row} {entry : RouteEntry} {key : Triple} {after built : DeviceBody}
  {documentSection : DocumentSection}

theorem rowById_eq_some (unique : (rows.map idOf).Nodup) {row : Row} (member : row ∈ rows) : rowById rows (idOf row) = some row := by
  refine find?_eq_some_of_unique (List.mem_reverse.mpr member) fun other listed same => ?_
  exact List.inj_on_of_nodup_map unique (List.mem_reverse.mp listed) member same

theorem rowsByIds_ok (unique : (rows.map idOf).Nodup) (ids : List Nat)
    (known : ∀ id ∈ ids, ∃ row ∈ rows, idOf row = id) (refused : HydrateError) :
    ∃ found, rowsByIds rows ids refused = .ok found ∧ ∀ row, row ∈ found ↔ row ∈ rows ∧ idOf row ∈ ids := by
  unfold rowsByIds
  induction ids with
  | nil => exact ⟨[], rfl, fun row => by simp⟩
  | cons id ids ih =>
    obtain ⟨found, run, members⟩ := ih fun other listed => known other (List.mem_cons_of_mem _ listed)
    obtain ⟨row, listed, sameId⟩ := known id List.mem_cons_self
    refine ⟨row :: found, ?_, fun other => ?_⟩
    · rw [List.mapM_cons, ← sameId, rowById_eq_some unique listed, run]
      rfl
    · rw [List.mem_cons, members, List.mem_cons]
      constructor
      · rintro (rfl | ⟨stored, selected⟩)
        · exact ⟨listed, .inl sameId⟩
        · exact ⟨stored, .inr selected⟩
      · rintro ⟨stored, same | selected⟩
        · exact .inl (List.inj_on_of_nodup_map unique stored listed (same.trans sameId.symm))
        · exact .inr ⟨stored, selected⟩

theorem frozenSection_hydrates {body : SectionBody} (frozen : FrozenSection body) : ∃ plan, hydrateStaticRouteApplyPlan body = .ok plan ∧
      (∀ row, row ∈ plan.rows ↔ row ∈ body.tables.rows .staticRouteIntent ∧ accepted row) ∧
      ∀ row, row ∈ plan.tombstones ↔ row ∈ body.tables.rows .staticRouteTombstone := by
  obtain ⟨plan, recorded, valid⟩ := frozen
  obtain ⟨rows, rowsRun, rowsMem⟩ := rowsByIds_ok valid.uniqueRows plan.rowIds (fun id listed => by
      obtain ⟨row, stored, _, sameId⟩ := (valid.rowIds id).mp listed
      exact ⟨row, stored, sameId⟩) .rowsMismatch
  obtain ⟨tombstones, carriersRun, carriersMem⟩ := rowsByIds_ok valid.uniqueTombstones
    plan.tombstoneIds (fun id listed => (valid.tombstoneIds id).mp listed) .tombstonesMismatch
  obtain ⟨cas, casRun⟩ : ∃ cas, selectedCas plan = .ok cas := by
    refine ⟨_, if_pos (List.all_eq_true.mpr fun id listed => List.any_eq_true.mpr ?_)⟩
    obtain ⟨item, present, sameId⟩ := List.mem_map.mp ((valid.cas id).mpr listed)
    exact ⟨item, List.mem_filter.mpr ⟨present, by simpa [sameId] using listed⟩, beq_iff_eq.mpr sameId⟩
  refine ⟨⟨plan.mode, rows, plan.allowedRemovalKeys, tombstones, cas, plan.tombstoneIdWatermark⟩, ?_, fun row => ?_, fun row => ?_⟩
  · unfold hydrateStaticRouteApplyPlan
    rw [recorded]
    exact bind_eq_ok.mpr ⟨rows, rowsRun, bind_eq_ok.mpr ⟨tombstones, carriersRun, bind_eq_ok.mpr ⟨cas, casRun, rfl⟩⟩⟩
  · rw [rowsMem, valid.rowIds]
    constructor
    · rintro ⟨stored, other, listed, accepts, sameId⟩
      exact ⟨stored, List.inj_on_of_nodup_map valid.uniqueRows listed stored sameId ▸ accepts⟩
    · rintro ⟨stored, accepts⟩
      exact ⟨stored, row, stored, accepts, rfl⟩
  · rw [carriersMem, valid.tombstoneIds]
    exact ⟨fun found => found.1, fun stored => ⟨stored, row, stored, rfl⟩⟩

/-! ### The overlay -/

theorem mem_overlayRetainedRoutes {rendered retained : List RouteEntry} (member : entry ∈ overlayRetainedRoutes rendered retained) :
    entry ∈ rendered ∨ entry ∈ retained := by
  unfold overlayRetainedRoutes at member
  induction retained generalizing rendered with
  | nil => exact .inl member
  | cons first rest ih =>
    rw [List.foldl_cons] at member
    rcases ih member with earlier | later
    · split at earlier
      · exact .inl earlier
      · rcases List.mem_append.mp earlier with kept | added
        · exact .inl kept
        · exact .inr (List.mem_singleton.mp added ▸ List.mem_cons_self)
    · exact .inr (List.mem_cons_of_mem _ later)

theorem keys_overlayRetainedRoutes {rendered retained : List RouteEntry} : key ∈ (overlayRetainedRoutes rendered retained).map (·.key) ↔
      key ∈ rendered.map (·.key) ∨ key ∈ retained.map (·.key) := by
  unfold overlayRetainedRoutes
  induction retained generalizing rendered with
  | nil => simp
  | cons first rest ih =>
    rw [List.foldl_cons, ih, List.map_cons, List.mem_cons]
    split
    · rename_i present
      rw [List.contains_iff_mem] at present
      constructor
      · rintro (kept | later)
        · exact .inl kept
        · exact .inr (.inr later)
      · rintro (kept | rfl | later)
        · exact .inl kept
        · exact .inl present
        · exact .inr later
    · simp only [List.map_append, List.mem_append, List.map_cons, List.map_nil, List.mem_singleton, or_assoc]

/-! ### The build -/

/-- A later part of a build leaves the static-route results alone. -/
structure RoutesKept (before after : DeviceBody) : Prop where
  container : after.containers.lookup .staticRoute = before.containers.lookup .staticRoute
  sentRouteKeys : after.sentRouteKeys = before.sentRouteKeys
  staticRoute : after.staticRoute = before.staticRoute

theorem RoutesKept.refl (built : DeviceBody) : RoutesKept built built := ⟨rfl, rfl, rfl⟩

theorem RoutesKept.trans {before middle : DeviceBody} (first : RoutesKept before middle)
    (second : RoutesKept middle after) : RoutesKept before after :=
  ⟨second.container.trans first.container, second.sentRouteKeys.trans first.sentRouteKeys, second.staticRoute.trans first.staticRoute⟩

theorem lookup_append_of_ne {containers : Containers} {container : Json} (other : documentSection ≠ .staticRoute) :
    (containers ++ [(documentSection, container)]).lookup .staticRoute = containers.lookup .staticRoute := by
  rw [List.lookup_append]
  simp [List.lookup_cons, beq_false_of_ne (Ne.symm other)]

variable {encode : SectionEncoder}

theorem RoutesKept.buildOther (built : DeviceBody) (other : documentSection ≠ .staticRoute) (body : SectionBody) :
    RoutesKept built (buildOther encode built documentSection body) := by
  unfold Execution.buildOther
  split
  · exact ⟨rfl, rfl, rfl⟩
  · exact ⟨lookup_append_of_ne other, rfl, rfl⟩

variable {request : BuildRequest} {document : Document}

theorem RoutesKept.buildSection (other : documentSection ≠ .staticRoute)
    (step : buildSection encode request document built documentSection = .ok after) :
    RoutesKept built after := by
  unfold Execution.buildSection at step
  split at step
  · cases step
    exact .refl _
  · rw [if_neg other] at step
    cases step
    exact .buildOther built other _

theorem sections_split : ∃ front back, DocumentSection.all = front ++ .staticRoute :: back ∧
    (∀ documentSection ∈ front, documentSection ≠ .staticRoute) ∧
    ∀ documentSection ∈ back, documentSection ≠ .staticRoute :=
  ⟨DocumentSection.all.take 11, DocumentSection.all.drop 12, rfl, by decide, by decide⟩

theorem RoutesKept.foldlM {sections : List DocumentSection} (others : ∀ documentSection ∈ sections, documentSection ≠ .staticRoute)
    (run : sections.foldlM (Execution.buildSection encode request document) built = .ok after) :
    RoutesKept built after :=
  foldlM_ok (RoutesKept built) (fun documentSection listed _ _ kept step =>
    kept.trans (.buildSection (others documentSection listed) step)) (.refl built) run

theorem buildDeviceContainers_cases (built_eq : buildDeviceContainers encode request document = .ok built) :
    ∃ before routed, before.containers.lookup .staticRoute = none ∧
      before.sentRouteKeys = none ∧ before.staticRoute = none ∧
      buildSection encode request document before .staticRoute = .ok routed ∧
      RoutesKept routed built := by
  obtain ⟨front, back, order, frontOthers, backOthers⟩ := sections_split
  unfold buildDeviceContainers at built_eq
  rw [order, List.foldlM_append] at built_eq
  obtain ⟨before, first, rest⟩ := bind_eq_ok.mp built_eq
  obtain ⟨routed, step, last⟩ := bind_eq_ok.mp rest
  have kept := RoutesKept.foldlM frontOthers first
  exact ⟨before, routed, kept.container, kept.sentRouteKeys, kept.staticRoute, step, .foldlM backOthers last⟩

theorem buildSection_total (hydrates : ∀ body, document.lookup .staticRoute = some body →
      ∃ plan, request.hydrated body = .ok plan)
    (built : DeviceBody) (documentSection : DocumentSection) :
    ∃ after, buildSection encode request document built documentSection = .ok after := by
  unfold buildSection
  split
  · exact ⟨built, rfl⟩
  rename_i body found
  split
  · rename_i routes
    subst routes
    unfold buildStaticRoute
    split
    · obtain ⟨plan, hydrated⟩ := hydrates body found
      rw [hydrated]
      dsimp only [bind, Except.bind]
      split <;> exact ⟨_, rfl⟩
    · exact ⟨_, rfl⟩
  · exact ⟨_, rfl⟩

def Rendered (body : SectionBody) (key : Triple) : Prop :=
  ∃ row ∈ body.tables.rows .staticRouteIntent, accepted row ∧ tripleOf row = key

def Claimed (body : SectionBody) (key : Triple) : Prop :=
  ∃ row ∈ body.tables.rows .staticRouteTombstone, tripleOf row = key ∨ deployedOf row = some key

def BuildRequest.Faithful (request : BuildRequest) (body : SectionBody) : Prop :=
  ∀ plan, request.plan = some plan → hydrateStaticRouteApplyPlan body = .ok plan

theorem mem_encodeStaticRoute : key ∈ (encodeStaticRoute rows).map (·.key) ↔
      ∃ row ∈ rows, accepted row ∧ tripleOf row = key := by
  simp [encodeStaticRoute, carried, accepted, StaticRoute.staticRouteEntry, and_assoc]

theorem mem_claimedKeys {tombstones : List Row} : key ∈ claimedKeys tombstones ↔
      ∃ row ∈ tombstones, tripleOf row = key ∨ deployedOf row = some key := by
  simp only [claimedKeys, List.mem_append, List.mem_map, List.mem_filterMap]
  constructor
  · rintro (⟨row, listed, own⟩ | ⟨row, listed, deployed⟩)
    · exact ⟨row, listed, .inl own⟩
    · exact ⟨row, listed, .inr deployed⟩
  · rintro ⟨row, listed, own | deployed⟩
    · exact .inl ⟨row, listed, own⟩
    · exact .inr ⟨row, listed, deployed⟩

section Build

variable {encode : SectionEncoder} {request : BuildRequest} {document : Document}
  {body : SectionBody}

theorem frozenSection_selects (frozen : FrozenSection body) (faithful : request.Faithful body) : ∃ plan, request.hydrated body = .ok plan ∧
      (∀ key, key ∈ (encodeStaticRoute (request.rows body)).map (·.key) ↔ Rendered body key) ∧
      ∀ key, key ∈ keptKeys body plan ↔ Claimed body key ∧ ¬ Rendered body key ∧
        key ∉ operationSelectedRoutes body := by
  obtain ⟨plan, hydrates, rows, tombstones⟩ := frozenSection_hydrates frozen
  have kept : ∀ key, key ∈ keptKeys body plan ↔ Claimed body key ∧ ¬ Rendered body key ∧ key ∉ operationSelectedRoutes body := by
    intro key
    have rendered : key ∈ plan.rows.map tripleOf ↔ Rendered body key := by
      simp only [List.mem_map, rows, Rendered, and_assoc]
    simp only [keptKeys, List.mem_filter, mem_claimedKeys, tombstones, Bool.and_eq_true,
      Bool.not_eq_true', List.contains_eq_mem, decide_eq_false_iff_not, rendered, Claimed]
  cases handed : request.plan with
  | none =>
    refine ⟨plan, ?_, fun key => ?_, kept⟩
    · rw [BuildRequest.hydrated, handed]
      exact hydrates
    · rw [BuildRequest.rows, handed]
      exact mem_encodeStaticRoute
  | some given =>
    obtain rfl := Except.ok.inj ((faithful given handed).symm.trans hydrates)
    refine ⟨given, ?_, fun key => ?_, kept⟩
    · rw [BuildRequest.hydrated, handed]
    · rw [BuildRequest.rows, handed, mem_encodeStaticRoute]
      simp only [rows, Rendered, and_assoc, and_self_left]

theorem buildDeviceContainers_routes (located : document.lookup .staticRoute = some body)
    (frozen : FrozenSection body) (faithful : request.Faithful body)
    (retain : request.retain = true)
    (conclusive : (certifiedStaticRouteSection request.live).inconclusive = false) :
    ∃ built routes, buildDeviceContainers encode request document = .ok built ∧
      built.containers.lookup .staticRoute = some (routeContainer routes) ∧
      built.sentRouteKeys = some (routes.map (·.key)) ∧
      built.staticRoute = some (certifiedStaticRouteSection request.live) ∧
      (∀ key, key ∈ routes.map (·.key) ↔ Rendered body key ∨
        (∃ entry ∈ (certifiedStaticRouteSection request.live).routes, entry.key = key) ∧
          Claimed body key ∧ ¬ Rendered body key ∧ key ∉ operationSelectedRoutes body) ∧
      ∀ entry ∈ routes, ¬ Rendered body entry.key → entry ∈ (certifiedStaticRouteSection request.live).routes := by
  obtain ⟨plan, hydrated, rendered, kept⟩ := frozenSection_selects frozen faithful
  obtain ⟨built, run⟩ : ∃ built, buildDeviceContainers encode request document = .ok built :=
    foldlM_total (fun documentSection _ before => buildSection_total (fun other found => by
      rw [located] at found
      cases found
      exact ⟨plan, hydrated⟩) before documentSection) _
  obtain ⟨before, routed, fresh, _, _, step, after⟩ := buildDeviceContainers_cases run
  unfold buildSection at step
  rw [located] at step
  simp only [if_true, buildStaticRoute, retain, hydrated, staticRouteSnapshot, conclusive,
    Bool.false_eq_true, if_false, bind, Except.bind, pure, Except.pure, Except.ok.injEq] at step
  subst step
  refine ⟨built, _, run, after.container.trans ?_, after.sentRouteKeys, after.staticRoute, ?_, ?_⟩
  · simp only [DeviceBody.withRoutes, List.lookup_append, fresh, Option.none_or]
    rfl
  · intro key
    rw [keys_overlayRetainedRoutes, rendered]
    refine or_congr_right ?_
    simp only [List.mem_map, List.mem_filter, List.contains_iff_mem]
    constructor
    · rintro ⟨entry, ⟨live, claimed⟩, rfl⟩
      exact ⟨⟨entry, live, rfl⟩, (kept _).mp claimed⟩
    · rintro ⟨⟨entry, live, rfl⟩, claimed⟩
      exact ⟨entry, ⟨live, (kept _).mpr claimed⟩, rfl⟩
  · intro entry member unrendered
    rcases mem_overlayRetainedRoutes member with own | live
    · exact absurd ((rendered _).mp (List.mem_map_of_mem own)) unrendered
    · exact (List.mem_filter.mp live).1

theorem buildDeviceContainers_parts {built : DeviceBody} (run : buildDeviceContainers encode request document = .ok built) :
    (built.staticRoute = none ∨ built.staticRoute = some (certifiedStaticRouteSection request.live)) ∧
      ((built.containers.lookup .staticRoute = none ∧ built.sentRouteKeys = none) ∨
        ∃ routes, built.containers.lookup .staticRoute = some (routeContainer routes) ∧
          built.sentRouteKeys = some (routes.map (·.key))) := by
  obtain ⟨before, routed, fresh, unsent, unread, step, kept⟩ := buildDeviceContainers_cases run
  rw [kept.container, kept.sentRouteKeys, kept.staticRoute]
  have added : ∀ (routes : List RouteEntry) certified,
      (before.withRoutes routes certified).containers.lookup .staticRoute = some (routeContainer routes) := by
    intro routes certified
    simp only [DeviceBody.withRoutes, List.lookup_append, fresh, Option.none_or]
    rfl
  unfold buildSection at step
  split at step
  · cases step
    exact ⟨.inl unread, .inl ⟨fresh, unsent⟩⟩
  · rw [if_pos rfl] at step
    unfold buildStaticRoute at step
    dsimp only at step
    split at step
    · obtain ⟨plan, _, step⟩ := bind_eq_ok.mp step
      split at step
      · cases step
        exact ⟨.inl unread, .inl ⟨fresh, unsent⟩⟩
      · cases step
        exact ⟨.inr rfl, .inr ⟨_, added _ _, rfl⟩⟩
    · cases step
      exact ⟨.inl unread, .inr ⟨_, added _ _, rfl⟩⟩

end Build

/-! ### The guard over the static routes -/

def routeList : GuardList :=
  topList "route" ["vrf", "prefix", "next-hop"]

theorem guarded_routeList : (DocumentSection.staticRoute, routeList) ∈ guardedLists := by
  decide

theorem entryKeys_routeList (container : Json) : entryKeys routeList container = (childrenOf container "route").map fun node =>
      .arr [leafText node "vrf", leafText node "prefix", leafText node "next-hop"] := by
  simp [entryKeys, routeList, topList, nodesAt]

theorem entryKeys_routeContainer (routes : List RouteEntry) :
    entryKeys routeList (routeContainer routes) = routes.map fun entry => tripleJson entry.key := by
  rw [entryKeys_routeList]
  simp only [routeContainer, childrenOf, Json.member, List.lookup_cons, beq_self_eq_true, Option.getD_some, List.map_map]
  rfl

theorem parts_tripleJson (key : Triple) : (keyParts (tripleJson key)).map partText = [key.1, key.2.1, key.2.2] := rfl

theorem keyLeaf_text {members : List (String × Json)} {leaf text : String}
    (certified : keyLeaf members leaf = .ok text) : leafText (.obj members) leaf = .str text := by
  unfold keyLeaf at certified
  simp only [leafText, Json.member]
  split at certified
  · rename_i absent
    cases certified
    rw [absent]
    rfl
  · rename_i null
    cases certified
    rw [null]
    rfl
  · rename_i present
    cases certified
    rw [present]
    rfl
  · cases certified

theorem certifyEntry_key {node : Json} (certified : certifyEntry node = .ok entry) : tripleJson entry.key =
      .arr [leafText node "vrf", leafText node "prefix", leafText node "next-hop"] := by
  unfold certifyEntry at certified
  split at certified
  · split at certified
    · rename_i route found
      split at certified
      · cases certified
      obtain ⟨vrf, named, certified⟩ := bind_eq_ok.mp certified
      obtain ⟨nextHop, routed, returned⟩ := bind_eq_ok.mp certified
      cases returned
      rw [keyLeaf_text named, keyLeaf_text routed]
      simp only [tripleJson, leafText, Json.member, found, Option.getD_some, partText, keyStr]
    · cases certified
  · cases certified

theorem certified_live {service : ServiceState} (live : entry ∈ (certifiedStaticRouteSection service).routes) :
    ∃ instanceBody, service = .answered (some instanceBody) ∧
      (certifiedStaticRouteSection service).instanceBody = some instanceBody ∧
      instanceBody.truthy = true ∧
      tripleJson entry.key ∈ entryKeys routeList (liveContainer instanceBody .staticRoute) := by
  cases service with
  | inconclusive => cases live
  | answered found =>
    cases projected : projectRoutes found with
    | error refused =>
      simp only [certifiedStaticRouteSection, projected] at live
      cases live
    | ok routes =>
      obtain ⟨sectionRoutes, body⟩ := certifiedStaticRouteSection_ok projected
      have listed : entry ∈ routes := sectionRoutes ▸ live
      unfold projectRoutes at projected
      split at projected
      · cases projected
        cases listed
      · rename_i members
        refine ⟨.obj members, rfl, body, ?_⟩
        split at projected
        · split at projected
          · cases projected
          · cases projected
            cases listed
        · rename_i container located
          split at projected
          · cases projected
            cases listed
          · rename_i nodes routed
            obtain ⟨node, present, certified⟩ := exists_of_mem_mapM projected listed
            constructor
            · cases members with
              | nil => cases located
              | cons => rfl
            · rw [entryKeys_routeList, certifyEntry_key certified]
              have children : childrenOf (liveContainer (.obj members) .staticRoute) "route" = nodes := by
                simp only [childrenOf, liveContainer, containerName, Json.member, located, Option.getD_some, routed]
              rw [children]
              exact List.mem_map_of_mem present
          · cases projected
        · cases projected
      · cases projected

/-- The read that the guard of a write compares with: the certified one of the build, or the
guard's own. -/
def comparedRead (request : BuildRequest) (built : DeviceBody) (read : ServiceState) : ServiceState :=
  if built.staticRoute.isSome then request.live else read

theorem guardedDeviceWrite_routes {asNumbersValid : AsCheck} {policy : WritePolicy} {read : ServiceState}
    {allowed : RemovalAuthority} {sent : Containers}
    (run : buildDeviceContainers encode request document = .ok built)
    (guarded : policy.guarded = true)
    (written : guardedDeviceWrite asNumbersValid policy built.snapshot read built.containers allowed = .ok sent)
    (live : entry ∈ (certifiedStaticRouteSection (comparedRead request built read)).routes) :
    entry.key ∈ built.sentRouteKeys.getD [] ∨ ∃ permitted ∈ authorityKeys allowed .staticRoute "route",
        (keyParts permitted).map partText = [entry.key.1, entry.key.2.1, entry.key.2.2] := by
  obtain ⟨parts, sentParts⟩ := buildDeviceContainers_parts run
  obtain ⟨_, found, taken, clean⟩ := guardedDeviceWrite_clean guarded written
  obtain ⟨instanceBody, answered, certified, present, key⟩ := certified_live live
  have compared : found = some instanceBody := by
    unfold comparedRead at answered certified
    rcases parts with unread | readBack
    · rw [unread] at answered
      simp only [Option.isSome_none, Bool.false_eq_true, if_false] at answered
      simp only [DeviceBody.snapshot, unread, Option.map_none, guardSnapshot, guarded, if_true, answered] at taken
      exact (Except.ok.inj taken).symm
    · rw [readBack] at certified
      simp only [Option.isSome_some, if_true] at certified
      simp only [DeviceBody.snapshot, readBack, Option.map_some, guardSnapshot, certified] at taken
      exact (Except.ok.inj taken).symm
  have covered := listOrphans_eq_nil (by decide) (documentOrphans_eq_nil (clean instanceBody compared present) guarded_routeList) key
  rw [parts_tripleJson] at covered
  refine covered.imp ?_ id
  rintro ⟨other, kept, same⟩
  rcases sentParts with ⟨absent, _⟩ | ⟨routes, container, keys⟩
  · simp only [bodyContainer, absent, Option.getD_none] at kept
    cases kept
  · simp only [bodyContainer, container, Option.getD_some, entryKeys_routeContainer] at kept
    obtain ⟨route, listed, rfl⟩ := List.mem_map.mp kept
    rw [parts_tripleJson] at same
    simp only [List.cons.injEq, and_true] at same
    have sameKey : route.key = entry.key := Prod.ext same.1 (Prod.ext same.2.1 same.2.2)
    rw [keys, ← sameKey]
    exact List.mem_map_of_mem listed

end NsoAdapter.Execution
