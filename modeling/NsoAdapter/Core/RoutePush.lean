import NsoAdapter.Core.FragmentTables
import NsoAdapter.Core.RouteLane
import NsoAdapter.StaticRoute.IngestionProperties

/-! What one static-route push does to its device: the full replace writes exactly its payload,
and a backfill repairs the correlation of the stored rows and nothing else. -/

namespace NsoAdapter.Core
open Lib Projection Store StaticRoute
open Intent

section

variable {identity : PushIdentity} {lane : RouteLane} {body : StaticRouteIntentUpdate}
  {context : RouteContext}

theorem admitPush_deletions {stream : ProjectionStream} {receipt : Option Receipt} {after : Receipt}
    {replay : Option (Option Response × Nat)}
    (admitted : admitPush stream receipt identity = .ok (after, replay)) :
    after.identity = identity ∧ privateDeletions after.response = privateDeletions (receipt.bind (·.response)) := by
  unfold admitPush at admitted
  split at admitted
  · cases admitted
  cases receipt with
  | none =>
    cases admitted
    exact ⟨rfl, rfl⟩
  | some stored =>
    simp only at admitted
    split at admitted
    · split at admitted
      · rename_i same
        cases admitted
        exact ⟨same, rfl⟩
      · cases admitted
    · split at admitted
      · cases admitted
      cases admitted
      refine ⟨rfl, ?_⟩
      split
      · rename_i empty
        exact (List.isEmpty_iff.mp empty).symm
      · rfl

structure Accepted (lane : RouteLane) (identity : PushIdentity) (body : StaticRouteIntentUpdate)
    (context : RouteContext) (receipt recorded : Receipt) (ingested : Ingested) : Prop where
  payload : rejectPayloadDuplicates body.routes = .ok ()
  admitted : receipt.identity = identity
  carried : privateDeletions receipt.response = lane.records
  ran : ingest lane identity body context.now = .ok ingested
  written : recordIngested (storeIngested lane identity body context ingested) receipt identity
    context ingested = .ok recorded

def Replayed (lane : RouteLane) (request : PushIdentity) : Prop :=
  ∃ receipt response status, admitPush .staticRoute lane.receipt
    { request with deleteOrigin := false } = .ok (receipt, some (some response, status))

theorem applyStaticRouteIntent_ok {after : RouteLane} {request : PushIdentity}
    (run : applyStaticRouteIntent lane request body context = .ok after) :
    Replayed lane request ∧ after = lane ∨ ∃ receipt recorded ingested,
      Accepted lane { request with deleteOrigin := false } body context receipt recorded ingested ∧
      after = { storeIngested lane { request with deleteOrigin := false } body context ingested with
        receipt := some recorded } := by
  obtain ⟨_, payload, run⟩ := bind_eq_ok.mp run
  obtain ⟨_, _, run⟩ := bind_eq_ok.mp run
  split at run
  · cases run
  · rename_i receipt response status replayed
    cases run
    exact .inl ⟨⟨receipt, response, status, replayed⟩, rfl⟩
  · rename_i receipt replay _ admitted
    obtain ⟨identity, carried⟩ := admitPush_deletions admitted
    obtain ⟨ingested, ingestion, run⟩ := bind_eq_ok.mp run
    dsimp only at run
    split at run
    · cases run
    · rename_i recorded written
      cases run
      exact .inr ⟨receipt, recorded, ingested, ⟨payload, identity, carried, ingestion, written⟩, rfl⟩

theorem Accepted.ingests {receipt recorded : Receipt} {ingested : Ingested}
    (accepted : Accepted lane identity body context receipt recorded ingested)
    (stored : StoredRows lane.rows lane.nextRowId) : Ingests lane.rows lane.nextRowId ingested := by
  have run := accepted.ran
  unfold ingest at run
  split at run
  · exact backfillRoutes_ingests stored accepted.payload run
  · exact ingestRoutes_ingests stored accepted.payload run

def replacedRows (lane : RouteLane) (identity : PushIdentity) (context : RouteContext)
    (ingested : Ingested) : RouteLane :=
  { lane with
    rows := ingested.rows, nextRowId := ingested.nextRowId
    tombstones := lane.tombstones ++ if identity.backfillOnly then []
      else removalCarriers lane ingested identity.storeOnly context.now
    nextTombstoneId := lane.nextTombstoneId + ingested.removed.length
    desiredRevision := lane.desiredRevision + 1 }

theorem storeIngested_eq (lane : RouteLane) (identity : PushIdentity)
    (body : StaticRouteIntentUpdate) (context : RouteContext) (ingested : Ingested) :
    storeIngested lane identity body context ingested = if pushPromotes body ingested identity context.autoApply then
        (replacedRows lane identity context ingested).authorize
      else replacedRows lane identity context ingested := rfl

end

/-- What a push hands to `enqueue_static_route_removals`; `base` has what the promotion adds, the
document and its revisions. -/
def removalPush (lane : RouteLane) (ingested : Ingested) (now : String) (base : RemovalPush) : RemovalPush :=
  { base with
    deviceId := lane.deviceId
    removed := fun marking => (ingested.removed.filter fun row =>
      removalMarking ingested.partition row == marking).map (·.triple)
    carriers := deletedRoutes lane ingested false now
    retract := ingested.cleared }

/-- What an admitted push asks of the queue: its removals, and the automatic apply. A store-only
push and a backfill ask nothing. -/
def queueRequests (lane : RouteLane) (request : PushIdentity) (body : StaticRouteIntentUpdate)
    (context : RouteContext) (base : RemovalPush) : Except IngestError (Option RemovalPush × Bool) := do
  let ingested ← ingest lane { request with deleteOrigin := false } body context.now
  if request.backfillOnly || request.storeOnly then
    return (none, false)
  return (if ingested.removed.isEmpty && !ingested.cleared then none
    else some (removalPush lane ingested context.now base), context.autoApply && !body.routes.isEmpty)

variable {ingested : Ingested} {body : StaticRouteIntentUpdate} {rows : List StaticRouteIntent}

/-- The lane after a push was answered: a refusal rolls its transaction back. -/
def servePush (lane : RouteLane) (request : PushIdentity) (body : StaticRouteIntentUpdate)
    (context : RouteContext) : RouteLane :=
  match applyStaticRouteIntent lane request body context with
  | .ok after => after
  | .error _ => lane

theorem storeIngested_rows (lane : RouteLane) (identity : PushIdentity)
    (body : StaticRouteIntentUpdate) (context : RouteContext) (ingested : Ingested) :
    (storeIngested lane identity body context ingested).rows = ingested.rows := by
  rw [storeIngested_eq]
  split <;> rfl

/-! ### The full replace -/

structure Written (now : String) (next : Nat) (entry : Matched) (row : StaticRouteIntent) :
    Prop where
  triple : row.triple = entry.1.triple
  state : row.state = entry.1.state
  routeId : row.routeId = entry.1.routeId.or (entry.2.bind (·.routeId))
  generation : row.intentGeneration = entry.1.generation.or (entry.2.bind (·.intentGeneration))
  accepted : row.acceptedAt = entry.1.acceptedAt.getD now
  kept : ∀ old ∈ entry.2, row.id = old.id
  fresh : entry.2 = none → next ≤ row.id

theorem writeRoutes_written (now : String) (storeOnly : Bool) (matched : List Matched) (next : Nat) :
    List.Forall₂ (Written now next) matched (writeRoutes now storeOnly matched next).1 := by
  induction matched generalizing next with
  | nil => exact .nil
  | cons entry rest ih =>
    obtain ⟨item, choice⟩ := entry
    cases choice with
    | some old =>
      refine .cons ⟨rfl, rfl, rfl, rfl, rfl, ?_, fun free => by cases free⟩ (ih next)
      rintro _ ⟨⟩
      rfl
    | none =>
      refine .cons ⟨rfl, rfl, ?_, ?_, rfl, fun _ absent => (by cases absent), fun _ => le_rfl⟩ ?_
      · exact Option.or_none.symm
      · exact Option.or_none.symm
      · exact (ih (next + 1)).imp fun entry row written =>
          { written with fresh := fun free => (Nat.le_succ next).trans (written.fresh free) }

structure FullReplace (lane : RouteLane) (body : StaticRouteIntentUpdate) (now : String)
    (after : RouteLane) : Prop where
  triples : after.rows.map (·.triple) = body.routes.map (·.triple)
  written : List.Forall₂ (Written now lane.nextRowId) (matchedEntries body.routes lane.rows)
    after.rows
  routeIds : (after.rows.filterMap (·.routeId)).Nodup

/-- A payload is paired with the stored rows one to one, the route id first, and a full replace
leaves exactly the payload. -/
theorem static_route_full_replace (lane : RouteLane) (stored : StoredRows lane.rows lane.nextRowId)
    (request : PushIdentity) (replaces : request.backfillOnly = false)
    (body : StaticRouteIntentUpdate) (accepted : rejectPayloadDuplicates body.routes = .ok ())
    (context : RouteContext) :
    ((matchedEntries body.routes lane.rows).map (·.1) = body.routes ∧
      (∀ item row, (item, some row) ∈ matchedEntries body.routes lane.rows → row ∈ lane.rows ∧ Paired item row) ∧
      (claimedIds (matchedEntries body.routes lane.rows)).Nodup ∧
      ∀ item choice, (item, choice) ∈ matchedEntries body.routes lane.rows →
        ∀ row ∈ lane.rows, row.routeId.isSome → row.routeId = item.routeId → choice = some row) ∧
    (∀ refused, applyStaticRouteIntent lane request body context = .error refused →
      servePush lane request body context = lane) ∧
    ∀ after, applyStaticRouteIntent lane request body context = .ok after →
      Replayed lane request ∧ after = lane ∨ FullReplace lane body context.now after := by
  obtain ⟨_, routeIds⟩ := rejectPayloadDuplicates_ok accepted
  have pairing := pairing_matchedEntries stored.ids routeIds
  refine ⟨⟨pairing.entries, pairing.paired, pairing.distinct, ?_⟩, ?_, ?_⟩
  · intro item choice member row located held same
    obtain ⟨routeId, held⟩ := Option.isSome_iff_exists.mp held
    have claims : claimant (item, choice) = some routeId := by
      unfold claimant
      rw [← same, held]
      rfl
    exact pairing.owns stored.routeIds member claims located held
  · intro refused run
    unfold servePush
    rw [run]
  · intro after run
    rcases applyStaticRouteIntent_ok run with replay | ⟨receipt, recorded, ingested, parts, rfl⟩
    · exact .inl replay
    have ran := parts.ran
    unfold ingest at ran
    rw [if_neg (by simp [replaces])] at ran
    have written := (ingestRoutes_ok ran).2.2.1
    refine .inr ⟨?_, ?_, ?_⟩
    · rw [storeIngested_rows, written, writeRoutes_triples, pairing.entries]
    · rw [storeIngested_rows, written]
      exact writeRoutes_written _ _ _ _
    · rw [storeIngested_rows]
      exact (parts.ingests stored).stored.routeIds

def mixedLane : RouteLane :=
  let state : RouteState := ⟨none, none, none, none, none, none⟩
  { RouteLane.fresh 7 none with
    rows := [⟨1, some 5, none, ("", "10.0.0.0/24", "192.0.2.1"), state, "t0", none, none⟩,
      ⟨2, none, none, ("", "10.0.1.0/24", "192.0.2.1"), state, "t0", none, none⟩,
      ⟨3, none, none, ("", "10.0.2.0/24", "192.0.2.1"), state, "t0", none, none⟩]
    nextRowId := 4 }

def mixedContext : RouteContext := ⟨"t1", false, fun _ => "f"⟩

theorem mixedLane_stored : StoredRows mixedLane.rows mixedLane.nextRowId := ⟨by decide, by decide, by decide, by decide⟩

/-- The correlated route takes the key of the other one. -/
def takeover : StaticRouteIntentUpdate :=
  let state : RouteState := ⟨none, none, some 10, none, none, none⟩
  ⟨[⟨some 5, none, ("", "10.0.1.0/24", "192.0.2.1"), state, none⟩,
    ⟨none, none, ("", "10.0.0.0/24", "192.0.2.1"), state, none⟩], []⟩

theorem takeover_replaces : ∃ after, applyStaticRouteIntent mixedLane ⟨1, "d", false, false, false⟩ takeover mixedContext = .ok after ∧
      FullReplace mixedLane takeover "t1" after := by
  have found : (applyStaticRouteIntent mixedLane ⟨1, "d", false, false, false⟩ takeover
      mixedContext).toOption.any (fun after => decide (after ≠ mixedLane)) = true := by
    decide +kernel
  obtain ⟨after, run, changed⟩ := toOption_any_eq_true found
  refine ⟨after, run, ?_⟩
  have replaced := (static_route_full_replace mixedLane mixedLane_stored ⟨1, "d", false, false, false⟩
    rfl takeover (by decide) mixedContext).2.2 after run
  exact replaced.resolve_left fun replay => of_decide_eq_true changed replay.2

/-! ### The backfill -/

/-- A stored row after a backfill: its correlation alone may be filled in. -/
structure Correlates (old row : StaticRouteIntent) : Prop where
  rest : { row with routeId := old.routeId, intentGeneration := old.intentGeneration } = old
  routeId : ∀ routeId, old.routeId = some routeId → row.routeId = some routeId

structure Repaired (lane : RouteLane) (body : StaticRouteIntentUpdate) (after : RouteLane) :
    Prop where
  correlated : ∀ row ∈ after.rows, row.routeId.isSome
  routeIds : (after.rows.filterMap (·.routeId)).Nodup
  survives : ∀ row ∈ after.rows, ∃ old ∈ lane.rows, Correlates old row
  prunes : ∀ old ∈ lane.rows, (∃ row ∈ after.rows, Correlates old row) ∨
    old.routeId = none ∧ old.id ∉ claimedIds (matchedEntries body.routes lane.rows)
  tombstones : after.tombstones = lane.tombstones
  authorized : after.authorized = lane.authorized
  authorizedRevision : after.authorizedRevision = lane.authorizedRevision

theorem backfilledRow_correlates {routes : List StaticRouteEntry} {matched : List Matched}
    (pairing : Pairing routes rows matched) (ids : (rows.map (·.id)).Nodup)
    {row : StaticRouteIntent} (stored : row ∈ rows) :
    Correlates row (backfilledRow matched row) := by
  refine ⟨?_, (pairing.backfilled ids stored).1.routeId⟩
  unfold backfilledRow
  split <;> rfl

theorem backfilledRow_correlated (pairing : Pairing body.routes rows (matchedEntries body.routes rows)) (ids : (rows.map (·.id)).Nodup)
    (none : (residualNulls (matchedEntries body.routes rows)).isEmpty = true)
    {row : StaticRouteIntent} (stored : row ∈ rows) (kept : row ∉ prunedRows body.routes rows) :
    (backfilledRow (matchedEntries body.routes rows) row).routeId.isSome := by
  cases held : row.routeId with
  | some routeId =>
    rw [(pairing.backfilled ids stored).1.routeId routeId held]
    rfl
  | none =>
    have claimed : row.id ∈ claimedIds (matchedEntries body.routes rows) := by
      by_contra free
      exact kept (List.mem_filter.mpr ⟨mem_unmatchedRows.mpr ⟨stored, free⟩, by rw [held]; rfl⟩)
    unfold backfilledRow
    split
    · rename_i entry found
      have member := List.mem_of_find?_eq_some found
      obtain ⟨item, choice⟩ := entry
      have named : choice.map (·.id) = some row.id := by simpa using List.find?_some found
      obtain ⟨chosen, rfl, same⟩ := Option.map_eq_some_iff.mp named
      cases pairing.eq_of_id ids member stored same
      cases adopted : item.routeId with
      | some routeId =>
        unfold adoptRow
        simp [adopted]
      | none =>
        have residual : item.triple ∈ residualNulls (matchedEntries body.routes rows) := by
          refine List.mem_map.mpr ⟨_, List.mem_filter.mpr ⟨member, ?_⟩, rfl⟩
          simp [held, adopted]
        rw [List.isEmpty_iff.mp none] at residual
        exact absurd residual List.not_mem_nil
    · rename_i missing
      obtain ⟨item, chosen, member, same⟩ := mem_claimedIds.mp claimed
      have missed := List.find?_eq_none.mp missing _ member
      simp [same] at missed

theorem backfillRoutes_residual {next : Nat} (run : backfillRoutes rows next body = .ok ingested) :
    (residualNulls (matchedEntries body.routes rows)).isEmpty = true := by
  unfold backfillRoutes at run
  dsimp only at run
  split at run
  · cases run
  · rename_i none
    simpa using none

/-- A backfill that is not refused correlates every row, changes no route, deletes only what it
could not correlate, and asks nothing of the queue. -/
theorem backfill_repairs_correlation (lane : RouteLane) (stored : StoredRows lane.rows lane.nextRowId) (request : PushIdentity)
    (backfill : request.backfillOnly = true) (body : StaticRouteIntentUpdate)
    (context : RouteContext) :
    (∀ refused, applyStaticRouteIntent lane request body context = .error refused →
      servePush lane request body context = lane) ∧
    (∀ base requests, queueRequests lane request body context base = .ok requests → requests = (none, false)) ∧
    ∀ after, applyStaticRouteIntent lane request body context = .ok after →
      Replayed lane request ∧ after = lane ∨ Repaired lane body after := by
  refine ⟨?_, ?_, ?_⟩
  · intro refused run
    unfold servePush
    rw [run]
  · intro base requests asked
    obtain ⟨ingested, _, asked⟩ := bind_eq_ok.mp asked
    rw [backfill] at asked
    exact (Except.ok.inj asked).symm
  · intro after run
    rcases applyStaticRouteIntent_ok run with replay | ⟨receipt, recorded, ingested, parts, rfl⟩
    · exact .inl replay
    have ran := parts.ran
    unfold ingest at ran
    rw [if_pos (by simp [backfill])] at ran
    have ingests := parts.ingests stored
    obtain ⟨_, routeIds⟩ := rejectPayloadDuplicates_ok parts.payload
    have pairing := pairing_matchedEntries stored.ids routeIds
    obtain ⟨removed, written, _⟩ := backfillRoutes_ok ran
    have stays : pushPromotes body ingested { request with deleteOrigin := false } context.autoApply = false := by
      rw [backfill]
      rfl
    refine .inr ?_
    rw [storeIngested_eq, if_neg (by rw [stays]; decide)]
    refine ⟨?_, ingests.stored.routeIds, ?_, ?_, ?_, rfl, rfl⟩
    · intro row member
      rw [show (replacedRows lane _ context ingested).rows = ingested.rows from rfl, written] at member
      obtain ⟨old, survivor, rfl⟩ := List.mem_map.mp member
      obtain ⟨located, kept⟩ := List.mem_filter.mp survivor
      exact backfilledRow_correlated pairing stored.ids (backfillRoutes_residual ran) located (by simpa using kept)
    · intro row member
      rw [show (replacedRows lane _ context ingested).rows = ingested.rows from rfl, written] at member
      obtain ⟨old, survivor, rfl⟩ := List.mem_map.mp member
      have located := (List.mem_filter.mp survivor).1
      exact ⟨old, located, backfilledRow_correlates pairing stored.ids located⟩
    · intro old located
      by_cases pruned : old ∈ prunedRows body.routes lane.rows
      · obtain ⟨unmatched, uncorrelated⟩ := List.mem_filter.mp pruned
        exact .inr ⟨Option.isNone_iff_eq_none.mp uncorrelated, (mem_unmatchedRows.mp unmatched).2⟩
      · refine .inl ⟨_, ?_, backfilledRow_correlates pairing stored.ids located⟩
        rw [show (replacedRows lane _ context ingested).rows = ingested.rows from rfl, written]
        exact List.mem_map.mpr ⟨old, List.mem_filter.mpr ⟨located, by simpa using pruned⟩, rfl⟩
    · unfold replacedRows
      rw [if_pos backfill]
      exact List.append_nil _

/-- The correlation of the first two routes; the third is gone. -/
def correlation : StaticRouteIntentUpdate :=
  let state : RouteState := ⟨none, none, none, none, none, none⟩
  ⟨[⟨some 5, some 2, ("", "10.0.0.0/24", "192.0.2.1"), state, none⟩,
    ⟨some 6, some 2, ("", "10.0.1.0/24", "192.0.2.1"), state, none⟩], []⟩

theorem correlation_repairs : ∃ after, applyStaticRouteIntent mixedLane ⟨1, "d", true, false, true⟩ correlation mixedContext = .ok after ∧
      Repaired mixedLane correlation after ∧ after.rows.map (·.routeId) = [some 5, some 6] := by
  have found : (applyStaticRouteIntent mixedLane ⟨1, "d", true, false, true⟩ correlation
      mixedContext).toOption.any (fun after => decide (after.rows.map (·.routeId) = [some 5, some 6])) = true := by
    decide +kernel
  obtain ⟨after, run, kept⟩ := toOption_any_eq_true found
  have kept := of_decide_eq_true kept
  refine ⟨after, run, ?_, kept⟩
  have repaired := (backfill_repairs_correlation mixedLane mixedLane_stored
    ⟨1, "d", true, false, true⟩ rfl correlation mixedContext).2.2 after run
  refine repaired.resolve_left ?_
  rintro ⟨_, rfl⟩
  exact absurd kept (by decide)

/-! ### Runs of pushes -/

def servePushes (lane : RouteLane)
    (pushes : List (PushIdentity × StaticRouteIntentUpdate × RouteContext)) : RouteLane :=
  pushes.foldl (fun lane push => servePush lane push.1 push.2.1 push.2.2) lane

/-- What a carrier owes: clearable fields that its row leaves unset, each in one half. -/
structure Owes (state : RouteState) (carrier : PendingClear) : Prop where
  some : ¬(carrier.authorized = [] ∧ carrier.storeOnly = [])
  apart : ∀ field ∈ carrier.authorized, field ∉ carrier.storeOnly
  unset : ∀ field, field ∈ carrier.authorized ∨ field ∈ carrier.storeOnly →
    field ∈ srClearFields ∧ wireSet field (state.columns.get field) = false

/-- The rows of a lane as every push finds them. -/
structure LaneRows (lane : RouteLane) : Prop where
  stored : StoredRows lane.rows lane.nextRowId
  owes : ∀ row ∈ lane.rows, ∀ carrier ∈ row.pendingClear, Owes row.state carrier

theorem updateRow_owes {item : StaticRouteEntry} {now : String} {storeOnly : Bool}
    {row : StaticRouteIntent} (before : ∀ carrier ∈ row.pendingClear, Owes row.state carrier) :
    ∀ carrier ∈ (updateRow item now storeOnly row).pendingClear, Owes item.state carrier := by
  intro carrier written
  obtain ⟨nonempty, made⟩ := Option.ite_none_left_eq_some.mp written
  cases made
  refine ⟨by simpa [orderBy_eq_nil] using nonempty, ?_, ?_⟩
  all_goals
    clear nonempty written
    cases held : row.pendingClear with
    | none => cases storeOnly <;> simp [clearedFields, srIsCleared] <;> grind
    | some old =>
      obtain ⟨_, apart, unset⟩ := before old held
      cases storeOnly <;> simp [clearedFields, srIsCleared] <;> grind

theorem LaneRows.servePush {lane : RouteLane} (before : LaneRows lane) (request : PushIdentity)
    (body : StaticRouteIntentUpdate) (context : RouteContext) :
    LaneRows (servePush lane request body context) := by
  unfold Core.servePush
  split
  swap
  · exact before
  rename_i run
  rcases applyStaticRouteIntent_ok run with ⟨_, rfl⟩ | ⟨receipt, recorded, ingested, parts, rfl⟩
  · exact before
  have pairing := pairing_matchedEntries before.stored.ids (rejectPayloadDuplicates_ok parts.payload).2
  have owes : ∀ row ∈ ingested.rows, ∀ carrier ∈ row.pendingClear, Owes row.state carrier := by
    have ran := parts.ran
    intro row member
    unfold ingest at ran
    split at ran
    · rw [(backfillRoutes_ok ran).2.1] at member
      obtain ⟨old, survivor, rfl⟩ := List.mem_map.mp member
      have located := (List.mem_filter.mp survivor).1
      have kept := before.owes old located
      rwa [← (backfilledRow_correlates pairing before.stored.ids located).rest] at kept
    · rw [(ingestRoutes_ok ran).2.2.1] at member
      rcases mem_writeRoutes member with ⟨item, old, paired, rfl⟩ | ⟨item, _, created, _⟩
      · exact updateRow_owes (before.owes old (pairing.paired item old paired).1)
      · rw [created]
        exact fun _ absent => by cases absent
  have stored := (parts.ingests before.stored).stored
  rw [storeIngested_eq]
  split <;> exact ⟨stored, owes⟩

/-- Whatever pushes a device is sent, its rows stay keyed and a carrier owes something, and nothing
that its row sets. -/
theorem pushes_keep_lane_rows (deviceId : Nat) (nedId : Option String)
    (pushes : List (PushIdentity × StaticRouteIntentUpdate × RouteContext)) :
    LaneRows (servePushes (RouteLane.fresh deviceId nedId) pushes) := by
  have fresh : LaneRows (RouteLane.fresh deviceId nedId) := by
    constructor <;> simp [RouteLane.fresh]
    constructor <;> simp
  generalize RouteLane.fresh deviceId nedId = lane at fresh ⊢
  induction pushes generalizing lane with
  | nil => exact fresh
  | cons push rest ih => exact ih _ (fresh.servePush push.1 push.2.1 push.2.2)

end NsoAdapter.Core
