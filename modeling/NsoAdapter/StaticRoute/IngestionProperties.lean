import NsoAdapter.StaticRoute.Ingestion

/-! What an accepted static-route push does to the stored rows: a row keeps its id while
an entry is paired with it, its route id is adopted once and never changes, and its
triple moves only under the route id both sides name. -/

namespace NsoAdapter.StaticRoute
open Lib Projection Store

/-- The constraints of the table: its primary key, its unique triple and the unique
route id of the rows that have one. -/
structure StoredRows (rows : List StaticRouteIntent) (next : Nat) : Prop where
  ids : (rows.map (·.id)).Nodup
  triples : (rows.map (·.triple)).Nodup
  routeIds : (rows.filterMap (·.routeId)).Nodup
  below : ∀ row ∈ rows, row.id < next

variable {routes : List StaticRouteEntry}

theorem rejectPayloadDuplicates_ok (accepted : rejectPayloadDuplicates routes = .ok ()) :
    (routes.map (·.triple)).Nodup ∧ (routes.filterMap (·.routeId)).Nodup := by
  unfold rejectPayloadDuplicates at accepted
  split at accepted
  · cases accepted
  rename_i triples
  split at accepted
  · cases accepted
  · rename_i routeIds
    exact ⟨(nodup_of_firstRepeated triples).1, (nodup_of_firstRepeated routeIds).1⟩

variable {item : StaticRouteEntry} {row : StaticRouteIntent} {rows : List StaticRouteIntent}
  {next : Nat} {body : StaticRouteIntentUpdate} {ingested : Ingested}

variable {existing : List StaticRouteIntent}

theorem matchByRouteId_eq_some (found : matchByRouteId existing item = some row) :
    row ∈ existing ∧ ∃ routeId, item.routeId = some routeId ∧ row.routeId = some routeId := by
  obtain ⟨routeId, named, located⟩ := Option.bind_eq_some_iff.mp found
  refine ⟨List.mem_of_find?_eq_some located, routeId, named, ?_⟩
  simpa using List.find?_some located

variable {routeId : Nat} {claimed : List Nat}

theorem matchByRouteId_eq_none (none : matchByRouteId existing item = none) (named : item.routeId = some routeId) :
    ∀ row ∈ existing, row.routeId ≠ some routeId := by
  unfold matchByRouteId at none
  rw [named, Option.bind_some, List.find?_eq_none] at none
  intro row member same
  exact none row member (by simp [same])

theorem matchByTriple_eq_some (found : matchByTriple existing claimed item = some row) :
    row ∈ existing ∧ row.triple = item.triple ∧ row.id ∉ claimed ∧ (item.routeId = none ∨ row.routeId = none) := by
  obtain ⟨located, free⟩ := Option.filter_eq_some_iff.mp found
  refine ⟨List.mem_of_find?_eq_some located, by simpa using List.find?_some located, ?_, ?_⟩
  · simpa using (Bool.and_eq_true_iff.mp free).1
  · have open_ := (Bool.and_eq_true_iff.mp free).2
    cases named : item.routeId with
    | none => exact .inl rfl
    | some _ =>
      cases held : row.routeId with
      | none => exact .inr rfl
      | some _ => simp [named, held] at open_

/-- How an entry was paired: by the route id both name, or by the triple where one side
names none. -/
def Paired (item : StaticRouteEntry) (row : StaticRouteIntent) : Prop :=
  (∃ routeId, item.routeId = some routeId ∧ row.routeId = some routeId) ∨
    row.triple = item.triple ∧ (item.routeId = none ∨ row.routeId = none)

structure Pairing (routes : List StaticRouteEntry) (existing : List StaticRouteIntent)
    (matched : List Matched) : Prop where
  entries : matched.map (·.1) = routes
  distinct : (claimedIds matched).Nodup
  paired : ∀ item row, (item, some row) ∈ matched → row ∈ existing ∧ Paired item row
  correlated : ∀ item choice routeId, (item, choice) ∈ matched → item.routeId = some routeId →
    ∀ row ∈ existing, row.routeId = some routeId →
      ∃ chosen, choice = some chosen ∧ chosen.routeId = some routeId

theorem claimByTriple_entries (existing : List StaticRouteIntent) (entries : List Matched) (claimed : List Nat) :
    (claimByTriple existing entries claimed).map (·.1) = entries.map (·.1) := by
  fun_induction claimByTriple existing entries claimed with
  | case1 claimed => rfl
  | case2 item row rest claimed ih => exact congrArg (_ :: ·) ih
  | case3 item rest claimed free ih => exact congrArg (_ :: ·) ih
  | case4 item rest claimed row found ih => exact congrArg (_ :: ·) ih

theorem mem_claimByTriple {entries : List Matched} {choice : Option StaticRouteIntent}
    (member : (item, choice) ∈ claimByTriple existing entries claimed) :
    (item, choice) ∈ entries ∨ (item, none) ∈ entries ∧ ∃ row, choice = some row ∧ row ∈ existing ∧
        row.triple = item.triple ∧ (item.routeId = none ∨ row.routeId = none) := by
  fun_induction claimByTriple existing entries claimed with
  | case1 claimed => exact absurd member List.not_mem_nil
  | case2 other row rest claimed ih =>
    rcases List.mem_cons.mp member with same | later
    · exact .inl (same ▸ List.mem_cons_self)
    · rcases ih later with kept | ⟨open_, added⟩
      · exact .inl (List.mem_cons_of_mem _ kept)
      · exact .inr ⟨List.mem_cons_of_mem _ open_, added⟩
  | case3 other rest claimed free ih =>
    rcases List.mem_cons.mp member with same | later
    · exact .inl (same ▸ List.mem_cons_self)
    · rcases ih later with kept | ⟨open_, added⟩
      · exact .inl (List.mem_cons_of_mem _ kept)
      · exact .inr ⟨List.mem_cons_of_mem _ open_, added⟩
  | case4 other rest claimed row found ih =>
    rcases List.mem_cons.mp member with same | later
    · cases same
      obtain ⟨stored, triple, _, unnamed⟩ := matchByTriple_eq_some found
      exact .inr ⟨List.mem_cons_self, row, rfl, stored, triple, unnamed⟩
    · rcases ih later with kept | ⟨open_, added⟩
      · exact .inl (List.mem_cons_of_mem _ kept)
      · exact .inr ⟨List.mem_cons_of_mem _ open_, added⟩

theorem claimByTriple_nodup {entries : List Matched}
    (distinct : (claimedIds entries).Nodup) (held : ∀ id ∈ claimedIds entries, id ∈ claimed) :
    (claimedIds (claimByTriple existing entries claimed)).Nodup ∧
      ∀ id ∈ claimedIds (claimByTriple existing entries claimed), id ∈ claimedIds entries ∨ id ∉ claimed := by
  fun_induction claimByTriple existing entries claimed with
  | case1 claimed => exact ⟨List.nodup_nil, fun _ member => absurd member List.not_mem_nil⟩
  | case2 item row rest claimed ih =>
    obtain ⟨fresh, others⟩ := List.nodup_cons.mp distinct
    obtain ⟨after, origin⟩ := ih others fun id member => held id (List.mem_cons_of_mem _ member)
    refine ⟨List.nodup_cons.mpr ⟨fun member => ?_, after⟩, fun id member => ?_⟩
    · rcases origin _ member with earlier | free
      · exact fresh earlier
      · exact free (held _ List.mem_cons_self)
    · rcases List.mem_cons.mp member with rfl | later
      · exact .inl List.mem_cons_self
      · exact (origin id later).imp_left (List.mem_cons_of_mem _)
  | case3 item rest claimed free ih => exact ih distinct held
  | case4 item rest claimed row found ih =>
    obtain ⟨_, _, unclaimed, _⟩ := matchByTriple_eq_some found
    obtain ⟨after, origin⟩ := ih distinct fun id member => List.mem_cons_of_mem _ (held id member)
    refine ⟨List.nodup_cons.mpr ⟨fun member => ?_, after⟩, fun id member => ?_⟩
    · rcases origin _ member with earlier | free
      · exact unclaimed (held _ earlier)
      · exact free List.mem_cons_self
    · rcases List.mem_cons.mp member with rfl | later
      · exact .inr unclaimed
      · exact (origin id later).imp_right fun free inside => free (List.mem_cons_of_mem _ inside)

theorem claimedIds_byRouteId_nodup (ids : (existing.map (·.id)).Nodup) (routeIds : (routes.filterMap (·.routeId)).Nodup) :
    (claimedIds (routes.map fun item => (item, matchByRouteId existing item))).Nodup := by
  unfold claimedIds
  rw [List.filterMap_map]
  refine List.pairwise_filterMap.mpr ((List.pairwise_filterMap.mp routeIds).imp ?_)
  intro left right apart leftId leftFound rightId rightFound same
  obtain ⟨leftRow, leftMatch, rfl⟩ := Option.map_eq_some_iff.mp leftFound
  obtain ⟨rightRow, rightMatch, rfl⟩ := Option.map_eq_some_iff.mp rightFound
  obtain ⟨leftStored, leftRoute, leftNamed, leftHeld⟩ := matchByRouteId_eq_some leftMatch
  obtain ⟨rightStored, rightRoute, rightNamed, rightHeld⟩ := matchByRouteId_eq_some rightMatch
  have row : leftRow = rightRow := List.inj_on_of_nodup_map ids leftStored rightStored same
  subst row
  exact apart leftRoute leftNamed rightRoute rightNamed (Option.some.inj (leftHeld.symm.trans rightHeld))

theorem pairing_matchedEntries (ids : (existing.map (·.id)).Nodup) (routeIds : (routes.filterMap (·.routeId)).Nodup) :
    Pairing routes existing (matchedEntries routes existing) := by
  unfold matchedEntries
  refine ⟨?_, ?_, ?_, ?_⟩
  · rw [claimByTriple_entries, List.map_map]
    exact List.map_id _
  · exact (claimByTriple_nodup (claimedIds_byRouteId_nodup ids routeIds) fun _ member => member).1
  · intro item row member
    rcases mem_claimByTriple member with first | ⟨_, chosen, same, stored, triple, unnamed⟩
    · obtain ⟨entry, _, same⟩ := List.mem_map.mp first
      obtain ⟨rfl, found⟩ := Prod.mk.inj same
      obtain ⟨stored, routeId, named, held⟩ := matchByRouteId_eq_some found
      exact ⟨stored, .inl ⟨routeId, named, held⟩⟩
    · cases same
      exact ⟨stored, .inr ⟨triple, unnamed⟩⟩
  · intro item choice routeId member named row stored held
    -- An entry whose route id is stored is matched in the first pass.
    have first : ∀ found, (item, found) ∈ routes.map (fun item => (item, matchByRouteId existing item)) →
        matchByRouteId existing item = found := by
      intro found listed
      obtain ⟨entry, _, same⟩ := List.mem_map.mp listed
      cases same
      rfl
    rcases mem_claimByTriple member with kept | ⟨open_, _⟩
    · cases choice with
      | none => exact absurd held (matchByRouteId_eq_none (first _ kept) named row stored)
      | some chosen =>
        obtain ⟨_, other, same, located⟩ := matchByRouteId_eq_some (first _ kept)
        rw [named] at same
        cases same
        exact ⟨chosen, rfl, located⟩
    · exact absurd held (matchByRouteId_eq_none (first _ open_) named row stored)

section

variable {now : String} {storeOnly : Bool}

theorem writeRoutes_triples (matched : List Matched) (next : Nat) :
    (writeRoutes now storeOnly matched next).1.map (·.triple) = (matched.map (·.1)).map (·.triple) := by
  fun_induction writeRoutes now storeOnly matched next with
  | case1 next => rfl
  | case2 item row rest next written ih => exact congrArg (item.triple :: ·) ih
  | case3 item rest next written ih => exact congrArg (item.triple :: ·) ih

theorem writeRoutes_routeIds (matched : List Matched) (next : Nat) :
    (writeRoutes now storeOnly matched next).1.filterMap (·.routeId) = matched.filterMap claimant := by
  fun_induction writeRoutes now storeOnly matched next with
  | case1 next => rfl
  | case2 item row rest next written ih =>
    have same : (updateRow item now storeOnly row).routeId = claimant (item, some row) := rfl
    rw [List.filterMap_cons, List.filterMap_cons, same, ih]
  | case3 item rest next written ih =>
    have same : (newRow next item now).routeId = claimant (item, none) := by
      exact Option.or_none.symm
    rw [List.filterMap_cons, List.filterMap_cons, same, ih]

theorem le_writeRoutes (matched : List Matched) (next : Nat) : next ≤ (writeRoutes now storeOnly matched next).2 := by
  fun_induction writeRoutes now storeOnly matched next with
  | case1 next => exact le_rfl
  | case2 item row rest next written ih => exact ih
  | case3 item rest next written ih => exact (Nat.le_succ next).trans ih

variable {matched : List Matched} {next : Nat}

theorem mem_writeRoutes {row : StaticRouteIntent} (member : row ∈ (writeRoutes now storeOnly matched next).1) :
    (∃ item old, (item, some old) ∈ matched ∧ row = updateRow item now storeOnly old) ∨
      ∃ item, (item, none) ∈ matched ∧ row = newRow row.id item now ∧ next ≤ row.id ∧
        row.id < (writeRoutes now storeOnly matched next).2 := by
  fun_induction writeRoutes now storeOnly matched next with
  | case1 next => exact absurd member List.not_mem_nil
  | case2 item old rest next written ih =>
    rcases List.mem_cons.mp member with rfl | later
    · exact .inl ⟨item, old, List.mem_cons_self, rfl⟩
    · rcases ih later with ⟨other, kept, listed, same⟩ | ⟨other, listed, same, above, below⟩
      · exact .inl ⟨other, kept, List.mem_cons_of_mem _ listed, same⟩
      · exact .inr ⟨other, List.mem_cons_of_mem _ listed, same, above, below⟩
  | case3 item rest next written ih =>
    rcases List.mem_cons.mp member with rfl | later
    · exact .inr ⟨item, List.mem_cons_self, rfl, le_rfl, le_writeRoutes rest (next + 1)⟩
    · rcases ih later with ⟨other, kept, listed, same⟩ | ⟨other, listed, same, above, below⟩
      · exact .inl ⟨other, kept, List.mem_cons_of_mem _ listed, same⟩
      · exact .inr ⟨other, List.mem_cons_of_mem _ listed, same, (Nat.le_succ next).trans above, below⟩

theorem updateRow_mem_writeRoutes {item : StaticRouteEntry} {row : StaticRouteIntent} (member : (item, some row) ∈ matched) :
    updateRow item now storeOnly row ∈ (writeRoutes now storeOnly matched next).1 := by
  fun_induction writeRoutes now storeOnly matched next with
  | case1 next => exact absurd member List.not_mem_nil
  | case2 other old rest next written ih =>
    rcases List.mem_cons.mp member with same | later
    · cases same
      exact List.mem_cons_self
    · exact List.mem_cons_of_mem _ (ih later)
  | case3 other rest next written ih =>
    rcases List.mem_cons.mp member with same | later
    · cases same
    · exact List.mem_cons_of_mem _ (ih later)

theorem mem_claimedIds {id : Nat} : id ∈ claimedIds matched ↔ ∃ item row, (item, some row) ∈ matched ∧ row.id = id := by
  unfold claimedIds
  rw [List.mem_filterMap]
  constructor
  · rintro ⟨⟨item, choice⟩, member, found⟩
    obtain ⟨row, rfl, same⟩ := Option.map_eq_some_iff.mp found
    exact ⟨item, row, member, same⟩
  · rintro ⟨item, row, member, rfl⟩
    exact ⟨(item, some row), member, rfl⟩

theorem writeRoutes_ids (distinct : (claimedIds matched).Nodup) (below : ∀ id ∈ claimedIds matched, id < next) :
    ((writeRoutes now storeOnly matched next).1.map (·.id)).Nodup := by
  fun_induction writeRoutes now storeOnly matched next with
  | case1 next => exact List.nodup_nil
  | case2 item row rest next written ih =>
    obtain ⟨fresh, others⟩ := List.nodup_cons.mp distinct
    have rest_below : ∀ id ∈ claimedIds rest, id < next := fun id member => below id (List.mem_cons_of_mem _ member)
    refine List.nodup_cons.mpr ⟨fun member => ?_, ih others rest_below⟩
    obtain ⟨other, listed, same⟩ := List.mem_map.mp member
    have rowBelow : row.id < next := below row.id List.mem_cons_self
    rcases mem_writeRoutes listed with ⟨entry, old, paired, rfl⟩ | ⟨_, _, _, above, _⟩
    · exact fresh (mem_claimedIds.mpr ⟨entry, old, paired, same⟩)
    · have : row.id = other.id := same.symm
      omega
  | case3 item rest next written ih =>
    refine List.nodup_cons.mpr ⟨fun member => ?_, ih distinct fun id member => Nat.lt_succ_of_lt (below id member)⟩
    obtain ⟨other, listed, same⟩ := List.mem_map.mp member
    have taken : other.id = next := same
    rcases mem_writeRoutes listed with ⟨entry, old, paired, rfl⟩ | ⟨_, _, _, above, _⟩
    · have claimed : old.id < next := below old.id (mem_claimedIds.mpr ⟨entry, old, List.mem_cons_of_mem _ paired, rfl⟩)
      have : old.id = next := taken
      omega
    · omega

end

/-- What a row keeps across a push: its id, its route id, and without one its triple. -/
structure Continues (before after : StaticRouteIntent) : Prop where
  id : after.id = before.id
  routeId : ∀ routeId, before.routeId = some routeId → after.routeId = some routeId
  triple : after.triple = before.triple ∨ ∃ routeId, before.routeId = some routeId

structure Ingests (rows : List StaticRouteIntent) (next : Nat) (ingested : Ingested) : Prop where
  stored : StoredRows ingested.rows ingested.nextRowId
  grows : next ≤ ingested.nextRowId
  origin : ∀ after ∈ ingested.rows, next ≤ after.id ∨ ∃ before ∈ rows, Continues before after
  kept : ∀ before ∈ rows,
    before ∈ ingested.removed ∨ ∃ after ∈ ingested.rows, Continues before after
  removed : ∀ gone ∈ ingested.removed, gone ∈ rows
  released : ∀ gone ∈ ingested.removed, ∀ routeId, gone.routeId = some routeId →
    ∀ after ∈ ingested.rows, after.routeId ≠ some routeId

theorem Paired.adopted (paired : Paired item row) (held : row.routeId = some routeId) : item.routeId.or row.routeId = some routeId := by
  rcases paired with ⟨other, named, same⟩ | ⟨_, unnamed | unheld⟩
  · rw [named, ← same, held]
    rfl
  · rw [unnamed, held]
    rfl
  · rw [unheld] at held
    cases held

theorem Paired.continues (paired : Paired item row) (now : String) (storeOnly : Bool) :
    Continues row (updateRow item now storeOnly row) := by
  refine ⟨rfl, fun routeId held => paired.adopted held, ?_⟩
  rcases paired with ⟨routeId, _, held⟩ | ⟨triple, _⟩
  · exact .inr ⟨routeId, held⟩
  · exact .inl triple.symm

namespace Pairing

variable {routes : List StaticRouteEntry} {existing : List StaticRouteIntent}
  {matched : List Matched}

theorem eq_of_id (pairing : Pairing routes existing matched) (ids : (existing.map (·.id)).Nodup)
    {item : StaticRouteEntry} {row stored : StaticRouteIntent} (member : (item, some row) ∈ matched)
    (located : stored ∈ existing) (same : row.id = stored.id) : row = stored :=
  List.inj_on_of_nodup_map ids (pairing.paired item row member).1 located same

theorem owns (pairing : Pairing routes existing matched)
    (unique : (existing.filterMap (·.routeId)).Nodup) {entry : Matched} (member : entry ∈ matched)
    {routeId : Nat} (claims : claimant entry = some routeId) {row : StaticRouteIntent}
    (stored : row ∈ existing) (held : row.routeId = some routeId) : entry.2 = some row := by
  obtain ⟨item, choice⟩ := entry
  unfold claimant at claims
  cases named : item.routeId with
  | some other =>
    rw [named] at claims
    cases claims
    obtain ⟨chosen, rfl, same⟩ := pairing.correlated item choice routeId member named row stored held
    have located := (pairing.paired item chosen member).1
    exact congrArg some (eq_of_nodup_filterMap unique located stored same held)
  | none =>
    rw [named, Option.none_or] at claims
    obtain ⟨chosen, rfl, same⟩ := Option.bind_eq_some_iff.mp claims
    have located := (pairing.paired item chosen member).1
    exact congrArg some (eq_of_nodup_filterMap unique located stored same held)

theorem claimants_nodup (pairing : Pairing routes existing matched) (unique : (existing.filterMap (·.routeId)).Nodup)
    (routeIds : (routes.filterMap (·.routeId)).Nodup) : (matched.filterMap claimant).Nodup := by
  have named : (matched.filterMap fun entry => entry.1.routeId).Nodup := by
    rw [← pairing.entries, List.filterMap_map] at routeIds
    exact routeIds
  have apartNames := List.pairwise_filterMap.mp named
  have apartRows := List.pairwise_filterMap.mp pairing.distinct
  refine List.pairwise_filterMap.mpr ?_
  refine List.Pairwise.imp_of_mem ?_ (apartNames.and apartRows)
  intro left right leftMember rightMember apart routeId leftClaims other rightClaims same
  subst same
  obtain ⟨names, rows⟩ := apart
  -- Where one side keeps the route id of its row, both are paired with that row.
  have shared : ∀ row ∈ existing, row.routeId = some routeId → False := by
    intro row stored held
    have leftRow := pairing.owns unique leftMember leftClaims stored held
    have rightRow := pairing.owns unique rightMember rightClaims stored held
    exact rows row.id (by rw [leftRow]; rfl) row.id (by rw [rightRow]; rfl) rfl
  have keeps : ∀ entry ∈ matched, claimant entry = some routeId → entry.1.routeId = none → False := by
    rintro ⟨item, choice⟩ member claims unnamed
    unfold claimant at claims
    rw [unnamed, Option.none_or] at claims
    obtain ⟨row, rfl, held⟩ := Option.bind_eq_some_iff.mp claims
    exact shared row (pairing.paired item row member).1 held
  have named : ∀ entry ∈ matched, claimant entry = some routeId → entry.1.routeId = some routeId := by
    intro entry member claims
    cases written : entry.1.routeId with
    | none => exact (keeps entry member claims written).elim
    | some value =>
      unfold claimant at claims
      rw [written] at claims
      exact claims
  exact names routeId (named left leftMember leftClaims) routeId (named right rightMember rightClaims) rfl

end Pairing

theorem mem_unmatchedRows : row ∈ unmatchedRows routes rows ↔
      row ∈ rows ∧ row.id ∉ claimedIds (matchedEntries routes rows) := by
  unfold unmatchedRows
  simp [List.mem_filter]

theorem ingestRoutes_ok {storeOnly : Bool} {now : String} (run : ingestRoutes rows next body storeOnly now = .ok ingested) :
    ingested.removed = unmatchedRows body.routes rows ∧
      ingested.partition = classifyDeletions (deletionRecords body.deletedRoutes) ingested.removed ∧
      ingested.rows = (writeRoutes now storeOnly (matchedEntries body.routes rows) next).1 ∧
      ingested.nextRowId = (writeRoutes now storeOnly (matchedEntries body.routes rows) next).2 := by
  obtain ⟨_, _, run⟩ := bind_eq_ok.mp run
  obtain ⟨_, _, returned⟩ := bind_eq_ok.mp run
  cases returned
  exact ⟨rfl, rfl, rfl, rfl⟩

theorem ingestRoutes_ingests {storeOnly : Bool} {now : String} (before : StoredRows rows next)
    (accepted : rejectPayloadDuplicates body.routes = .ok ())
    (run : ingestRoutes rows next body storeOnly now = .ok ingested) :
    Ingests rows next ingested := by
  obtain ⟨triples, routeIds⟩ := rejectPayloadDuplicates_ok accepted
  obtain ⟨removed, _, written, nextId⟩ := ingestRoutes_ok run
  have pairing := pairing_matchedEntries before.ids routeIds
  have claimedBelow : ∀ id ∈ claimedIds (matchedEntries body.routes rows), id < next := by
    intro id member
    obtain ⟨item, row, paired, rfl⟩ := mem_claimedIds.mp member
    exact before.below row (pairing.paired item row paired).1
  refine ⟨⟨?_, ?_, ?_, ?_⟩, ?_, ?_, ?_, ?_, ?_⟩
  · rw [written]
    exact writeRoutes_ids pairing.distinct claimedBelow
  · rw [written, writeRoutes_triples, pairing.entries]
    exact triples
  · rw [written, writeRoutes_routeIds]
    exact pairing.claimants_nodup before.routeIds routeIds
  · rw [written, nextId]
    intro row member
    rcases mem_writeRoutes member with ⟨item, old, paired, rfl⟩ | ⟨_, _, _, _, below⟩
    · exact (before.below old (pairing.paired item old paired).1).trans_le (le_writeRoutes _ _)
    · exact below
  · rw [nextId]
    exact le_writeRoutes _ _
  · rw [written]
    intro after member
    rcases mem_writeRoutes member with ⟨item, old, paired, rfl⟩ | ⟨_, _, _, above, _⟩
    · obtain ⟨stored, how⟩ := pairing.paired item old paired
      exact .inr ⟨old, stored, how.continues now storeOnly⟩
    · exact .inl above
  · rw [written, removed]
    intro row stored
    by_cases claimed : row.id ∈ claimedIds (matchedEntries body.routes rows)
    · obtain ⟨item, old, paired, same⟩ := mem_claimedIds.mp claimed
      cases pairing.eq_of_id before.ids paired stored same
      exact .inr ⟨_, updateRow_mem_writeRoutes paired, (pairing.paired item row paired).2.continues now storeOnly⟩
    · exact .inl (mem_unmatchedRows.mpr ⟨stored, claimed⟩)
  · rw [removed]
    intro gone member
    exact (mem_unmatchedRows.mp member).1
  · rw [removed, written]
    intro gone member routeId held after listed same
    obtain ⟨stored, unclaimed⟩ := mem_unmatchedRows.mp member
    -- The written row's entry would be paired with the removed row.
    have claims : ∃ entry ∈ matchedEntries body.routes rows, claimant entry = some routeId := by
      have inside : routeId ∈ (writeRoutes now storeOnly (matchedEntries body.routes rows) next).1.filterMap
          (·.routeId) := List.mem_filterMap.mpr ⟨after, listed, same⟩
      rw [writeRoutes_routeIds] at inside
      exact List.mem_filterMap.mp inside
    obtain ⟨⟨item, choice⟩, located, claims⟩ := claims
    have paired : choice = some gone := pairing.owns before.routeIds located claims stored held
    subst paired
    exact unclaimed (mem_claimedIds.mpr ⟨item, gone, located, rfl⟩)

theorem Pairing.backfilled {matched : List Matched}
    (pairing : Pairing routes rows matched) (ids : (rows.map (·.id)).Nodup) (stored : row ∈ rows) :
    Continues row (backfilledRow matched row) ∧ (backfilledRow matched row).triple = row.triple ∧
      ∀ routeId, (backfilledRow matched row).routeId = some routeId → row.routeId = some routeId ∨
          ∃ item, (item, some row) ∈ matched ∧ claimant (item, some row) = some routeId := by
  unfold backfilledRow
  split
  · rename_i entry found
    obtain ⟨item, choice⟩ := entry
    have member := List.mem_of_find?_eq_some found
    have named : choice.map (·.id) = some row.id := by simpa using List.find?_some found
    obtain ⟨chosen, rfl, same⟩ := Option.map_eq_some_iff.mp named
    cases pairing.eq_of_id ids member stored same
    have paired := (pairing.paired item row member).2
    exact ⟨⟨rfl, fun _ held => paired.adopted held, .inl rfl⟩, rfl, fun routeId adopted => .inr ⟨item, member, adopted⟩⟩
  · exact ⟨⟨rfl, fun _ held => held, .inl rfl⟩, rfl, fun _ held => .inl held⟩

theorem Pairing.backfilled_routeId {matched : List Matched} (pairing : Pairing routes rows matched) (ids : (rows.map (·.id)).Nodup)
    (unique : (rows.filterMap (·.routeId)).Nodup) (routeIds : (routes.filterMap (·.routeId)).Nodup)
    {left right : StaticRouteIntent} (leftStored : left ∈ rows) (rightStored : right ∈ rows)
    (leftHeld : (backfilledRow matched left).routeId = some routeId)
    (rightHeld : (backfilledRow matched right).routeId = some routeId) : left = right := by
  have claimants := pairing.claimants_nodup unique routeIds
  rcases (pairing.backfilled ids leftStored).2.2 routeId leftHeld with
    leftOwn | ⟨leftItem, leftListed, leftClaims⟩ <;>
  rcases (pairing.backfilled ids rightStored).2.2 routeId rightHeld with
    rightOwn | ⟨rightItem, rightListed, rightClaims⟩
  · exact eq_of_nodup_filterMap unique leftStored rightStored leftOwn rightOwn
  · exact (Option.some.inj (pairing.owns unique rightListed rightClaims leftStored leftOwn)).symm
  · exact Option.some.inj (pairing.owns unique leftListed leftClaims rightStored rightOwn)
  · have same := eq_of_nodup_filterMap claimants leftListed rightListed leftClaims rightClaims
    exact Option.some.inj (congrArg Prod.snd same)

theorem backfillRoutes_ok (run : backfillRoutes rows next body = .ok ingested) : ingested.removed = prunedRows body.routes rows ∧
      ingested.rows = (rows.filter fun row => !(prunedRows body.routes rows).contains row).map
        (backfilledRow (matchedEntries body.routes rows)) ∧
      ingested.nextRowId = next := by
  unfold backfillRoutes at run
  dsimp only at run
  split at run
  · cases run
  · cases run
    exact ⟨rfl, rfl, rfl⟩

theorem backfillRoutes_ingests (before : StoredRows rows next) (accepted : rejectPayloadDuplicates body.routes = .ok ())
    (run : backfillRoutes rows next body = .ok ingested) : Ingests rows next ingested := by
  obtain ⟨_, routeIds⟩ := rejectPayloadDuplicates_ok accepted
  obtain ⟨removed, written, nextId⟩ := backfillRoutes_ok run
  have pairing := pairing_matchedEntries before.ids routeIds
  have survives : ∀ after ∈ ingested.rows, ∃ row ∈ rows, after = backfilledRow (matchedEntries body.routes rows) row := by
    rw [written]
    intro after member
    obtain ⟨row, survivor, rfl⟩ := List.mem_map.mp member
    exact ⟨row, (List.mem_filter.mp survivor).1, rfl⟩
  have sublist := List.filter_sublist (p := fun row => !(prunedRows body.routes rows).contains row) (l := rows)
  refine ⟨⟨?_, ?_, ?_, ?_⟩, nextId.ge, ?_, ?_, ?_, ?_⟩
  · rw [written, List.map_map]
    have same : (rows.filter fun row => !(prunedRows body.routes rows).contains row).map
        ((·.id) ∘ backfilledRow (matchedEntries body.routes rows)) =
        (rows.filter fun row => !(prunedRows body.routes rows).contains row).map (·.id) :=
      List.map_congr_left fun row member =>
        (pairing.backfilled before.ids (List.mem_filter.mp member).1).1.id
    rw [same]
    exact before.ids.sublist (sublist.map _)
  · rw [written, List.map_map]
    have same : (rows.filter fun row => !(prunedRows body.routes rows).contains row).map
        ((·.triple) ∘ backfilledRow (matchedEntries body.routes rows)) =
        (rows.filter fun row => !(prunedRows body.routes rows).contains row).map (·.triple) :=
      List.map_congr_left fun row member =>
        (pairing.backfilled before.ids (List.mem_filter.mp member).1).2.1
    rw [same]
    exact before.triples.sublist (sublist.map _)
  · rw [written, List.filterMap_map]
    refine List.pairwise_filterMap.mpr (List.Pairwise.imp_of_mem ?_ (List.pairwise_map.mp (before.ids.sublist (sublist.map _))))
    intro left right leftMember rightMember apart routeId leftHeld other rightHeld same
    subst same
    exact apart (congrArg (·.id) (pairing.backfilled_routeId before.ids before.routeIds routeIds
      (List.mem_filter.mp leftMember).1 (List.mem_filter.mp rightMember).1 leftHeld rightHeld))
  · intro after member
    obtain ⟨row, stored, rfl⟩ := survives after member
    rw [(pairing.backfilled before.ids stored).1.id, nextId]
    exact before.below row stored
  · intro after member
    obtain ⟨row, stored, rfl⟩ := survives after member
    exact .inr ⟨row, stored, (pairing.backfilled before.ids stored).1⟩
  · intro row stored
    rw [removed, written]
    by_cases pruned : row ∈ prunedRows body.routes rows
    · exact .inl pruned
    · exact .inr ⟨_, List.mem_map.mpr ⟨row, List.mem_filter.mpr ⟨stored, by simpa using pruned⟩, rfl⟩,
        (pairing.backfilled before.ids stored).1⟩
  · rw [removed]
    intro gone member
    exact (mem_unmatchedRows.mp (List.mem_filter.mp member).1).1
  · rw [removed]
    intro gone member routeId held
    have uncorrelated := (List.mem_filter.mp member).2
    rw [held] at uncorrelated
    cases uncorrelated

end NsoAdapter.StaticRoute
