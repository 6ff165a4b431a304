import NsoAdapter.Core.ChainProperties

/-! The tables of stored and frozen fragments: a fragment names the tables of its own
stream, each once, and the fragment of the intermediate document keeps every desired
row beside the rows to detach. -/

namespace NsoAdapter.Core
open Lib Projection Store

structure OwnTables (stream : ProjectionStream) (tables : Tables) : Prop where
  distinct : tables.Distinct
  owned : ∀ table ∈ tables.map (·.1), table ∈ stream.streamTables

structure StoredTables (store : PromotionStore) : Prop where
  authorized : ∀ stream fragment, store.authorized stream = some fragment →
    OwnTables stream fragment.tables
  prepared : ∀ stream row tables, store.streamRow stream = some row →
    row.preparedTables = some tables → tables.Distinct

theorem pruneConsumedCarriers_keys (fragment : Fragment) (existing : List Nat) :
    (pruneConsumedCarriers fragment existing).tables.map (·.1) = fragment.tables.map (·.1) := by
  unfold pruneConsumedCarriers
  dsimp only
  split
  · rw [List.map_map]
    refine List.map_congr_left fun entry _ => ?_
    dsimp only [Function.comp]
    split <;> rfl
  · rfl

variable {store : PromotionStore} {stream : ProjectionStream} {fragment : Fragment}
  {promotion : Promotion}

theorem StoredTables.refreshConsumedCarriers {refreshed : PromotionStore} (stored : StoredTables store) {selected : List Nat}
    (refreshes : refreshConsumedCarriers store selected = .ok refreshed) :
    StoredTables refreshed := by
  unfold Core.refreshConsumedCarriers at refreshes
  dsimp only at refreshes
  split at refreshes
  swap
  · cases refreshes
  cases refreshes
  refine ⟨?_, ?_⟩
  · intro stream fragment found
    rw [authorized_updateStreams store _ (pruneRow _) (fun _ => rfl) (fun _ => rfl)] at found
    obtain ⟨row, located, pruned⟩ := Option.bind_eq_some_iff.mp found
    obtain ⟨old, document, rfl⟩ := Option.map_eq_some_iff.mp pruned
    have before := stored.authorized stream old (Option.bind_eq_some_iff.mpr ⟨row, located, document⟩)
    constructor
    · unfold Tables.Distinct
      rw [pruneConsumedCarriers_keys]
      exact before.distinct
    · rw [pruneConsumedCarriers_keys]
      exact before.owned
  · intro stream row tables found slot
    rw [streamRow_updateStreams store _ (pruneRow _) (fun _ => rfl) (fun _ => rfl)] at found
    obtain ⟨old, located, rfl⟩ := Option.map_eq_some_iff.mp found
    exact stored.prepared stream old tables located slot

theorem freezeStream_tables {live : LiveDevice} {tables : Tables} (frozen : freezeStream live stream tables = .ok fragment) :
    fragment.tables = tables := by
  unfold freezeStream at frozen
  split at frozen
  · rename_i made
    cases frozen
    obtain ⟨_, _, returned⟩ := bind_eq_ok.mp made
    cases returned
    rfl
  · cases frozen
  · cases frozen
  · cases frozen

theorem freezeLive_own (frozen : freezeLive store stream = .ok fragment) : OwnTables stream fragment.tables := by
  unfold freezeLive at frozen
  split at frozen
  · cases frozen
  rename_i tables snapshot
  have keys : fragment.tables.map (·.1) = stream.streamTables := by
    rw [freezeStream_tables frozen, snapshotStream_tables snapshot, List.map_map]
    exact List.map_id _
  constructor
  · unfold Tables.Distinct
    rw [keys]
    exact stream.streamTables_nodup
  · intro table member
    exact keys ▸ member

theorem mem_group {table other : IntentTable} {rows : List Row} (member : other ∈ (group table rows).map (·.1)) : other = table := by
  unfold group at member
  split at member
  · cases member
  · exact List.mem_singleton.mp member

theorem fragmentDeletions_keys {old : Option Fragment} {desired networked detached : Tables}
    {records : List Intent.DeletionRecord} {deleteOrigin : Bool}
    (split : fragmentDeletions old desired records deleteOrigin = .ok (networked, detached)) :
    ∀ table ∈ detached.map (·.1), table ∈ (fragmentTables old).map (·.1) := by
  obtain ⟨groups, grouped, returned⟩ := bind_eq_ok.mp split
  cases returned
  intro table member
  obtain ⟨entry, located, rfl⟩ := List.mem_map.mp member
  obtain ⟨pair, listed, inside⟩ := List.mem_flatMap.mp located
  obtain ⟨source, named, made⟩ := exists_of_mem_mapM grouped listed
  obtain ⟨_, _, made⟩ := bind_eq_ok.mp made
  obtain ⟨_, _, returned⟩ := bind_eq_ok.mp made
  cases returned
  rw [mem_group (List.mem_map.mpr ⟨entry, inside, rfl⟩)]
  exact named

/-- The intermediate fragment keeps the desired rows and adds the retained tables. -/
structure Retains (desired retained tables : Tables) : Prop where
  distinct : desired.Distinct → tables.Distinct
  keys : ∀ table ∈ tables.map (·.1), table ∈ desired.map (·.1) ∨ table ∈ retained.map (·.1)
  rows : ∀ table, ∀ row ∈ desired.rows table, row ∈ tables.rows table

theorem Retains.refl (desired retained : Tables) : Retains desired retained desired :=
  ⟨id, fun _ member => .inl member, fun _ _ member => member⟩

theorem Retains.retainTable {desired retained tables after : Tables}
    {entry : IntentTable × List Row} (before : Retains desired retained tables)
    (listed : entry ∈ retained) (step : retainTable stream tables entry = .ok after) :
    Retains desired retained after := by
  unfold Core.retainTable at step
  dsimp only at step
  split at step
  swap
  · cases step
  cases step
  refine ⟨?_, ?_, ?_⟩
  · intro distinct
    exact Dict.nodup_set (before.distinct distinct) _ _
  · intro table member
    obtain ⟨found, located, rfl⟩ := List.mem_map.mp member
    rcases Dict.mem_set located with kept | rfl
    · exact before.keys _ (List.mem_map.mpr ⟨found, kept, rfl⟩)
    · exact .inr (List.mem_map.mpr ⟨entry, listed, rfl⟩)
  · intro table row member
    rw [Tables.rows_set]
    split
    · rename_i same
      rw [mem_orderBy]
      exact List.mem_append_left _ (same ▸ before.rows table row member)
    · exact before.rows table row member

theorem retainRows_ok {desired : Fragment} {retained : Tables} {source : Option Fragment}
    (retains : retainRows desired retained stream source = .ok fragment) :
    Retains desired.tables retained fragment.tables := by
  obtain ⟨tables, folded, retains⟩ := bind_eq_ok.mp retains
  obtain ⟨_, _, returned⟩ := bind_eq_ok.mp retains
  cases returned
  exact foldlM_ok (Retains desired.tables retained) (fun entry listed _ _ before step => before.retainTable listed step)
    (Retains.refl desired.tables retained) folded

theorem StoredTables.promotionOf (stored : StoredTables store) {selection : Selection}
    (frozen : promotionOf store selection = .ok promotion) :
    promotion.desired.tables.Distinct ∧ (selection.stream.outOfProtocol = false →
      OwnTables selection.stream promotion.desired.tables ∧
        ∀ table ∈ promotion.detached.map (·.1), table ∈ selection.stream.streamTables) := by
  unfold Core.promotionOf at frozen
  split at frozen
  · cases frozen
  rename_i row located
  split at frozen
  · obtain ⟨desired, freezes, frozen⟩ := bind_eq_ok.mp frozen
    obtain ⟨⟨networked, detached⟩, deletions, frozen⟩ := bind_eq_ok.mp frozen
    obtain ⟨_, _, frozen⟩ := bind_eq_ok.mp frozen
    obtain ⟨_, _, returned⟩ := bind_eq_ok.mp frozen
    cases returned
    have own := freezeLive_own freezes
    refine ⟨own.distinct, fun _ => ⟨own, fun table member => ?_⟩⟩
    have named := fragmentDeletions_keys (fromProjection_eq_ok.mp deletions) table member
    cases document : row.authorizedDocument with
    | none =>
      rw [document] at named
      cases named
    | some fragment =>
      rw [document] at named
      exact (stored.authorized selection.stream fragment (Option.bind_eq_some_iff.mpr ⟨row, located, document⟩)).owned table named
  · rename_i revision selected
    have outside := selection.prepared
    rw [selected] at outside
    obtain ⟨desired, freezes, frozen⟩ := bind_eq_ok.mp frozen
    obtain ⟨_, _, frozen⟩ := bind_eq_ok.mp frozen
    obtain ⟨_, _, returned⟩ := bind_eq_ok.mp frozen
    cases returned
    refine ⟨?_, fun inside => by rw [inside] at outside; cases outside⟩
    rw [freezeStream_tables freezes]
    cases slot : row.preparedTables with
    | none => exact List.nodup_nil
    | some tables => exact stored.prepared selection.stream row tables located slot

theorem promotionOf_stream {selection : Selection} (frozen : promotionOf store selection = .ok promotion) :
    promotion.stream = selection.stream := by
  unfold Core.promotionOf at frozen
  split at frozen
  · cases frozen
  split at frozen
  · obtain ⟨_, _, frozen⟩ := bind_eq_ok.mp frozen
    obtain ⟨_, _, frozen⟩ := bind_eq_ok.mp frozen
    obtain ⟨_, _, frozen⟩ := bind_eq_ok.mp frozen
    obtain ⟨_, _, frozen⟩ := bind_eq_ok.mp frozen
    cases frozen
    rfl
  · obtain ⟨_, _, frozen⟩ := bind_eq_ok.mp frozen
    obtain ⟨_, _, frozen⟩ := bind_eq_ok.mp frozen
    obtain ⟨_, _, frozen⟩ := bind_eq_ok.mp frozen
    cases frozen
    rfl

theorem promotionOf_streams {selected : List Selection} {promotions : List Promotion}
    (frozen : selected.mapM (promotionOf store) = .ok promotions) :
    promotions.map (·.stream) = selected.map (·.stream) := by
  have each := forall₂_of_mapM frozen
  clear frozen
  induction each with
  | nil => rfl
  | cons first _ ih => rw [List.map_cons, List.map_cons, ih, promotionOf_stream first]

theorem intermediateFragment_ok {entry : ProjectionStream × Fragment} (made : intermediateFragment promotion = .ok entry) :
    entry.1 = promotion.stream ∧ Retains promotion.desired.tables promotion.detached entry.2.tables := by
  obtain ⟨fragment, retains, returned⟩ := bind_eq_ok.mp made
  cases returned
  exact ⟨rfl, retainRows_ok (fromProjection_eq_ok.mp retains)⟩

theorem intermediateFragments_streams {promotions : List Promotion} {intermediates : List (ProjectionStream × Fragment)}
    (made : promotions.mapM intermediateFragment = .ok intermediates) :
    intermediates.map (·.1) = promotions.map (·.stream) := by
  have each := forall₂_of_mapM made
  clear made
  induction each with
  | nil => rfl
  | cons first _ ih => rw [List.map_cons, List.map_cons, ih, (intermediateFragment_ok first).1]

theorem composeFragments_ok {fragments : Fragments} {document : Document} (composed : composeFragments fragments = .ok document) :
    composeDocument fragments = .ok document := by
  unfold composeFragments at composed
  split at composed
  · cases composed
  · rename_i made
    cases composed
    exact made

section Intermediate

variable {refreshed : PromotionStore} {selected : List Selection} {promotions : List Promotion}
  {intermediates : List (ProjectionStream × Fragment)}

theorem StoredTables.contribution (stored : StoredTables refreshed) (frozen : selected.mapM (Core.promotionOf refreshed) = .ok promotions)
    (made : promotions.mapM intermediateFragment = .ok intermediates)
    {stream : ProjectionStream} {fragment : Fragment}
    (found : refreshed.authorized.overlay (fragmentsOf intermediates) stream = some fragment) :
    fragment.tables.Distinct ∧ (stream.outOfProtocol = false → OwnTables stream fragment.tables) := by
  unfold Fragments.overlay at found
  cases promoted : fragmentsOf intermediates stream with
  | none =>
    rw [promoted, Option.none_or] at found
    have own := stored.authorized stream fragment found
    exact ⟨own.distinct, fun _ => own⟩
  | some intermediate =>
    rw [promoted, Option.some_or] at found
    cases found
    obtain ⟨promotion, listed, entryOf⟩ := exists_of_mem_mapM made (Dict.mem_of_get? promoted)
    obtain ⟨selection, _, freezes⟩ := exists_of_mem_mapM frozen listed
    obtain ⟨sameStream, retains⟩ := intermediateFragment_ok entryOf
    obtain ⟨distinct, inside⟩ := stored.promotionOf freezes
    rw [promotionOf_stream freezes] at sameStream
    subst sameStream
    refine ⟨retains.distinct distinct, fun protocol => ?_⟩
    obtain ⟨own, detached⟩ := inside protocol
    refine ⟨retains.distinct distinct, fun table member => ?_⟩
    rcases retains.keys table member with desired | retained
    · exact own.owned table desired
    · exact detached table retained

theorem StoredTables.intermediate_row (stored : StoredTables refreshed) (distinct : (selected.map (·.stream)).Nodup)
    (frozen : selected.mapM (Core.promotionOf refreshed) = .ok promotions)
    (made : promotions.mapM intermediateFragment = .ok intermediates) {document : Document}
    (composed : composeFragments (refreshed.authorized.overlay (fragmentsOf intermediates)) = .ok document)
    {promotion : Promotion} (listed : promotion ∈ promotions) {table : IntentTable} {row : Row}
    (desired : row ∈ promotion.desired.tables.rows table) :
    ∃ body, document.lookup promotion.stream.streamSection = some body ∧ row ∈ body.tables.rows table := by
  obtain ⟨⟨stream, fragment⟩, member, entryOf⟩ := exists_of_forall₂ (forall₂_of_mapM made).flip listed
  obtain ⟨sameStream, retains⟩ := intermediateFragment_ok entryOf
  subst sameStream
  have kept := retains.rows table row desired
  have streams : (intermediates.map (·.1)).Nodup := by
    rw [intermediateFragments_streams made, promotionOf_streams frozen]
    exact distinct
  have overlaid : refreshed.authorized.overlay (fragmentsOf intermediates) promotion.stream = some fragment := by
    have own : fragmentsOf intermediates promotion.stream = some fragment := Dict.get?_of_mem streams member
    unfold Fragments.overlay
    rw [own, Option.some_or]
  have held : Dict.get? fragment.tables table = some (fragment.tables.rows table) := by
    unfold Tables.rows at kept ⊢
    unfold Dict.get?
    cases found : fragment.tables.lookup table with
    | none =>
      rw [found] at kept
      cases kept
    | some rows => rfl
  have alone : ∀ other found, other ≠ promotion.stream → other.streamSection = promotion.stream.streamSection →
        refreshed.authorized.overlay (fragmentsOf intermediates) other = some found → Dict.get? found.tables table = none := by
    intro other found different sameSection contributes
    refine Dict.get?_eq_none.mpr fun entry inside sameTable => ?_
    -- Two streams of one section are both receipt lanes, with disjoint tables.
    have protocol : promotion.stream.outOfProtocol = false := by
      by_contra outside
      exact different (ProjectionStream.outOfProtocol_alone (by simpa using outside) sameSection)
    have otherProtocol : other.outOfProtocol = false := by
      by_contra outside
      exact different (ProjectionStream.outOfProtocol_alone (by simpa using outside) sameSection.symm).symm
    have own := (stored.contribution frozen made overlaid).2 protocol
    have otherOwn := (stored.contribution frozen made contributes).2 otherProtocol
    refine ProjectionStream.streamTables_disjoint different sameSection
      (own.owned table (List.mem_map.mpr ⟨_, Dict.mem_of_get? held, rfl⟩)) ?_
    exact otherOwn.owned table (List.mem_map.mpr ⟨entry, inside, sameTable⟩)
  obtain ⟨body, located, rows⟩ := composeDocument_rows (composeFragments_ok composed) overlaid
    (fun other found _ contributes => (stored.contribution frozen made contributes).1) held alone
  exact ⟨body, located, rows ▸ kept⟩

end Intermediate

end NsoAdapter.Core
