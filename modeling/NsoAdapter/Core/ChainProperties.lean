import NsoAdapter.Core.ApplyChain
import NsoAdapter.Projection.ComposeProperties

/-! What the generations of a chain list and send: each link gives one generation,
in order, with the link's mode, its streams and the tables of its document. -/

namespace NsoAdapter.Core
open Lib Projection Store

/-- The generation has this mode, lists these streams and sends these tables. -/
structure Sends (generation : DeploymentGeneration) (mode : GenerationMode)
    (streams : List ProjectionStream) (document : Document) : Prop where
  mode : generation.mode = mode
  streams : generation.streamRevisions.map (·.1) = streams
  tables : ∀ scope, (generation.document.lookup scope).map (·.tables) =
    (document.lookup scope).map (·.tables)

variable {document : Document} {generation : DeploymentGeneration} {streams : List ProjectionStream}
  {classified : ClassifiedLink} {generations : List DeploymentGeneration}

theorem addressSection_tables {carriers : List StaticRoute.Carrier} {addressed : Document}
    {request : OperationRequest} {allowed : RemovalAuthority}
    (written : addressSection carriers document request allowed = .ok addressed)
    (scope : DocumentSection) :
    (addressed.lookup scope).map (·.tables) = (document.lookup scope).map (·.tables) := by
  unfold addressSection at written
  split at written
  · cases written
  obtain ⟨operation, _, returned⟩ := bind_eq_ok.mp written
  cases returned
  clear * -
  induction document with
  | nil => rfl
  | cons entry rest ih =>
    obtain ⟨name, body⟩ := entry
    rw [List.map_cons, List.lookup_cons]
    by_cases addressedHere : name = request.context.scope
    · simp only [addressedHere, if_true, List.lookup_cons]
      cases scope == request.context.scope with
      | true => rfl
      | false => exact ih
    · simp only [addressedHere, if_false, List.lookup_cons]
      cases scope == name with
      | true => rfl
      | false => exact ih

theorem storeGeneration_sends {digestDocument : DocumentDigest} {db after : Database}
    {deviceId : Nat} {content : GenerationContent} {tombstoneIds clearIds : List Nat}
    {clearStreams : List ProjectionStream}
    (stored : storeGeneration digestDocument db deviceId content tombstoneIds clearIds clearStreams = .ok (after, generation)) :
    Sends generation content.mode (content.streamRevisions.map (·.1)) content.document := by
  unfold storeGeneration at stored
  split at stored
  · cases stored
    exact ⟨rfl, rfl, fun _ => rfl⟩
  · obtain ⟨document, addressed, returned⟩ := bind_eq_ok.mp stored
    cases returned
    exact ⟨rfl, rfl, addressSection_tables addressed⟩

variable {store after : PromotionStore} {env : Environment} {authority union : RemovalAuthority}
  {plan : ChainPlan}

theorem promoteStream_stream {frozen : Fragments} {stream : ProjectionStream}
    {promotion : StreamPromotion} (promotes : promoteStream store frozen stream = .ok promotion) :
    promotion.stream = stream := by
  unfold promoteStream at promotes
  repeat' split at promotes
  all_goals cases promotes
  all_goals rfl

theorem promoteStreams_streams {frozen : Fragments} {promotions : List StreamPromotion}
    (promoted : streams.mapM (promoteStream store frozen) = .ok promotions) :
    promotions.map (·.stream) = streams := by
  have each := forall₂_of_mapM promoted
  clear promoted
  induction each with
  | nil => rfl
  | cons first _ ih => rw [List.map_cons, ih, promoteStream_stream first]

theorem createGeneration_sends {request : GenerationRequest} (given : request.document = some document)
    (created : createGeneration env store request = .ok (after, generation)) :
    Sends generation request.mode (sortedStreams request.streams) document := by
  unfold createGeneration at created
  split at created
  · cases created
  obtain ⟨refreshed, _, created⟩ := bind_eq_ok.mp created
  obtain ⟨promotions, promoted, created⟩ := bind_eq_ok.mp created
  obtain ⟨⟨composed, sent⟩, composes, created⟩ := bind_eq_ok.mp created
  rw [given] at composes
  cases composes
  dsimp only at created
  unfold PromotionStore.write at created
  split at created
  · cases created
  rename_i stored
  cases created
  have sends := storeGeneration_sends stored
  refine ⟨sends.mode, ?_, sends.tables⟩
  rw [sends.streams, ← promoteStreams_streams promoted]
  unfold GenerationRequest.content
  rw [List.map_map]
  rfl

theorem enqueueRemoval_sends {admission : RemovalAdmission}
    (unforced : admission.request.force = false) (given : admission.document = some document)
    (enqueued : enqueueRemoval env store admission = .ok (after, generation)) :
    Sends generation admission.request.mode (sortedStreams admission.promotes) document := by
  unfold enqueueRemoval at enqueued
  dsimp only at enqueued
  split at enqueued
  · cases enqueued
  obtain ⟨recorded, _, enqueued⟩ := bind_eq_ok.mp enqueued
  obtain ⟨⟨created, stored⟩, creates, enqueued⟩ := bind_eq_ok.mp enqueued
  obtain ⟨carried, _, returned⟩ := bind_eq_ok.mp enqueued
  cases returned
  unfold createRemovalGeneration at creates
  simp only [unforced, Bool.false_eq_true, if_false] at creates
  exact createGeneration_sends given creates

theorem classifyLink_link {live : LiveDevice} {link : RemovalLink} (classifies : classifyLink env live authority link = .ok classified) :
    classified.link = link := by
  obtain ⟨derived, _, classifies⟩ := bind_eq_ok.mp classifies
  split at classifies
  · cases classifies
  · cases classifies
    rfl

theorem sortedStreams_singleton (stream : ProjectionStream) : sortedStreams [stream] = [stream] := by
  cases stream <;> decide

theorem mem_sortedStreams {stream : ProjectionStream} : stream ∈ sortedStreams streams ↔ stream ∈ streams := by
  unfold sortedStreams
  simp [ProjectionStream.mem_all]

/-- A link replaces content in a networked removal only. -/
def RemovalLink.Planned (link : RemovalLink) : Prop :=
  link.mode = .detach → link.replacement = []

def LinkSends (plan : ChainPlan) (link : RemovalLink) (generation : DeploymentGeneration) : Prop :=
  Sends generation link.mode [link.stream] (plan.document link.mode)

theorem linkAdmission_mode (planned : classified.link.Planned) :
    (linkAdmission plan union classified).request.mode = classified.link.mode := by
  unfold RemovalRequest.mode RemovalRequest.detaches linkAdmission
  cases mode : classified.link.mode with
  | networked =>
    by_cases empty : classified.link.removed.isEmpty
    · simp [mode, empty]
    · simp [mode, empty]
  | detach => simp [mode, planned mode]

theorem enqueueLink_sends {progress after : PromotionStore × List DeploymentGeneration} (planned : classified.link.Planned)
    (enqueued : enqueueLink env plan union progress classified = .ok after) :
    ∃ generation, LinkSends plan classified.link generation ∧ after.2 = progress.2 ++ [generation] := by
  obtain ⟨⟨store, generation⟩, removal, returned⟩ := bind_eq_ok.mp enqueued
  cases returned
  have sends := enqueueRemoval_sends rfl rfl removal
  rw [linkAdmission_mode planned] at sends
  refine ⟨generation, ?_, rfl⟩
  have streams : sortedStreams (linkAdmission plan union classified).promotes = [classified.link.stream] := sortedStreams_singleton _
  rw [streams] at sends
  exact sends

theorem enqueueLinks_send {classified : List ClassifiedLink} (planned : ∀ link ∈ classified, link.link.Planned)
    {progress after : PromotionStore × List DeploymentGeneration}
    (enqueued : classified.foldlM (enqueueLink env plan union) progress = .ok after) :
    ∃ added, after.2 = progress.2 ++ added ∧
      List.Forall₂ (fun link generation => LinkSends plan link.link generation) classified added := by
  induction classified generalizing progress with
  | nil =>
    cases enqueued
    exact ⟨[], (List.append_nil _).symm, .nil⟩
  | cons link rest ih =>
    obtain ⟨middle, first, enqueued⟩ := bind_eq_ok.mp enqueued
    obtain ⟨generation, sends, shape⟩ := enqueueLink_sends (planned link List.mem_cons_self) first
    obtain ⟨added, extended, later⟩ := ih (fun other member => planned other (List.mem_cons_of_mem _ member)) enqueued
    refine ⟨generation :: added, ?_, .cons sends later⟩
    rw [extended, shape, List.append_assoc, List.singleton_append]

theorem enqueueActionRemovalLinks_send {links : List RemovalLink} (planned : ∀ link ∈ links, link.Planned)
    (enqueued : enqueueActionRemovalLinks env plan store links authority = .ok (after, generations, union)) :
    List.Forall₂ (LinkSends plan) links generations := by
  obtain ⟨classified, classifies, enqueued⟩ := bind_eq_ok.mp enqueued
  obtain ⟨⟨last, listed⟩, folded, returned⟩ := bind_eq_ok.mp enqueued
  cases returned
  have same : classified.map (·.link) = links := by
    have each := forall₂_of_mapM classifies
    clear * - each
    induction each with
    | nil => rfl
    | cons first _ ih => rw [List.map_cons, ih, classifyLink_link first]
  obtain ⟨added, shape, sends⟩ := enqueueLinks_send (fun link member => planned link.link (same ▸ List.mem_map_of_mem member)) folded
  dsimp only at shape
  rw [shape, ← same]
  exact List.forall₂_map_left_iff.mpr sends

theorem enqueueApplies_send (enqueued : enqueueApplies env plan store streams authority = .ok (after, generations)) :
    (streams = [] ∧ generations = []) ∨ ∃ generation, generations = [generation] ∧
      Sends generation .networked (sortedStreams streams) plan.intermediateDocument := by
  unfold enqueueApplies at enqueued
  split at enqueued
  · rename_i empty
    cases enqueued
    exact .inl ⟨List.isEmpty_iff.mp empty, rfl⟩
  · obtain ⟨⟨applied, generation⟩, applies, returned⟩ := bind_eq_ok.mp enqueued
    cases returned
    obtain ⟨⟨created, stored⟩, creates, applies⟩ := bind_eq_ok.mp applies
    obtain ⟨admitted, _, returned⟩ := bind_eq_ok.mp applies
    cases returned
    exact .inr ⟨_, rfl, createGeneration_sends rfl creates⟩

structure ChainSends (plan : ChainPlan) (actions : ActionPlan)
    (applyStreams : List ProjectionStream) (generations : List DeploymentGeneration) : Prop where
  /-- Every link is delivered. -/
  networked : ∀ link ∈ actions.networkedLinks, ∃ generation ∈ generations,
    LinkSends plan link generation
  applied : applyStreams ≠ [] → ∃ generation ∈ generations,
    Sends generation .networked (sortedStreams applyStreams) plan.intermediateDocument
  detached : ∀ link ∈ actions.detachLinks, ∃ generation ∈ generations,
    LinkSends plan link generation
  /-- Every generation is some link's. -/
  source : ∀ generation ∈ generations,
    (∃ link ∈ actions.networkedLinks ++ actions.detachLinks, LinkSends plan link generation) ∨
      Sends generation .networked (sortedStreams applyStreams) plan.intermediateDocument

theorem enqueueChain_sends {actions : ActionPlan} {applyStreams : List ProjectionStream}
    (networkedPlanned : ∀ link ∈ actions.networkedLinks, link.Planned)
    (detachPlanned : ∀ link ∈ actions.detachLinks, link.Planned)
    (enqueued : enqueueChain env plan actions store applyStreams authority =
      .ok (after, generations)) : ChainSends plan actions applyStreams generations := by
  obtain ⟨⟨removed, networked, union⟩, removes, enqueued⟩ := bind_eq_ok.mp enqueued
  obtain ⟨⟨appliedStore, applies⟩, applying, enqueued⟩ := bind_eq_ok.mp enqueued
  obtain ⟨⟨detachedStore, detaches, _⟩, detaching, returned⟩ := bind_eq_ok.mp enqueued
  cases returned
  have removals := enqueueActionRemovalLinks_send networkedPlanned removes
  have finals := enqueueActionRemovalLinks_send detachPlanned detaching
  have application := enqueueApplies_send applying
  refine ⟨?_, ?_, ?_, ?_⟩
  · intro link member
    obtain ⟨generation, listed, sends⟩ := exists_of_forall₂ removals.flip member
    exact ⟨generation, by simp [listed], sends⟩
  · intro nonempty
    rcases application with ⟨empty, _⟩ | ⟨generation, rfl, sends⟩
    · exact absurd empty nonempty
    · exact ⟨generation, by simp, sends⟩
  · intro link member
    obtain ⟨generation, listed, sends⟩ := exists_of_forall₂ finals.flip member
    exact ⟨generation, by simp [listed], sends⟩
  · intro generation member
    rcases List.mem_append.mp member with earlier | final
    · rcases List.mem_append.mp earlier with removal | apply
      · obtain ⟨link, listed, sends⟩ := exists_of_forall₂ removals removal
        exact .inl ⟨link, List.mem_append_left _ listed, sends⟩
      · rcases application with ⟨_, rfl⟩ | ⟨only, rfl, sends⟩
        · cases apply
        · rw [List.mem_singleton.mp apply]
          exact .inr sends
    · obtain ⟨link, listed, sends⟩ := exists_of_forall₂ finals final
      exact .inl ⟨link, List.mem_append_right _ listed, sends⟩

end NsoAdapter.Core
