import NsoAdapter.Preflight.ApplyAttempts

/-! What the stored apply attempts record, and that a manual apply is executed at most once under
its attempt UUID. -/

namespace NsoAdapter.Preflight
open Lib Projection Store NsoAdapter.Core StaticRoute

variable (hashIdentity : IdentityInputs → String) (encoders : Encoders)

/-! ### What the stored attempts record -/

theorem StoredBody.update_identity (body : StoredBody) (identity : Json) :
    Dict.update [("_preflight_identity", identity)] body.members = ("_preflight_identity", identity) :: body.members :=
  Dict.update_of_nodup_append body.distinct

theorem StoredBody.applyResponseBody (body : StoredBody) (identity : Json) :
    applyResponseBody (("_preflight_identity", identity) :: body.members) = body.members := by
  have shown : ∀ entry ∈ body.members, (entry.1 != "_preflight_identity") = true := by
    intro entry member
    refine bne_iff_ne.mpr fun same => (List.nodup_cons.mp body.distinct).1 ?_
    exact same ▸ List.mem_map_of_mem member
  unfold Preflight.applyResponseBody
  rw [List.filter_cons, if_neg (by simp), List.filter_eq_self.mpr shown]

theorem canonical_get? {Value : Type} (dict : Dict ProjectionStream Value)
    (stream : ProjectionStream) : Dict.get? (canonical dict) stream = dict.get? stream :=
  Dict.get?_filterMap stream.mem_all dict.get?

theorem canonical_canonical {Value : Type} (dict : Dict ProjectionStream Value) : canonical (canonical dict) = canonical dict :=
  canonical_congr (canonical_get? dict)

namespace ApplyAttempt

variable {attempt : ApplyAttempt} {delivery : ApplyDelivery}

theorem mismatch_eq_none : attempt.mismatch delivery = none ↔ attempt.deviceId = delivery.deviceId ∧
      canonical attempt.selected = canonical delivery.request.selected.entries ∧
      attempt.response.get? "_preflight_identity" = some (.str delivery.request.preflightIdentity) := by
  unfold mismatch
  constructor
  · intro agrees
    split at agrees
    · cases agrees
    split at agrees
    · cases agrees
    · split at agrees
      · cases agrees
      · exact ⟨not_not.mp ‹_›, not_not.mp ‹_›, not_not.mp ‹_›⟩
  · rintro ⟨device, selected, identity⟩
    rw [if_neg (not_not.mpr device), if_neg (not_not.mpr selected), if_neg (not_not.mpr identity)]

structure Records (attempt : ApplyAttempt) (answer : Answer) : Prop where
  agrees : attempt.mismatch answer.delivery = none
  reply : answer.reply = attempt.reply

theorem Records.mismatch_eq_none_iff {answer : Answer} (records : attempt.Records answer) :
    attempt.mismatch delivery = none ↔ delivery.SameRequest answer.delivery := by
  obtain ⟨device, selected, identity⟩ := mismatch_eq_none.mp records.agrees
  rw [mismatch_eq_none, device, selected, identity]
  constructor
  · rintro ⟨sameDevice, sameSelected, sameIdentity⟩
    exact ⟨sameDevice.symm, sameSelected.symm, (Json.str.inj (Option.some.inj sameIdentity)).symm⟩
  · rintro ⟨sameDevice, sameSelected, sameIdentity⟩
    exact ⟨sameDevice.symm, sameSelected.symm, congrArg _ (congrArg _ sameIdentity.symm)⟩

theorem records_completed (delivery : ApplyDelivery) (admissionState : AdmissionState)
    (status : Nat) (body : StoredBody) (created : List Nat) :
    ((reserved delivery).complete admissionState status body).Records ⟨delivery, ⟨status, body.members⟩, true, created⟩ := by
  have stored : ((reserved delivery).complete admissionState status body).response =
      ("_preflight_identity", .str delivery.request.preflightIdentity) :: body.members :=
    body.update_identity _
  refine ⟨mismatch_eq_none.mpr ⟨rfl, canonical_canonical _, ?_⟩, ?_⟩
  · rw [stored, Dict.get?_cons, if_pos rfl]
  · unfold reply
    rw [stored, body.applyResponseBody]
    rfl

end ApplyAttempt

def ApplyState.attempt? (state : ApplyState) (attemptId : Nat) : Option ApplyAttempt :=
  state.attempts.find? fun attempt => attempt.id == attemptId

/-- Every stored answer has its attempt, and a UUID that a transaction has reserved is stored by
no attempt and reserved by no other transaction. -/
structure Recorded (state : ApplyState) : Prop where
  kept : ∀ answer ∈ state.answers, answer.stored = true →
    ∃ attempt, state.attempt? answer.delivery.attemptId = some attempt ∧ attempt.Records answer
  reserved : ∀ entry ∈ state.sessions, ∀ attempt, entry.2.attempt = some attempt →
    attempt = .reserved entry.2.delivery ∧ state.attempt? attempt.id = none
  exclusive : ∀ entry ∈ state.sessions, ∀ other ∈ state.sessions, ∀ attempt rival,
    entry.2.attempt = some attempt → other.2.attempt = some rival → attempt.id = rival.id →
      entry.1 = other.1
  once : state.answers.Pairwise fun later earlier =>
    later.delivery.attemptId = earlier.delivery.attemptId →
      ¬ (later.stored = true ∧ earlier.stored = true)
  created : ∀ answer ∈ state.answers, answer.created ≠ [] → answer.stored = true

variable {state : ApplyState} {delivery : ApplyDelivery}

theorem replayApplyAttempt_eq_none (unknown : replayApplyAttempt state.attempts delivery = .ok none) :
    state.attempt? delivery.attemptId = none := by
  unfold replayApplyAttempt at unknown
  split at unknown
  · assumption
  · split at unknown <;> cases unknown

inductive Handles (state : ApplyState) (delivery : ApplyDelivery) : ApplyState → Prop where
  | receive (key : Nat) (live : Option ServiceState) :
      Handles state delivery (receive state key delivery live)
  | begin {key : Nat} {session : ApplySession} (request : session.delivery = delivery)
      (free : state.blocked key session.delivery = false) :
      Handles state delivery (beginApplyAttempt state key session)
  | resolve {key : Nat} {session : ApplySession} {attempt : ApplyAttempt}
      (current : state.sessions.get? key = some session) (request : session.delivery = delivery)
      (holds : session.attempt = some attempt) (mapping : String × String) (now : Nat) :
      Handles state delivery (resolveAttempt hashIdentity encoders state key session attempt mapping now)

variable {after : ApplyState}

theorem applyStep_handles {event : ApplyEvent} (serves : event.serves state = some delivery)
    (stepped : applyStep hashIdentity encoders event state = some after) :
    Handles hashIdentity encoders state delivery after := by
  unfold applyStep at stepped
  unfold ApplyEvent.serves at serves
  cases event with
  | receive key received live =>
    dsimp only at stepped serves
    cases serves
    split at stepped
    · cases stepped
    · cases stepped
      exact .receive key live
  | begin key =>
    dsimp only at stepped serves
    split at stepped
    · cases stepped
    rename_i session current
    rw [current] at serves
    split at stepped
    · cases stepped
    rename_i unblocked
    cases stepped
    rw [Bool.or_eq_true, not_or] at unblocked
    exact .begin (Option.some.inj serves) (Bool.eq_false_iff.mpr unblocked.2)
  | resolve key now =>
    dsimp only at stepped serves
    split at stepped
    · cases stepped
    rename_i session current
    rw [current] at serves
    split at stepped
    · rename_i attempt mapping holds _
      cases stepped
      exact .resolve current (Option.some.inj serves) holds mapping now
    · cases stepped
  | lose | place | other => cases serves

theorem resolveAttempt_cases (state : ApplyState) (key : Nat) (session : ApplySession)
    (attempt : ApplyAttempt) (mapping : String × String) (now : Nat) :
    (∃ reply, resolveAttempt hashIdentity encoders state key session attempt mapping now =
      (state.close key).answer session.delivery reply) ∨
    ∃ adapter admissionState status body created, resolveAttempt hashIdentity encoders state key session attempt mapping now =
        { (state.close key).finish session.delivery attempt admissionState status body created with
          adapter } := by
  unfold resolveAttempt
  dsimp only
  split
  · split
    · exact .inr ⟨state.adapter, _, _, _, _, rfl⟩
    · exact .inl ⟨_, rfl⟩
  · split
    · exact .inl ⟨_, rfl⟩
    · exact .inr ⟨_, _, _, _, _, rfl⟩

namespace Recorded

variable {state : ApplyState}

theorem answer (recorded : Recorded state) (delivery : ApplyDelivery) (reply : Reply) : Recorded (state.answer delivery reply) where
  kept given member stored := by
    rcases List.mem_cons.mp member with rfl | earlier
    · cases stored
    · exact recorded.kept given earlier stored
  reserved := recorded.reserved
  exclusive := recorded.exclusive
  once := List.pairwise_cons.mpr ⟨fun _ _ _ both => Bool.false_ne_true both.1, recorded.once⟩
  created given member creates := by
    rcases List.mem_cons.mp member with rfl | earlier
    · exact absurd rfl creates
    · exact recorded.created given earlier creates

theorem close (recorded : Recorded state) (key : Nat) : Recorded (state.close key) where
  kept := recorded.kept
  reserved entry member := recorded.reserved entry (List.mem_filter.mp member).1
  exclusive entry member other rival := recorded.exclusive entry (List.mem_filter.mp member).1 other (List.mem_filter.mp rival).1
  once := recorded.once
  created := recorded.created

variable {session : ApplySession} {key : Nat}

section

variable (recorded : Recorded state)

include recorded

theorem opened (key : Nat) (unreserved : session.attempt = none) : Recorded { state with sessions := state.sessions.set key session } where
  kept := recorded.kept
  reserved entry member attempt holds := by
    rcases Dict.mem_set member with present | rfl
    · exact recorded.reserved entry present attempt holds
    · cases unreserved.symm.trans holds
  exclusive entry member other rival attempt second holds held same := by
    rcases Dict.mem_set member with present | rfl
    · rcases Dict.mem_set rival with listed | rfl
      · exact recorded.exclusive entry present other listed attempt second holds held same
      · cases unreserved.symm.trans held
    · cases unreserved.symm.trans holds
  once := recorded.once
  created := recorded.created

theorem reserve (free : state.blocked key session.delivery = false) (unknown : state.attempt? session.delivery.attemptId = none) :
    Recorded { state with
      sessions := state.sessions.set key
        { session with attempt := some (.reserved session.delivery) } } := by
  have rivals : ∀ entry ∈ state.sessions, ∀ attempt, entry.2.attempt = some attempt →
      attempt.id = session.delivery.attemptId → entry.1 = key := by
    intro entry member attempt holds same
    by_contra other
    refine Bool.false_ne_true (free.symm.trans (List.any_eq_true.mpr ⟨entry, member, ?_⟩))
    rw [holds, Option.any_some, beq_iff_eq.mpr same, Bool.true_or, Bool.and_true]
    exact bne_iff_ne.mpr other
  refine ⟨recorded.kept, ?_, ?_, recorded.once, recorded.created⟩
  · intro entry member attempt holds
    rcases Dict.mem_set member with present | rfl
    · exact recorded.reserved entry present attempt holds
    · cases holds
      exact ⟨rfl, unknown⟩
  · intro entry member other rival attempt second holds held same
    rcases Dict.mem_set member with present | rfl <;> rcases Dict.mem_set rival with listed | rfl
    · exact recorded.exclusive entry present other listed attempt second holds held same
    · cases held
      exact rivals entry present attempt holds same
    · cases holds
      exact (rivals other listed second held same.symm).symm
    · rfl

theorem finish {attempt : ApplyAttempt} (current : state.sessions.get? key = some session)
    (holds : session.attempt = some attempt) (admissionState : AdmissionState) (status : Nat)
    (body : StoredBody) (created : List Nat) :
    Recorded ((state.close key).finish session.delivery attempt admissionState status body created) := by
  have member := Dict.mem_of_get? current
  obtain ⟨rfl, unknown⟩ := recorded.reserved _ member attempt holds
  have skip : ∀ attemptId, attemptId ≠ session.delivery.attemptId →
      ((state.close key).finish session.delivery (.reserved session.delivery) admissionState status
        body created).attempt? attemptId = state.attempt? attemptId := fun attemptId other =>
    List.find?_cons_of_neg fun same => other (beq_iff_eq.mp same).symm
  have fresh : ∀ earlier ∈ state.answers, earlier.stored = true → earlier.delivery.attemptId ≠ session.delivery.attemptId := by
    intro earlier given stored same
    obtain ⟨known, found, _⟩ := recorded.kept earlier given stored
    cases (same ▸ found).symm.trans unknown
  refine ⟨?_, ?_, ?_, ?_, ?_⟩
  · intro answer given stored
    rcases List.mem_cons.mp given with rfl | earlier
    · exact ⟨_, List.find?_cons_of_pos (beq_self_eq_true _), ApplyAttempt.records_completed _ _ _ _ _⟩
    · rw [skip _ (fresh answer earlier stored)]
      exact recorded.kept answer earlier stored
  · intro entry listed rival held
    obtain ⟨present, other⟩ := List.mem_filter.mp listed
    obtain ⟨shape, absent⟩ := recorded.reserved entry present rival held
    refine ⟨shape, (skip _ fun same => ?_).trans absent⟩
    exact bne_iff_ne.mp other (recorded.exclusive entry present _ member rival _ held holds same)
  · exact (recorded.close key).exclusive
  · exact List.pairwise_cons.mpr ⟨fun earlier given same both => fresh earlier given both.2 same.symm, recorded.once⟩
  · intro answer given creates
    rcases List.mem_cons.mp given with rfl | earlier
    · rfl
    · exact recorded.created answer earlier creates

theorem receive (key : Nat) (delivery : ApplyDelivery) (live : Option ServiceState) : Recorded (receive state key delivery live) := by
  unfold Preflight.receive
  split
  · exact recorded.answer _ _
  · split
    · exact recorded.answer _ _
    · exact recorded.answer _ _
    · split
      · exact recorded.answer _ _
      · exact recorded.opened key rfl

theorem beginApplyAttempt (free : state.blocked key session.delivery = false) : Recorded (beginApplyAttempt state key session) := by
  unfold Preflight.beginApplyAttempt
  split
  · exact (recorded.close key).answer _ _
  · exact (recorded.close key).answer _ _
  · exact recorded.reserve free (replayApplyAttempt_eq_none ‹_›)

theorem resolveAttempt {attempt : ApplyAttempt} (current : state.sessions.get? key = some session)
    (holds : session.attempt = some attempt) (mapping : String × String) (now : Nat) :
    Recorded (resolveAttempt hashIdentity encoders state key session attempt mapping now) := by
  rcases resolveAttempt_cases hashIdentity encoders state key session attempt mapping now with
    ⟨reply, answered⟩ | ⟨adapter, admissionState, status, body, created, finished⟩
  · rw [answered]
    exact (recorded.close key).answer _ _
  · rw [finished]
    obtain ⟨kept, reserved, exclusive, once, creates⟩ := recorded.finish current holds admissionState status body created
    exact ⟨kept, reserved, exclusive, once, creates⟩

theorem serve {delivery : ApplyDelivery} {after : ApplyState}
    (handled : Handles hashIdentity encoders state delivery after) : Recorded after := by
  cases handled with
  | receive key live => exact recorded.receive key delivery live
  | begin _ free => exact recorded.beginApplyAttempt free
  | resolve current _ holds mapping now =>
    exact recorded.resolveAttempt hashIdentity encoders current holds mapping now

theorem step {event : ApplyEvent} {after : ApplyState}
    (stepped : applyStep hashIdentity encoders event state = some after) : Recorded after := by
  cases served : event.serves state with
  | some delivery =>
    exact recorded.serve hashIdentity encoders (applyStep_handles hashIdentity encoders served stepped)
  | none =>
    unfold applyStep at stepped
    cases event with
    | receive key delivery live => cases served
    | begin | resolve =>
      dsimp only at stepped
      rw [Option.map_eq_none_iff.mp served] at stepped
      cases stepped
    | lose key =>
      cases stepped
      exact recorded.close key
    | place deviceId mapping =>
      cases stepped
      exact ⟨recorded.kept, recorded.reserved, recorded.exclusive, recorded.once, recorded.created⟩
    | other event =>
      dsimp only at stepped
      split at stepped
      · cases stepped
      · obtain ⟨adapter, _, rfl⟩ := Option.map_eq_some_iff.mp stepped
        exact ⟨recorded.kept, recorded.reserved, recorded.exclusive, recorded.once, recorded.created⟩

end

theorem of_reachable (reached : (applySystem hashIdentity encoders).Reachable state) : Recorded state := by
  refine reached.invariant ?_ fun _ _ _ recorded stepped =>
    recorded.step hashIdentity encoders stepped
  rintro start ⟨_, attempts, sessions, answers⟩
  constructor
  · rw [answers]
    exact nofun
  · rw [sessions]
    exact nofun
  · rw [sessions]
    exact nofun
  · rw [answers]
    exact .nil
  · rw [answers]
    exact nofun

theorem replay (recorded : Recorded state) {earlier : Answer} (given : earlier ∈ state.answers)
    (stored : earlier.stored = true) {delivery : ApplyDelivery}
    (same : delivery.attemptId = earlier.delivery.attemptId) :
    (delivery.SameRequest earlier.delivery ∧ replayApplyAttempt state.attempts delivery = .ok (some earlier.reply)) ∨
    (¬ delivery.SameRequest earlier.delivery ∧ ∃ field, replayApplyAttempt state.attempts delivery = .error field) := by
  obtain ⟨attempt, found, records⟩ := recorded.kept earlier given stored
  unfold ApplyState.attempt? at found
  unfold replayApplyAttempt
  rw [same, found]
  dsimp only
  cases mismatched : attempt.mismatch delivery with
  | none =>
    exact .inl ⟨records.mismatch_eq_none_iff.mp mismatched, congrArg (fun reply => Except.ok (some reply)) records.reply.symm⟩
  | some field =>
    refine .inr ⟨fun agrees => ?_, field, rfl⟩
    cases mismatched.symm.trans (records.mismatch_eq_none_iff.mpr agrees)

end Recorded

def Reply.Refuses (reply : Reply) : Prop :=
  reply = storeOnlyRefusal ∨ ∃ field, reply = identityConflict field

theorem receive_adapter (state : ApplyState) (key : Nat) (delivery : ApplyDelivery)
    (live : Option ServiceState) : (receive state key delivery live).adapter = state.adapter := by
  unfold receive
  split
  · rfl
  · split
    · rfl
    · rfl
    · split <;> rfl

theorem beginApplyAttempt_adapter (state : ApplyState) (key : Nat) (session : ApplySession) :
    (beginApplyAttempt state key session).adapter = state.adapter := by
  unfold beginApplyAttempt
  split <;> rfl

theorem Handles.adapter_or_stored (handled : Handles hashIdentity encoders state delivery after) : after.adapter = state.adapter ∨
      ∃ reply created, after.answers = ⟨delivery, reply, true, created⟩ :: state.answers := by
  cases handled with
  | receive key live => exact .inl (receive_adapter state key delivery live)
  | begin request free => exact .inl (beginApplyAttempt_adapter state _ _)
  | @resolve key session attempt current request holds mapping now =>
    subst request
    rcases resolveAttempt_cases hashIdentity encoders state key session attempt mapping now with
      ⟨reply, answered⟩ | ⟨adapter, admissionState, status, body, created, finished⟩
    · rw [answered]
      exact .inl rfl
    · rw [finished]
      exact .inr ⟨_, _, rfl⟩

theorem Handles.of_stored (handled : Handles hashIdentity encoders state delivery after) (recorded : Recorded state)
    {earlier : Answer} (given : earlier ∈ state.answers) (stored : earlier.stored = true)
    (same : delivery.attemptId = earlier.delivery.attemptId) :
    after.adapter = state.adapter ∧ after.attempts = state.attempts ∧
      ∃ reply, after.answers = ⟨delivery, reply, false, []⟩ :: state.answers ∧
        (delivery.storeOnly = false → delivery.SameRequest earlier.delivery → reply = earlier.reply) ∧
        (¬ delivery.SameRequest earlier.delivery → reply.Refuses) := by
  cases handled with
  | receive key live =>
    unfold Preflight.receive
    split
    · rename_i storeOnly
      refine ⟨rfl, rfl, storeOnlyRefusal, rfl, fun networked => ?_, fun _ => .inl rfl⟩
      cases storeOnly.symm.trans networked
    · rcases recorded.replay given stored same with ⟨agrees, replayed⟩ | ⟨differs, field, refused⟩
      · rw [replayed]
        exact ⟨rfl, rfl, earlier.reply, rfl, fun _ _ => rfl, fun differs => absurd agrees differs⟩
      · rw [refused]
        exact ⟨rfl, rfl, identityConflict field, rfl, fun _ agrees => absurd agrees differs, fun _ => .inr ⟨field, rfl⟩⟩
  | begin request free =>
    subst request
    unfold beginApplyAttempt
    rcases recorded.replay given stored same with ⟨agrees, replayed⟩ | ⟨differs, field, refused⟩
    · rw [replayed]
      exact ⟨rfl, rfl, earlier.reply, rfl, fun _ _ => rfl, fun differs => absurd agrees differs⟩
    · rw [refused]
      exact ⟨rfl, rfl, identityConflict field, rfl, fun _ agrees => absurd agrees differs, fun _ => .inr ⟨field, rfl⟩⟩
  | resolve current request holds mapping now =>
    subst request
    -- A transaction that holds its UUID excludes a completed attempt under it.
    obtain ⟨shape, unknown⟩ := recorded.reserved _ (Dict.mem_of_get? current) _ holds
    obtain ⟨attempt, found, _⟩ := recorded.kept earlier given stored
    rw [shape] at unknown
    cases (same ▸ found).symm.trans unknown

/-- In every run of requests beside the events of the adapter, at most one answer under a UUID
created a chain. Once its attempt is completed, every request under it is answered in its next
transaction and changes nothing: the same one, not sent as store-only, gets the first reply, another
is refused. -/
theorem manual_apply_at_most_once {state : ApplyState} (reached : (applySystem hashIdentity encoders).Reachable state) :
    (state.answers.Pairwise fun later earlier =>
      later.delivery.attemptId = earlier.delivery.attemptId → ¬ (later.created ≠ [] ∧ earlier.created ≠ [])) ∧
    ∀ (event : ApplyEvent) (delivery : ApplyDelivery) (after : ApplyState), event.serves state = some delivery →
      (applySystem hashIdentity encoders).step event state = some after →
      (after.adapter = state.adapter ∨
        ∃ reply created, after.answers = ⟨delivery, reply, true, created⟩ :: state.answers) ∧
      ∀ earlier ∈ state.answers, earlier.stored = true → delivery.attemptId = earlier.delivery.attemptId →
        after.adapter = state.adapter ∧ after.attempts = state.attempts ∧
          ∃ reply, after.answers = ⟨delivery, reply, false, []⟩ :: state.answers ∧
            (delivery.storeOnly = false → delivery.SameRequest earlier.delivery → reply = earlier.reply) ∧
            (¬ delivery.SameRequest earlier.delivery → reply.Refuses) := by
  have recorded := Recorded.of_reachable hashIdentity encoders reached
  refine ⟨?_, fun event delivery after serves stepped => ?_⟩
  · refine recorded.once.imp_of_mem fun later earlier once same both => once same ?_
    exact ⟨recorded.created _ later both.1, recorded.created _ earlier both.2⟩
  · have handled := applyStep_handles hashIdentity encoders serves stepped
    exact ⟨handled.adapter_or_stored, fun earlier given stored same =>
      handled.of_stored hashIdentity encoders recorded given stored same⟩

/-! One VLAN apply, and the same request again. -/

def vlanDelivery (storeOnly : Bool) : ApplyDelivery :=
  ⟨7, ⟨9, vlanSelection, "i"⟩, storeOnly⟩

def vlanApplySystem : TransitionSystem ApplyState ApplyEvent :=
  applySystem (fun _ => "i") vlanCall.encoders

def vlanStart : ApplyState :=
  ⟨⟨Database.empty, 1, fun _ => vlanIntent⟩, fun _ => none, [], [], []⟩

def vlanApplied : List ApplyEvent :=
  [.place 7 ("nso", "router"), .other (.noteWrite 7 .vlan (some 1)),
    .receive 0 (vlanDelivery false) (some vlanCall.live), .begin 0, .resolve 0 5]

def Answer.promotes (answer : Answer) : Prop :=
  answer.stored = true ∧ answer.delivery.attemptId = 9 ∧
    (vlanDelivery false).SameRequest answer.delivery ∧ answer.reply.status = 202 ∧
    answer.created ≠ []

instance (answer : Answer) : Decidable answer.promotes :=
  inferInstanceAs (Decidable (_ ∧ _ ∧ _ ∧ _ ∧ _))

theorem vlan_applied : ∃ state, vlanApplySystem.Reachable state ∧ state.sessions = [] ∧
    ∃ earlier ∈ state.answers, earlier.promotes := by
  have found : (vlanApplySystem.trace vlanApplied vlanStart).any (fun state =>
      state.sessions.isEmpty && state.answers.any fun answer => answer.promotes) = true := by
    decide +kernel
  obtain ⟨state, traced, facts⟩ := (Option.any_eq_true _ _).mp found
  obtain ⟨idle, answered⟩ := Bool.and_eq_true_iff.mp facts
  obtain ⟨earlier, given, promotes⟩ := List.any_eq_true.mp answered
  have starts : vlanApplySystem.Reachable vlanStart := .initial ⟨⟨rfl, rfl, rfl⟩, rfl, rfl, rfl⟩
  exact ⟨state, starts.trace traced, List.isEmpty_iff.mp idle, earlier, given, of_decide_eq_true promotes⟩

/-- A repeated request that is sent as store-only is refused before the attempt is looked up. -/
theorem store_only_repeat_refused : ∃ state after earlier later,
    vlanApplySystem.Reachable state ∧ earlier ∈ state.answers ∧ earlier.stored = true ∧
    vlanApplySystem.step (.receive 1 later.delivery none) state = some after ∧
    after.answers = later :: state.answers ∧
    later.delivery.attemptId = earlier.delivery.attemptId ∧
    later.delivery.SameRequest earlier.delivery ∧ later.reply ≠ earlier.reply := by
  obtain ⟨state, reached, idle, earlier, given, stored, attemptId, same, status, _⟩ := vlan_applied
  refine ⟨state, state.answer (vlanDelivery true) storeOnlyRefusal, earlier,
    ⟨vlanDelivery true, storeOnlyRefusal, false, []⟩, reached, given, stored, ?_, rfl,
    attemptId.symm, same, fun replayed => ?_⟩
  · show (if (state.sessions.get? 1).isSome then none else
      some (receive state 1 (vlanDelivery true) none)) = _
    rw [idle]
    rfl
  · rw [← replayed] at status
    cases status

theorem vlan_replayed : ∃ state earlier after, vlanApplySystem.Reachable state ∧
    earlier ∈ state.answers ∧ earlier.created ≠ [] ∧
    vlanApplySystem.step (.receive 1 (vlanDelivery false) none) state = some after ∧
    after.adapter = state.adapter ∧
    after.answers = ⟨vlanDelivery false, earlier.reply, false, []⟩ :: state.answers := by
  obtain ⟨state, reached, idle, earlier, given, stored, attemptId, same, _, created⟩ := vlan_applied
  have stepped : vlanApplySystem.step (.receive 1 (vlanDelivery false) none) state = some (receive state 1 (vlanDelivery false) none) := by
    show (if (state.sessions.get? 1).isSome then none else
      some (receive state 1 (vlanDelivery false) none)) = _
    rw [idle]
    rfl
  obtain ⟨kept, _, reply, answered, replayed, _⟩ :=
    ((manual_apply_at_most_once (fun _ => "i") vlanCall.encoders reached).2 _ (vlanDelivery false) _
      rfl stepped).2 earlier given stored attemptId.symm
  rw [replayed rfl same] at answered
  exact ⟨state, earlier, _, reached, given, created, stepped, kept, answered⟩

end NsoAdapter.Preflight
