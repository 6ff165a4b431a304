import NsoAdapter.Core.Failover
import NsoAdapter.Lib.Triples

/-! What a tick can do to NSO's address, to the counters and to the row, on every path. -/

set_option mvcgen.warning false

namespace NsoAdapter.Core
open Std.Do Tick Lib

/-- One event in the count of the probes of the primary with one answer: any other answer and a
change of the role or of the primary begin it anew. -/
@[grind] def countProbe (reachable : Bool) : FailoverEvent → Int → Int
  | .probed target held status, count =>
    if target = .primary ∧ held = some .primary then
      if (status == .ok) = reachable then count + 1 else 0
    else count
  | .addressSet _, count => count
  | .reconciled _, _ | .failedOver, _ | .failedBack _, _ | .primaryChanged, _ => 0

@[grind] def probesSince (reachable : Bool) : List FailoverEvent → Int
  | [] => 0
  | event :: before => countProbe reachable event (probesSince reachable before)

/-- A device is switched after enough failures, and switched back after enough successes. -/
@[grind] def FailoverEvent.earned (before : List FailoverEvent) : FailoverEvent → Prop
  | .addressSet (.switch threshold) => threshold ≤ probesSince false before
  | .failedBack threshold => threshold ≤ probesSince true before
  | _ => True

@[grind] def Earned : List FailoverEvent → Prop
  | [] => True
  | event :: before => event.earned before ∧ Earned before

@[grind .] theorem probesSince_nonneg (reachable : Bool) (events : List FailoverEvent) : 0 ≤ probesSince reachable events := by
  induction events with
  | nil => exact le_rfl
  | cons event before ih => cases event <;> grind

/-- The counters claim no more than what happened. -/
@[grind] def DeviceFailover.Counted (fo : DeviceFailover) (events : List FailoverEvent) : Prop :=
  fo.consecutiveFailures ≤ probesSince false events ∧ fo.consecutiveSuccesses ≤ probesSince true events ∧ Earned events

@[grind] def FailoverEvent.moves : FailoverEvent → Bool
  | .addressSet _ | .failedBack _ => true
  | _ => false

/-- The address changes made so far, the newest first. -/
@[grind] def TickWorld.moves (w : TickWorld) : List FailoverEvent := w.events.filter FailoverEvent.moves

/-- The stored addresses are the ones the tick began with. -/
@[grind] def Stored (start w : TickWorld) : Prop :=
  w.fo.primaryIp = start.fo.primaryIp ∧ w.fo.oobIp = start.fo.oobIp

/-- Honest counters stay honest. -/
@[grind] def Keeps (start w : TickWorld) : Prop :=
  start.fo.Counted start.events → w.fo.Counted w.events

/-- Every call that set an address succeeded. -/
@[grind] def TickWorld.Obeyed (w : TickWorld) : Prop := ∀ stop, (.setAddress, some stop) ∉ w.calls

/-- A flip was cancelled while it dropped the session. -/
@[grind] def TickWorld.Interrupted (w : TickWorld) : Prop := (.disconnect .flip, some .cancelled) ∈ w.calls

/-- How a call ends that a tick may not survive: it is cancelled, or it raises and nobody catches. -/
@[grind] def fatal : NsoCall × Option Stop → Bool
  | (call, some stop) => stop = .cancelled || call = .setAddress || call = .connect
  | _ => false

@[grind] def TickWorld.Failed (w : TickWorld) : Prop := w.calls.any fatal = true

/-- Later calls hide no failed one, and no flip among them was cancelled. -/
@[grind] def Quiet (start w : TickWorld) : Prop :=
  (w.Obeyed → start.Obeyed) ∧ (start.Failed → w.Failed) ∧ (w.Interrupted ↔ start.Interrupted)

@[grind →] theorem Quiet.trans {first second third : TickWorld} (before : Quiet first second) (after : Quiet second third) :
    Quiet first third :=
  ⟨before.1 ∘ after.1, after.2.1 ∘ before.2.1, after.2.2.trans before.2.2⟩

/-- Nothing moved NSO's address. -/
@[grind] def Held (start w : TickWorld) : Prop :=
  Stored start w ∧ w.budget = start.budget ∧ w.address = start.address ∧ w.moves = start.moves ∧ Quiet start w

/-- So many flips came out of the budget, if there is one. -/
def Spent (flips : Int) (before after : Option Int) : Prop :=
  ∀ left, before = some left → ∃ rest, after = some rest ∧ flips + max rest 0 ≤ max left 0

@[grind .] theorem Spent.refl (budget : Option Int) : Spent 0 budget budget := fun left same => ⟨left, same, by omega⟩

@[grind →] theorem Spent.weaken {before after : Option Int} (spent : Spent 1 before after) : Spent 0 before after := by
  intro left same
  obtain ⟨rest, remains, le⟩ := spent left same
  exact ⟨rest, remains, by omega⟩

/-- NSO is where it was: nothing moved its address, or one flip did and was undone. -/
@[grind] def Rested (start w : TickWorld) : Prop :=
  w.address = start.address ∧ (w.moves = start.moves ∧ Spent 0 start.budget w.budget ∨
    w.moves = .addressSet .revert :: .addressSet .flip :: start.moves ∧ Spent 1 start.budget w.budget)

/-- One switch for good. -/
@[grind] def Switched (start w : TickWorld) : Prop :=
  w.address = start.fo.oobIp ∧ Spent 1 start.budget w.budget ∧
    ∃ threshold, w.moves = .addressSet (.switch threshold) :: start.moves

/-- One flip to the primary that became the failback. -/
@[grind] def FailedBack (start w : TickWorld) : Prop :=
  w.address = start.fo.primaryIp ∧ Spent 1 start.budget w.budget ∧
    ∃ threshold, w.moves = .failedBack threshold :: .addressSet .flip :: start.moves

/-- One flip that was cancelled and stayed. -/
@[grind] def Stranded (start w : TickWorld) : Prop :=
  w.moves = .addressSet .flip :: start.moves ∧ Spent 1 start.budget w.budget

@[grind] def TickWorld.Same (start w : TickWorld) : Prop :=
  w.fo = start.fo ∧ w.address = start.address ∧ w.budget = start.budget ∧ w.events = start.events ∧ Quiet start w

@[grind] def TickWorld.Set (purpose : AddressPurpose) (address : String) (start w : TickWorld) : Prop :=
  w.fo = start.fo ∧ w.address = some address ∧ w.budget = start.budget ∧ w.events = .addressSet purpose :: start.events

/-- A tick that raises: unless a flip was cancelled, NSO is where it was or was switched. -/
@[grind] def Raised (start w : TickWorld) : Prop :=
  w.Failed ∧ (w.Obeyed → start.Obeyed ∧ ((w.Interrupted ↔ start.Interrupted) ∧ (Rested start w ∨ Switched start w) ∨
    w.Interrupted ∧ Stranded start w))

-- A triple says how every field of the world changed, so that composing two calls is congruence;
-- the small helpers have no triple of their own and are unfolded where they are called.
attribute [grind] TickWorld.heldRole DeviceFailover.enter
attribute [grind cases] Stop
attribute [spec] await Tick.count update emit rescue safeDisconnect safeSyncFrom blockUnreadable clearUnreadable
  rearmPrimary rearmOob nextDue

variable {Address : Type} [DecidableEq Address] {ip : String → Option Address} {answers : Answers}
  {start : TickWorld} {cfg : TickConfig} {now : Nat} {primaryIp oobIp : Option String} {jobActive : Bool}

variable (ip) in
/-- An address a tick may give NSO is stored and tells its role. -/
@[grind] def Target (fo : DeviceFailover) (stored : Option String) (role : ActiveAddress) (address : Option String) :
    Prop :=
  ∀ text, address = some text →
    stored = some text ∧ (ip text).bind (managedAddressRole ip fo.primaryIp fo.oobIp) = some role

omit [DecidableEq Address] in
@[spec] theorem readAddress_spec : ⦃fun w => ⌜w = start⌝⦄ readAddress ip answers ⦃post⟨fun read w => ⌜start.Same w ∧
        (read = none → answers.raises .getAddress start.clock ≠ none ∨ start.address.bind ip = none) ∧
        ∀ text address, read = some (text, address) → start.address = some text ∧ ip text = some address⌝,
      fun _ w => ⌜start.Same w ∧ w.Failed⌝⟩⦄ := by
  mvcgen [readAddress] <;>
    grind [Option.bind_eq_some_iff, Option.map_eq_some_iff, Option.bind_eq_none_iff, Option.map_eq_none_iff]

@[spec] theorem reconcile_spec : ⦃fun w => ⌜w = start⌝⦄ reconcileActiveAddress ip answers ⦃post⟨fun ok w => ⌜Held start w ∧
        (ok = false → answers.raises .getAddress start.clock ≠ none ∨ start.heldRole ip = none) ∧
        (ok = true → w.heldRole ip = some w.fo.activeAddress) ∧
        (w.fo.consecutiveFailures = start.fo.consecutiveFailures ∧
            w.fo.consecutiveSuccesses = start.fo.consecutiveSuccesses ∧
            w.fo.activeAddress = start.fo.activeAddress ∧ w.events = start.events ∨
          ok = true ∧ w.fo.activeAddress ≠ start.fo.activeAddress ∧ Keeps start w)⌝,
      fun _ w => ⌜Held start w ∧ w.Failed⌝⟩⦄ := by
  mvcgen [reconcileActiveAddress]
  · -- The address cannot be read.
    grind
  · -- It is neither of the stored ones.
    grind
  · -- The role has moved, so the counters begin anew.
    grind
  · grind
  · grind

@[spec] theorem takeFlip_spec : ⦃fun w => ⌜w = start⌝⦄ takeFlip
    ⦃post⟨fun taken w => ⌜w.fo = start.fo ∧ w.address = start.address ∧ w.events = start.events ∧ Quiet start w ∧
        if taken then Spent 1 start.budget w.budget else w.budget = start.budget⌝,
      fun _ _ => ⌜False⌝⟩⦄ := by
  mvcgen [takeFlip] <;> grind [Spent]

@[spec] theorem setAddress_spec (purpose : AddressPurpose) (address : String) : ⦃fun w => ⌜w = start⌝⦄ setAddress answers purpose address
    ⦃post⟨fun _ w => ⌜start.Set purpose address w ∧ Quiet start w⌝,
      fun _ w => ⌜w.Failed ∧ (start.Failed → w.Failed) ∧ (w.Obeyed → start.Obeyed ∧ start.Set purpose address w ∧
        if purpose = .flip then w.Interrupted else Quiet start w)⌝⟩⦄ := by
  mvcgen [setAddress] <;> grind

@[spec] theorem revertAddress_spec (address : String) : ⦃fun w => ⌜w = start⌝⦄ revertAddress answers address
    ⦃post⟨fun _ w => ⌜Quiet start w ∧ (start.Set .revert address w ∨ ¬ w.Obeyed ∧ start.Same w)⌝,
      fun _ w => ⌜w.Failed ∧ (w.Obeyed → Quiet start w ∧ start.Set .revert address w)⌝⟩⦄ := by
  mvcgen [revertAddress, setAddress] <;> grind

/-- Stepping the counters on a probe of the primary keeps them honest, and acting is deserved. -/
def Judged (judge : DeviceFailover → Bool → CounterStep) (deserved : List FailoverEvent → Prop) : Prop :=
  ∀ fo events status, fo.Counted events →
    let step := judge fo (status == .ok)
    let after := .probed .primary (some .primary) status :: events
    DeviceFailover.Counted { fo with consecutiveFailures := step.failures, consecutiveSuccesses := step.successes }
        after ∧ (step.act = true → deserved after)

theorem judged_stepFailover (hasOob : Bool) (threshold : Int) :
    Judged (fun fo reachable => stepFailover reachable fo.consecutiveFailures hasOob threshold) (threshold ≤ probesSince false ·) := by
  intro fo events status counted
  have fresh := probesSince_nonneg false events
  have fresh' := probesSince_nonneg true events
  dsimp only [stepFailover]
  split_ifs <;> simp_all [DeviceFailover.Counted, probesSince, countProbe, Earned, FailoverEvent.earned] <;> omega

@[grind →] theorem stepFailover_act {reachable hasOob : Bool} {failures threshold : Int}
    (act : (stepFailover reachable failures hasOob threshold).act = true) : hasOob = true := by
  unfold stepFailover at act
  split_ifs at act
  simp_all

theorem judged_stepFailback (threshold : Int) :
    Judged (fun fo reachable => stepFailback reachable fo.consecutiveSuccesses threshold) (threshold ≤ probesSince true ·) := by
  intro fo events status counted
  have fresh := probesSince_nonneg false events
  have fresh' := probesSince_nonneg true events
  dsimp only [stepFailback]
  split_ifs <;> simp_all [DeviceFailover.Counted, probesSince, countProbe, Earned, FailoverEvent.earned] <;> omega

variable (ip answers start) in
theorem stepPrimary_spec {judge : DeviceFailover → Bool → CounterStep} {deserved : List FailoverEvent → Prop}
    (judged : Judged judge deserved) (holds : start.heldRole ip = some .primary) :
    ⦃fun w => ⌜w = start⌝⦄ stepPrimary ip answers judge
    ⦃post⟨fun act w => ⌜Held start w ∧ w.fo.activeAddress = start.fo.activeAddress ∧
        (∃ reachable, act = (judge start.fo reachable).act) ∧
        (start.fo.Counted start.events → w.fo.Counted w.events ∧ (act = true → deserved w.events))⌝,
      fun _ w => ⌜Held start w ∧ w.Failed⌝⟩⦄ := by
  mvcgen [stepPrimary, probeReachable]
  all_goals subst_vars
  · grind
  · unfold Judged at judged
    rw [← holds] at judged
    exact ⟨by grind, rfl, ⟨_, rfl⟩, judged _ _ _⟩

@[spec] theorem activePrimaryProbe_spec (target : Target ip start.fo start.fo.oobIp .oob oobIp) (holds : start.heldRole ip = some .primary)
    (active : start.fo.activeAddress = .primary) :
    ⦃fun w => ⌜w = start⌝⦄ activePrimaryProbe ip answers cfg now oobIp jobActive
    ⦃post⟨fun _ w => ⌜Keeps start w ∧ Stored start w ∧ w.heldRole ip = some w.fo.activeAddress ∧
        Quiet start w ∧ (Held start w ∨ Switched start w ∧ w.fo.activeAddress = .oob)⌝,
      fun _ w => ⌜Raised start w⌝⟩⦄ := by
  have step := stepPrimary_spec ip answers start (judged_stepFailover oobIp.isSome cfg.failureThreshold)
  mvcgen [activePrimaryProbe, step, switchToOob] <;> grind

/-- A flip is about to be made: it came out of the budget, and nothing else happened. -/
@[grind] def Ready (start w : TickWorld) : Prop :=
  Stored start w ∧ w.address = start.address ∧ w.events = start.events ∧ Spent 1 start.budget w.budget ∧ Quiet start w ∧
    w.fo.activeAddress = start.fo.activeAddress ∧ w.fo.consecutiveFailures = start.fo.consecutiveFailures ∧
    w.fo.consecutiveSuccesses = start.fo.consecutiveSuccesses

/-- A flip that was probed, and was committed or taken back. -/
def Flipped (answered : Bool → TickWorld → TickWorld → Prop) (address before : String) (start w : TickWorld) : Prop :=
  ∃ flipped, start.Set .flip address flipped ∧ Quiet start flipped ∧
    (answered true flipped w ∨ ∃ probed, answered false flipped probed ∧ Quiet probed w ∧
      (probed.Set .revert before w ∨ ¬ w.Obeyed ∧ probed.Same w))

/-- A flip on a path that raises: it was cancelled itself, or it was taken back. -/
def FlipRaised (address before : String) (start w : TickWorld) : Prop :=
  w.Failed ∧ (w.Obeyed → start.Obeyed ∧ (start.Set .flip address w ∧ w.Interrupted ∨
    ∃ flipped probed, start.Set .flip address flipped ∧ Quiet start flipped ∧ Held flipped probed ∧ Quiet probed w ∧
      probed.Set .revert before w))

theorem FlipRaised.of_probed {address before : String} {flipped probed w : TickWorld} (set : start.Set .flip address flipped)
    (quiet : Quiet start flipped) (held : Held flipped probed) (failed : w.Failed)
    (reverted : w.Obeyed → Quiet probed w ∧ probed.Set .revert before w) : FlipRaised address before start w := by
  refine ⟨failed, fun obeyed => ?_⟩
  obtain ⟨silent, back⟩ := reverted obeyed
  exact ⟨quiet.1 (held.2.2.2.2.1 (silent.1 obeyed)), .inr ⟨flipped, probed, set, quiet, held, silent, back⟩⟩

variable (answers start) in
/-- A flip is taken back on every path, unless the probe commits or the flip itself is cancelled. -/
theorem flipProbe_spec {address : String} (before : String) {probe : Tick Bool} {answered : Bool → TickWorld → TickWorld → Prop}
    (holds : ∀ flipped w, answered false flipped w → Held flipped w)
    (probes : ∀ flipped, start.Set .flip address flipped →
      ⦃fun w => ⌜w = flipped⌝⦄ probe ⦃post⟨fun committed w => ⌜answered committed flipped w⌝, fun _ w => ⌜Held flipped w ∧ w.Failed⌝⟩⦄) :
    ⦃fun w => ⌜w = start⌝⦄ flipProbe answers address before probe
    ⦃post⟨fun _ w => ⌜Flipped answered address before start w⌝, fun _ w => ⌜FlipRaised address before start w⌝⟩⦄ := by
  mvcgen [flipProbe, probes]
  all_goals subst_vars
  · rename_i set
    exact set.1
  · -- The probe commits nothing, and the address comes back.
    rename_i flipped set committed no probed answer _ w
    intro quiet back
    rw [Bool.not_eq_true'] at no
    exact ⟨flipped, set.1, set.2, .inr ⟨probed, no ▸ answer, quiet, back⟩⟩
  · rename_i flipped set committed no probed answer _ w
    rw [Bool.not_eq_true'] at no
    rintro failed back
    exact .of_probed set.1 set.2 (holds _ _ (no ▸ answer)) failed back
  · rename_i flipped set committed yes w answer
    rw [Bool.not_eq_true', Bool.not_eq_false] at yes
    exact ⟨flipped, set.1, set.2, .inl (yes ▸ answer)⟩
  · -- The probe raises, and the address comes back.
    rename_i flipped set _ probed held _ w back
    refine .of_probed set.1 set.2 held.1 (back.1.2.1 held.2) fun obeyed => ⟨back.1, ?_⟩
    exact back.2.resolve_right fun refused => refused.1 obeyed
  · rename_i flipped set _ probed held _ w
    rintro failed back
    exact .of_probed set.1 set.2 held.1 failed back
  · rintro failed - raised
    refine ⟨failed, fun obeyed => ?_⟩
    obtain ⟨before, set, interrupted⟩ := raised obeyed
    exact ⟨before, .inl ⟨set, by simpa using interrupted⟩⟩

theorem FlipRaised.raised {address before : String} {ready w : TickWorld} (raised : FlipRaised address before ready w)
    (readied : Ready start ready) (was : start.address = some before) : Raised start w := by
  refine ⟨raised.1, fun obeyed => ?_⟩
  obtain ⟨silent, ⟨set, interrupted⟩ | ⟨flipped, probed, set, quiet, held, last, back⟩⟩ := raised.2 obeyed
  · grind
  · grind

variable (ip answers start jobActive) in
/-- A disruptive probe leaves everything as it is, or flips the address it read. -/
theorem guardedFlip_spec (recovers : Bool) {address : String} {probe : Tick Bool} {answered : Bool → TickWorld → TickWorld → Prop}
    (holds : ∀ flipped w, answered false flipped w → Held flipped w)
    (probes : ∀ ready flipped, Ready start ready → ready.Set .flip address flipped →
      ⦃fun w => ⌜w = flipped⌝⦄ probe ⦃post⟨fun committed w => ⌜answered committed flipped w⌝, fun _ w => ⌜Held flipped w ∧ w.Failed⌝⟩⦄) :
    ⦃fun w => ⌜w = start⌝⦄ guardedFlip ip answers recovers address jobActive probe
    ⦃post⟨fun _ w => ⌜Keeps start w ∧ Held start w ∧ w.fo.activeAddress = start.fo.activeAddress ∨
        ∃ ready before, Ready start ready ∧ start.address = some before ∧ Flipped answered address before ready w⌝,
      fun _ w => ⌜Raised start w⌝⟩⦄ := by
  have flip := fun ready before readied => flipProbe_spec answers ready before holds fun flipped => probes ready flipped readied
  mvcgen [guardedFlip, flip] <;> grind [FlipRaised.raised]

/-- How the probe of a flip to the primary ends. -/
@[grind] def Decided (committed : Bool) (flipped w : TickWorld) : Prop :=
  Stored flipped w ∧ w.budget = flipped.budget ∧ w.address = flipped.address ∧ Quiet flipped w ∧ Keeps flipped w ∧
    if committed then w.fo.activeAddress = .primary ∧ ∃ threshold, w.moves = .failedBack threshold :: flipped.moves
    else w.fo.activeAddress = flipped.fo.activeAddress ∧ w.moves = flipped.moves

variable (ip answers start cfg now) in
theorem failbackDecision_spec (holds : start.heldRole ip = some .primary) :
    ⦃fun w => ⌜w = start⌝⦄ failbackDecision ip answers cfg now
    ⦃post⟨fun committed w => ⌜Decided committed start w⌝, fun _ w => ⌜Held start w ∧ w.Failed⌝⟩⦄ := by
  have step := stepPrimary_spec ip answers start (judged_stepFailback cfg.successThreshold) holds
  mvcgen [failbackDecision, step, commitFailback] <;> grind

@[spec] theorem failbackFlipProbe_spec {primary : String} (target : Target ip start.fo start.fo.primaryIp .primary (some primary))
    (holds : start.heldRole ip = some .oob)
    (active : start.fo.activeAddress = .oob) :
    ⦃fun w => ⌜w = start⌝⦄ failbackFlipProbe ip answers cfg now primary jobActive
    ⦃post⟨fun _ w => ⌜Keeps start w ∧ Stored start w ∧ Quiet start w ∧ (w.Obeyed → w.heldRole ip = some w.fo.activeAddress ∧
          (Rested start w ∧ w.fo.activeAddress = .oob ∨ FailedBack start w ∧ w.fo.activeAddress = .primary))⌝,
      fun _ w => ⌜Raised start w⌝⟩⦄ := by
  have decide := fun ready flipped (readied : Ready start ready) (set : ready.Set .flip primary flipped) =>
    failbackDecision_spec ip answers flipped cfg now (by grind)
  have flip := guardedFlip_spec ip answers start jobActive true (by grind) decide
  mvcgen [failbackFlipProbe, flip]
  rintro (skipped | ⟨ready, before, readied, was, flipped, set, quiet, committed | ⟨probed, answered, silent, back⟩⟩)
  · grind
  · grind
  · grind

variable (ip answers start) in
theorem oobHealth_spec : ⦃fun w => ⌜w = start⌝⦄ oobHealth ip answers
    ⦃post⟨fun committed w => ⌜committed = false ∧ Held start w ∧ Keeps start w ∧ w.fo.activeAddress = start.fo.activeAddress⌝,
      fun _ w => ⌜Held start w ∧ w.Failed⌝⟩⦄ := by
  mvcgen [oobHealth, probeReachable] <;> grind

@[spec] theorem probeOob_spec {oob : String} (known : start.Failed ∨ start.fo.activeAddress = .oob ∨ primaryIp ≠ none) : ⦃fun w => ⌜w = start⌝⦄ probeOob ip answers primaryIp oob jobActive
    ⦃post⟨fun _ w => ⌜Keeps start w ∧ Stored start w ∧ w.fo.activeAddress = start.fo.activeAddress ∧
        Quiet start w ∧ (w.Obeyed → Rested start w ∧
          (start.fo.activeAddress = .oob → w.moves = start.moves ∧ w.budget = start.budget))⌝,
      fun _ w => ⌜Raised start w ∧ (start.fo.activeAddress = .oob → Held start w)⌝⟩⦄ := by
  have flip := guardedFlip_spec ip answers start jobActive false (fun _ _ answer => answer.2.1) fun _ flipped _ (_ : TickWorld.Set .flip oob _ _) =>
    oobHealth_spec ip answers flipped
  mvcgen [probeOob, probeReachable, flip]
  · grind
  · grind
  · grind [Option.isNone_iff_eq_none]
  · rintro (skipped | ⟨ready, before, readied, was, flipped, set, quiet, ⟨committed, -⟩ | ⟨probed, answered, silent, back⟩⟩)
    · grind
    · cases committed
    · grind
  · grind

@[spec] theorem probePrimary_spec {primary : String} (target : Target ip start.fo start.fo.primaryIp .primary (some primary))
    (oobTarget : Target ip start.fo start.fo.oobIp .oob oobIp)
    (holds : start.heldRole ip = some start.fo.activeAddress) :
    ⦃fun w => ⌜w = start⌝⦄ probePrimary ip answers cfg now primary oobIp jobActive
    ⦃post⟨fun _ w => ⌜Keeps start w ∧ Stored start w ∧ Quiet start w ∧ (w.Obeyed → w.heldRole ip = some w.fo.activeAddress ∧
          (Held start w ∨ Rested start w ∧ w.fo.activeAddress = .oob ∨
            (Switched start w ∨ FailedBack start w) ∧ w.fo.activeAddress ≠ start.fo.activeAddress))⌝,
      fun _ w => ⌜Raised start w⌝⟩⦄ := by
  have roles : start.fo.activeAddress = .primary ∨ start.fo.activeAddress = .oob := by
    cases start.fo.activeAddress <;> simp
  -- On the primary the probe may switch, on the other address it may fail back.
  mvcgen [probePrimary] <;> grind

theorem primaryIp_of_held {w : TickWorld} (holds : w.heldRole ip = some .primary) : w.fo.primaryIp ≠ none := by
  intro none
  obtain ⟨address, -, role⟩ := Option.bind_eq_some_iff.mp holds
  unfold managedAddressRole at role
  rw [none, Option.bind_none, if_neg nofun] at role
  split_ifs at role
  cases role

@[spec] theorem runProbes_spec (own : primaryIp = start.fo.primaryIp) (target : Target ip start.fo start.fo.primaryIp .primary primaryIp)
    (oobTarget : Target ip start.fo start.fo.oobIp .oob oobIp)
    (holds : start.heldRole ip = some start.fo.activeAddress) :
    ⦃fun w => ⌜w = start⌝⦄ runProbes ip answers cfg now primaryIp oobIp jobActive
    ⦃post⟨fun _ w => ⌜Keeps start w ∧ Quiet start w ∧ (w.Obeyed → w.heldRole ip = some w.fo.activeAddress ∧
        (Rested start w ∨ Switched start w ∨ FailedBack start w))⌝,
      fun _ w => ⌜Raised start w⌝⟩⦄ := by
  have known : start.fo.activeAddress = .oob ∨ primaryIp ≠ none := by
    cases role : start.fo.activeAddress with
    | oob => exact .inl rfl
    | primary => exact .inr (own ▸ primaryIp_of_held (holds.trans (congrArg some role)))
  mvcgen [runProbes] <;> grind

@[grind →] theorem Held.then {first second third : TickWorld} (held : Held first second)
    (_ : Rested second third ∨ Switched second third ∨ FailedBack second third) :
    (Rested second third → Rested first third) ∧ (Switched second third → Switched first third) ∧
      (FailedBack second third → FailedBack first third) := by
  grind

theorem Raised.of_held {first second third : TickWorld} (held : Held first second) (raised : Raised second third) :
    Raised first third := by
  refine ⟨raised.1, fun obeyed => ?_⟩
  obtain ⟨silent, ⟨quiet, still⟩ | ⟨interrupted, stranded⟩⟩ := raised.2 obeyed
  · exact ⟨held.2.2.2.2.1 silent, .inl ⟨quiet.trans held.2.2.2.2.2.2, by grind⟩⟩
  · exact ⟨held.2.2.2.2.1 silent, .inr ⟨interrupted, by grind⟩⟩

theorem targets_of_valid {fo : DeviceFailover} (valid : fo.invalidStoredAddress ip = false) :
    Target ip fo fo.primaryIp .primary fo.primaryIp ∧ Target ip fo fo.oobIp .oob (fo.distinctOob ip) := by
  simp only [DeviceFailover.invalidStoredAddress, Bool.or_eq_false_iff, Option.any_eq_false, Option.isNone_eq_false_iff,
    Option.isSome_iff_exists] at valid
  constructor
  · intro text stored
    obtain ⟨address, parsed⟩ := valid.1 text stored
    exact ⟨stored, by simp [parsed, managedAddressRole, stored]⟩
  · intro text distinct
    unfold DeviceFailover.distinctOob at distinct
    split_ifs at distinct with apart
    obtain ⟨address, parsed⟩ := valid.2 text distinct
    have other : fo.primaryIp.bind ip ≠ some address := by simpa [distinct, parsed, eq_comm] using apart
    exact ⟨distinct, by simp [parsed, managedAddressRole, distinct, other]⟩

/-- The tick gets to its first reading of NSO's address and finds a stored one there. -/
@[grind] def TickWorld.reconciles (start : TickWorld) (ip : String → Option Address) (answers : Answers) (now : Nat) :
    Prop :=
  start.fo.invalidStoredAddress ip = false ∧ start.fo.starts ip now = true ∧
    answers.raises .getAddress start.clock = none ∧ start.heldRole ip ≠ none

variable (ip answers start cfg now jobActive) in
theorem runFailoverTick_spec : ⦃fun w => ⌜w = start⌝⦄ runFailoverTick ip answers cfg now jobActive
    ⦃post⟨fun _ w => ⌜Keeps start w ∧ Quiet start w ∧ (w.Obeyed →
        (start.reconciles ip answers now → w.heldRole ip = some w.fo.activeAddress) ∧
        (Rested start w ∨ Switched start w ∨ FailedBack start w))⌝,
      fun _ w => ⌜Raised start w⌝⟩⦄ := by
  have targets := @targets_of_valid _ _ ip start.fo
  -- Reconciling moves no address, so what the probes did since it they did since the start.
  mvcgen [runFailoverTick] <;> grind [Raised.of_held]

/-- The switches so far were earned, and the row's counters claim no more than what happened. -/
def FailoverState.Valid (state : FailoverState) : Prop :=
  Earned state.events ∧ ∀ row, state.fo = some row → row.Counted state.events

theorem FailoverState.Valid.upsert {state : FailoverState} (valid : state.Valid) (text : Address → String)
    (primary oob : Option Address) (now : Nat) :
    ((FailoverStep.upsert primary oob now).run ip text state).Valid := by
  have counted : (state.fo.getD {}).Counted state.events := by
    cases stored : state.fo with
    | none => exact ⟨probesSince_nonneg _ _, probesSince_nonneg _ _, valid.1⟩
    | some row => exact valid.2 row stored
  unfold FailoverState.Valid FailoverStep.run upsertFailoverIps
  grind

theorem FailoverState.Valid.tick {state : FailoverState} (valid : state.Valid) (text : Address → String)
    {budget : Option Int} (kept : (FailoverStep.tick answers cfg now jobActive budget).kept ip state = true) :
    ((FailoverStep.tick answers cfg now jobActive budget).run ip text state).Valid := by
  cases stored : state.fo with
  | none => simpa only [FailoverStep.run, stored, Option.elim_none] using valid
  | some row =>
    have counted := valid.2 row stored
    simp only [FailoverStep.run, FailoverStep.kept, scheduledTick, stored, Option.elim_some, Option.all_some] at kept ⊢
    have spec := run_of_triple (runFailoverTick_spec ip answers ⟨row, state.address, budget, 0, [], state.events⟩ cfg now jobActive)
    split at kept
    · rename_i finish ran
      have after := (spec.1 _ _ ran).1 counted
      exact ⟨after.2.2, fun _ same => by cases same; exact after⟩
    · rename_i finish ran
      have same : finish.events = state.events := by simpa using kept
      exact ⟨same ▸ valid.1, fun _ row => by cases row; exact same ▸ counted⟩

/-- A tick is kept when no call of it was cancelled and none that set an address or connected
raised. -/
theorem FailoverStep.kept_of_unfailed {state : FailoverState} {budget : Option Int}
    (unfailed : ∀ row, state.fo = some row → ¬ TickWorld.Failed
      ((runFailoverTick ip answers cfg now jobActive).run.run ⟨row, state.address, budget, 0, [], state.events⟩).2) :
    (FailoverStep.tick answers cfg now jobActive budget).kept ip state = true := by
  cases stored : state.fo with
  | none => simp only [FailoverStep.kept, stored, Option.all_none]
  | some row =>
    have spec := run_of_triple (runFailoverTick_spec ip answers ⟨row, state.address, budget, 0, [], state.events⟩ cfg now jobActive)
    have survives := unfailed row stored
    simp only [FailoverStep.kept, scheduledTick, stored, Option.all_some]
    split
    · rfl
    · rename_i stop finish ran
      rw [ran] at survives
      exact absurd (spec.2 stop finish ran).1 survives

theorem Earned.suffix {events : List FailoverEvent} (earned : Earned events) {event : FailoverEvent}
    {before : List FailoverEvent} (within : event :: before <:+ events) : event.earned before := by
  induction events with
  | nil => cases List.suffix_nil.mp within
  | cons newest events ih =>
    rcases List.suffix_cons_iff.mp within with same | older
    · cases same
      exact earned.1
    · exact ih earned.2 older

/-- In a run whose rolled-back ticks saw nothing happen, a device is switched only after enough
failed probes of its primary since the last success, and back only after enough successes in a row.
-/
theorem failover_hysteresis {text : Address → String} {state : FailoverState}
    (reached : (failoverSystem ip text).ReachableUnder (fun state label => label.kept ip state = true) state) :
    (∀ threshold before, .addressSet (.switch threshold) :: before <:+ state.events →
        threshold ≤ probesSince false before) ∧
      ∀ threshold before, .failedBack threshold :: before <:+ state.events → threshold ≤ probesSince true before := by
  have valid : state.Valid := by
    refine reached.invariant (fun start initial => ?_) fun label before after valid kept stepped => ?_
    · exact ⟨initial.2 ▸ trivial, fun _ stored => by cases initial.1.symm.trans stored⟩
    · cases stepped
      cases label with
      | tick => exact valid.tick text kept
      | upsert => exact valid.upsert text _ _ _
      | moved => exact valid
  exact ⟨fun _ _ within => valid.1.suffix within, fun _ _ within => valid.1.suffix within⟩

/-- Answers that never raise. -/
def Answers.calm (status : ProbeStatus) : Answers := ⟨fun _ _ => none, fun _ => status, fun _ => 0⟩

def eagerConfig : TickConfig := ⟨0, 0, 2, 2, false⟩

def unreachablePrimary : List (FailoverStep String) :=
  [.upsert (some "p") (some "o") 0, .tick (.calm .unreachable) eagerConfig 0 true none,
    .tick (.calm .unreachable) eagerConfig 0 false none]

theorem failover_hysteresis_unreachable : ∃ state, (failoverSystem some id).traceUnder
      (fun state label => label.kept some state) unreachablePrimary ⟨none, some "p", []⟩ = some state ∧
    ∃ before, .addressSet (.switch 2) :: before <:+ state.events ∧ 2 ≤ probesSince false before := by
  have ran : ((failoverSystem some id).traceUnder (fun state label => label.kept some state) unreachablePrimary
      ⟨none, some "p", []⟩).map (·.events.take 2) = some [.failedOver, .addressSet (.switch 2)] := by
    decide +kernel
  obtain ⟨state, executed, newest⟩ := Option.map_eq_some_iff.mp ran
  have within : .addressSet (.switch 2) :: state.events.drop 2 <:+ state.events :=
    ⟨[.failedOver], by simpa [newest] using List.take_append_drop 2 state.events⟩
  have reached := TransitionSystem.ReachableUnder.trace (.initial (by exact ⟨rfl, rfl⟩)) executed
  exact ⟨state, executed, _, within, (failover_hysteresis reached).1 2 _ within⟩

/-- NSO refuses every new address, and the one it holds is reachable. -/
def addressRefused : Answers :=
  ⟨fun call _ => if call = .setAddress then some .exception else none, fun _ => .ok, fun _ => 0⟩

/-- The primary answers in a tick that is rolled back: one failure before and one after it are
enough for a threshold of two. -/
theorem failover_on_rolled_back_answer : ∃ state, (failoverSystem some id).Reachable state ∧
    ∃ before, .addressSet (.switch 2) :: before <:+ state.events ∧ probesSince false before = 1 := by
  have ran : ((failoverSystem some id).trace [.upsert (some "p") (some "o") 0,
        .tick (.calm .unreachable) eagerConfig 0 true none, .tick addressRefused eagerConfig 0 false none,
        .tick (.calm .unreachable) eagerConfig 0 false none] ⟨none, some "p", []⟩).map
      (fun state => (state.events.take 2, probesSince false (state.events.drop 2))) = some ([.failedOver, .addressSet (.switch 2)], 1) := by
    decide +kernel
  obtain ⟨state, executed, shape⟩ := Option.map_eq_some_iff.mp ran
  obtain ⟨newest, counts⟩ := Prod.mk.inj shape
  exact ⟨state, .trace (.initial ⟨rfl, rfl⟩) executed, state.events.drop 2,
    ⟨[.failedOver], by simpa [newest] using List.take_append_drop 2 state.events⟩, counts⟩

theorem Stranded.not_rested {finish : TickWorld} (stranded : Stranded start finish) : ¬ Rested start finish := by
  rintro ⟨-, ⟨moves, -⟩ | ⟨moves, -⟩⟩
  · exact List.cons_ne_self _ _ (stranded.1.symm.trans moves)
  · cases stranded.1.symm.trans moves

theorem Stranded.not_switched {finish : TickWorld} (stranded : Stranded start finish) : ¬ Switched start finish := by
  rintro ⟨-, -, threshold, moves⟩
  cases stranded.1.symm.trans moves

/-- What a tick owes its device: NSO holds an address of the stored role, every flip is undone
unless its failback was committed, and the flips come out of the budget. -/
def Restores (ip : String → Option Address) (answers : Answers) (now : Nat) (start : TickWorld) (outcome : Except Stop Unit)
    (finish : TickWorld) : Prop :=
  (outcome = .ok () → start.reconciles ip answers now → finish.heldRole ip = some finish.fo.activeAddress) ∧
    (Rested start finish ∨ Switched start finish ∨ outcome = .ok () ∧ FailedBack start finish) ∧
    Spent (finish.moves.count (.addressSet .flip) - start.moves.count (.addressSet .flip)) start.budget finish.budget

/-- A tick restores the address exactly when none of its flips was cancelled while it dropped the
session. -/
theorem failover_restores_address {outcome : Except Stop Unit} {finish : TickWorld} (fresh : start.calls = [])
    (ran : (runFailoverTick ip answers cfg now jobActive).run.run start = (outcome, finish)) (obeyed : finish.Obeyed) :
    Restores ip answers now start outcome finish ↔ ¬ finish.Interrupted := by
  have spec := run_of_triple (runFailoverTick_spec ip answers start cfg now jobActive)
  have uninterrupted : ¬ start.Interrupted := by simp [TickWorld.Interrupted, fresh]
  constructor
  · rintro ⟨-, exits, -⟩ interrupted
    cases outcome with
    | ok => exact uninterrupted ((spec.1 () finish ran).2.1.2.2.mp interrupted)
    | error stop =>
      obtain ⟨-, ⟨same, -⟩ | ⟨-, stranded⟩⟩ := (spec.2 stop finish ran).2 obeyed
      · exact uninterrupted (same.mp interrupted)
      · obtain rested | switched | ⟨returned, -⟩ := exits
        · exact stranded.not_rested rested
        · exact stranded.not_switched switched
        · cases returned
  · intro kept
    have exits : Rested start finish ∨ Switched start finish ∨ outcome = .ok () ∧ FailedBack start finish := by
      cases outcome with
      | ok =>
        obtain rested | switched | failedBack := ((spec.1 () finish ran).2.2 obeyed).2
        · exact .inl rested
        · exact .inr (.inl switched)
        · exact .inr (.inr ⟨rfl, failedBack⟩)
      | error stop =>
        obtain ⟨-, ⟨-, rested | switched⟩ | ⟨interrupted, -⟩⟩ := (spec.2 stop finish ran).2 obeyed
        · exact .inl rested
        · exact .inr (.inl switched)
        · exact absurd interrupted kept
    refine ⟨fun returned => ((spec.1 () finish (returned ▸ ran)).2.2 obeyed).1, exits, ?_⟩
    rcases exits with ⟨_, ⟨moves, spent⟩ | ⟨moves, spent⟩⟩ | ⟨_, spent, _, moves⟩ | ⟨_, _, spent, _, moves⟩
    · simpa [moves] using spent
    · simpa [moves] using spent
    · simpa [moves] using spent.weaken
    · simpa [moves] using spent

/-- A device on its out-of-band address, with every probe due. -/
def deviceOnOob : TickWorld :=
  ⟨{ primaryIp := some "p", oobIp := some "o", activeAddress := .oob }, some "o", some 1, 0, [], []⟩

theorem failover_restores_address_flipped : let finish := ((runFailoverTick some (.calm .ok) eagerConfig 0 false).run.run deviceOnOob).2
    finish.moves = [.addressSet .revert, .addressSet .flip] ∧ finish.heldRole some = some finish.fo.activeAddress := by
  intro finish
  have calls : finish.calls.all (·.2.isNone) = true := by decide +kernel
  have silent : ∀ call ∈ finish.calls, call.2 = none := by simpa using calls
  have obeyed : finish.Obeyed := fun _ made => nomatch silent _ made
  have ran : (runFailoverTick some (.calm .ok) eagerConfig 0 false).run.run deviceOnOob = (.ok (), finish) := rfl
  have restores := (failover_restores_address rfl ran obeyed).mpr fun made => nomatch silent _ made
  exact ⟨by decide +kernel, restores.1 rfl ⟨by decide, by decide, rfl, by decide⟩⟩

/-- Cancelled while the flip drops the session: NSO stays on the primary it was flipped to. -/
theorem flip_left_by_cancellation : ∃ answers : Answers, deviceOnOob.reconciles some answers 0 ∧
    let finish := ((runFailoverTick some answers eagerConfig 0 false).run.run deviceOnOob).2
    finish.calls.all (fun call => call.1 ≠ .setAddress || call.2.isNone) = true ∧
      finish.address = some "p" ∧ finish.moves = [.addressSet .flip] :=
  ⟨⟨fun call _ => if call = .disconnect .flip then some .cancelled else none, fun _ => .ok, fun _ => 0⟩,
    ⟨by decide, by decide, rfl, by decide⟩, by decide +kernel, by decide +kernel, by decide +kernel⟩

end NsoAdapter.Core
