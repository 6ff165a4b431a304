import NsoAdapter.Lib.Transition

/-! Management-address failover. A tick probes the address NSO dials and switches a device
between its primary and its out-of-band address. Every awaited call may answer, raise or be
cancelled; the scheduler commits a tick that returns and rolls back any other. -/

namespace NsoAdapter.Core
open Lib

inductive ActiveAddress where
  | primary | oob
  deriving DecidableEq

inductive ProbeStatus where
  | ok | unreachable | timeout | error
  deriving DecidableEq

inductive BlockedReason where
  | addressUnreadable | activeOobAddressConflict | storedAddressInvalid
  deriving DecidableEq

structure DeviceFailover where
  primaryIp : Option String := none
  oobIp : Option String := none
  activeAddress : ActiveAddress := .primary
  consecutiveFailures : Int := 0
  consecutiveSuccesses : Int := 0
  manualOverride : Bool := false
  failbackBlockedReason : Option BlockedReason := none
  nextPrimaryProbeAt : Option Nat := none
  nextOobProbeAt : Option Nat := none
  deriving DecidableEq

/-- The knobs a tick reads; intervals in seconds. -/
structure TickConfig where
  primaryProbeInterval : Nat
  oobProbeInterval : Nat
  failureThreshold : Int
  successThreshold : Int
  syncFromAfterSwitch : Bool

structure CounterStep where
  failures : Int
  successes : Int
  act : Bool

def stepFailover (reachable : Bool) (failures : Int) (hasOob : Bool) (threshold : Int) : CounterStep :=
  if reachable then ⟨0, 0, false⟩
  else if hasOob && decide (threshold ≤ failures + 1) then ⟨0, 0, true⟩
  else ⟨failures + 1, 0, false⟩

def stepFailback (reachable : Bool) (successes threshold : Int) : CounterStep :=
  if reachable then
    if threshold ≤ successes + 1 then ⟨0, 0, true⟩ else ⟨0, successes + 1, false⟩
  else ⟨0, 0, false⟩

/-- Why NSO is given an address: for good, under a threshold, for a probe, or back after it. -/
inductive AddressPurpose where
  | switch (threshold : Int)
  | flip
  | revert
  deriving DecidableEq

/-- The calls a tick awaits. -/
inductive NsoCall where
  | getAddress | setAddress | connect | syncFrom
  | disconnect (purpose : AddressPurpose)
  deriving DecidableEq

inductive Stop where
  | exception | cancelled
  deriving DecidableEq

/-- How each await of a tick ends, and each random jitter, by its place in the tick. -/
structure Answers where
  raises : NsoCall → Nat → Option Stop
  status : Nat → ProbeStatus
  jitter : Nat → Nat

/-- What happened to a device. A probe names the address it is for and the role of the one
NSO held. -/
inductive FailoverEvent where
  | probed (target : ActiveAddress) (held : Option ActiveAddress) (status : ProbeStatus)
  | addressSet (purpose : AddressPurpose)
  | reconciled (role : ActiveAddress)
  | failedOver
  | failedBack (threshold : Int)
  | primaryChanged
  deriving DecidableEq

/-- A tick in progress, with the calls it made and what happened, the newest first. -/
structure TickWorld where
  fo : DeviceFailover
  address : Option String
  budget : Option Int
  clock : Nat
  calls : List (NsoCall × Option Stop)
  events : List FailoverEvent

abbrev Tick := ExceptT Stop (StateM TickWorld)

variable {Address : Type} [DecidableEq Address] (ip : String → Option Address)

def DeviceFailover.invalidStoredAddress (fo : DeviceFailover) : Bool :=
  fo.primaryIp.any (fun text => (ip text).isNone) || fo.oobIp.any fun text => (ip text).isNone

/-- The role of an address beside the two stored ones. -/
def managedAddressRole (primaryIp oobIp : Option String) (address : Address) : Option ActiveAddress :=
  if primaryIp.bind ip = some address then some .primary
  else if oobIp.bind ip = some address then some .oob
  else none

def TickWorld.heldRole (world : TickWorld) : Option ActiveAddress :=
  (world.address.bind ip).bind (managedAddressRole ip world.fo.primaryIp world.fo.oobIp)

/-- A transition resets the counters. -/
def DeviceFailover.enter (fo : DeviceFailover) (role : ActiveAddress) : DeviceFailover :=
  { fo with activeAddress := role, consecutiveFailures := 0, consecutiveSuccesses := 0 }

namespace Tick

def update (change : DeviceFailover → DeviceFailover) : Tick Unit :=
  modify fun world => { world with fo := change world.fo }

def emit (event : FailoverEvent) : Tick Unit :=
  modify fun world => { world with events := event :: world.events }

def count : Tick Nat :=
  modifyGet fun world => (world.clock, { world with clock := world.clock + 1 })

/-- `except Exception`: a cancellation passes. -/
def rescue {α : Type} (body handler : Tick α) : Tick α :=
  tryCatch body fun stop => if stop = .exception then handler else throw stop

variable (answers : Answers)

def await (call : NsoCall) : Tick Nat := do
  let place ← count
  modify fun world => { world with calls := (call, answers.raises call place) :: world.calls }
  match answers.raises call place with
  | some stop => throw stop
  | none => return place

def nextDue (now interval : Nat) : Tick (Option Nat) := do
  return some (now + interval + answers.jitter (← count))

def takeFlip : Tick Bool := do
  match (← get).budget with
  | none => return true
  | some remaining =>
    if remaining ≤ 0 then return false
    modify fun world => { world with budget := some (remaining - 1) }
    return true

def probeReachable (target : ActiveAddress) : Tick ProbeStatus := do
  let place ← await answers .connect
  emit (.probed target ((← get).heldRole ip) (answers.status place))
  return answers.status place

def safeDisconnect (purpose : AddressPurpose) : Tick Bool :=
  rescue (do let _ ← await answers (.disconnect purpose); return true) (return false)

def safeSyncFrom : Tick Unit :=
  rescue (do let _ ← await answers .syncFrom) (return ())

def setAddress (purpose : AddressPurpose) (address : String) : Tick Bool := do
  let _ ← await answers .setAddress
  modify fun world => { world with address := some address }
  emit (.addressSet purpose)
  safeDisconnect answers purpose

def revertAddress (address : String) : Tick Unit :=
  rescue (do let _ ← setAddress answers .revert address) (return ())

/-- NSO's address; nothing if there is none, or it is malformed or unreadable. -/
def readAddress : Tick (Option (String × Address)) :=
  rescue (do
    let _ ← await answers .getAddress
    return (← get).address.bind fun text => (ip text).map (text, ·)) (return none)

def blockUnreadable : Tick Unit :=
  update fun fo => { fo with
    failbackBlockedReason :=
      if fo.failbackBlockedReason = some .activeOobAddressConflict then fo.failbackBlockedReason
      else some .addressUnreadable }

def clearUnreadable : Tick Unit :=
  update fun fo => { fo with
    failbackBlockedReason := fo.failbackBlockedReason.filter (· ≠ .addressUnreadable) }

def reconcileActiveAddress : Tick Bool := do
  match ← readAddress ip answers with
  | none =>
    blockUnreadable
    return false
  | some (_, address) =>
    clearUnreadable
    let fo := (← get).fo
    match managedAddressRole ip fo.primaryIp fo.oobIp address with
    | none =>
      update fun fo => { fo with manualOverride := true }
      return false
    | some role =>
      update fun fo => { fo with manualOverride := false }
      if fo.activeAddress ≠ role then
        update (·.enter role)
        emit (.reconciled role)
      return true

variable (cfg : TickConfig) (now : Nat)

def switchToOob (oobIp : String) : Tick Unit := do
  let _ ← setAddress answers (.switch cfg.failureThreshold) oobIp
  update fun fo => { fo.enter .oob with nextOobProbeAt := some now }
  emit .failedOver
  if cfg.syncFromAfterSwitch then safeSyncFrom answers

def commitFailback : Tick Unit := do
  update fun fo => { fo.enter .primary with
    failbackBlockedReason := none, nextOobProbeAt := some (now + cfg.oobProbeInterval) }
  if cfg.syncFromAfterSwitch then safeSyncFrom answers
  emit (.failedBack cfg.successThreshold)

/-- Probes the primary and steps the counters; whether to act. -/
def stepPrimary (judge : DeviceFailover → Bool → CounterStep) : Tick Bool := do
  let status ← probeReachable ip answers .primary
  let step := judge (← get).fo (status == .ok)
  update fun fo => { fo with consecutiveFailures := step.failures, consecutiveSuccesses := step.successes }
  return step.act

/-- The answer is whether the probe ran: a switch over the budget leaves the address due. -/
def activePrimaryProbe (oobIp : Option String) (jobActive : Bool) : Tick Bool := do
  let act ← stepPrimary ip answers fun fo reachable =>
    stepFailover reachable fo.consecutiveFailures oobIp.isSome cfg.failureThreshold
  if !act then return true
  let ready ← if jobActive then pure false else reconcileActiveAddress ip answers
  if !ready then
    update fun fo => { fo with consecutiveFailures := cfg.failureThreshold }
    return true
  if (← get).fo.activeAddress ≠ .primary then return true
  if !(← takeFlip) then
    update fun fo => { fo with consecutiveFailures := cfg.failureThreshold }
    return false
  match oobIp with
  | none => throw .exception
  | some oobIp =>
    update fun fo => { fo with manualOverride := false }
    switchToOob answers cfg now oobIp
    return true

/-- `try: … finally:` around a probe: unless it commits, the address held before comes back. -/
def flipProbe (address before : String) (probe : Tick Bool) : Tick Unit := do
  let _ ← setAddress answers .flip address
  let committed ← tryCatch probe fun stop => do
    revertAddress answers before
    throw stop
  if !committed then revertAddress answers before

/-- What both disruptive probes do before their flip; only one takes back that the address was
unreadable. -/
def guardedFlip (recovers : Bool) (address : String) (jobActive : Bool) (probe : Tick Bool) : Tick Bool := do
  if jobActive then return true
  match ← readAddress ip answers with
  | none =>
    blockUnreadable
    return true
  | some (before, parsed) =>
    if recovers then clearUnreadable
    let fo := (← get).fo
    if managedAddressRole ip fo.primaryIp fo.oobIp parsed = none then
      update fun fo => { fo with manualOverride := true }
      return true
    if !(← takeFlip) then return false
    update fun fo => { fo with manualOverride := false }
    flipProbe answers address before probe
    return true

/-- The probe of a flip to the primary; whether it committed the failback. -/
def failbackDecision : Tick Bool := do
  let act ← stepPrimary ip answers fun fo reachable =>
    stepFailback reachable fo.consecutiveSuccesses cfg.successThreshold
  if act then commitFailback answers cfg now
  return act

def failbackFlipProbe (primaryIp : String) (jobActive : Bool) : Tick Bool :=
  guardedFlip ip answers true primaryIp jobActive (failbackDecision ip answers cfg now)

/-- The probe of a flip to the out-of-band address commits nothing. -/
def oobHealth : Tick Bool := do
  let _ ← probeReachable ip answers .oob
  return false

def probePrimary (primaryIp : String) (oobIp : Option String) (jobActive : Bool) : Tick Bool := do
  if (← get).fo.activeAddress = .primary then activePrimaryProbe ip answers cfg now oobIp jobActive
  else failbackFlipProbe ip answers cfg now primaryIp jobActive

def probeOob (primaryIp : Option String) (oobIp : String) (jobActive : Bool) : Tick Bool := do
  if (← get).fo.activeAddress = .oob then
    let _ ← probeReachable ip answers .oob
    return true
  if primaryIp.isNone then throw .exception
  guardedFlip ip answers false oobIp jobActive (oobHealth ip answers)

def rearmPrimary : Tick Unit := do
  let due ← nextDue answers now cfg.primaryProbeInterval
  update fun fo => { fo with nextPrimaryProbeAt := due }

def rearmOob : Tick Unit := do
  let interval := if (← get).fo.activeAddress = .oob then cfg.primaryProbeInterval else cfg.oobProbeInterval
  let due ← nextDue answers now interval
  update fun fo => { fo with nextOobProbeAt := due }

def due (now : Nat) (at? : Option Nat) : Bool := at?.all (· ≤ now)

/-- The probes of a tick, once the stored role is the one NSO holds. -/
def runProbes (primaryIp oobIp : Option String) (jobActive : Bool) : Tick Unit := do
  let before := (← get).fo.activeAddress
  if let some primaryIp := primaryIp then
    if due now (← get).fo.nextPrimaryProbeAt then
      if ← probePrimary ip answers cfg now primaryIp oobIp jobActive then rearmPrimary answers cfg now
  if let some oobIp := oobIp then
    if (← get).fo.activeAddress = before && due now (← get).fo.nextOobProbeAt then
      if ← probeOob ip answers primaryIp oobIp jobActive then rearmOob answers cfg now

end Tick

open Tick

def DeviceFailover.primaryDue (fo : DeviceFailover) (now : Nat) : Bool :=
  fo.primaryIp.isSome && due now fo.nextPrimaryProbeAt

/-- An out-of-band address equal to the primary is none. -/
def DeviceFailover.distinctOob (fo : DeviceFailover) : Option String :=
  if fo.oobIp.bind ip ≠ fo.primaryIp.bind ip then fo.oobIp else none

def DeviceFailover.oobDue (fo : DeviceFailover) (now : Nat) : Bool :=
  (fo.distinctOob ip).isSome && due now fo.nextOobProbeAt

/-- Whether the tick has anything to do with NSO. -/
def DeviceFailover.starts (fo : DeviceFailover) (now : Nat) : Bool :=
  (fo.primaryIp.isSome || (fo.distinctOob ip).isSome) &&
    (fo.primaryDue now || fo.oobDue ip now || fo.manualOverride)

def runFailoverTick (answers : Answers) (cfg : TickConfig) (now : Nat) (jobActive : Bool) : Tick Unit := do
  let fo := (← get).fo
  if fo.invalidStoredAddress ip then
    update fun fo => { fo with failbackBlockedReason := some .storedAddressInvalid }
    if fo.primaryIp.isSome then rearmPrimary answers cfg now
    if fo.oobIp.isSome then rearmOob answers cfg now
    return
  if !fo.starts ip now then return
  if !(← reconcileActiveAddress ip answers) then
    if fo.primaryDue now then rearmPrimary answers cfg now
    if fo.oobDue ip now then rearmOob answers cfg now
    return
  if (← get).fo.activeAddress ≠ fo.activeAddress && (← get).fo.activeAddress = .oob then
    rearmPrimary answers cfg now
    update fun fo => { fo with nextOobProbeAt := some now }
  runProbes ip answers cfg now fo.primaryIp (fo.distinctOob ip) jobActive

/-- `upsert_failover_ips` on the device's row, if it has one; the addresses arrive parsed. With
the row, whether anything and whether the primary changed. -/
def upsertFailoverIps (text : Address → String) (existing : Option DeviceFailover) (primary oob : Option Address)
    (now : Nat) : Option DeviceFailover × Bool × Bool :=
  if existing.isNone && primary.isNone && oob.isNone then (none, false, false)
  else
    let fo := existing.getD {}
    let storedPrimary := fo.primaryIp.bind ip
    let storedOob := fo.oobIp.bind ip
    let conflict := fo.activeAddress = .oob ∧ storedOob ≠ none ∧ (oob ≠ storedOob ∨ primary = storedOob)
    let acceptedPrimary := if conflict ∧ primary = storedOob then storedPrimary else primary
    let acceptedOob := if conflict then storedOob else oob
    let reason :=
      if conflict then some .activeOobAddressConflict
      else fo.failbackBlockedReason.filter (· ≠ .activeOobAddressConflict)
    let primaryChanged := decide (fo.primaryIp.any (fun text => (ip text).isNone) ∨ storedPrimary ≠ acceptedPrimary)
    let oobChanged := decide (fo.oobIp.any (fun text => (ip text).isNone) ∨ storedOob ≠ acceptedOob)
    let updated := { if primaryChanged then fo.enter fo.activeAddress else fo with
      primaryIp := acceptedPrimary.map text
      oobIp := acceptedOob.map text
      nextPrimaryProbeAt := if primaryChanged && acceptedPrimary.isSome then some now else fo.nextPrimaryProbeAt
      nextOobProbeAt := if oobChanged && acceptedOob.isSome then some now else fo.nextOobProbeAt }
    let blocked := { updated with
      failbackBlockedReason :=
        if updated.invalidStoredAddress ip then reason else reason.filter (· ≠ .storedAddressInvalid) }
    (some blocked, primaryChanged || oobChanged || decide (blocked ≠ fo), primaryChanged)

/-- The device's row, NSO's address for it, and what happened so far. -/
structure FailoverState where
  fo : Option DeviceFailover
  address : Option String
  events : List FailoverEvent

inductive FailoverStep (Address : Type) where
  | tick (answers : Answers) (cfg : TickConfig) (now : Nat) (jobActive : Bool) (budget : Option Int)
  | upsert (primary oob : Option Address) (now : Nat)
  | moved (address : Option String)

/-- A tick under the scheduler: what it returns is committed, what it raises is rolled back. -/
def scheduledTick (answers : Answers) (cfg : TickConfig) (now : Nat) (jobActive : Bool) (budget : Option Int)
    (fo : DeviceFailover) (state : FailoverState) : Bool × FailoverState :=
  match (runFailoverTick ip answers cfg now jobActive).run.run ⟨fo, state.address, budget, 0, [], state.events⟩ with
  | (.ok _, world) => (true, ⟨some world.fo, world.address, world.events⟩)
  | (.error _, world) => (false, ⟨some fo, world.address, world.events⟩)

def FailoverStep.run (text : Address → String) (state : FailoverState) : FailoverStep Address → FailoverState
  | .tick answers cfg now jobActive budget =>
    state.fo.elim state fun fo => (scheduledTick ip answers cfg now jobActive budget fo state).2
  | .upsert primary oob now =>
    let (fo, _, primaryChanged) := upsertFailoverIps ip text state.fo primary oob now
    { state with fo, events := if primaryChanged then .primaryChanged :: state.events else state.events }
  | .moved address => { state with address }

/-- A step that loses nothing: a tick that is rolled back saw nothing happen. -/
def FailoverStep.kept (state : FailoverState) : FailoverStep Address → Bool
  | .tick answers cfg now jobActive budget => state.fo.all fun fo =>
    let (committed, after) := scheduledTick ip answers cfg now jobActive budget fo state
    committed || after.events == state.events
  | _ => true

def failoverSystem (text : Address → String) : TransitionSystem FailoverState (FailoverStep Address) where
  initial state := state.fo = none ∧ state.events = []
  step label state := some (label.run ip text state)

end NsoAdapter.Core
