import NsoAdapter.Preflight.Plan

/-! The candidate loop of a manual preflight (`_run_selected_preflight`): each pass plans the
current selection, lets the guard and NSO judge the plan, and drops the streams they block. -/

namespace NsoAdapter.Preflight
open Lib Projection Store NsoAdapter.Core StaticRoute
open Execution

inductive DryRunFormat where
  | native | cli

structure DryRunRequest where
  containers : Containers
  format : DryRunFormat
  noNetworking : Bool

/-- What `apply_device_intent` answers a dry run with: a delta, no delta, or an error with the
classification of the response. -/
inductive DryRunAnswer where
  | delta (text : String)
  | noDelta
  | unavailable
  | protocolFault
  | refusal (records : List Refusal)
  | rejected (code : String)
  | failed (code message : String)

/-- NSO, by the number of dry runs before the request. -/
abbrev Nso := Nat → DryRunRequest → DryRunAnswer

inductive PreflightError where
  | inputsChanged
  | removalBlockedCollateral (orphans : Orphans)
  | bodyBuildFailed (sections : List (DocumentSection × ApplyError))
  | send (code message : String)
  | attributionFailed (reason : FailureReason)
  deriving DecidableEq

structure Delta where
  order : Nat
  texts : List (DryRunFormat × String)

inductive DryRun where
  | ready (deltas : List Delta)
  | refused (records : List AttributedRefusal)
  | unavailable
  | error (error : PreflightError)

/-- One answer about a link: its delta, or how the dry run ends. -/
def judgeAnswer (link : PlannedLink) (answer : DryRunAnswer) : Except DryRun String :=
  match answer with
  | .delta text => .ok text
  | .noDelta | .unavailable | .protocolFault => .error .unavailable
  | .rejected code => .error (.error (.send code "NSO rejected the device document"))
  | .failed code message => .error (.error (.send code message))
  | .refusal records =>
    match resolveRefusals records link.origins with
    | .error failure => .error (.error (.attributionFailed failure.reason))
    | .ok attributed => .error (.refused attributed)

variable (nso : Nso)

/-- The formats of one link, in order, and the number of dry runs after them. -/
def dryRunFormats (link : PlannedLink) : List DryRunFormat → Nat → Except DryRun (List (DryRunFormat × String)) × Nat
  | [], calls => (.ok [], calls)
  | format :: rest, calls =>
    match judgeAnswer link (nso calls ⟨link.containers, format, link.policy.noNetworking⟩) with
    | .error outcome => (.error outcome, calls + 1)
    | .ok text =>
      match dryRunFormats link rest (calls + 1) with
      | (.error outcome, later) => (.error outcome, later)
      | (.ok texts, later) => (.ok ((format, text) :: texts), later)

def dryRunLink (order : Nat) (link : PlannedLink) (calls : Nat) : DryRun × Nat :=
  if link.errors.isEmpty then
    let formats := if link.policy.noNetworking then [DryRunFormat.native] else [.native, .cli]
    match dryRunFormats nso link formats calls with
    | (.error outcome, later) => (outcome, later)
    | (.ok texts, later) => (.ready (if link.policy.noNetworking then [] else [⟨order, texts⟩]), later)
  else
    (.error (.bodyBuildFailed link.errors), calls)

/-- The links after `previous` was sent; a link that resends the preceding body is not run. -/
def dryRunLinks : List (PlannedLink × Nat) → Option (Containers × Bool) → Nat → DryRun × Nat
  | [], _, calls => (.ready [], calls)
  | (link, order) :: rest, previous, calls =>
    let sent := (link.containers, link.policy.noNetworking)
    if some sent = previous ∧ link.errors.isEmpty then
      dryRunLinks rest previous calls
    else
      match dryRunLink nso order link calls with
      | (.ready deltas, later) =>
        match dryRunLinks rest (some sent) later with
        | (.ready more, last) => (.ready (deltas ++ more), last)
        | ended => ended
      | ended => ended

def dryRunChain (planned : PlannedChain) (calls : Nat) : DryRun × Nat :=
  dryRunLinks nso planned.links.zipIdx none calls

inductive Verdict where
  | notEvaluated
  | contextDisturbed (disturbed : List ProjectionStream)
  | guarded (orphans : Orphans)
  | refused (records : List AttributedRefusal)
  | admitted

def Verdict.blocked : Verdict → Bool
  | contextDisturbed _ | guarded _ | refused _ => true
  | _ => false

abbrev Blocks := Dict ProjectionStream Verdict

def refusalStreams (records : List AttributedRefusal) : List ProjectionStream :=
  records.flatMap fun record => record.logicalRows.map (·.stream)

def refusalBlocks (records : List AttributedRefusal) (current : List ProjectionStream) : Blocks :=
  (sortedStreams (refusalStreams records)).filterMap fun stream =>
    if stream ∈ current then
      some (stream, .refused (records.filter fun record => (refusalStreams [record]).contains stream))
    else none

def linkRecords (link : PlannedLink) : Dict Nat InterfaceRecord :=
  (((link.document.lookup .interfaceConfig).bind (·.proof)).bind (·.interfaces)).getD []

def disturbedStreams (planned : PlannedChain) : List ProjectionStream :=
  sortedStreams ((planned.baselineInterfaceProofs.filter fun entry =>
    !planned.promoted.contains entry.1 && planned.links.any fun link =>
      entry.2.any fun record => (linkRecords link).get? record.1 != some record.2).map (·.1))

/-- The promoted interface streams, if an unpromoted one is disturbed. -/
def contextBlocks (planned : PlannedChain) : Blocks :=
  let disturbed := disturbedStreams planned
  if disturbed.isEmpty then []
  else (sortedStreams planned.promoted).filterMap fun stream =>
    if stream = .interfaceConfig ∨ stream = .ip then some (stream, .contextDisturbed disturbed)
    else none

/-- The orphaned keys of a plan, each with the streams that its own contribution names. -/
def orphanedKeys (planned : PlannedChain) (current : List ProjectionStream) :
    List (String × List String × List ProjectionStream) :=
  planned.links.flatMap fun link => link.guardOrphans.flatMap fun entry => entry.2.map fun key =>
    (entry.1, key, (((link.guardContributions.lookup entry.1).getD []).filter fun contribution =>
      contribution.2.contains key && current.contains contribution.1).map (·.1))

def groupOrphans (keys : List (String × List String)) : Orphans :=
  keys.foldl (fun orphans entry =>
    Dict.set orphans entry.1 ((Dict.get? orphans entry.1).getD [] ++ [entry.2])) []

/-- The blocks of `_guard_blocks`. -/
def guardBlocks (planned : PlannedChain) (current : List ProjectionStream) : Blocks :=
  let keys := orphanedKeys planned current
  (sortedStreams (keys.flatMap (·.2.2))).map fun stream =>
    (stream, .guarded (groupOrphans ((keys.filter fun key => key.2.2.contains stream).map
      fun key => (key.1, key.2.1))))

/-- The orphans of `_guard_blocks` that no selected stream answers for. -/
def unselectedOrphans (planned : PlannedChain) (current : List ProjectionStream) : Orphans :=
  groupOrphans (((orphanedKeys planned current).filter fun key => key.2.2.isEmpty).map
    fun key => (key.1, key.2.1))

def skipsMoved (earlier later : Dict ProjectionStream SkipReason) : Bool :=
  earlier.any fun entry => later.get? entry.1 != some entry.2

structure Attempt where
  selection : Selected
  dropped : List ProjectionStream

inductive Status where
  | ready | refused | unavailable | error
  deriving DecidableEq

/-- The optional arguments of `_preflight_result`, taken from the outcome of the dry run. -/
structure Details where
  plan : Option PlannedChain := none
  deltas : List Delta := []
  refusals : List AttributedRefusal := []
  baselineRefused : List ProjectionStream := []
  crossStream : List ProjectionStream := []
  contextDisturbed : List ProjectionStream := []
  error : Option PreflightError := none

structure PreflightResult where
  status : Status
  plan : Option PlannedChain
  deviceId : Nat
  nsoInstance : String
  nsoDeviceName : String
  streams : Dict ProjectionStream Verdict
  admittedSelection : Dict ProjectionStream Nat
  skips : Dict ProjectionStream SkipReason
  attempts : List Attempt
  liveInputDigest : Option String
  details : Details

/-- What the loop carries from pass to pass, with the planning transactions and the dry runs
that it has made. -/
structure LoopState where
  current : Selected
  streams : Dict ProjectionStream Verdict
  attempts : List Attempt
  skips : Dict ProjectionStream SkipReason
  plans : Nat
  dryRuns : Nat

inductive LoopFault where
  | unknownStream | dropOutsideSelection | passBound | notReduced

inductive Outcome where
  | finished (result : PreflightResult)
  | raised (error : PlanError)
  | fault (fault : LoopFault)

/-- The device as its caller read it, the service read, what each planning transaction finds and how
NSO answers. -/
structure Call where
  encoders : Encoders
  deviceId : Nat
  device : DeviceContext
  live : ServiceState
  moment : Nat → Moment
  nso : Nso

/-- `read_plan_inputs`: an inconclusive read has no digest. -/
def Encoders.liveDigest (encoders : Encoders) (live : ServiceState) : Option String :=
  let certified := certifiedStaticRouteSection live
  if certified.inconclusive then none else some (encoders.digestSection certified)

namespace Call

variable (call : Call)

def liveDigest : Option String :=
  call.encoders.liveDigest call.live

/-- `_preflight_result`. -/
def finish (state : LoopState) (status : Status) (details : Details) : Outcome :=
  let admitted := if status = .ready then
      state.current.entries.filter fun entry => (state.skips.get? entry.1).isNone
    else []
  .finished
    { status, plan := if status = .ready then details.plan else none
      deviceId := call.deviceId, nsoInstance := call.device.nsoInstance
      nsoDeviceName := call.device.nsoDeviceName
      streams := state.streams.update (admitted.map fun entry => (entry.1, .admitted))
      admittedSelection := admitted, skips := state.skips, attempts := state.attempts
      liveInputDigest := call.liveDigest, details }

/-- `finish("unavailable", error=_INPUTS_MOVED)`. -/
def inputsMoved (state : LoopState) : Outcome :=
  call.finish state .unavailable { error := some .inputsChanged }

/-- `attempts[-1]["dropped"] = sorted(blocks)`. -/
def recordDropped (attempts : List Attempt) (dropped : List ProjectionStream) : List Attempt :=
  match attempts.getLast? with
  | none => []
  | some last => attempts.dropLast ++ [{ last with dropped }]

def block (state : LoopState) (blocks : Blocks) : LoopState :=
  { state with
    streams := state.streams.update blocks
    attempts := recordDropped state.attempts (sortedStreams (blocks.map (·.1))) }

/-- The loop goes on without the blocked streams. -/
def drop (state : LoopState) (blocks : Blocks) : LoopState × Option Outcome :=
  if blocks.isEmpty || blocks.any fun entry => !state.current.keys.contains entry.1 then
    (state, some (.fault .dropOutsideSelection))
  else
    ({ block state blocks with current := state.current.without (blocks.map (·.1)) }, none)

/-- The result arguments of a dry run that is not refused. -/
def finishRun (state : LoopState) (planned : PlannedChain) (outcome : DryRun) : Outcome :=
  match outcome with
  | .ready deltas => call.finish state .ready { plan := some planned, deltas }
  | .refused records => call.finish state .refused { refusals := records }
  | .unavailable => call.finish state .unavailable {}
  | .error error => call.finish state .error { error := some error }

/-- `_diagnose_unselected_refusal`. -/
def diagnose (state : LoopState) (records : List AttributedRefusal) : LoopState × Outcome :=
  let planning := { state with plans := state.plans + 1 }
  match planBaseline call.encoders (call.moment state.plans) call.device call.live with
  | .error .stale => (planning, call.inputsMoved planning)
  | .error error => (planning, .raised error)
  | .ok baseline =>
    let run := dryRunChain call.nso baseline planning.dryRuns
    let ended := { planning with dryRuns := run.2 }
    match run.1 with
    | .unavailable => (ended, call.finish ended .unavailable {})
    | .error error => (ended, call.finish ended .error { error := some error })
    | .refused refusals => (ended, call.finish ended .refused
        { refusals, baselineRefused := sortedStreams (refusalStreams refusals) })
    | .ready _ => (ended, call.finish ended .refused
        { refusals := records, crossStream := sortedStreams (refusalStreams records) })

/-- `_judge_dry_run` and what the loop does with its answer. -/
def judge (state : LoopState) (planned : PlannedChain) : LoopState × Option Outcome :=
  let run := dryRunChain call.nso planned state.dryRuns
  let ended := { state with dryRuns := run.2 }
  match run.1 with
  | .refused records =>
    let blocks := refusalBlocks records planned.promoted
    if blocks.isEmpty then
      let diagnosis := call.diagnose ended records
      (diagnosis.1, some diagnosis.2)
    else drop ended blocks
  | outcome => (ended, some (call.finishRun ended planned outcome))

def plannedPass (state : LoopState) (planned : PlannedChain) : LoopState × Option Outcome :=
  if skipsMoved state.skips planned.skipped then
    (state, some (call.inputsMoved state))
  else
    let noted := { state with skips := state.skips.update planned.skipped }
    if planned.promoted.any fun stream => !state.current.keys.contains stream then
      (noted, some (.fault .unknownStream))
    else
      let disturbed := disturbedStreams planned
      let blocks := contextBlocks planned
      if !disturbed.isEmpty && blocks.isEmpty then
        (noted, some (call.finish noted .refused { contextDisturbed := disturbed }))
      else
        let guarded := guardBlocks planned planned.promoted
        let unselected := unselectedOrphans planned planned.promoted
        if !unselected.isEmpty then
          let ended := block noted guarded
          (ended, some (call.finish ended .refused
            { error := some (.removalBlockedCollateral unselected) }))
        else
          let all := blocks.update guarded
          if all.isEmpty then call.judge noted planned else drop noted all

def conflictPass (state : LoopState) (conflict : ContextConflict) : LoopState × Option Outcome :=
  if skipsMoved state.skips conflict.skipped then
    (state, some (call.inputsMoved state))
  else
    let noted := { state with skips := state.skips.update conflict.skipped }
    if conflict.blocked.isEmpty then
      (noted, some (call.finish noted .refused { contextDisturbed := conflict.disturbed }))
    else
      drop noted (conflict.blocked.map fun stream =>
        (stream, .contextDisturbed conflict.disturbed))

def runPass (state : LoopState) : LoopState × Option Outcome :=
  let planning := { state with plans := state.plans + 1 }
  match planActionApply call.encoders (call.moment state.plans) call.device call.live
      state.current.entries with
  | .error .stale => (planning, some (call.inputsMoved planning))
  | .error error => (planning, some (.raised error))
  | .ok (.error conflict) => call.conflictPass planning conflict
  | .ok (.ok planned) => call.plannedPass planning planned

/-- The passes that are left of `range(len(selected) + 1)`. -/
def runLoop (bound : Nat) : Nat → LoopState → LoopState × Outcome
  | 0, state => (state, .fault .notReduced)
  | fuel + 1, state =>
    if bound < state.attempts.length then
      (state, .fault .passBound)
    else
      let entered := { state with attempts := state.attempts ++ [⟨state.current, []⟩] }
      if state.current.keys.isEmpty && !state.streams.isEmpty then
        (entered, call.finish entered .refused {})
      else
        match call.runPass entered with
        | (next, some outcome) => (next, outcome)
        | (next, none) => runLoop bound fuel next

/-- The loop before its first pass. -/
def start (selected : Selected) : LoopState where
  current := selected
  streams := selected.entries.map fun entry => (entry.1, .notEvaluated)
  attempts := []
  skips := []
  plans := 0
  dryRuns := 0

/-- The last state of the loop and how it ends. -/
def runSelectedPreflight (selected : Selected) : LoopState × Outcome :=
  if (certifiedStaticRouteSection call.live).inconclusive then
    (start selected, call.finish (start selected) .unavailable {})
  else
    call.runLoop selected.keys.length (selected.keys.length + 1) (start selected)

end Call

end NsoAdapter.Preflight
