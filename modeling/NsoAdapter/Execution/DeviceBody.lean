import NsoAdapter.Execution.CollateralGuard

/-! The one body builder (`core/apply.py`, `build_device_containers`): every section is encoded
from the document, and the static-route section also carries the live entries that the frozen
plan retains. -/

namespace NsoAdapter.Execution
open Lib Store Projection NsoAdapter.Core StaticRoute

/-- The hydrated apply plan. -/
structure SrPlan where
  mode : ApplyMode
  rows : List Row
  allowed : List Triple
  tombstones : List Row
  cas : List SrCas
  tombstoneIdWatermark : Nat

inductive HydrateError where
  | invalidPlan | rowsMismatch | tombstonesMismatch | invalidCas

/-- `{row.id: row for row in rows}[id]`. -/
def rowById (rows : List Row) (id : Nat) : Option Row :=
  rows.reverse.find? fun row => idOf row == id

def rowsByIds (rows : List Row) (ids : List Nat) (refused : HydrateError) : Except HydrateError (List Row) :=
  ids.mapM fun id =>
    match rowById rows id with
    | none => .error refused
    | some row => .ok row

/-- The coordinates of the selected rows, which must name them all. -/
def selectedCas (plan : SrApplyPlan) : Except HydrateError (List SrCas) :=
  let selected := plan.cas.filter fun item => plan.rowIds.contains item.rowId
  if plan.rowIds.all fun id => selected.any fun item => item.rowId == id then .ok selected
  else .error .invalidCas

def hydrateStaticRouteApplyPlan (body : SectionBody) : Except HydrateError SrPlan :=
  match body.proof.bind (·.apply) with
  | none => .error .invalidPlan
  | some plan => do
      let rows ← rowsByIds (body.tables.rows .staticRouteIntent) plan.rowIds .rowsMismatch
      let tombstones ← rowsByIds (body.tables.rows .staticRouteTombstone) plan.tombstoneIds
        .tombstonesMismatch
      let cas ← selectedCas plan
      return ⟨plan.mode, rows, plan.allowedRemovalKeys, tombstones, cas, plan.tombstoneIdWatermark⟩

def operationSelectedRoutes (body : SectionBody) : List Triple :=
  match body.operation.bind (·.removal) with
  | none => []
  | some removal => removal.authorized

/-- `NsoApplyError`, as the body builder meets it. -/
inductive ApplyError where
  | snapshotInconclusive
  | encoding (code : String)
  deriving DecidableEq

/-- The keys the plan's carriers claim: their own and the deployed ones. -/
def claimedKeys (tombstones : List Row) : List Triple :=
  tombstones.map tripleOf ++ tombstones.filterMap deployedOf

/-- The keys whose live entries the body must retain. -/
def keptKeys (body : SectionBody) (plan : SrPlan) : List Triple :=
  (claimedKeys plan.tombstones).filter fun key =>
    !(plan.rows.map tripleOf).contains key && !(operationSelectedRoutes body).contains key

/-- The live entries to retain, from a certified read alone. -/
def staticRouteSnapshot (body : SectionBody) (plan : SrPlan) (certified : CertifiedSection) :
    Except ApplyError (List RouteEntry) :=
  if certified.inconclusive then .error .snapshotInconclusive
  else .ok (certified.routes.filter fun entry => (keptKeys body plan).contains entry.key)

/-- A body asserts accepted rows. -/
def carried (rows : List Row) : List Row :=
  rows.filter fun row => row.get "accepted_at" ≠ .null

def encodeStaticRoute (rows : List Row) : List RouteEntry :=
  (carried rows).map StaticRoute.staticRouteEntry

/-- A rendered entry wins over a retained one. -/
def overlayRetainedRoutes (rendered retained : List RouteEntry) : List RouteEntry :=
  retained.foldl (fun routes entry =>
    if (routes.map (·.key)).contains entry.key then routes else routes ++ [entry]) rendered

def entryJson (entry : RouteEntry) : Json :=
  .obj ([("vrf", .str entry.key.1), ("prefix", .str entry.key.2.1),
    ("next-hop", .str entry.key.2.2)] ++ entry.leaves)

def routeContainer (routes : List RouteEntry) : Json :=
  .obj [("route", .arr (routes.map entryJson))]

structure DeviceBody where
  containers : Containers
  sentRouteKeys : Option (List Triple)
  errors : List (DocumentSection × ApplyError)
  staticRoute : Option CertifiedSection

def DeviceBody.snapshot (body : DeviceBody) : Option (Option Json) :=
  body.staticRoute.map (·.instanceBody)

/-- The encoders of the other sections, with the send gate of `logging`. -/
abbrev SectionEncoder := DocumentSection → SectionBody → Except ApplyError Json

variable (encode : SectionEncoder)

/-- What a caller hands to the builder. -/
structure BuildRequest where
  plan : Option SrPlan
  live : ServiceState
  retain : Bool

/-- The plan of a build: the caller's, or the document's own. -/
def BuildRequest.hydrated (request : BuildRequest) (body : SectionBody) : Except HydrateError SrPlan :=
  match request.plan with
  | some plan => .ok plan
  | none => hydrateStaticRouteApplyPlan body

/-- The rows of a build: the plan's own where the caller hands one in. -/
def BuildRequest.rows (request : BuildRequest) (body : SectionBody) : List Row :=
  match request.plan with
  | some plan => plan.rows
  | none => body.tables.rows .staticRouteIntent

def DeviceBody.withRoutes (built : DeviceBody) (routes : List RouteEntry)
    (certified : Option CertifiedSection) : DeviceBody :=
  { built with
    containers := built.containers ++ [(.staticRoute, routeContainer routes)]
    sentRouteKeys := some (routes.map (·.key))
    staticRoute := certified }

def DeviceBody.refuse (built : DeviceBody) (documentSection : DocumentSection) (refused : ApplyError) : DeviceBody :=
  { built with errors := built.errors ++ [(documentSection, refused)] }

def buildStaticRoute (request : BuildRequest) (built : DeviceBody) (body : SectionBody) :
    Except HydrateError DeviceBody :=
  let rendered := encodeStaticRoute (request.rows body)
  if request.retain then do
    let plan ← request.hydrated body
    let certified := certifiedStaticRouteSection request.live
    match staticRouteSnapshot body plan certified with
    | .error refused => return built.refuse .staticRoute refused
    | .ok retained =>
      return built.withRoutes (overlayRetainedRoutes rendered retained) (some certified)
  else
    return built.withRoutes rendered built.staticRoute

def buildOther (built : DeviceBody) (documentSection : DocumentSection) (body : SectionBody) : DeviceBody :=
  match encode documentSection body with
  | .error refused => built.refuse documentSection refused
  | .ok container =>
    { built with containers := built.containers ++ [(documentSection, container)] }

def buildSection (request : BuildRequest) (document : Document) (built : DeviceBody)
    (documentSection : DocumentSection) : Except HydrateError DeviceBody :=
  match document.lookup documentSection with
  | none => .ok built
  | some body =>
    if documentSection = .staticRoute then buildStaticRoute request built body
    else .ok (buildOther encode built documentSection body)

def buildDeviceContainers (request : BuildRequest) (document : Document) : Except HydrateError DeviceBody :=
  DocumentSection.all.foldlM (buildSection encode request document) ⟨[], none, [], none⟩

end NsoAdapter.Execution
