import NsoAdapter.StaticRoute.Plan

/-! Static routes on the wire (`nso/apply.py`, `core/static_route_reader.py`): the entry a row
is rendered as, and the certified read of the section that the service holds. -/

namespace NsoAdapter.StaticRoute
open Lib Projection

/-- One entry of the `route` list: its key and its other leaves as they came. -/
structure RouteEntry where
  key : Triple
  leaves : List (String × Json)

/-- A leaf that is emitted only when the column is wire-set. -/
def optionalLeaf (row : Row) (field leaf : String) : List (String × Json) :=
  if wireSet field (row.get field) then [(leaf, row.get field)] else []

def staticRouteEntry (row : Row) : RouteEntry :=
  { key := tripleOf row
    leaves := optionalLeaf row "interface_next_hop" "interface-next-hop" ++
      optionalLeaf row "next_hop_vrf" "next-hop-vrf" ++ optionalLeaf row "metric" "metric" ++
      optionalLeaf row "permanent" "permanent" ++ optionalLeaf row "tag" "tag" }

def clearWireLeaf : List (String × String) :=
  [("interface_next_hop", "interface-next-hop"), ("next_hop_vrf", "next-hop-vrf"),
    ("metric", "metric"), ("permanent", "permanent"), ("tag", "tag")]

/-- `leaf_is_neutral` for a field with the given leaf. Zero is a value; `false` is neutral for
`permanent` alone. -/
def leafIsNeutral (field leaf : String) (entry : RouteEntry) : Bool :=
  match entry.leaves.lookup leaf with
  | none | some .null => true
  | some value =>
    if field = "permanent" then
      match value with
      | .bool set => !set
      | .str text => text.trimAscii.toString.toLower == "false"
      | _ => false
    else if field = "interface_next_hop" ∨ field = "next_hop_vrf" then
      value == .str ""
    else
      false

/-- What a read of the service instance answers: nothing that can be relied on, or the
instance, if there is one. -/
inductive ServiceState where
  | inconclusive
  | answered (entry : Option Json)

inductive SectionStatus where
  | present | absent | inconclusive
  deriving DecidableEq

structure CertifiedSection where
  status : SectionStatus
  routes : List RouteEntry
  instanceBody : Option Json

def CertifiedSection.inconclusive (certified : CertifiedSection) : Bool :=
  certified.status == .inconclusive

/-- Why an instance that parsed cannot be certified. -/
inductive Uncertifiable where
  | instanceShape | legacyShape | containerShape | listShape | entryShape | prefixShape
  | emptyPrefix
  | leafShape (leaf : String)

def keyLeaf (members : List (String × Json)) (leaf : String) : Except Uncertifiable String :=
  match members.lookup leaf with
  | none | some .null => .ok ""
  | some (.str text) => .ok text
  | some _ => .error (.leafShape leaf)

def certifyEntry : Json → Except Uncertifiable RouteEntry
  | .obj members =>
    match members.lookup "prefix" with
    | some (.str route) =>
      if route = "" then
        .error .emptyPrefix
      else do
        let vrf ← keyLeaf members "vrf"
        let nextHop ← keyLeaf members "next-hop"
        pure ⟨(vrf, route, nextHop), members.filter fun member =>
          member.1 ≠ "vrf" ∧ member.1 ≠ "prefix" ∧ member.1 ≠ "next-hop"⟩
    | _ => .error .prefixShape
  | _ => .error .entryShape

/-- `_project`: every departure from the shape of the service is refused. -/
def projectRoutes : Option Json → Except Uncertifiable (List RouteEntry)
  | none => .ok []
  | some (.obj members) =>
    match members.lookup "static-route" with
    | none => if (members.lookup "route").isSome then .error .legacyShape else .ok []
    | some (.obj container) =>
      match container.lookup "route" with
      | none => .ok []
      | some (.arr routes) => routes.mapM certifyEntry
      | some _ => .error .listShape
    | some _ => .error .containerShape
  | some _ => .error .instanceShape

def certifiedStaticRouteSection : ServiceState → CertifiedSection
  | .inconclusive => ⟨.inconclusive, [], none⟩
  | .answered entry =>
    match projectRoutes entry with
    | .error _ => ⟨.inconclusive, [], none⟩
    | .ok [] => ⟨.absent, [], entry⟩
    | .ok routes => ⟨.present, routes, entry⟩

theorem certifiedStaticRouteSection_ok {entry : Option Json} {routes : List RouteEntry} (projected : projectRoutes entry = .ok routes) :
    (certifiedStaticRouteSection (.answered entry)).routes = routes ∧
      (certifiedStaticRouteSection (.answered entry)).instanceBody = entry := by
  cases routes with
  | nil | cons => simp [certifiedStaticRouteSection, projected]

/-- What a read of the device-state section answers; only `ok` has entries. -/
inductive DeviceState where
  | ok (entries : List (Triple × RouteEntry))
  | unsupported
  | error

def DeviceState.entries : DeviceState → List (Triple × RouteEntry)
  | .ok entries => entries
  | _ => []

/-- The status as a job's result reports it when there is no answer. -/
def DeviceState.statusName : DeviceState → String
  | .ok _ => "ok"
  | .unsupported => "unsupported"
  | .error => "error"

/-- Whether the section is certified to hold none of the keys. -/
def serviceClean (certified : CertifiedSection) (keys : List Triple) : Bool :=
  !certified.inconclusive && certified.routes.all fun entry => !keys.contains entry.key

theorem serviceClean_iff {certified : CertifiedSection} {keys : List Triple} : serviceClean certified keys = true ↔
      certified.inconclusive = false ∧ ∀ entry ∈ certified.routes, entry.key ∉ keys := by
  simp [serviceClean]

end NsoAdapter.StaticRoute
