import NsoAdapter.Core.Promotion
import NsoAdapter.Core.Removal

/-! The removal inputs of one promoted stream (`promotion_removal_context`): the
guarded list keys, interface names and vault references that the intent endpoints
pass when they enqueue the same removal themselves. -/

namespace NsoAdapter.Core
open Lib Projection Store StaticRoute

/-- Table, guarded list and key columns. -/
def promotionGuardFields : DocumentSection → List (IntentTable × String × List String)
  | .vlan => [(.vlanIntent, "vlan", ["vlan_id"])]
  | .bfd => [(.bfdIntent, "interface", ["interface_name"])]
  | .svi => [(.sviIntent, "interface", ["interface_name"])]
  | .subinterface => [(.subinterfaceIntent, "interface", ["interface_name"])]
  | .interfaceMtu => [(.interfaceMtuIntent, "interface", ["interface_name"])]
  | .logging => [(.loggingHostIntent, "host", ["address"])]
  | .l2Sap => [(.l2SapIntent, "sap", ["service_name", "sap_id"])]
  | .staticRoute => [(.staticRouteIntent, "route", ["vrf", "prefix", "next_hop"])]
  | .snmp =>
    [(.snmpCommunityIntent, "community", ["label"]), (.snmpV3UserIntent, "v3-user", ["username"]),
      (.snmpHostIntent, "host", ["address"])]
  | .bgp => [(.bgpRouterIntent, "router", ["asn"]), (.bgpPeerIntent, "peer", ["peer_address"])]
  | .ospf =>
    [(.ospfInstanceIntent, "process-config", ["process_id"]),
      (.ospfInterfaceIntent, "interface-config", ["interface_name"])]
  | .isis =>
    [(.isisProcessIntent, "process-config", ["process_tag"]),
      (.isisInterfaceIntent, "interface-config", ["interface_name", "af"])]
  | .routePolicy | .switchport | .lag | .interfaceConfig => []

/-- `repr` of a scalar key value. -/
def scalarRepr : Json → String
  | .null => "None"
  | .bool true => "True"
  | .bool false => "False"
  | .num value => toString value
  | .str text => "'" ++ text ++ "'"
  | _ => ""

/-- `str` of a key: a single value, or the tuple of a compound one. -/
def keyStr : Json → String
  | .str text => text
  | .arr parts => "(" ++ ", ".intercalate (parts.map scalarRepr) ++ ")"
  | value => scalarRepr value

def rowKeys (rows : Tables) (table : IntentTable) (fields : List String) : List Json :=
  let keys := (rows.rows table).map fun row =>
    match fields with
    | [field] => row.get field
    | fields => .arr (fields.map row.get)
  orderBy keyStr keys.dedup

def guardedKeys (scope : DocumentSection) (removed : Tables) : Dict String (List Json) :=
  (promotionGuardFields scope).filterMap fun (table, label, fields) =>
    let keys := rowKeys removed table fields
    if keys.isEmpty then none else some (label, keys)

def routePolicyFamilyLists : Dict String String :=
  [("prefix_list", "prefix-list"), ("community_list", "community-list"), ("as_path", "as-path"),
    ("route_map", "route-map")]

/-- `keys.setdefault(label, []).append(key)`. -/
def appendKey (keys : Dict String (List Json)) (label : String) (key : Json) : Dict String (List Json) :=
  keys.set label ((keys.get? label).getD [] ++ [key])

def policyKeys (removed : Tables) (keys : Dict String (List Json)) : Dict String (List Json) :=
  (removed.rows .routePolicyObjectIntent).foldl (fun keys row =>
    match row.get "family" with
    | .str family =>
      match routePolicyFamilyLists.get? family with
      | some list => appendKey keys list (row.get "name")
      | none => keys
    | _ => keys) keys

def communityVaultRefs (removed : Tables) : Dict String String :=
  (removed.rows .snmpCommunityIntent).foldl (fun refs row =>
    match row.get "label", row.get "vault_ref" with
    | .str label, .str ref => if label = "" || ref = "" then refs else Dict.set refs label ref
    | _, _ => refs) []

inductive AddressFamily where
  | ipv4 | ipv6
  deriving DecidableEq

/-- The version of `ipaddress.ip_interface`; none for a text it refuses. -/
abbrev AddressVersion := String → Option AddressFamily

def interfaceAttributeLeaves : List String :=
  ["description", "enabled"]

/-- `str(address).rsplit("/", 1)[0]`. -/
def hostPart (address : String) : String :=
  match address.splitOn "/" with
  | [] | [_] => address
  | parts => "/".intercalate parts.dropLast

def addressLabel : AddressFamily → String
  | .ipv4 => "ipv4-address"
  | .ipv6 => "ipv6-address"

def interfaceRemovalKeys (addressVersion : AddressVersion) (interfaces : List String)
    (addresses : List Triple) (attributes : List (String × String)) :
    Except PromotionError (Dict String (List Json)) := do
  let byAttribute := attributes.foldl (fun keys (interface, attributeName) =>
    if interfaceAttributeLeaves.contains attributeName then
      appendKey keys attributeName (.arr [.str interface])
    else keys) ([] : Dict String (List Json))
  let named := if addresses.isEmpty then byAttribute else
    Dict.set byAttribute "address" (addresses.map fun (interface, address, vrf) =>
      .arr [.str interface, .str address, .str vrf])
  let keys ← addresses.foldlM (fun keys (interface, address, _) =>
    match addressVersion address with
    | none => .error (.applyUnexecutable [(.ip, .invalidStoredAddress)])
    | some version =>
      .ok (appendKey keys (addressLabel version) (.arr [.str interface, .str (hostPart address)])))
    named
  return if interfaces.isEmpty then keys
    else Dict.set keys "interface" (interfaces.map fun name => .arr [.str name])

def namedInterface (interfaces : List InterfaceRecord) (row : Row) : Option String :=
  match row.get "interface_id" with
  | .num value => (interfaces.find? fun entry => entry.id == value.toNat).map (·.name)
  | _ => none

def namesInterface (row : Row) : Bool :=
  match row.get "interface_id" with
  | .num _ => true
  | _ => false

def sortedNames (names : List String) : List String :=
  orderBy id names.dedup

/-- The affected interfaces and their removal keys. -/
def promotionInterfaceContext (addressVersion : AddressVersion) (stream : ProjectionStream)
    (interfaces : List InterfaceRecord) (removed replacement : Tables) :
    Except PromotionError (List String × Dict String (List Json)) := do
  let rows := ((removed ++ replacement).flatMap (·.2)).filter namesInterface
  if rows.any fun row => (namedInterface interfaces row).isNone then
    throw (.applyUnexecutable [(stream, .unresolvedInterfaceIdentity)])
  let replaced := (replacement.flatMap (·.2)).filterMap (namedInterface interfaces)
  let emptied := ((removed.flatMap (·.2)).filterMap (namedInterface interfaces)).filter
    fun name => !replaced.contains name
  let addresses := (removed.rows .interfaceIpIntent).filterMap fun row =>
    (namedInterface interfaces row).map fun name =>
      (name, textOr (row.get "address"), textOr (row.get "vrf"))
  let attributes := (removed.rows .interfaceIntent).filterMap fun row =>
    (namedInterface interfaces row).map fun name => (name, textOr (row.get "attribute"))
  let keys ← interfaceRemovalKeys addressVersion (sortedNames emptied) (sortedKeys addresses)
    (orderBy (fun key => toLex key) attributes.dedup)
  return (sortedNames (rows.filterMap (namedInterface interfaces)), keys)

/-- `PromotionRemovalContext`; an absent member is empty. -/
structure PromotionRemovalContext where
  interfaces : List String
  removed : Dict String (List Json)
  vaultRefs : Dict String String

def promotionRemovalContext (addressVersion : AddressVersion) (live : LiveDevice)
    (stream : ProjectionStream) (removed replacement : Tables) :
    Except PromotionError PromotionRemovalContext := do
  match (removed ++ replacement).forM fun entry =>
      validateAsnRows entry.1 entry.2 (some live.nedId) with
  | .error refused => throw (.projection refused)
  | .ok _ => pure ()
  match stream.streamSection with
  | .interfaceConfig => do
      let (interfaces, keys) ←
        promotionInterfaceContext addressVersion stream live.interfaces removed replacement
      return ⟨interfaces, keys, []⟩
  | .routePolicy => return ⟨[], policyKeys removed (guardedKeys .routePolicy removed), []⟩
  | .snmp => return ⟨[], guardedKeys .snmp removed, communityVaultRefs removed⟩
  | scope => return ⟨[], guardedKeys scope removed, []⟩

end NsoAdapter.Core
