import Mathlib.Data.List.Basic
import NsoAdapter.Lib.JsonStore
import NsoAdapter.Lib.Outcome
import NsoAdapter.Projection.Document

/-! Canonical AS numbers (`domain/asn.py`), and durable row identities and comparable row states
(`core/projection.py`). A full-replace writer mints new database ids, so rows are matched by the
logical key of their table, prefixed by the identity of their projected parent. -/

namespace NsoAdapter.Projection
open Lib

inductive ProjectionError where
  | asnRuleViolation (table : IntentTable) (rowId : Json) (field : String) (otherRowId : Option Json)
  | bgpSourceAsRequired (nedId : Option String)
  | missingParent (table parent : IntentTable) (parentId : Json)
  | duplicateIdentity (table : IntentTable) (identity : List Json)
  | interfacesMissing (interfaceIds : List Nat)
  | eligibilityMissing (attributes : List (Nat × String))
  | interfaceProofConflict (streams : List ProjectionStream) (interfaceId : Nat) (field : String)
  | proofContributedTwice (stream : ProjectionStream)
  | contextOwnerAbsent (documentSection : DocumentSection)
  | retainedDuplicateId (stream : ProjectionStream) (table : IntentTable)
  | retainedInterfaceUnrecorded (interfaceId : Json)
  | retainedEligibilityUnrecorded (interfaceId attributeName : Json)
  | retainedPlanAbsent
  | retainedCasAbsent (rowId : Json)
  deriving DecidableEq

/-- One dotted part: ASCII digits without a leading zero. -/
def asnPart (digits : List Char) : Option Nat :=
  if digits ≠ [] ∧ digits.all Char.isDigit ∧ (digits = ['0'] ∨ digits.head? ≠ some '0') then
    some (digits.foldl (fun value digit => value * 10 + (digit.toNat - '0'.toNat)) 0)
  else
    none

/-- Asplain or asdot+ notation of a 32-bit AS number. A number is its own asplain text. -/
def parseAsn : Json → Option Nat
  | .num value => if 0 ≤ value ∧ value ≤ 4294967295 then some value.toNat else none
  | .str text =>
    match (text.toList.splitOn '.').map asnPart with
    | [some value] => if value ≤ 4294967295 then some value else none
    | [some high, some low] =>
      if high ≤ 65535 ∧ low ≤ 65535 then some (high * 65536 + low) else none
    | _ => none
  | _ => none

def checkedAsn (value : Json) (table : IntentTable) (rowId : Json) (field : String) : Except ProjectionError Nat :=
  match parseAsn value with
  | some asn => .ok asn
  | none => .error (.asnRuleViolation table rowId field none)

def nedFamilyMap : List (String × String) :=
  [("cisco-ios-cli", "ios"), ("cisco-iosxr-cli", "iosxr"), ("cisco-nx-cli", "nxos"),
    ("juniper-junos-nc", "junos"), ("juniper-junos-evo-nc", "junos"), ("timos-nc", "timos")]

def nedFamily (nedId : String) : Option String :=
  (nedFamilyMap.find? fun entry => entry.1.toList.isPrefixOf nedId.toList).map (·.2)

/-- An empty source is accepted on two NED families only. -/
def checkedIntentSourceRef (value : Json) (nedId : Option String) : Except ProjectionError Unit :=
  if value = .str "" then
    match nedFamily (nedId.getD "") with
    | some "junos" | some "timos" => .ok ()
    | _ => .error (.bgpSourceAsRequired nedId)
  else
    (checkedAsn value .redistributionIntent .null "source_ref").map fun _ => ()

/-- The destination of a redistribution row: a BGP one is `asn:vrf:af`. -/
def redistributionDestination (row : Row) : Except ProjectionError Json :=
  let destination := (row.lookup "dest_ref").getD (.str "")
  if row.get "dest_protocol" = .str "bgp" then
    match destination with
    | .str text =>
      match text.toList.splitOn ':' with
      | asn :: vrf :: rest@(_ :: _) =>
        match checkedAsn (.str (String.ofList asn)) .redistributionIntent (row.get "id") "dest_ref" with
        | .error refused => .error refused
        | .ok asn => .ok (.arr [.num asn, .str (String.ofList vrf),
            .str (String.ofList (List.intercalate [':'] rest))])
      | _ => .error (.asnRuleViolation .redistributionIntent (row.get "id") "dest_ref" none)
    | _ => .error (.asnRuleViolation .redistributionIntent (row.get "id") "dest_ref" none)
  else
    .ok destination

def redistributionSource (row : Row) : Except ProjectionError Json :=
  let source := (row.lookup "source_ref").getD (.str "")
  if row.get "source_protocol" = .str "bgp" ∧ source ≠ .str "" then
    (checkedAsn source .redistributionIntent (row.get "id") "source_ref").map fun asn => .num asn
  else
    .ok source

def checkedPeerAs (row : Row) (field : String) : Except ProjectionError Unit :=
  if row.get field = .null then .ok ()
  else (checkedAsn (row.get field) .bgpPeerIntent (row.get "id") field).map fun _ => ()

/-- The canonical root identity of the tables that hold AS numbers. -/
def asnRowIdentity (table : IntentTable) (row : Row) : Except ProjectionError (Option (List Json)) :=
  match table with
  | .bgpRouterIntent => do
      let asn ← checkedAsn (row.get "asn") table (row.get "id") "asn"
      return some [.num asn]
  | .bgpPeerIntent => do
      checkedPeerAs row "remote_as"
      checkedPeerAs row "local_as"
      return none
  | .redistributionIntent => do
      let destination ← redistributionDestination row
      let source ← redistributionSource row
      return some [row.get "dest_protocol", destination, row.get "source_protocol", source]
  | _ => .ok none

/-- The field `validate_asn_rows` blames for two spellings of one identity. -/
def collidingField (previous row : Row) : String :=
  if (row.lookup "asn").isSome then "asn"
  else if previous.get "dest_ref" ≠ row.get "dest_ref" then "dest_ref"
  else "source_ref"

/-- One row of `validate_asn_rows`, over the identities seen so far. `nedId` is
`none` for a caller that gives no NED context. -/
def validateAsnRow (table : IntentTable) (nedId : Option (Option String)) (seen : List (List Json × Row)) (row : Row) :
    Except ProjectionError (List (List Json × Row)) := do
  let identity ← asnRowIdentity table row
  match nedId with
  | some nedId =>
    if table = .redistributionIntent ∧ row.get "source_protocol" = .str "bgp" then
      checkedIntentSourceRef ((row.lookup "source_ref").getD (.str "")) nedId
  | none => pure ()
  match identity with
  | none => return seen
  | some identity =>
    match seen.lookup identity with
    | none => return seen ++ [(identity, row)]
    | some previous =>
      if ["asn", "dest_ref", "source_ref"].all fun field =>
          previous.get field = row.get field then
        return seen
      else
        throw (.asnRuleViolation table (row.get "id") (collidingField previous row)
          (some (previous.get "id")))

def validateAsnRows (table : IntentTable) (rows : List Row) (nedId : Option (Option String)) :
    Except ProjectionError Unit := do
  let _ ← rows.foldlM (validateAsnRow table nedId) []

namespace IntentTable

/-- The table's unique constraint without its scope column. -/
def identityFields : IntentTable → List String
  | snmpCommunityIntent => ["label"]
  | snmpV3UserIntent => ["username"]
  | snmpHostIntent => ["address"]
  | snmpSystemInfoIntent => []
  | staticRouteIntent => ["vrf", "prefix", "next_hop"]
  | staticRouteTombstone => ["route_id", "vrf", "prefix", "next_hop", "marking", "created_at"]
  | loggingHostIntent => ["address"]
  | loggingLevelsIntent => []
  | sviIntent => ["interface_name"]
  | subinterfaceIntent => ["interface_name"]
  | vlanIntent => ["vlan_id"]
  | bfdIntent => ["interface_name"]
  | interfaceMtuIntent => ["interface_name"]
  | l2SapIntent => ["service_name", "sap_id"]
  | isisProcessIntent => ["process_tag"]
  | isisInterfaceIntent => ["interface_name", "af"]
  | isisLevelIntent => ["process_tag", "level"]
  | isisFlexAlgoIntent => ["process_tag", "algo_id"]
  | redistributionIntent => ["dest_protocol", "dest_ref", "source_protocol", "source_ref"]
  | bgpRouterIntent => ["asn"]
  | bgpScopeIntent => ["vrf"]
  | bgpAfIntent => ["af"]
  | bgpPeerIntent => ["peer_address"]
  | bgpPeerAfIntent => ["af"]
  | routePolicyObjectIntent => ["family", "name"]
  | ospfInstanceIntent => ["process_id"]
  | ospfInterfaceIntent => ["interface_name"]
  | switchportIntent => ["interface_name"]
  | switchportTaggedVlanIntent => ["vlan_id"]
  | lagBundleIntent => ["name"]
  | lagMemberIntent => ["interface_name"]
  | interfaceIntent => ["attribute"]
  | interfaceIpIntent => ["address", "vrf"]

/-- `_fk_column`: the column that names a row's parent. -/
def foreignKey : IntentTable → Option String
  | bgpScopeIntent => some "router_id"
  | bgpAfIntent | bgpPeerIntent => some "scope_id"
  | bgpPeerAfIntent => some "peer_id"
  | switchportTaggedVlanIntent => some "switchport_id"
  | lagMemberIntent => some "lag_bundle_id"
  | interfaceIntent | interfaceIpIntent => some "interface_id"
  | _ => none

def parent : IntentTable → Option IntentTable
  | bgpScopeIntent => some .bgpRouterIntent
  | bgpAfIntent | bgpPeerIntent => some .bgpScopeIntent
  | bgpPeerAfIntent => some .bgpPeerIntent
  | switchportTaggedVlanIntent => some .switchportIntent
  | lagMemberIntent => some .lagBundleIntent
  | _ => none

/-- `_identity_lineage`: the projected ancestors of a table, then the table. -/
def lineage : IntentTable → List IntentTable
  | bgpScopeIntent => [.bgpRouterIntent, .bgpScopeIntent]
  | bgpAfIntent => [.bgpRouterIntent, .bgpScopeIntent, .bgpAfIntent]
  | bgpPeerIntent => [.bgpRouterIntent, .bgpScopeIntent, .bgpPeerIntent]
  | bgpPeerAfIntent => [.bgpRouterIntent, .bgpScopeIntent, .bgpPeerIntent, .bgpPeerAfIntent]
  | switchportTaggedVlanIntent => [.switchportIntent, .switchportTaggedVlanIntent]
  | lagMemberIntent => [.lagBundleIntent, .lagMemberIntent]
  | table => [table]

end IntentTable

/-- A durable identity: the values of the lineage's identity fields. -/
abbrev Identity := List Json

abbrev IdentityIndex := Dict Json Identity

def parentIdentity (table : IntentTable) (row : Row) (indexes : Dict IntentTable IdentityIndex) :
    Except ProjectionError Identity :=
  match table.foreignKey, table.parent with
  | none, _ => .ok []
  | some column, none => .ok [row.get column]
  | some column, some parent =>
    match ((Dict.get? indexes parent).getD []).get? (row.get column) with
    | some found => .ok found
    | none => .error (.missingParent table parent (row.get column))

def rowIdentity (table : IntentTable) (row : Row) (indexes : Dict IntentTable IdentityIndex) :
    Except ProjectionError Identity := do
  let parent ← parentIdentity table row indexes
  let canonical ← asnRowIdentity table row
  match table, canonical with
  | .bgpRouterIntent, some [.num asn] => return parent ++ [.str (toString asn)]
  | .redistributionIntent, some values => return parent ++ values
  | _, _ => return parent ++ table.identityFields.map row.get

/-- One row of `_identity_indexes`. -/
def indexRow (table : IntentTable) (indexes : Dict IntentTable IdentityIndex)
    (indexed : Dict Identity Row × IdentityIndex) (row : Row) :
    Except ProjectionError (Dict Identity Row × IdentityIndex) := do
  let identity ← rowIdentity table row indexes
  if (indexed.1.get? identity).isSome then
    throw (.duplicateIdentity table identity)
  return (indexed.1.set identity row, indexed.2.set (row.get "id") identity)

/-- One table of `_identity_indexes`, after the tables of its ancestors. -/
def indexTable (tables : Tables) (indexes : Dict IntentTable IdentityIndex) (table : IntentTable) :
    Except ProjectionError (Dict Identity Row × IdentityIndex) := do
  validateAsnRows table (tables.rows table) none
  (tables.rows table).foldlM (indexRow table indexes) ([], [])

/-- `_identity_indexes` over the lineage of one table: the last table's rows. -/
def indexLineage (tables : Tables) :
    List IntentTable → Dict IntentTable IdentityIndex → Except ProjectionError (Dict Identity Row)
  | [], _ => .ok []
  | table :: rest, indexes =>
    match indexTable tables indexes table with
    | .error refused => .error refused
    | .ok (rows, identities) =>
      match rest with
      | [] => .ok rows
      | _ :: _ => indexLineage tables rest (indexes.set table identities)

/-- One projection table by durable identity. -/
def rowsByIntentIdentity (tables : Tables) (table : IntentTable) : Except ProjectionError (Dict Identity Row) :=
  indexLineage tables table.lineage []

variable {table : IntentTable} {tables : Tables}

theorem indexRow_values {indexes : Dict IntentTable IdentityIndex} {indexed after : Dict Identity Row × IdentityIndex} {row : Row}
    (step : indexRow table indexes indexed row = .ok after) :
    ∀ entry ∈ after.1, entry ∈ indexed.1 ∨ entry.2 = row := by
  obtain ⟨identity, _, step⟩ := bind_eq_ok.mp step
  split at step
  · cases step
  cases step
  intro entry member
  rcases Dict.mem_set member with kept | written
  · exact .inl kept
  · exact .inr (congrArg Prod.snd written)

theorem indexTable_values {indexes : Dict IntentTable IdentityIndex} {indexed : Dict Identity Row × IdentityIndex}
    (built : indexTable tables indexes table = .ok indexed) :
    ∀ entry ∈ indexed.1, entry.2 ∈ tables.rows table := by
  obtain ⟨_, _, folded⟩ := bind_eq_ok.mp built
  refine foldlM_ok (fun progress : Dict Identity Row × IdentityIndex =>
    ∀ entry ∈ progress.1, entry.2 ∈ tables.rows table) ?_
    (fun _ located => absurd located List.not_mem_nil) folded
  intro row member progress after holds step entry located
  rcases indexRow_values step entry located with kept | written
  · exact holds entry kept
  · exact written ▸ member

theorem indexLineage_values {rows : Dict Identity Row} : ∀ {front : List IntentTable} {indexes : Dict IntentTable IdentityIndex},
      indexLineage tables (front ++ [table]) indexes = .ok rows → ∀ entry ∈ rows, entry.2 ∈ tables.rows table
  | [], indexes, built => by
      rw [List.nil_append] at built
      unfold indexLineage at built
      split at built
      · cases built
      · rename_i indexed
        cases built
        exact indexTable_values indexed
  | first :: rest, indexes, built => by
      rw [List.cons_append] at built
      unfold indexLineage at built
      split at built
      · cases built
      split at built
      · rename_i empty
        cases List.append_ne_nil_of_right_ne_nil rest (List.cons_ne_nil table []) empty
      · exact indexLineage_values built

theorem mem_rows_of_rowsByIntentIdentity {rows : Dict Identity Row}
    (indexed : rowsByIntentIdentity tables table = .ok rows) {identity : Identity} {row : Row}
    (found : rows.get? identity = some row) :
    row ∈ tables.rows table := by
  have lineage : ∃ front, table.lineage = front ++ [table] := by
    cases table <;> exact ⟨_, List.dropLast_append_getLast? _ rfl |>.symm⟩
  obtain ⟨front, shape⟩ := lineage
  unfold rowsByIntentIdentity at indexed
  rw [shape] at indexed
  exact indexLineage_values indexed _ (Dict.mem_of_get? found)

/-- A missing carrier row is settlement, never a deletion. -/
def isIntentDeletion (table : IntentTable) (identity : Identity) (desiredRows : Dict Identity Row) : Bool :=
  !table.lifecycle && (desiredRows.get? identity).isNone

/-- One static route as its wire entry. -/
def staticRouteEntry (row : Row) : Row :=
  let emit (leaf column : String) (present : Bool) : Row :=
    if present then [(leaf, row.get column)] else []
  [("vrf", row.get "vrf"), ("prefix", row.get "prefix"), ("next-hop", row.get "next_hop")] ++
    emit "interface-next-hop" "interface_next_hop" (row.get "interface_next_hop").truthy ++
    emit "next-hop-vrf" "next_hop_vrf" (row.get "next_hop_vrf").truthy ++
    emit "metric" "metric" (row.get "metric" ≠ .null) ++
    emit "permanent" "permanent" (row.get "permanent").truthy ++
    emit "tag" "tag" (row.get "tag" ≠ .null)

def applyBookkeepingColumns : List String :=
  ["last_apply_at", "last_apply_error", "pending_clear", "deployed_key"]

/-- The columns `projection_row_state` leaves out. -/
def excludedColumns (table : IntentTable) : List String :=
  ["id", "device_id", "accepted_at"] ++ applyBookkeepingColumns ++ table.foreignKey.toList

def canonicalPeerAs (row : Row) (state : Row) (field : String) : Except ProjectionError Row :=
  if state.get field = .null then
    .ok state
  else do
    let asn ← checkedAsn (state.get field) .bgpPeerIntent (row.get "id") field
    return Dict.set state field (.num asn)

/-- The state the device-facing renderer consumes. -/
def projectionRowState (table : IntentTable) (row : Row) : Except ProjectionError Row :=
  let state : Row := row.filter fun entry => !(excludedColumns table).contains entry.1
  match table with
  | .staticRouteIntent => .ok (staticRouteEntry row)
  | .bgpRouterIntent => do
      let asn ← checkedAsn (state.get "asn") table (row.get "id") "asn"
      return Dict.set state "asn" (.num asn)
  | .bgpPeerIntent => ["remote_as", "local_as"].foldlM (canonicalPeerAs row) state
  | .redistributionIntent => do
      let destination ← redistributionDestination row
      let source ← redistributionSource row
      return Dict.set (Dict.set state "dest_ref" destination) "source_ref" source
  | _ => .ok state

/-- Equality of two mappings, whatever the order of their entries at any depth. -/
def Row.same (left right : Row) : Bool :=
  (left ++ right).all fun entry =>
    (left.lookup entry.1).map Json.canonical = (right.lookup entry.1).map Json.canonical

end NsoAdapter.Projection
