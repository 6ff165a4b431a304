import Mathlib.Data.List.Basic
import NsoAdapter.Lib.Dict
import NsoAdapter.Lib.Json

/-! The write-side registry of `core/projection.py` and `core/intent_protocol.py` (document sections,
the endpoint streams that own their tables, the durable identity of each table), and the stored
fragments and documents: the rows a stream owns with the execution metadata frozen with them, and
the composed outbound document of a generation. -/

namespace NsoAdapter.Projection
open Lib

/-- Projection streams: the authorization lanes. Sixteen are intent PUT lanes;
`switchport` and `lag` are prepared by an Apply POST. -/
inductive ProjectionStream where
  | bfd | bgp | interfaceConfig | interfaceMtu | ip | isis | isisFlexAlgo | l2Sap | lag
  | logging | ospf | routePolicy | snmp | staticRoute | subinterface | svi | switchport | vlan
  deriving DecidableEq

/-- Document sections, in the order of `_SECTION_REGISTRY`. -/
inductive DocumentSection where
  | snmp | staticRoute | logging | svi | subinterface | vlan | bfd | interfaceMtu | l2Sap | isis
  | bgp | routePolicy | ospf | switchport | lag | interfaceConfig
  deriving DecidableEq

/-- Intent tables of the registry, under their models' names. -/
inductive IntentTable where
  | snmpCommunityIntent | snmpV3UserIntent | snmpHostIntent | snmpSystemInfoIntent
  | staticRouteIntent | staticRouteTombstone
  | loggingHostIntent | loggingLevelsIntent
  | sviIntent | subinterfaceIntent | vlanIntent | bfdIntent | interfaceMtuIntent | l2SapIntent
  | isisProcessIntent | isisInterfaceIntent | isisLevelIntent | isisFlexAlgoIntent
  | redistributionIntent
  | bgpRouterIntent | bgpScopeIntent | bgpAfIntent | bgpPeerIntent | bgpPeerAfIntent
  | routePolicyObjectIntent
  | ospfInstanceIntent | ospfInterfaceIntent
  | switchportIntent | switchportTaggedVlanIntent
  | lagBundleIntent | lagMemberIntent
  | interfaceIntent | interfaceIpIntent
  deriving DecidableEq

namespace ProjectionStream

/-- `OUT_OF_PROTOCOL_STREAMS`: the two streams no intent PUT delivers to. -/
def outOfProtocol : ProjectionStream → Bool
  | lag | switchport => true
  | _ => false

/-- The document section a stream's fragment belongs to. -/
def streamSection : ProjectionStream → DocumentSection
  | bfd => .bfd
  | bgp => .bgp
  | interfaceConfig | ip => .interfaceConfig
  | interfaceMtu => .interfaceMtu
  | isis | isisFlexAlgo => .isis
  | l2Sap => .l2Sap
  | lag => .lag
  | logging => .logging
  | ospf => .ospf
  | routePolicy => .routePolicy
  | snmp => .snmp
  | staticRoute => .staticRoute
  | subinterface => .subinterface
  | svi => .svi
  | switchport => .switchport
  | vlan => .vlan

/-- The tables a stream owns, parents before children. A redistribution row belongs to the stream
its discriminator names. -/
def streamTables : ProjectionStream → List IntentTable
  | bfd => [.bfdIntent]
  | bgp => [.bgpRouterIntent, .bgpScopeIntent, .bgpAfIntent, .bgpPeerIntent, .bgpPeerAfIntent,
      .redistributionIntent]
  | interfaceConfig => [.interfaceIntent]
  | interfaceMtu => [.interfaceMtuIntent]
  | ip => [.interfaceIpIntent]
  | isis => [.isisProcessIntent, .isisInterfaceIntent, .isisLevelIntent, .redistributionIntent]
  | isisFlexAlgo => [.isisFlexAlgoIntent]
  | l2Sap => [.l2SapIntent]
  | lag => [.lagBundleIntent, .lagMemberIntent]
  | logging => [.loggingHostIntent, .loggingLevelsIntent]
  | ospf => [.ospfInstanceIntent, .ospfInterfaceIntent, .redistributionIntent]
  | routePolicy => [.routePolicyObjectIntent]
  | snmp => [.snmpCommunityIntent, .snmpV3UserIntent, .snmpHostIntent, .snmpSystemInfoIntent]
  | staticRoute => [.staticRouteIntent, .staticRouteTombstone]
  | subinterface => [.subinterfaceIntent]
  | svi => [.sviIntent]
  | switchport => [.switchportIntent, .switchportTaggedVlanIntent]
  | vlan => [.vlanIntent]

end ProjectionStream

namespace DocumentSection

def contextOwner : DocumentSection → ProjectionStream
  | snmp => .snmp
  | staticRoute => .staticRoute
  | logging => .logging
  | svi => .svi
  | subinterface => .subinterface
  | vlan => .vlan
  | bfd => .bfd
  | interfaceMtu => .interfaceMtu
  | l2Sap => .l2Sap
  | isis => .isis
  | bgp => .bgp
  | routePolicy => .routePolicy
  | ospf => .ospf
  | switchport => .switchport
  | lag => .lag
  | interfaceConfig => .interfaceConfig

end DocumentSection

namespace IntentTable

/-- A proof carrier: its disappearance is settlement, never an intent deletion. -/
def lifecycle : IntentTable → Bool
  | staticRouteTombstone => true
  | _ => false

end IntentTable

/-! ### Fragments and documents -/

/-- One serialized table row: column name to value. -/
abbrev Row := List (String × Json)

/-- A static-route wire key: vrf, prefix, next hop. -/
abbrev Triple := String × String × String

/-- `row.get(column)`: `null` for an absent column. -/
def Row.get (row : Row) (column : String) : Json :=
  (row.lookup column).getD .null

theorem Row.get_set (row : Row) (column other : String) (value : Json) :
    Row.get (Dict.set row column value) other = if column = other then value else row.get other := by
  have written : Dict.get? (Dict.set row column value) other = if column = other then some value else Dict.get? row other := Dict.get?_set
  unfold Row.get
  unfold Dict.get? at written
  rw [written]
  split <;> rfl

abbrev Tables := List (IntentTable × List Row)

/-- `tables.get(table, [])`. -/
def Tables.rows (tables : Tables) (table : IntentTable) : List Row :=
  (tables.lookup table).getD []

inductive Dialect where
  | identity | nokiaTimos
  deriving DecidableEq

structure SectionContext where
  nedId : Option String
  dialect : Dialect
  deriving DecidableEq

structure InterfaceRecord where
  id : Nat
  name : String
  kind : Option String
  parentBinding : Option String
  encapTag : Option String
  vrf : Option String
  service : Option String
  deriving DecidableEq

inductive ApplyMode where
  | patch | put
  deriving DecidableEq

structure SrCas where
  rowId : Nat
  routeId : Option Nat
  sentTriple : Triple
  expectedOld : Option Triple
  deriving DecidableEq

structure SrApplyPlan where
  mode : ApplyMode
  rowIds : List Nat
  allowedRemovalKeys : List Triple
  tombstoneIds : List Nat
  cas : List SrCas
  tombstoneIdWatermark : Nat
  deriving DecidableEq

/-- The proof a fragment's own rows were authorized with. The interface lanes
write the first two members, the static-route lane the third. -/
structure SectionProof where
  interfaces : Option (List (Nat × InterfaceRecord))
  attributeEligibility : Option (List ((Nat × String) × Bool))
  apply : Option SrApplyPlan
  deriving DecidableEq

/-- A fragment: the tables of one stream and the state they must execute with. -/
structure Fragment where
  tables : Tables
  context : SectionContext
  proof : Option SectionProof
  deriving DecidableEq

structure SrClear where
  rowId : Nat
  key : Triple
  fields : List String
  deriving DecidableEq

structure SrRemovalPlan where
  authorized : List Triple
  claimed : List Triple
  tombstoneIds : List Nat
  clears : List SrClear
  reclaimed : List Triple
  deriving DecidableEq

structure SectionOperation where
  pendingClearIds : List Nat
  immediateClearStreams : List ProjectionStream
  removal : Option SrRemovalPlan
  tombstoneIds : List Nat
  deriving DecidableEq

/-- One section of a document: its tables and its `_execution` metadata. -/
structure SectionBody where
  tables : Tables
  context : SectionContext
  proof : Option SectionProof
  operation : Option SectionOperation
  deriving DecidableEq

abbrev Document := List (DocumentSection × SectionBody)

def Document.tombstoneIds (document : Document) : List Nat :=
  document.flatMap fun entry => (entry.2.operation.map (·.tombstoneIds)).getD []

end NsoAdapter.Projection
