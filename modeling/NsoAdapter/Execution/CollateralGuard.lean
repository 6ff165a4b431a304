import Mathlib.Data.List.Dedup
import Mathlib.Data.List.Lex
import NsoAdapter.Core.ApplyChain
import NsoAdapter.StaticRoute.Wire

/-! The device-wide collateral guard (`core/removal.py`): every live keyed entry that a
document neither re-asserts nor is authorized to drop blocks the write. -/

namespace NsoAdapter.Execution
open Lib Store Projection NsoAdapter.Core StaticRoute

/-- A guarded list, its authority label and its wire identity. -/
structure GuardList where
  label : String
  path : List String
  keys : List String
  parentKey : Option String
  scalar : Bool
  presence : Bool
  deriving DecidableEq

def topList (label : String) (keys : List String) : GuardList :=
  ⟨label, [label], keys, none, false, false⟩

/-- The guarded lists of `_SECTION_REGISTRY`. -/
def guardLists : DocumentSection → List GuardList
  | .snmp => [topList "community" ["name"], topList "v3-user" ["username"],
      topList "host" ["address"]]
  | .staticRoute => [topList "route" ["vrf", "prefix", "next-hop"]]
  | .logging => [topList "host" ["address"]]
  | .svi | .subinterface | .bfd | .interfaceMtu => [topList "interface" ["interface-name"]]
  | .vlan => [topList "vlan" ["vlan-id"]]
  | .l2Sap => [topList "sap" ["service-name", "sap-id"]]
  | .isis => [topList "interface-config" ["interface-name", "af"],
      topList "process-config" ["process-tag"]]
  | .bgp => [topList "router" ["asn"],
      ⟨"peer", ["router", "scope", "peer"], ["peer-address"], none, false, false⟩]
  | .routePolicy => [topList "prefix-list" ["name"], topList "community-list" ["name"],
      topList "as-path" ["name"], topList "route-map" ["name"]]
  | .ospf => [topList "interface-config" ["interface-name"],
      topList "process-config" ["process-id"]]
  | .switchport => [⟨"switchport_intent", ["interface"], ["interface-name"], none, false, false⟩,
      ⟨"switchport_tagged_vlan_intent", ["interface", "tagged-vlan"], [], some "interface-name",
        true, false⟩]
  | .lag => [⟨"lag_bundle_intent", ["bundle"], ["name"], none, false, false⟩,
      ⟨"lag_member_intent", ["bundle", "member"], ["interface-name"], some "name", false, false⟩]
  | .interfaceConfig => [topList "interface" ["interface-name"],
      ⟨"ipv4-address", ["interface", "ipv4-address"], ["address"], some "interface-name", false,
        false⟩,
      ⟨"ipv6-address", ["interface", "ipv6-address"], ["address"], some "interface-name", false,
        false⟩] ++
      interfaceAttributeLeaves.map fun leaf =>
        ⟨leaf, ["interface", leaf], [], some "interface-name", false, true⟩

def containerName : DocumentSection → String
  | .snmp => "snmp"
  | .staticRoute => "static-route"
  | .logging => "logging"
  | .svi => "svi"
  | .subinterface => "subinterface"
  | .vlan => "vlan"
  | .bfd => "bfd"
  | .interfaceMtu => "mtu"
  | .l2Sap => "l2-sap"
  | .isis => "isis"
  | .bgp => "bgp"
  | .routePolicy => "route-policy"
  | .ospf => "ospf"
  | .switchport => "switchport"
  | .lag => "lag"
  | .interfaceConfig => "interface"

def sectionName : DocumentSection → String
  | .snmp => "snmp"
  | .staticRoute => "static_route"
  | .logging => "logging"
  | .svi => "svi"
  | .subinterface => "subinterface"
  | .vlan => "vlan"
  | .bfd => "bfd"
  | .interfaceMtu => "interface_mtu"
  | .l2Sap => "l2_sap"
  | .isis => "isis"
  | .bgp => "bgp"
  | .routePolicy => "route_policy"
  | .ospf => "ospf"
  | .switchport => "switchport"
  | .lag => "lag"
  | .interfaceConfig => "interface_config"

inductive WriteError where
  | asNumber (documentSection : DocumentSection) (label : String)
  | snapshotInconclusive
  | blocked (orphans : List (String × List (List String)))

/-- One part of a key; an absent one is the empty text. -/
def partText : Json → String
  | .null => ""
  | value => keyStr value

def keyParts : Json → List Json
  | .arr parts => parts
  | part => [part]

def asLeaf (documentSection : DocumentSection) (field : Option String) : Bool :=
  documentSection == .bgp && (field == some "asn" || field == some "remote-as" ||
    field == some "local-as")

def normKey (documentSection : DocumentSection) (guardList : GuardList) (key : Json) :
    Except WriteError (List String) :=
  (keyParts key).zipIdx.mapM fun (part, index) =>
    if asLeaf documentSection ((guardList.parentKey.toList ++ guardList.keys)[index]?) then
      match parseAsn part with
      | some asn => .ok (toString asn)
      | none => .error (.asNumber documentSection guardList.label)
    else
      .ok (partText part)

/-- `node.get(name) or []`. -/
def childrenOf (node : Json) (name : String) : List Json :=
  match node.member name with
  | .arr items => items
  | _ => []

def leafText (node : Json) (leaf : String) : Json :=
  .str (partText (node.member leaf))

def nodesAt (entry : Json) (path : List String) : List Json :=
  path.foldl (fun level name => level.flatMap fun node => childrenOf node name) [entry]

def nestedKeys (guardList : GuardList) (parentKey : String) (parent : Json) : List Json :=
  match guardList.path with
  | [_, name] =>
    if guardList.presence then
      match parent with
      | .obj members => if (members.lookup name).isSome then [.arr [leafText parent parentKey]] else []
      | _ => []
    else
      (childrenOf parent name).map fun child => .arr (leafText parent parentKey ::
        if guardList.scalar then [.str (partText child)]
        else guardList.keys.map (leafText child))
  | _ => []

def entryKeys (guardList : GuardList) (entry : Json) : List Json :=
  match guardList.parentKey with
  | some parentKey =>
    (nodesAt entry (guardList.path.take 1)).flatMap (nestedKeys guardList parentKey)
  | none => (nodesAt entry guardList.path).map fun node => .arr (guardList.keys.map (leafText node))

/-- `validate_bgp_as_numbers` and `validate_source_as_numbers` on one container. -/
abbrev AsCheck := DocumentSection → Json → Bool

variable (asNumbersValid : AsCheck)

def leafKeys (documentSection : DocumentSection) (entry : Json) (guardList : GuardList) :
    Except WriteError (List (List String)) :=
  if asNumbersValid documentSection entry then
    (entryKeys guardList entry).mapM (normKey documentSection guardList)
  else
    .error (.asNumber documentSection guardList.label)

/-- The live keys of one list that the body drops without authority. -/
def listOrphans (documentSection : DocumentSection) (live body : Json)
    (allowed : RemovalAuthority) (guardList : GuardList) :
    Except WriteError (List (List String)) := do
  let permitted ← (authorityKeys allowed documentSection guardList.label).mapM
    (normKey documentSection guardList)
  let present ← leafKeys asNumbersValid documentSection live guardList
  let kept ← leafKeys asNumbersValid documentSection body guardList
  return orderBy id
    ((present.filter fun key => !kept.contains key && !permitted.contains key).dedup)

abbrev Containers := List (DocumentSection × Json)

/-- `current.get(container) or {}`. -/
def liveContainer (current : Json) (documentSection : DocumentSection) : Json :=
  current.member (containerName documentSection)

def bodyContainer (containers : Containers) (documentSection : DocumentSection) : Json :=
  (containers.lookup documentSection).getD (.obj [])

def guardedLists : List (DocumentSection × GuardList) :=
  DocumentSection.all.flatMap fun documentSection =>
    (guardLists documentSection).map fun guardList => (documentSection, guardList)

def documentOrphans (current : Json) (containers : Containers) (allowed : RemovalAuthority) :
    Except WriteError (List (String × List (List String))) := do
  let orphans ← guardedLists.mapM fun (documentSection, guardList) => do
    let keys ← listOrphans asNumbersValid documentSection (liveContainer current documentSection)
      (bodyContainer containers documentSection) allowed guardList
    return (sectionName documentSection ++ "/" ++ guardList.label, keys)
  return orphans.filter fun entry => !entry.2.isEmpty

/-- The generation's authority, the keys its removal names and the static-route keys its frozen plan
authorizes. -/
def guardAllowed (authority : RemovalAuthority) (removal : Option RemovalContext)
    (routeKeys : List Triple) : RemovalAuthority :=
  let removed := match removal with
    | none => authority
    | some context => mergeAuthority authority [(context.scope, context.removed)]
  if routeKeys.isEmpty then removed
  else mergeAuthority removed [(.staticRoute, [("route", (sortedKeys routeKeys).map tripleJson)])]

structure WritePolicy where
  force : Bool
  noNetworking : Bool

def WritePolicy.guarded (policy : WritePolicy) : Bool :=
  !policy.force && !policy.noNetworking

/-- The unauthorized omissions. -/
def evaluateCollateralGuard (policy : WritePolicy) (current : Option Json)
    (containers : Containers) (allowed : RemovalAuthority) :
    Except WriteError (List (String × List (List String))) :=
  match current with
  | none => .ok []
  | some instanceBody =>
    if policy.guarded && instanceBody.truthy then
      documentOrphans asNumbersValid instanceBody containers allowed
    else
      .ok []

/-- The instance the guard compares with: the caller's snapshot, or a read of its own where
the write reaches the device. -/
def guardSnapshot (policy : WritePolicy) (snapshot : Option (Option Json)) (read : ServiceState) :
    Except WriteError (Option Json) :=
  match snapshot with
  | some current => .ok current
  | none =>
    if policy.guarded then
      match read with
      | .inconclusive => .error .snapshotInconclusive
      | .answered entry => .ok entry
    else
      .ok none

/-- The containers that are sent. -/
def guardedDeviceWrite (policy : WritePolicy) (snapshot : Option (Option Json))
    (read : ServiceState) (containers : Containers) (allowed : RemovalAuthority) :
    Except WriteError Containers := do
  let current ← guardSnapshot policy snapshot read
  let orphans ← evaluateCollateralGuard asNumbersValid policy current containers allowed
  if orphans.isEmpty then return containers else throw (.blocked orphans)

/-! ### What a write that passes the guard omits -/

theorem normKey_eq {documentSection : DocumentSection} (plain : documentSection ≠ .bgp) (guardList : GuardList) (key : Json) :
    normKey documentSection guardList key = .ok ((keyParts key).map partText) := by
  have step : (fun entry : Json × Nat =>
      if asLeaf documentSection ((guardList.parentKey.toList ++ guardList.keys)[entry.2]?) then
        match parseAsn entry.1 with
        | some asn => .ok (toString asn)
        | none => .error (.asNumber documentSection guardList.label)
      else .ok (partText entry.1)) =
      fun entry => (pure (partText entry.1) : Except WriteError String) := by
    simp [asLeaf, plain, pure, Except.pure]
  unfold normKey
  simp only [step, List.mapM_pure]
  rw [← List.zipIdx_map_fst 0 (keyParts key), List.map_map, List.zipIdx_map_fst]
  rfl

theorem mapM_normKey {documentSection : DocumentSection} (plain : documentSection ≠ .bgp) (guardList : GuardList) (keys : List Json) :
    keys.mapM (normKey documentSection guardList) = .ok (keys.map fun key => (keyParts key).map partText) := by
  have step : normKey documentSection guardList = fun key => (pure ((keyParts key).map partText) : Except WriteError (List String)) :=
    funext (normKey_eq plain guardList)
  rw [step, List.mapM_pure]
  rfl

section Guard

variable {asNumbersValid : AsCheck} {current : Json} {containers : Containers}
  {allowed : RemovalAuthority} {documentSection : DocumentSection} {guardList : GuardList}

theorem documentOrphans_eq_nil (clean : documentOrphans asNumbersValid current containers allowed = .ok [])
    (listed : (documentSection, guardList) ∈ guardedLists) :
    listOrphans asNumbersValid documentSection (liveContainer current documentSection)
      (bodyContainer containers documentSection) allowed guardList = .ok [] := by
  obtain ⟨orphans, run, returned⟩ := bind_eq_ok.mp clean
  obtain ⟨entry, member, made⟩ := exists_of_forall₂ (forall₂_of_mapM run).flip listed
  obtain ⟨keys, found, named⟩ := bind_eq_ok.mp made
  cases named
  have dropped := List.filter_eq_nil_iff.mp (Except.ok.inj returned) _ member
  rw [found]
  simpa using dropped

theorem listOrphans_eq_nil (plain : documentSection ≠ .bgp) {live body : Json}
    (clean : listOrphans asNumbersValid documentSection live body allowed guardList = .ok [])
    {key : Json} (present : key ∈ entryKeys guardList live) :
    (∃ kept ∈ entryKeys guardList body, (keyParts kept).map partText = (keyParts key).map partText) ∨
      ∃ permitted ∈ authorityKeys allowed documentSection guardList.label,
        (keyParts permitted).map partText = (keyParts key).map partText := by
  unfold listOrphans leafKeys at clean
  simp only [mapM_normKey plain] at clean
  obtain ⟨permitted, permits, clean⟩ := bind_eq_ok.mp clean
  cases permits
  obtain ⟨liveKeys, reads, clean⟩ := bind_eq_ok.mp clean
  obtain ⟨bodyKeys, asserts, clean⟩ := bind_eq_ok.mp clean
  split at reads
  swap
  · cases reads
  split at asserts
  swap
  · cases asserts
  cases reads
  cases asserts
  have none : ∀ found ∈ (entryKeys guardList live).map fun key => (keyParts key).map partText,
      ¬ (!(((entryKeys guardList body).map fun key => (keyParts key).map partText).contains found)
        && !(((authorityKeys allowed documentSection guardList.label).map
          fun key => (keyParts key).map partText).contains found)) = true := by
    intro found member orphan
    have empty := orderBy_eq_nil.mp (Except.ok.inj clean)
    refine List.eq_nil_iff_forall_not_mem.mp empty found (List.mem_dedup.mpr ?_)
    exact List.mem_filter.mpr ⟨member, orphan⟩
  have covered := none _ (List.mem_map_of_mem present)
  simp only [Bool.and_eq_true, Bool.not_eq_true', List.contains_eq_mem, decide_eq_false_iff_not, List.mem_map, not_and, not_not] at covered
  by_cases kept : ∃ other ∈ entryKeys guardList body, (keyParts other).map partText = (keyParts key).map partText
  · exact .inl kept
  · exact .inr (covered kept)

theorem guardedDeviceWrite_clean {policy : WritePolicy} {snapshot : Option (Option Json)}
    {read : ServiceState} {sent : Containers} (guarded : policy.guarded = true)
    (written : guardedDeviceWrite asNumbersValid policy snapshot read containers allowed = .ok sent) :
    sent = containers ∧ ∃ found, guardSnapshot policy snapshot read = .ok found ∧
      ∀ instanceBody, found = some instanceBody → instanceBody.truthy = true →
        documentOrphans asNumbersValid instanceBody containers allowed = .ok [] := by
  obtain ⟨found, taken, written⟩ := bind_eq_ok.mp written
  obtain ⟨orphans, evaluated, written⟩ := bind_eq_ok.mp written
  split at written
  · rename_i none
    cases written
    refine ⟨rfl, found, taken, ?_⟩
    rintro instanceBody rfl present
    unfold evaluateCollateralGuard at evaluated
    dsimp only at evaluated
    rw [guarded, present, List.isEmpty_iff.mp none] at evaluated
    exact evaluated
  · cases written

end Guard

end NsoAdapter.Execution
