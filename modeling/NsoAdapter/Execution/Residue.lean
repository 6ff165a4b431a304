import NsoAdapter.Execution.CollateralGuard

/-! The residue check after a removal (`core/removal.py`): the keys a removal took away are
looked for in a fresh read of the device, and the findings of all lists make one verdict. -/

namespace NsoAdapter.Execution.Residue

open Lib Store Projection NsoAdapter.Core Execution

abbrev Key := List String

structure Codecs where
  /-- The AS-number validation of a read. -/
  asNumbersValid : AsCheck
  /-- `parse_vlan_string`; none when it raises. -/
  parseVlanString : Json → Option (List Nat)
  /-- The canonical text of `ipaddress.ip_interface`; none when it raises. -/
  ipInterface : String → Option String
  /-- `community_fingerprints`: the digests of the references Vault answers for. -/
  communityFingerprints : List (String × Json) → List (String × String)

/-- The exceptions of the check: `AsnRuleViolation` and every other one. -/
inductive ResidueError where
  | asNumber
  | reader

/-! ### The keys of a read -/

def readerListPaths : List ((DocumentSection × String) × List String) :=
  [((.isis, "interface-config"), ["interface"]), ((.isis, "process-config"), ["process"]),
    ((.ospf, "interface-config"), ["interface"]), ((.ospf, "process-config"), ["instance"]),
    ((.lag, "lag_bundle_intent"), ["lag"]), ((.lag, "lag_member_intent"), ["lag", "member"])]

def readerPath (scope : DocumentSection) (guardList : GuardList) : List String :=
  if scope = .l2Sap then
    ["service", "sap"]
  else if scope = .switchport ∧ guardList.scalar then
    guardList.path.take 1
  else
    (readerListPaths.lookup (scope, guardList.label)).getD guardList.path

def carries (node : Json) (leaf : String) : Bool :=
  match node with
  | .obj members => (members.lookup leaf).isSome
  | _ => false

/-- `str(node.get(leaf, ""))`. -/
def leafStr (node : Json) (leaf : String) : String :=
  if carries node leaf then keyStr (node.member leaf) else ""

/-- Whether the entries below each parent carry the key leaves that are subscripted. -/
def keyLeavesPresent (entry : Json) (guardList : GuardList) : Bool :=
  match guardList.parentKey, guardList.path with
  | some parentKey, [parents, children] =>
    (childrenOf entry parents).all fun parent => (childrenOf parent children).all fun child =>
      carries parent parentKey && (guardList.scalar || guardList.keys.all (carries child))
  | _, _ => true

/-- `_path_covered` of a decoded section: a covered collection is present. -/
def pathCovered : List String → Json → Except ResidueError Bool
  | [], _ => .ok true
  | head :: rest, node =>
    if carries node head then
      match node.member head with
      | .arr entries =>
        if rest = [] then .ok true
        else if entries.all fun entry => entry matches .obj _ then entries.allM (pathCovered rest)
        else .error .reader
      | _ => .error .reader
    else
      .ok false

variable (codecs : Codecs)

def readerKeys (scope : DocumentSection) (entry : Json) (guardList : GuardList) : Except ResidueError (List Key) :=
  if scope = .l2Sap then
    .ok ((childrenOf entry "service").flatMap fun service =>
      (childrenOf service "sap").map fun sap =>
        [leafStr service "service-name", leafStr sap "sap-id"])
  else if scope = .switchport ∧ guardList.scalar then do
    let keys ← (nodesAt entry (guardList.path.take 1)).mapM fun interface =>
      match codecs.parseVlanString (interface.member "tagged-vlans") with
      | some vlans => .ok (vlans.map fun vlan =>
        [leafStr interface "interface-name", toString vlan])
      | none => .error .reader
    return keys.flatten
  else do
    let reader := { guardList with path := readerPath scope guardList }
    let keys ← (leafKeys codecs.asNumbersValid scope entry reader).mapError fun _ => .asNumber
    if keyLeavesPresent entry reader then return keys else throw .reader

/-! ### Translation into the key space of the read -/

/-- The keys a removal took away from one list: `context["removed"][label]`. -/
def removedKeys (context : Json) (label : String) : List Json :=
  childrenOf (context.member "removed") label

/-- `any(removed.values())`. -/
def anyRemoved (context : Json) : Bool :=
  match context.member "removed" with
  | .obj members => members.any fun entry => entry.2.truthy
  | _ => false

def vaultRefs (context : Json) (keys : List Key) : List (String × Json) :=
  match context.member "vault_refs" with
  | .obj members => members.filter fun entry => decide ([entry.1] ∈ keys)
  | _ => []

/-- The key of the read for every intent key that has one. -/
def exportKeyMap (scope : DocumentSection) (label : String) (keys : List Key) (context : Json) : List (Key × Key) :=
  if (scope, label) = (.snmp, "community") then
    (codecs.communityFingerprints (vaultRefs context keys)).map fun entry => ([entry.1], [entry.2])
  else
    keys.map fun key => (key, key)

structure Translated where
  guardList : GuardList
  keymap : List (Key × Key)
  untranslated : Bool

def normalKeys (scope : DocumentSection) (context : Json) (guardList : GuardList) : Except ResidueError (List Key) :=
  match (removedKeys context guardList.label).mapM (normKey scope guardList) with
  | .ok keys => .ok (orderBy id keys.dedup)
  | .error _ => .error .asNumber

def translateList (scope : DocumentSection) (context : Json) (guardList : GuardList) :
    Except ResidueError Translated := do
  let keys ← normalKeys scope context guardList
  if keys = [] then
    return ⟨guardList, [], false⟩
  let keymap := exportKeyMap codecs scope guardList.label keys context
  return ⟨guardList, keymap, keys.any fun key => !(keymap.map (·.1)).contains key⟩

/-! ### The check -/

/-- `_live_family_sections` and `_verifier_section_status`. -/
def readSection (live : Option Json) : Except ResidueError (Option Json) :=
  match live with
  | none => .error .reader
  | some served =>
    if served.member "status" = .str "ok" then .ok (some served)
    else if served.member "status" = .str "unsupported" then .ok none
    else .error .reader

inductive Finding where
  | survived (keys : List Key)
  | absent
  | uncovered
  deriving DecidableEq

def checkList (scope : DocumentSection) (served : Json) (list : Translated) :
    Except ResidueError (String × Finding) := do
  let present ← readerKeys codecs scope served list.guardList
  let survivors := (list.keymap.filter fun entry => present.contains entry.2).map (·.1)
  if survivors ≠ [] then
    return (list.guardList.label, .survived (orderBy id survivors.dedup))
  else if ← pathCovered (readerPath scope list.guardList) served then
    return (list.guardList.label, .absent)
  else
    -- A key absent from an uncovered collection proves nothing.
    return (list.guardList.label, .uncovered)

/-- The survivors of each list, none when nothing was checked, and the lists not checked. -/
structure Report where
  residue : Option (List (String × List Key))
  unverifiable : List String

def survivorsOf : String × Finding → Option (String × List Key)
  | (label, .survived keys) => some (label, keys)
  | _ => none

def summarize (untranslated : List String) (findings : List (String × Finding)) : Report where
  residue := if findings.any fun finding => finding.2 ≠ .uncovered then
    some (findings.filterMap survivorsOf) else none
  unverifiable := orderBy id (untranslated ++
    (findings.filter fun finding => finding.2 = .uncovered).map (·.1))

def untranslatedLabels (translated : List Translated) : List String :=
  (translated.filter fun list => list.untranslated).map fun list => list.guardList.label

def keyedLists (translated : List Translated) : List Translated :=
  translated.filter fun list => !list.keymap.isEmpty

def checkLists (lists : List GuardList) (scope : DocumentSection) (context : Json)
    (live : Option Json) : Except ResidueError Report := do
  let translated ← lists.mapM (translateList codecs scope context)
  if (keyedLists translated).isEmpty then
    return ⟨none, orderBy id (untranslatedLabels translated)⟩
  match ← readSection live with
  | none => return ⟨none, orderBy id (untranslatedLabels translated)⟩
  | some served =>
    let findings ← (keyedLists translated).mapM (checkList codecs scope served)
    return summarize (untranslatedLabels translated) findings

def normAddr (address : String) : String :=
  (codecs.ipInterface address).getD address

/-- `str(value or "")`. -/
def orEmpty (value : Json) : String :=
  if value.truthy then keyStr value else ""

def normIpTriple (triple : Json) : Key :=
  let part (index : Nat) := (keyParts triple).getD index (.str "")
  [keyStr (part 0), normAddr codecs (keyStr (part 1)), orEmpty (part 2)]

def addressTriples (served : Json) : List Key :=
  (childrenOf served "interface").flatMap fun interface =>
    (childrenOf interface "address").map fun address =>
      [leafStr interface "interface-name", normAddr codecs (leafStr address "address"),
        orEmpty (address.member "vrf")]

/-- The removed address values that the read still has. -/
def addressSurvivors (context served : Json) : List Json :=
  (removedKeys context "address").filter fun triple =>
    (addressTriples codecs served).contains (normIpTriple codecs triple)

/-- The removed address values, and no other grain. -/
def interfaceConfigResidue (context : Json) (live : Option Json) : Except ResidueError Report :=
  if (context.member "removed").member "address" = .null then
    .ok ⟨none, []⟩
  else do
    match ← readSection live with
    | none => return ⟨none, []⟩
    | some served =>
      if addressSurvivors codecs context served ≠ [] then
        return ⟨some [("address", orderBy id ((addressSurvivors codecs context served).map
          fun triple => (keyParts triple).map keyStr))], []⟩
      else if ← pathCovered ["interface", "address"] served then
        return ⟨some [], []⟩
      else
        return ⟨none, []⟩

def residueAfterRemoval (scope : DocumentSection) (context : Json) (live : Option Json) : Except ResidueError Report :=
  if scope = .interfaceConfig then
    interfaceConfigResidue codecs context live
  else if !anyRemoved context then
    .ok ⟨none, []⟩
  else
    checkLists codecs (guardLists scope) scope context live

/-- The verdicts of `_record_residue`; `someUnchecked` is recorded as "partial". -/
inductive Verdict where
  | found
  | clean
  | someUnchecked
  | unsupported
  | error
  deriving DecidableEq

def Report.verdict (report : Report) : Verdict :=
  match report.residue.map List.isEmpty with
  | none => .unsupported
  | some false => .found
  | some true => if report.unverifiable.isEmpty then .clean else .someUnchecked

/-- What `_record_residue` writes to the job's result. -/
structure Recorded where
  residueCheck : Verdict
  residue : List (String × List Key)
  residueUnverifiable : List String

/-- Every exception but an AS-number violation is the verdict `error`. -/
def recordResidue (outcome : Except ResidueError Report) : Except ResidueError Recorded :=
  match outcome with
  | .ok report => .ok ⟨report.verdict, report.residue.getD [], report.unverifiable⟩
  | .error .reader => .ok ⟨.error, [], []⟩
  | .error .asNumber => .error .asNumber

/-! ### A check taken apart -/

theorem recordResidue_cases {outcome : Except ResidueError Report} {recorded : Recorded} (run : recordResidue outcome = .ok recorded) :
    (∃ report, outcome = .ok report ∧ recorded.residueCheck = report.verdict) ∨
      outcome = .error .reader ∧ recorded.residueCheck = .error := by
  cases outcome with
  | ok report =>
    cases run
    exact .inl ⟨report, rfl, rfl⟩
  | error failure =>
    cases failure with
    | asNumber => cases run
    | reader =>
      cases run
      exact .inr ⟨rfl, rfl⟩

/-- A check without exception: nothing to look for or nowhere to look, or a read whose findings
are summarized. -/
inductive Checked (lists : List GuardList) (scope : DocumentSection) (context : Json)
    (live : Option Json) (report : Report) : Prop where
  | nowhere (translated : List Translated)
      (each : lists.mapM (translateList codecs scope context) = .ok translated)
      (nothing : keyedLists translated = [] ∨ readSection live = .ok none)
      (unread : report.residue = none)
  | read (translated : List Translated) (served : Json) (findings : List (String × Finding))
      (each : lists.mapM (translateList codecs scope context) = .ok translated)
      (keyed : keyedLists translated ≠ [])
      (answered : readSection live = .ok (some served))
      (found : (keyedLists translated).mapM (checkList codecs scope served) = .ok findings)
      (summary : report = summarize (untranslatedLabels translated) findings)

variable {context served left right : Json} {scope : DocumentSection} {guardList : GuardList}
  {lists : List GuardList} {live : Option Json} {report : Report} {list : Translated}
  {untranslated : List String} {findings : List (String × Finding)}

theorem removedKeys_eq_nil (none : anyRemoved context = false) (label : String) : removedKeys context label = [] := by
  unfold removedKeys
  unfold anyRemoved at none
  generalize context.member "removed" = removed at none
  cases removed with
  | obj members =>
    simp only [childrenOf, Json.member]
    cases found : members.lookup label with
    | none => rfl
    | some value =>
      obtain ⟨before, after, split, -⟩ := List.lookup_eq_some_iff.mp found
      have empty := List.any_eq_false.mp none (label, value) (split ▸ List.mem_append_right before List.mem_cons_self)
      cases value with
      | arr items => simpa [Json.truthy] using empty
      | _ => rfl
  | _ => rfl

theorem checkLists_checked (run : checkLists codecs lists scope context live = .ok report) :
    Checked codecs lists scope context live report := by
  obtain ⟨translated, each, run⟩ := bind_eq_ok.mp run
  split at run
  · rename_i none
    cases run
    exact .nowhere translated each (.inl (List.isEmpty_iff.mp none)) rfl
  · rename_i some
    obtain ⟨answer, answered, run⟩ := bind_eq_ok.mp run
    cases answer with
    | none =>
      cases run
      exact .nowhere translated each (.inr answered) rfl
    | some served =>
      obtain ⟨findings, found, run⟩ := bind_eq_ok.mp run
      cases run
      exact .read translated served findings each (fun none => some (List.isEmpty_iff.mpr none)) answered found rfl

theorem checkList_cases {finding : String × Finding} (run : checkList codecs scope served list = .ok finding) :
    ∃ present, readerKeys codecs scope served list.guardList = .ok present ∧
      (((∃ entry ∈ list.keymap, entry.2 ∈ present) ∧ ∃ keys, finding.2 = .survived keys) ∨
        (∀ entry ∈ list.keymap, entry.2 ∉ present) ∧ ((pathCovered (readerPath scope list.guardList) served = .ok true ∧
              finding.2 = .absent) ∨
            pathCovered (readerPath scope list.guardList) served = .ok false ∧ finding.2 = .uncovered)) := by
  obtain ⟨present, read, run⟩ := bind_eq_ok.mp run
  refine ⟨present, read, ?_⟩
  dsimp only at run
  split at run
  · rename_i some
    cases run
    obtain ⟨key, member⟩ := List.exists_mem_of_ne_nil _ some
    obtain ⟨entry, kept, -⟩ := List.mem_map.mp member
    obtain ⟨listed, survives⟩ := List.mem_filter.mp kept
    exact .inl ⟨⟨entry, listed, List.contains_iff_mem.mp survives⟩, _, rfl⟩
  · rename_i none
    have gone : ∀ entry ∈ list.keymap, entry.2 ∉ present := by
      intro entry listed survives
      refine none fun empty => ?_
      have kept : entry ∈ list.keymap.filter fun entry => present.contains entry.2 :=
        List.mem_filter.mpr ⟨listed, List.contains_iff_mem.mpr survives⟩
      rw [List.map_eq_nil_iff.mp empty] at kept
      cases kept
    obtain ⟨covered, walked, run⟩ := bind_eq_ok.mp run
    cases covered with
    | true =>
      cases run
      exact .inr ⟨gone, .inl ⟨walked, rfl⟩⟩
    | false =>
      cases run
      exact .inr ⟨gone, .inr ⟨walked, rfl⟩⟩

theorem summarize_found {finding : String × Finding} {keys : List Key}
    (member : finding ∈ findings) (survived : finding.2 = .survived keys) :
    (summarize untranslated findings).verdict = .found := by
  obtain ⟨label, outcome⟩ := finding
  cases survived
  have checked : (findings.any fun finding => decide (finding.2 ≠ .uncovered)) = true := List.any_eq_true.mpr ⟨_, member, rfl⟩
  have listed : (label, keys) ∈ findings.filterMap survivorsOf := List.mem_filterMap.mpr ⟨_, member, rfl⟩
  unfold Report.verdict summarize
  rw [if_pos checked]
  cases survivors : findings.filterMap survivorsOf with
  | nil => rw [survivors] at listed; cases listed
  | cons _ _ => rfl

theorem verdict_clean (clean : report.verdict = .clean) : report.residue = some [] ∧ report.unverifiable = [] := by
  obtain ⟨_ | ⟨_ | _⟩, unverifiable⟩ := report
  · cases clean
  · unfold Report.verdict at clean
    dsimp only [Option.map_some, List.isEmpty_nil] at clean
    split at clean
    · rename_i none
      exact ⟨rfl, List.isEmpty_iff.mp none⟩
    · cases clean
  · cases clean

/-- A clean summary: every list was checked and nothing was found. -/
theorem summarize_clean (clean : (summarize untranslated findings).verdict = .clean) :
    untranslated = [] ∧ ∀ finding ∈ findings, finding.2 = .absent := by
  have none := orderBy_eq_nil.mp (verdict_clean clean).2
  obtain ⟨translated, covered⟩ := List.append_eq_nil_iff.mp none
  refine ⟨translated, fun finding member => ?_⟩
  cases outcome : finding.2 with
  | absent => rfl
  | uncovered =>
    have kept := List.filter_eq_nil_iff.mp (List.map_eq_nil_iff.mp covered) finding member
    simp [outcome] at kept
  | survived keys =>
    have found : (summarize untranslated findings).verdict = .found := summarize_found member outcome
    rw [clean] at found
    cases found

theorem normalKeys_ok {keys : List Key} (normal : normalKeys scope context guardList = .ok keys) :
    ∃ values, List.Forall₂ (fun removed key => normKey scope guardList removed = .ok key)
      (removedKeys context guardList.label) values ∧ keys = orderBy id values.dedup := by
  unfold normalKeys at normal
  split at normal
  · rename_i values mapped
    cases normal
    exact ⟨values, forall₂_of_mapM mapped, rfl⟩
  · cases normal

theorem normalKeys_mem {removed : Json} {keys : List Key} (normal : normalKeys scope context guardList = .ok keys)
    (member : removed ∈ removedKeys context guardList.label) :
    ∃ key ∈ keys, normKey scope guardList removed = .ok key := by
  obtain ⟨values, each, rfl⟩ := normalKeys_ok normal
  obtain ⟨key, listed, normed⟩ := exists_of_forall₂ each.flip member
  exact ⟨key, mem_orderBy.mpr (List.mem_dedup.mpr listed), normed⟩

theorem translateList_cases (run : translateList codecs scope context guardList = .ok list) :
    list.guardList = guardList ∧ ∃ keys, normalKeys scope context guardList = .ok keys ∧
      (keys = [] ∧ list.keymap = [] ∧ list.untranslated = false ∨
        keys ≠ [] ∧ list.keymap = exportKeyMap codecs scope guardList.label keys context ∧
          list.untranslated = keys.any fun key => !(list.keymap.map (·.1)).contains key) := by
  obtain ⟨keys, normal, run⟩ := bind_eq_ok.mp run
  split at run
  · rename_i none
    cases run
    exact ⟨rfl, keys, normal, .inl ⟨none, rfl, rfl⟩⟩
  · rename_i some
    cases run
    exact ⟨rfl, keys, normal, .inr ⟨some, rfl, rfl⟩⟩

/-- A removed key of a translated list is looked for under its key of the read, unless the list
is marked untranslated. -/
theorem translated_key {removed : Json} (run : translateList codecs scope context guardList = .ok list)
    (member : removed ∈ removedKeys context guardList.label) (all : list.untranslated = false) :
    ∃ normal exported, normKey scope guardList removed = .ok normal ∧ (normal, exported) ∈ list.keymap := by
  obtain ⟨-, keys, normalized, shape⟩ := translateList_cases codecs run
  obtain ⟨normal, listed, normed⟩ := normalKeys_mem normalized member
  obtain ⟨rfl, -⟩ | ⟨-, -, untranslated⟩ := shape
  · cases listed
  rw [all] at untranslated
  have mapped : ∃ exported, (normal, exported) ∈ list.keymap := by
    simpa using List.any_eq_false.mp untranslated.symm normal listed
  obtain ⟨exported, entry⟩ := mapped
  exact ⟨normal, exported, normed, entry⟩

/-- What a check establishes of a removed key: it was translated to the key space of the read,
the read covers the list's collections, and the key is not among its keys. -/
def Proven (scope : DocumentSection) (context served : Json) (guardList : GuardList) (removed : Json) : Prop :=
  ∃ keys normal exported present, normalKeys scope context guardList = .ok keys ∧
    normKey scope guardList removed = .ok normal ∧
    (normal, exported) ∈ exportKeyMap codecs scope guardList.label keys context ∧
    pathCovered (readerPath scope guardList) served = .ok true ∧
    readerKeys codecs scope served guardList = .ok present ∧ exported ∉ present

/-- A removed key that the read still has. -/
def Survives (scope : DocumentSection) (context served : Json) (guardList : GuardList) (removed : Json) : Prop :=
  ∃ keys normal exported present, normalKeys scope context guardList = .ok keys ∧
    normKey scope guardList removed = .ok normal ∧
    (normal, exported) ∈ exportKeyMap codecs scope guardList.label keys context ∧
    readerKeys codecs scope served guardList = .ok present ∧ exported ∈ present

theorem mem_untranslatedLabels {translated : List Translated} (none : untranslatedLabels translated = []) (member : list ∈ translated) :
    list.untranslated = false := by
  have unmarked := List.filter_eq_nil_iff.mp (List.map_eq_nil_iff.mp none) list member
  simpa using unmarked

theorem mem_keyedLists {translated : List Translated} (member : list ∈ translated) {entry : Key × Key} (mapped : entry ∈ list.keymap) :
    list ∈ keyedLists translated := by
  refine List.mem_filter.mpr ⟨member, ?_⟩
  cases shape : list.keymap with
  | nil => rw [shape] at mapped; cases mapped
  | cons _ _ => rfl

theorem readSection_ok (answered : readSection live = .ok (some served)) : live = some served ∧ served.member "status" = .str "ok" := by
  unfold readSection at answered
  split at answered
  · cases answered
  split at answered
  · rename_i ok
    cases answered
    exact ⟨rfl, ok⟩
  · split at answered <;> cases answered

theorem clean_proven (checked : Checked codecs lists scope context live report) (clean : report.verdict = .clean) :
    ∃ served, live = some served ∧ served.member "status" = .str "ok" ∧
      ∀ guardList ∈ lists, ∀ removed ∈ removedKeys context guardList.label, Proven codecs scope context served guardList removed := by
  cases checked with
  | nowhere _ _ _ unread =>
    unfold Report.verdict at clean
    rw [unread] at clean
    cases clean
  | read translated served findings each _ answered found summary =>
    obtain ⟨isServed, ok⟩ := readSection_ok answered
    refine ⟨served, isServed, ok, fun guardList listed removed member => ?_⟩
    subst summary
    obtain ⟨all, absent⟩ := summarize_clean clean
    obtain ⟨list, own, translation⟩ := exists_of_forall₂ (forall₂_of_mapM each).flip listed
    obtain ⟨normal, exported, normed, entry⟩ := translated_key codecs translation member (mem_untranslatedLabels all own)
    obtain ⟨same, keys, normalized, shape⟩ := translateList_cases codecs translation
    obtain ⟨finding, reported, run⟩ := exists_of_forall₂ (forall₂_of_mapM found).flip (mem_keyedLists own entry)
    obtain ⟨present, keysRead, outcome⟩ := checkList_cases codecs run
    have gone := absent finding reported
    rw [same] at keysRead outcome
    obtain ⟨-, none, -⟩ | ⟨-, keymap, -⟩ := shape
    · rw [none] at entry; cases entry
    · obtain ⟨-, _, survived⟩ | ⟨apart, ⟨covered, -⟩ | ⟨-, uncovered⟩⟩ := outcome
      · rw [gone] at survived; cases survived
      · exact ⟨keys, normal, exported, present, normalized, normed, keymap ▸ entry, covered, keysRead, apart _ entry⟩
      · rw [gone] at uncovered; cases uncovered

theorem survives_found (checked : Checked codecs lists scope context (some served) report)
    (ok : served.member "status" = .str "ok") (listed : guardList ∈ lists) {removed : Json}
    (member : removed ∈ removedKeys context guardList.label)
    (survives : Survives codecs scope context served guardList removed) :
    report.verdict = .found := by
  obtain ⟨keys, normal, exported, present, normalized, normed, entry, keysRead, occurs⟩ := survives
  have mapped : ∀ list, translateList codecs scope context guardList = .ok list →
      list.guardList = guardList ∧ (normal, exported) ∈ list.keymap := by
    intro list translation
    obtain ⟨same, others, again, shape⟩ := translateList_cases codecs translation
    rw [normalized] at again
    cases again
    obtain ⟨rfl, -⟩ | ⟨-, keymap, -⟩ := shape
    · obtain ⟨key, impossible, -⟩ := normalKeys_mem normalized member
      cases impossible
    · exact ⟨same, keymap ▸ entry⟩
  have answers : readSection (some served) = .ok (some served) := if_pos ok
  cases checked with
  | nowhere translated each nothing _ =>
    obtain ⟨list, own, translation⟩ := exists_of_forall₂ (forall₂_of_mapM each).flip listed
    obtain none | unanswered := nothing
    · have keyed := mem_keyedLists own (mapped list translation).2
      rw [none] at keyed
      cases keyed
    · rw [answers] at unanswered
      cases unanswered
  | read translated other findings each _ answered found summary =>
    rw [answers] at answered
    cases answered
    obtain ⟨list, own, translation⟩ := exists_of_forall₂ (forall₂_of_mapM each).flip listed
    obtain ⟨same, inMap⟩ := mapped list translation
    obtain ⟨finding, reported, run⟩ := exists_of_forall₂ (forall₂_of_mapM found).flip (mem_keyedLists own inMap)
    obtain ⟨again, keysAgain, outcome⟩ := checkList_cases codecs run
    rw [same, keysRead] at keysAgain
    cases keysAgain
    subst summary
    obtain ⟨-, keys, survived⟩ | ⟨apart, -⟩ := outcome
    · exact summarize_found reported survived
    · exact absurd occurs (apart _ inMap)

/-! ### The order of the captured keys -/

structure Reordered (left right : Json) : Prop where
  keys : ∀ label, (removedKeys left label).Perm (removedKeys right label)
  captured : ∀ label, (left.member "removed").member label = .null ↔
    (right.member "removed").member label = .null
  some : anyRemoved left = anyRemoved right
  refs : left.member "vault_refs" = right.member "vault_refs"

theorem normalKeys_reordered (same : Reordered left right) (scope : DocumentSection) (guardList : GuardList) :
    normalKeys scope left guardList = normalKeys scope right guardList := by
  have shuffled := same.keys guardList.label
  unfold normalKeys
  cases mapped : (removedKeys left guardList.label).mapM (normKey scope guardList) with
  | ok keys =>
    obtain ⟨others, again, members⟩ := mapM_perm shuffled mapped
    rw [again]
    exact congrArg Except.ok (orderBy_perm members.dedup)
  | error failure =>
    cases again : (removedKeys right guardList.label).mapM (normKey scope guardList) with
    | error _ => rfl
    | ok keys =>
      obtain ⟨others, impossible, -⟩ := mapM_perm shuffled.symm again
      rw [mapped] at impossible
      cases impossible

theorem translateList_reordered (same : Reordered left right) (scope : DocumentSection) :
    translateList codecs scope left = translateList codecs scope right := by
  have refs : vaultRefs left = vaultRefs right := by
    unfold vaultRefs
    rw [same.refs]
  funext guardList
  unfold translateList exportKeyMap
  rw [normalKeys_reordered same, refs]

theorem interfaceConfig_reordered (same : Reordered left right) :
    interfaceConfigResidue codecs left live = interfaceConfigResidue codecs right live := by
  unfold interfaceConfigResidue
  simp only [same.captured "address"]
  congr 2
  funext answer
  cases answer with
  | none => rfl
  | some served =>
    have survivors : (addressSurvivors codecs left served).Perm (addressSurvivors codecs right served) := (same.keys "address").filter _
    dsimp only
    rw [orderBy_perm (survivors.map _)]
    by_cases none : addressSurvivors codecs left served = []
    · rw [none] at survivors ⊢
      rw [survivors.symm.eq_nil]
    · rw [if_pos none, if_pos fun empty => none (empty ▸ survivors).eq_nil]

theorem residue_reordered (same : Reordered left right) :
    residueAfterRemoval codecs scope left live = residueAfterRemoval codecs scope right live := by
  unfold residueAfterRemoval checkLists
  rw [interfaceConfig_reordered codecs same, same.some, translateList_reordered codecs same]

/-! ### Interface addresses -/

theorem interfaceConfig_cases (run : interfaceConfigResidue codecs context live = .ok report) :
    report.verdict = .unsupported ∨ ∃ served, readSection live = .ok (some served) ∧
      ((∃ triple ∈ removedKeys context "address", normIpTriple codecs triple ∈ addressTriples codecs served) ∧ report.verdict = .found ∨
        (∀ triple ∈ removedKeys context "address", normIpTriple codecs triple ∉ addressTriples codecs served) ∧
          pathCovered ["interface", "address"] served = .ok true ∧ report.verdict = .clean) := by
  unfold interfaceConfigResidue at run
  split at run
  · cases run
    exact .inl rfl
  · obtain ⟨answer, answered, run⟩ := bind_eq_ok.mp run
    cases answer with
    | none =>
      cases run
      exact .inl rfl
    | some served =>
      dsimp only at run
      split at run
      · rename_i some
        cases run
        obtain ⟨triple, member⟩ := List.exists_mem_of_ne_nil _ some
        obtain ⟨removed, occurs⟩ := List.mem_filter.mp member
        exact .inr ⟨served, answered, .inl ⟨⟨triple, removed, List.contains_iff_mem.mp occurs⟩, rfl⟩⟩
      · rename_i none
        obtain ⟨covered, walked, run⟩ := bind_eq_ok.mp run
        cases covered with
        | false =>
          cases run
          exact .inl rfl
        | true =>
          cases run
          refine .inr ⟨served, answered, .inr ⟨fun triple removed occurs => none fun empty => ?_, walked, rfl⟩⟩
          exact List.filter_eq_nil_iff.mp empty triple removed (List.contains_iff_mem.mpr occurs)

theorem interfaceConfig_found (run : interfaceConfigResidue codecs context (some served) = .ok report)
    (ok : served.member "status" = .str "ok") {triple : Json}
    (removed : triple ∈ removedKeys context "address")
    (occurs : normIpTriple codecs triple ∈ addressTriples codecs served) :
    report.verdict = .found := by
  have captured : ¬ (context.member "removed").member "address" = .null := by
    intro none
    unfold removedKeys childrenOf at removed
    rw [none] at removed
    cases removed
  have answers : readSection (some served) = .ok (some served) := if_pos ok
  have survives : addressSurvivors codecs context served ≠ [] := fun none =>
    List.filter_eq_nil_iff.mp none triple removed (List.contains_iff_mem.mpr occurs)
  unfold interfaceConfigResidue at run
  rw [if_neg captured, answers] at run
  dsimp only [bind, Except.bind] at run
  rw [if_pos survives] at run
  cases run
  rfl

/-! ### The verdict -/

/-- The key was looked for and is gone; of the interface section, an address absent from a covered
read. -/
def Earned (scope : DocumentSection) (context served : Json) : Prop :=
  (scope ≠ .interfaceConfig → ∀ guardList ∈ guardLists scope,
      ∀ removed ∈ removedKeys context guardList.label,
        Proven codecs scope context served guardList removed) ∧
    (scope = .interfaceConfig → pathCovered ["interface", "address"] served = .ok true ∧
      ∀ triple ∈ removedKeys context "address",
        normIpTriple codecs triple ∉ addressTriples codecs served)

/-- Some key that the check compares is still on the device. -/
def Remains (scope : DocumentSection) (context served : Json) : Prop :=
  (scope ≠ .interfaceConfig ∧ ∃ guardList ∈ guardLists scope,
      ∃ removed ∈ removedKeys context guardList.label,
        Survives codecs scope context served guardList removed) ∨
    scope = .interfaceConfig ∧ ∃ triple ∈ removedKeys context "address",
      normIpTriple codecs triple ∈ addressTriples codecs served

/-- A recorded verdict is earned: `clean` only if every compared key was translated, covered by the
read and absent from it, and a surviving key is `found` unless reading raised. The order of keys and
lists does not matter. -/
theorem residue_verdict_earned {recorded : Recorded} (run : recordResidue (residueAfterRemoval codecs scope context live) = .ok recorded) :
    (recorded.residueCheck = .clean → ∃ served, live = some served ∧
      served.member "status" = .str "ok" ∧ Earned codecs scope context served) ∧
    (∀ served, live = some served → served.member "status" = .str "ok" → Remains codecs scope context served →
      (∃ report, residueAfterRemoval codecs scope context live = .ok report) ∧ recorded.residueCheck = .found ∨
        residueAfterRemoval codecs scope context live = .error .reader ∧ recorded.residueCheck = .error) ∧
    ∀ other, Reordered context other → recordResidue (residueAfterRemoval codecs scope other live) = .ok recorded := by
  refine ⟨fun clean => ?_, fun served isServed ok remains => ?_, fun other same => ?_⟩
  · obtain ⟨report, ran, verdict⟩ | ⟨-, raised⟩ := recordResidue_cases run
    · rw [verdict] at clean
      unfold residueAfterRemoval at ran
      split at ran
      · rename_i interface
        obtain unsupported | ⟨served, answered, ⟨-, found⟩ | ⟨gone, covered, -⟩⟩ := interfaceConfig_cases codecs ran
        · rw [clean] at unsupported; cases unsupported
        · rw [clean] at found; cases found
        · obtain ⟨isServed, ok⟩ := readSection_ok answered
          exact ⟨served, isServed, ok, fun guarded => absurd interface guarded, fun _ => ⟨covered, gone⟩⟩
      · rename_i guarded
        split at ran
        · cases ran
          cases clean
        · obtain ⟨served, isServed, ok, proven⟩ := clean_proven codecs (checkLists_checked codecs ran) clean
          exact ⟨served, isServed, ok, fun _ => proven, fun interface => absurd interface guarded⟩
    · rw [raised] at clean; cases clean
  · subst isServed
    obtain ⟨report, ran, verdict⟩ | raised := recordResidue_cases run
    · refine .inl ⟨⟨report, ran⟩, verdict.trans ?_⟩
      unfold residueAfterRemoval at ran
      obtain ⟨guarded, guardList, listed, removed, member, survives⟩ | ⟨interface, triple, member, occurs⟩ := remains
      · have some : ¬ (!anyRemoved context) = true := by
          intro none
          rw [removedKeys_eq_nil (by simpa using none)] at member
          cases member
        rw [if_neg guarded, if_neg some] at ran
        exact survives_found codecs (checkLists_checked codecs ran) ok listed member survives
      · rw [if_pos interface] at ran
        exact interfaceConfig_found codecs ran ok member occurs
    · exact .inr raised
  · rw [← residue_reordered codecs same]
    exact run

/-- Codecs of a device whose addresses are canonical, that reads no VLAN range and whose Vault
answers nothing. -/
def plainCodecs : Codecs where
  asNumbersValid := fun _ _ => true
  parseVlanString := fun text => if text.truthy then none else some []
  ipInterface := some
  communityFingerprints := fun _ => []

/-- A removed VLAN that survives next to one that is gone. -/
theorem residue_verdict_earned_vlan : ∃ recorded, recordResidue (residueAfterRemoval plainCodecs .vlan
        (.obj [("removed", .obj [("vlan", .arr [.num 10, .num 20])])])
        (some (.obj [("status", .str "ok"), ("vlan", .arr [.obj [("vlan-id", .num 20)]])]))) = .ok recorded ∧
      recorded.residueCheck = .found := by
  refine ⟨_, rfl, ?_⟩
  have survives : Remains plainCodecs .vlan (.obj [("removed", .obj [("vlan", .arr [.num 10, .num 20])])])
      (.obj [("status", .str "ok"), ("vlan", .arr [.obj [("vlan-id", .num 20)]])]) :=
    .inl ⟨by decide, topList "vlan" ["vlan-id"], by decide, .num 20, by decide, _, ["20"], ["20"], _, rfl, rfl,
      by decide, rfl, by decide⟩
  obtain ⟨-, found⟩ | ⟨raised, -⟩ := (residue_verdict_earned plainCodecs rfl).2.1 _ rfl rfl survives
  · exact found
  · cases raised

def goneAddress : Json :=
  .obj [("removed", .obj [("interface", .arr [.arr [.str "Gi1"]]),
    ("address", .arr [.arr [.str "Gi1", .str "192.0.2.1/24", .str ""]])])]

def bareInterface : Json :=
  .obj [("status", .str "ok"), ("interface", .arr [.obj [("interface-name", .str "Gi1"), ("address", .arr [])]])]

def goneTrunk : Json :=
  .obj [("removed", .obj [("switchport_intent", .arr [.arr [.str "Gi1"]]),
    ("switchport_tagged_vlan_intent", .arr [.arr [.str "Gi1", .num 10]])])]

def unreadableTrunk : Json :=
  .obj [("status", .str "ok"), ("interface", .arr [.obj [("interface-name", .str "Gi1"), ("tagged-vlans", .str "10-")]])]

/-- The verdict of an interface section is clean although the interface survives, and a list that
cannot be read makes it an error although a key of another list survives. -/
theorem survivors_not_found :
    ((recordResidue (residueAfterRemoval plainCodecs .interfaceConfig goneAddress (some bareInterface))).toOption.map
        (·.residueCheck) = some .clean ∧
      topList "interface" ["interface-name"] ∈ guardLists .interfaceConfig ∧
      (readerKeys plainCodecs .interfaceConfig bareInterface (topList "interface" ["interface-name"])).toOption = some [["Gi1"]]) ∧
    (recordResidue (residueAfterRemoval plainCodecs .switchport goneTrunk (some unreadableTrunk))).toOption.map
        (·.residueCheck) = some .error ∧
      Remains plainCodecs .switchport goneTrunk unreadableTrunk := by
  refine ⟨⟨?_, ?_, ?_⟩, ?_, .inl ⟨by decide, _, List.mem_cons_self, .arr [.str "Gi1"], by decide, _, ["Gi1"], ["Gi1"], _, rfl, rfl,
    by decide, rfl, by decide⟩⟩ <;> decide +kernel

end NsoAdapter.Execution.Residue
