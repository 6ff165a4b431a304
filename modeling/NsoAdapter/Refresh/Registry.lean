import Mathlib.Logic.Function.Basic
import NsoAdapter.Lib.Transition
import NsoAdapter.Refresh.OutcomeStore

/-! Refresh attempts of one device as open transactions. Attempts are recorded and
terminalized in the caller's transaction; a family's pointer, observation and mirror rows are
written under the family's fence and seen by others only after the commit. -/

namespace NsoAdapter.Refresh
open Lib

/-- The committed rows of one device, and as history the attempts that published, in the
order of their commits. -/
structure OutcomeStore where
  identity : String × String
  epoch : Nat
  attempts : Nat → Option RefreshOutcome
  publication : ReadFamily → Publication
  history : List (ReadFamily × Nat)

structure Writes where
  attempts : Nat → Option RefreshOutcome
  staged : ReadFamily → Option Publication
  published : List (ReadFamily × Nat)

def Writes.nothing : Writes := ⟨fun _ => none, fun _ => none, []⟩

structure Savepoint where
  writes : Writes
  held : ReadFamily → Bool

structure Transaction where
  writes : Writes
  savepoint : Option Savepoint

def Transaction.begun : Transaction := ⟨.nothing, none⟩

/-- The committed rows, the attempt sequence, the holder of each family's fence, and the open
transactions. -/
structure Registry where
  store : OutcomeStore
  nextAttempt : Nat
  fence : ReadFamily → Option Nat
  transactions : Nat → Option Transaction

def OutcomeStore.seen (store : OutcomeStore) (writes : Writes) (attemptId : Nat) : Option RefreshOutcome :=
  (writes.attempts attemptId).or (store.attempts attemptId)

def OutcomeStore.view (store : OutcomeStore) (writes : Writes) (family : ReadFamily) : Publication :=
  (writes.staged family).getD (store.publication family)

def OutcomeStore.apply (store : OutcomeStore) (writes : Writes) : OutcomeStore :=
  { store with
    attempts := store.seen writes
    publication := store.view writes
    history := store.history ++ writes.published }

/-- What `rekey_device` commits: every read publication of the device is gone. -/
def OutcomeStore.rekey (store : OutcomeStore) (identity : String × String) : OutcomeStore :=
  { store with
    identity
    epoch := store.epoch + 1
    publication := fun _ => .empty }

def Writes.insert (writes : Writes) (row : RefreshOutcome) : Writes :=
  { writes with attempts := Function.update writes.attempts row.id (some row) }

def Writes.putPublication (writes : Writes) (family : ReadFamily) (publication : Publication) : Writes :=
  { writes with staged := Function.update writes.staged family (some publication) }

/-- The writes of one `stage_result` call. -/
def Writes.stage (writes : Writes) (staged : StagedResult) (request : StageRequest) : Writes :=
  { (writes.insert staged.row).putPublication staged.row.family staged.publication with
    published := writes.published ++
      if staged.selected && request.publishes then [(staged.row.family, staged.row.id)] else [] }

inductive RefreshEvent where
  | recordRead (session : Nat) (family : ReadFamily) (outcome : ReadOutcome)
      (sourceEpoch : Option Nat)
  | acquireFence (session : Nat) (family : ReadFamily)
  | stage (session : Nat) (attemptId : Nat) (request : StageRequest)
  | materialize (session : Nat) (family : ReadFamily) (rows : List Json)
  | beginNested (session : Nat)
  | rollbackNested (session : Nat)
  | commit (session : Nat)
  | rollback (session : Nat)
  | rekey (nsoInstance nsoDeviceName : Option String)

def allFamilies : List ReadFamily :=
  [.lag, .logging, .snmp, .bgp, .svi, .subinterface, .interfaceIp, .isis, .vlan, .switchport, .bfd,
    .l2Service, .staticRoute, .interfaceMtu, .lagConfig, .ospf, .routePolicy, .redistribution,
    .interfaceAttributes]

theorem mem_allFamilies (family : ReadFamily) : family ∈ allFamilies := by
  cases family <;> decide

namespace Registry

/-- The session's transaction; the first statement begins one. -/
def transaction (registry : Registry) (session : Nat) : Transaction :=
  (registry.transactions session).getD .begun

def put (registry : Registry) (session : Nat) (transaction : Transaction) : Registry :=
  { registry with transactions := Function.update registry.transactions session (some transaction) }

def close (registry : Registry) (session : Nat) : Registry :=
  { registry with
    fence := fun family =>
      if registry.fence family = some session then none else registry.fence family
    transactions := Function.update registry.transactions session none }

/-- `record_read_outcome`. A caller names an epoch that it read from the device row, so never
one that the device has not reached. -/
def recordRead (registry : Registry) (session : Nat) (family : ReadFamily) (outcome : ReadOutcome)
    (sourceEpoch : Option Nat) : Option Registry :=
  let epoch := sourceEpoch.getD registry.store.epoch
  if epoch ≤ registry.store.epoch then
    let transaction := registry.transaction session
    let row := recordReadOutcome registry.nextAttempt family outcome epoch
    some { registry.put session { transaction with writes := transaction.writes.insert row } with
      nextAttempt := registry.nextAttempt + 1 }
  else
    none

/-- `acquire_family_fence`; a holder may acquire again. -/
def acquireFence (registry : Registry) (session : Nat) (family : ReadFamily) : Option Registry :=
  if registry.fence family = none ∨ registry.fence family = some session then
    some { registry.put session (registry.transaction session) with
      fence := Function.update registry.fence family (some session) }
  else
    none

def stage (registry : Registry) (session attemptId : Nat) (request : StageRequest) : Option Registry :=
  let transaction := registry.transaction session
  (registry.store.seen transaction.writes attemptId).bind fun row =>
    if registry.fence row.family = some session then
      (stageResult registry.store.epoch (registry.store.view transaction.writes row.family) row
        request).toOption.map fun staged =>
          registry.put session
            { transaction with writes := transaction.writes.stage staged request }
    else
      none

/-- A materializer replaces the family's mirror rows, under the family's fence. -/
def materialize (registry : Registry) (session : Nat) (family : ReadFamily) (rows : List Json) : Option Registry :=
  let transaction := registry.transaction session
  if registry.fence family = some session then
    some (registry.put session { transaction with
      writes := transaction.writes.putPublication family
        { registry.store.view transaction.writes family with mirror := rows } })
  else
    none

def beginNested (registry : Registry) (session : Nat) : Option Registry :=
  let transaction := registry.transaction session
  match transaction.savepoint with
  | some _ => none
  | none => some (registry.put session { transaction with
      savepoint := some ⟨transaction.writes, fun family => registry.fence family = some session⟩ })

def rollbackNested (registry : Registry) (session : Nat) : Option Registry :=
  (registry.transaction session).savepoint.map fun saved =>
    { registry.put session ⟨saved.writes, none⟩ with
      fence := fun family =>
        if registry.fence family = some session ∧ saved.held family = false then none
        else registry.fence family }

def commit (registry : Registry) (session : Nat) : Registry :=
  { registry.close session with
    store := registry.store.apply (registry.transaction session).writes }

/-- `rekey_device`: it holds every family's fence until its commit. -/
def rekey (registry : Registry) (nsoInstance nsoDeviceName : Option String) : Option Registry :=
  let target := (nsoInstance.getD registry.store.identity.1,
    nsoDeviceName.getD registry.store.identity.2)
  if allFamilies.all fun family => registry.fence family == none then
    if target = registry.store.identity then
      some registry
    else
      some { registry with store := registry.store.rekey target }
  else
    none

def step : RefreshEvent → Registry → Option Registry
  | .recordRead session family outcome sourceEpoch, registry =>
    registry.recordRead session family outcome sourceEpoch
  | .acquireFence session family, registry => registry.acquireFence session family
  | .stage session attemptId request, registry => registry.stage session attemptId request
  | .materialize session family rows, registry => registry.materialize session family rows
  | .beginNested session, registry => registry.beginNested session
  | .rollbackNested session, registry => registry.rollbackNested session
  | .commit session, registry => some (registry.commit session)
  | .rollback session, registry => some (registry.close session)
  | .rekey nsoInstance nsoDeviceName, registry => registry.rekey nsoInstance nsoDeviceName

/-- A device that was never read. -/
def fresh (identity : String × String) : Registry where
  store := ⟨identity, 1, fun _ => none, fun _ => .empty, []⟩
  nextAttempt := 1
  fence := fun _ => none
  transactions := fun _ => none

end Registry

/-- Any interleaving of the sessions and of re-keys. -/
def refreshSystem : TransitionSystem Registry RefreshEvent where
  initial registry := ∃ identity, registry = .fresh identity
  step := Registry.step

/-- `record_result` in one session: the fence, the result and the commit. -/
def recordResult (session : Nat) (family : ReadFamily) (attemptId : Nat) (request : StageRequest) : List RefreshEvent :=
  [.acquireFence session family, .stage session attemptId request, .commit session]

/-! ### What each operation writes -/

@[simp] theorem Writes.insert_staged (writes : Writes) (row : RefreshOutcome) : (writes.insert row).staged = writes.staged := rfl

@[simp] theorem Writes.putPublication_attempts (writes : Writes) (family : ReadFamily) (publication : Publication) :
    (writes.putPublication family publication).attempts = writes.attempts := rfl

theorem Writes.insert_attempts_cases {writes : Writes} {row found : RefreshOutcome} {id : Nat}
    (located : (writes.insert row).attempts id = some found) :
    id = row.id ∧ found = row ∨ id ≠ row.id ∧ writes.attempts id = some found := by
  unfold Writes.insert at located
  by_cases same : id = row.id
  · subst same
    simp only [Function.update_self, Option.some.injEq] at located
    exact .inl ⟨rfl, located.symm⟩
  · simp only [ne_eq, same, not_false_eq_true, Function.update_of_ne] at located
    exact .inr ⟨same, located⟩

theorem Writes.putPublication_staged_cases {writes : Writes} {family other : ReadFamily} {publication found : Publication}
    (located : (writes.putPublication family publication).staged other = some found) :
    other = family ∧ found = publication ∨ other ≠ family ∧ writes.staged other = some found := by
  unfold Writes.putPublication at located
  by_cases same : other = family
  · subst same
    simp only [Function.update_self, Option.some.injEq] at located
    exact .inl ⟨rfl, located.symm⟩
  · simp only [ne_eq, same, not_false_eq_true, Function.update_of_ne] at located
    exact .inr ⟨same, located⟩

namespace Registry

variable {registry after : Registry} {session : Nat}

theorem stage_some {attemptId : Nat} {request : StageRequest} (staged : registry.stage session attemptId request = some after) :
    ∃ row result, registry.store.seen (registry.transaction session).writes attemptId = some row ∧
      registry.fence row.family = some session ∧
      stageResult registry.store.epoch (registry.store.view (registry.transaction session).writes row.family) row request = .ok result ∧
      after = registry.put session { registry.transaction session with
        writes := (registry.transaction session).writes.stage result request } := by
  obtain ⟨row, located, staged⟩ := Option.bind_eq_some_iff.mp staged
  split at staged
  · rename_i held
    obtain ⟨result, run, returned⟩ := Option.map_eq_some_iff.mp staged
    exact ⟨row, result, located, held, toOption_eq_some.mp run, returned.symm⟩
  · cases staged

theorem rekey_some {nsoInstance nsoDeviceName : Option String} (rekeyed : registry.rekey nsoInstance nsoDeviceName = some after) :
    (∀ family, registry.fence family = none) ∧ (after = registry ∨
        ∃ target, after = { registry with store := registry.store.rekey target }) := by
  unfold rekey at rekeyed
  dsimp only at rekeyed
  split at rekeyed
  · rename_i free
    have open_ : ∀ family, registry.fence family = none := by
      intro family
      simpa using List.all_eq_true.mp free family (mem_allFamilies family)
    split at rekeyed
    · cases rekeyed
      exact ⟨open_, .inl rfl⟩
    · cases rekeyed
      exact ⟨open_, .inr ⟨_, rfl⟩⟩
  · cases rekeyed

theorem transactions_put (transaction : Transaction) (other : Nat) : (registry.put session transaction).transactions other =
      if other = session then some transaction else registry.transactions other := by
  unfold put
  by_cases same : other = session
  · subst same
    simp
  · simp [same]

theorem transactions_close (other : Nat) : (registry.close session).transactions other =
      if other = session then none else registry.transactions other := by
  unfold close
  by_cases same : other = session
  · subst same
    simp
  · simp [same]

theorem transaction_cases (registry : Registry) (session : Nat) : registry.transactions session = some (registry.transaction session) ∨
      registry.transactions session = none ∧ registry.transaction session = .begun := by
  unfold transaction
  cases registry.transactions session with
  | none => exact .inr ⟨rfl, rfl⟩
  | some transaction => exact .inl rfl

end Registry

end NsoAdapter.Refresh
