import Mathlib.Logic.Function.Basic
import NsoAdapter.Intent.Receipt
import NsoAdapter.Lib.Transition

/-! The delivery protocol of the keyed intent pushes: one delivery is one
transaction under the receipt row lock, from admission to the recorded response.
A refusal, a replay and a failed work all roll it back. -/

namespace NsoAdapter.Intent
open Lib Projection

/-- `IntentDelivery` of one device. -/
structure Delivery where
  deviceId : Nat
  stream : ProjectionStream
  identity : PushIdentity

/-- What the endpoint's own work comes to: it raises, or it hands its response to
`record_response` beside the projection it leaves. -/
inductive Work where
  | failed
  | done (response : Response) (statusCode : Nat) (generationId : Option Nat)
      (view : Option ProjectionView) (desired : Tables)

inductive Answer where
  | replayed (body : List (String × Json)) (statusCode : Nat)
  | refused (reason : PushError)
  | failed
  | admitted

/-- The receipts by device and stream, and the deliveries whose work was
committed, in order. -/
structure ReceiptBook where
  receipts : Nat → ProjectionStream → Option Receipt
  admitted : List Delivery

def ReceiptBook.write (book : ReceiptBook) (deviceId : Nat) (stream : ProjectionStream)
    (receipt : Receipt) : Nat → ProjectionStream → Option Receipt :=
  Function.update book.receipts deviceId
    (Function.update (book.receipts deviceId) stream (some receipt))

/-- `begin_delivery`, the endpoint's work and `record_response`, in one transaction. -/
def deliver (book : ReceiptBook) (delivery : Delivery) (work : Work) : Answer × ReceiptBook :=
  match admitPush delivery.stream (book.receipts delivery.deviceId delivery.stream)
      delivery.identity with
  | .error reason => (.refused reason, book)
  | .ok (_, some (some stored, statusCode)) => (.replayed stored.body statusCode, book)
  | .ok (receipt, _) =>
    match work with
    | .failed => (.failed, book)
    | .done response statusCode generationId view desired =>
      match recordResponse delivery.stream receipt delivery.identity response statusCode
          generationId view desired with
      | .error _ => (.failed, book)
      | .ok recorded => (.admitted,
          { receipts := book.write delivery.deviceId delivery.stream recorded
            admitted := book.admitted ++ [delivery] })

def promote (book : ReceiptBook) (deviceId : Nat) (stream : ProjectionStream) : ReceiptBook :=
  match book.receipts deviceId stream with
  | none => book
  | some receipt =>
    { book with receipts := book.write deviceId stream (consumePromotionProvenance receipt) }

inductive ReceiptEvent where
  | deliver (delivery : Delivery) (work : Work)
  | promote (deviceId : Nat) (stream : ProjectionStream)

def receiptProtocol : TransitionSystem ReceiptBook ReceiptEvent where
  initial book := book = ⟨fun _ _ => none, []⟩
  step
    | .deliver delivery work, book => some (deliver book delivery work).2
    | .promote deviceId stream, book => some (promote book deviceId stream)

def ReceiptBook.sequences (book : ReceiptBook) (deviceId : Nat) (stream : ProjectionStream) : List Nat :=
  (book.admitted.filter fun delivery =>
    delivery.deviceId == deviceId && delivery.stream == stream).map (·.identity.seq)

variable {stream : ProjectionStream} {identity : PushIdentity} {receipt : Receipt}

theorem admitPush_ok {receipt : Option Receipt} {after : Receipt} {replay : Option (Option Response × Nat)}
    (admitted : admitPush stream receipt identity = .ok (after, replay)) :
    stream.outOfProtocol = false ∧ ((receipt = none ∧ after.identity = identity ∧ replay = none) ∨
        (receipt = some after ∧ after.identity = identity ∧ replay = some (after.response, after.statusCode)) ∨
        ∃ stored, receipt = some stored ∧ stored.identity.seq < identity.seq ∧
          after.identity = identity ∧ replay = none) := by
  unfold admitPush at admitted
  split at admitted
  · cases admitted
  rename_i inProtocol
  refine ⟨by simpa using inProtocol, ?_⟩
  cases receipt with
  | none =>
    cases admitted
    exact .inl ⟨rfl, rfl, rfl⟩
  | some stored =>
    simp only at admitted
    split at admitted
    · split at admitted
      · rename_i same
        cases admitted
        exact .inr (.inl ⟨rfl, same, rfl⟩)
      · cases admitted
    · split at admitted
      · cases admitted
      · cases admitted
        exact .inr (.inr ⟨stored, rfl, by omega, rfl, rfl⟩)

theorem recordResponse_ok {recorded : Receipt} {response : Response} {statusCode : Nat}
    {generationId : Option Nat} {view : Option ProjectionView} {desired : Tables}
    (written : recordResponse stream receipt identity response statusCode generationId view desired = .ok recorded) :
    recorded.identity = receipt.identity ∧ recorded.response.isSome := by
  unfold recordResponse at written
  split at written
  · cases written
  dsimp only at written
  split at written
  · cases written
  rename_i records retired recorded
  by_cases refused : (promotedBy view && carriesProvenance (privateDeletions receipt.response) retired) = true
  · rw [if_pos refused] at written
    cases written
  · rw [if_neg refused] at written
    cases written
    exact ⟨rfl, rfl⟩

theorem deliver_cases (book : ReceiptBook) (delivery : Delivery) (work : Work) : (deliver book delivery work).2 = book ∨
      ∃ recorded, (deliver book delivery work).2 =
          { receipts := book.write delivery.deviceId delivery.stream recorded
            admitted := book.admitted ++ [delivery] } ∧
        delivery.stream.outOfProtocol = false ∧
        recorded.identity = delivery.identity ∧ recorded.response.isSome ∧
        ∀ stored, book.receipts delivery.deviceId delivery.stream = some stored →
          stored.response.isSome → stored.identity.seq < delivery.identity.seq := by
  unfold deliver
  split
  · exact .inl rfl
  · exact .inl rfl
  rename_i receipt replay notReplayed admission
  obtain ⟨inProtocol, shape⟩ := admitPush_ok admission
  cases work with
  | failed => exact .inl rfl
  | done response statusCode generationId view desired =>
    simp only
    split
    · exact .inl rfl
    rename_i recorded written
    obtain ⟨sameIdentity, answered⟩ := recordResponse_ok written
    refine .inr ⟨recorded, rfl, inProtocol, ?_, answered, fun stored found present => ?_⟩
    · rcases shape with ⟨_, same, _⟩ | ⟨_, same, _⟩ | ⟨_, _, _, same, _⟩ <;>
        exact sameIdentity.trans same
    · rcases shape with ⟨absent, _⟩ | ⟨same, _, replayed⟩ | ⟨previous, same, older, _⟩
      · rw [absent] at found
        cases found
      · -- A stored response is replayed, so this branch cannot admit.
        rw [same] at found
        cases found
        obtain ⟨response, stored⟩ := Option.isSome_iff_exists.mp present
        rw [stored] at replayed
        exact (notReplayed _ _ replayed).elim
      · rw [same] at found
        cases found
        exact older

/-- The receipt of a device and stream is the last committed delivery's. -/
structure ReceiptBook.Valid (book : ReceiptBook) : Prop where
  answered : ∀ deviceId stream receipt, book.receipts deviceId stream = some receipt →
    receipt.response.isSome ∧ stream.outOfProtocol = false
  bounded : ∀ deviceId stream, ∀ seq ∈ book.sequences deviceId stream,
    ∃ receipt, book.receipts deviceId stream = some receipt ∧ seq ≤ receipt.identity.seq
  increasing : ∀ deviceId stream, (book.sequences deviceId stream).Pairwise (· < ·)

theorem ReceiptBook.write_apply {book : ReceiptBook} {deviceId other : Nat} {lane : ProjectionStream} :
    book.write deviceId stream receipt other lane =
      if other = deviceId ∧ lane = stream then some receipt else book.receipts other lane := by
  unfold ReceiptBook.write
  by_cases sameDevice : other = deviceId
  · subst sameDevice
    by_cases sameStream : lane = stream
    · subst sameStream
      simp
    · simp [sameStream]
  · simp [sameDevice]

theorem ReceiptBook.Valid.initial : ReceiptBook.Valid ⟨fun _ _ => none, []⟩ := by
  refine ⟨?_, ?_, ?_⟩
  · intro deviceId stream receipt found
    cases found
  · intro deviceId stream seq member
    cases member
  · intro deviceId stream
    exact List.Pairwise.nil

theorem ReceiptBook.Valid.deliver {book : ReceiptBook} (valid : book.Valid) (delivery : Delivery)
    (work : Work) : (deliver book delivery work).2.Valid := by
  rcases deliver_cases book delivery work with same | ⟨recorded, shape, inProtocol, identity, answered, newer⟩
  · rw [same]
    exact valid
  rw [shape]
  -- Every earlier committed sequence of this lane lies below the one just committed.
  have below : ∀ seq ∈ book.sequences delivery.deviceId delivery.stream, seq < delivery.identity.seq := by
    intro seq member
    obtain ⟨receipt, found, bound⟩ := valid.bounded _ _ seq member
    exact lt_of_le_of_lt bound (newer receipt found (valid.answered _ _ _ found).1)
  have grown : ∀ deviceId stream, (⟨book.write delivery.deviceId delivery.stream recorded, book.admitted ++ [delivery]⟩ :
        ReceiptBook).sequences deviceId stream =
      if deviceId = delivery.deviceId ∧ stream = delivery.stream then
        book.sequences deviceId stream ++ [delivery.identity.seq]
      else book.sequences deviceId stream := by
    intro deviceId stream
    by_cases lane : deviceId = delivery.deviceId ∧ stream = delivery.stream
    · obtain ⟨rfl, rfl⟩ := lane
      simp [ReceiptBook.sequences]
    · have other : ¬(delivery.deviceId = deviceId ∧ delivery.stream = stream) := fun same => lane ⟨same.1.symm, same.2.symm⟩
      simp [ReceiptBook.sequences, lane, other]
  refine ⟨?_, ?_, ?_⟩
  · intro deviceId stream receipt found
    simp only [ReceiptBook.write_apply] at found
    split at found
    · rename_i lane
      cases found
      exact ⟨answered, lane.2 ▸ inProtocol⟩
    · exact valid.answered _ _ _ found
  · intro deviceId stream seq member
    rw [grown] at member
    simp only [ReceiptBook.write_apply]
    split at member
    · rename_i lane
      rw [if_pos lane]
      refine ⟨recorded, rfl, ?_⟩
      rw [identity]
      rcases List.mem_append.mp member with earlier | last
      · obtain ⟨rfl, rfl⟩ := lane
        exact (below seq earlier).le
      · exact (List.mem_singleton.mp last).le
    · rename_i lane
      rw [if_neg lane]
      exact valid.bounded _ _ seq member
  · intro deviceId stream
    rw [grown]
    split
    · rename_i lane
      obtain ⟨rfl, rfl⟩ := lane
      rw [List.pairwise_append]
      refine ⟨valid.increasing _ _, List.pairwise_singleton _ _, fun earlier member last final => ?_⟩
      rw [List.mem_singleton.mp final]
      exact below earlier member
    · exact valid.increasing _ _

theorem ReceiptBook.Valid.promote {book : ReceiptBook} (valid : book.Valid) (deviceId : Nat)
    (stream : ProjectionStream) : (promote book deviceId stream).Valid := by
  unfold Intent.promote
  split
  · exact valid
  rename_i receipt stored
  refine ⟨?_, ?_, valid.increasing⟩
  · intro other lane found located
    simp only [ReceiptBook.write_apply] at located
    split at located
    · rename_i same
      cases located
      obtain ⟨answered, inProtocol⟩ := valid.answered _ _ _ stored
      exact ⟨by simpa [consumePromotionProvenance] using answered, same.2 ▸ inProtocol⟩
    · exact valid.answered _ _ _ located
  · intro other lane seq member
    obtain ⟨found, located, bound⟩ := valid.bounded other lane seq member
    simp only [ReceiptBook.write_apply]
    split
    · rename_i same
      obtain ⟨rfl, rfl⟩ := same
      rw [stored] at located
      cases located
      exact ⟨_, rfl, bound⟩
    · exact ⟨found, located, bound⟩

theorem ReceiptBook.Valid.reachable {book : ReceiptBook} (reached : receiptProtocol.Reachable book) : book.Valid := by
  refine reached.invariant ?_ ?_
  · rintro start rfl
    exact ReceiptBook.Valid.initial
  · intro event before after valid stepped
    cases event with
    | deliver delivery work =>
      cases stepped
      exact valid.deliver delivery work
    | promote deviceId stream =>
      cases stepped
      exact valid.promote deviceId stream

/-- In every history of deliveries the committed sequence numbers strictly increase, the stored
response is replayed exactly for its own delivery, and any other that is not newer is refused. -/
theorem receipt_admission_once {book : ReceiptBook} (reached : receiptProtocol.Reachable book) :
    (∀ deviceId stream, (book.sequences deviceId stream).Pairwise (· < ·)) ∧
    ∀ (delivery : Delivery) (work : Work), ((∃ body statusCode, (deliver book delivery work).1 = .replayed body statusCode) ↔
        ∃ receipt, book.receipts delivery.deviceId delivery.stream = some receipt ∧
          receipt.identity = delivery.identity) ∧
      ∀ receipt, book.receipts delivery.deviceId delivery.stream = some receipt →
        (receipt.identity = delivery.identity → ∃ response, receipt.response = some response ∧
            deliver book delivery work = (.replayed response.body receipt.statusCode, book)) ∧
        (receipt.identity ≠ delivery.identity → delivery.identity.seq ≤ receipt.identity.seq →
          ∃ reason, deliver book delivery work = (.refused reason, book)) := by
  have valid := ReceiptBook.Valid.reachable reached
  refine ⟨valid.increasing, fun delivery work => ?_⟩
  have replayed : ∀ receipt, book.receipts delivery.deviceId delivery.stream = some receipt → receipt.identity = delivery.identity →
      ∃ response, receipt.response = some response ∧ deliver book delivery work = (.replayed response.body receipt.statusCode, book) := by
    intro receipt found same
    obtain ⟨answered, inProtocol⟩ := valid.answered _ _ _ found
    obtain ⟨response, stored⟩ := Option.isSome_iff_exists.mp answered
    refine ⟨response, stored, ?_⟩
    simp [deliver, admitPush, found, inProtocol, same, stored]
  refine ⟨⟨?_, ?_⟩, fun receipt found => ⟨replayed receipt found, fun different older => ?_⟩⟩
  · rintro ⟨body, statusCode, answer⟩
    unfold deliver at answer
    split at answer
    · cases answer
    · rename_i after stored status admission
      obtain ⟨_, ⟨_, _, replay⟩ | ⟨found, same, _⟩ | ⟨_, _, _, _, replay⟩⟩ := admitPush_ok admission
      · cases replay
      · exact ⟨after, found, same⟩
      · cases replay
    · cases work with
      | failed => cases answer
      | done response statusCode generationId view desired =>
        simp only at answer
        split at answer <;> cases answer
  · rintro ⟨receipt, found, same⟩
    obtain ⟨response, _, answer⟩ := replayed receipt found same
    exact ⟨_, _, congrArg Prod.fst answer⟩
  · have inProtocol := (valid.answered _ _ _ found).2
    by_cases sameSeq : receipt.identity.seq = delivery.identity.seq
    · refine ⟨.sequenceReuse delivery.stream delivery.identity.seq receipt.identity, ?_⟩
      simp [deliver, admitPush, found, inProtocol, sameSeq, different]
    · have stale : delivery.identity.seq < receipt.identity.seq := by omega
      refine ⟨.stale delivery.stream delivery.identity.seq receipt.identity.seq, ?_⟩
      simp [deliver, admitPush, found, inProtocol, sameSeq, stale]

def vlanPush (seq : Nat) : Delivery :=
  ⟨7, .vlan, ⟨seq, "digest", false, false, false⟩⟩

/-- Two pushes, the first one delivered again in between and after. -/
def redeliveredPushes : List ReceiptEvent :=
  let work : Work := .done ⟨[("count", .num 1)], []⟩ 200 none none []
  [.deliver (vlanPush 1) work, .deliver (vlanPush 1) work, .deliver (vlanPush 2) work,
    .deliver (vlanPush 1) work]

theorem receipt_admission_once_redelivered : ∃ book, receiptProtocol.trace redeliveredPushes ⟨fun _ _ => none, []⟩ = some book ∧
      book.sequences 7 .vlan = [1, 2] ∧
      (book.sequences 7 .vlan).Pairwise (· < ·) ∧
      ∃ receipt response, book.receipts 7 .vlan = some receipt ∧
        deliver book (vlanPush 2) .failed = (.replayed response receipt.statusCode, book) := by
  have executed : receiptProtocol.trace redeliveredPushes ⟨fun _ _ => none, []⟩ = some _ := rfl
  have starts : receiptProtocol.initial ⟨fun _ _ => none, []⟩ := rfl
  obtain ⟨increasing, answers⟩ := receipt_admission_once (.trace (.initial starts) executed)
  obtain ⟨response, _, replayed⟩ := ((answers (vlanPush 2) .failed).2 _ rfl).1 rfl
  exact ⟨_, executed, rfl, increasing 7 .vlan, _, response.body, rfl, replayed⟩

end NsoAdapter.Intent
