import LedgerCourier.Proofs.Delivery.Chronicle
import LedgerCourier.Proofs.Traffic.Basic

/-!
# Success is never premature

A call that succeeds does so with an outcome that its log justifies. This holds for every run,
whatever the other calls do and whenever the notices arrive, also while events are collected.
-/

namespace LedgerCourier.Traffic

set_option autoImplicit false

def log (traffic : Traffic) (task : TaskId) : List Observation :=
  traffic.journal.filterMap fun record =>
    if record.task = task then some record.observation else none

theorem log_change (traffic : Traffic) (task other : TaskId) (desk : Desk) (call : Call)
    (shown : List Observation) :
    (traffic.change task desk call shown).log other =
      traffic.log other ++ if task = other then shown else [] := by
  simp only [log, change, List.filterMap_append, List.filterMap_map, Function.comp_def]
  congr 1
  split <;> simp

/-- The log of each call agrees with where the call is, or with its outcome. -/
structure Chronicled (traffic : Traffic) : Prop where
  running : ∀ (task : TaskId) delivery, traffic.calls[task]? = some ⟨delivery, none⟩ →
    delivery.Chronicle (traffic.log task)
  finished : ∀ (task : TaskId) delivery outcome,
    traffic.calls[task]? = some ⟨delivery, some (.success outcome)⟩ →
      ∃ transaction since front lookup fed left,
        Justified (traffic.log task) delivery.signer delivery.call delivery.depth outcome
          transaction since front lookup fed left

theorem Chronicled.change {traffic : Traffic} (chronicled : Chronicled traffic) {task : TaskId}
    {before : Call} (found : traffic.calls[task]? = some before) (desk : Desk) (call : Call)
    (shown : List Observation)
    (running : call.verdict = none → call.delivery.Chronicle (traffic.log task ++ shown))
    (finished : ∀ outcome, call.verdict = some (.success outcome) →
      ∃ transaction since front lookup fed left,
        Justified (traffic.log task ++ shown) call.delivery.signer call.delivery.call
          call.delivery.depth outcome transaction since front lookup fed left) :
    Chronicled (traffic.change task desk call shown) := by
  constructor
  · intro other delivery held
    rw [calls_change found] at held
    rw [log_change]
    by_cases same : task = other
    · subst same
      obtain rfl : call = ⟨delivery, none⟩ := by simpa using held
      rw [if_pos rfl]
      exact running rfl
    · rw [if_neg same] at held ⊢
      rw [List.append_nil]
      exact chronicled.running other delivery held
  · intro other delivery outcome held
    rw [calls_change found] at held
    rw [log_change]
    by_cases same : task = other
    · subst same
      obtain rfl : call = ⟨delivery, some (.success outcome)⟩ := by simpa using held
      rw [if_pos rfl]
      exact finished outcome rfl
    · rw [if_neg same] at held ⊢
      rw [List.append_nil]
      exact chronicled.finished other delivery outcome held

theorem Performs.chronicled {traffic after : Traffic} {act : Act}
    (performs : Performs traffic act after) (orderly : Orderly traffic)
    (chronicled : Chronicled traffic) : Chronicled after := by
  cases performs with
  | stays => exact chronicled
  | begins now settings options call signer =>
      constructor
      · intro task delivery held
        rcases enter_call held with earlier | begun
        · exact chronicled.running task delivery earlier
        · cases begun
          exact Delivery.start_chronicle now settings options call signer _
      · intro task delivery outcome held
        rcases enter_call held with earlier | begun
        · exact chronicled.finished task delivery outcome earlier
        · cases begun
  | advances task moment delivery found desk progress moves =>
      have chronicle := chronicled.running task delivery found
      have sound := orderly.sound task delivery found
      refine chronicled.change found desk _ _ ?_ ?_
      · intro underWay
        cases progress with
        | waits =>
            rw [show delivery.observations moment .waits = [] from rfl, List.append_nil]
            exact chronicle
        | goesOn next request => exact moves.chronicle chronicle
        | ends verdict => cases underWay
      · intro outcome finished
        cases progress with
        | waits => cases finished
        | goesOn next request => cases finished
        | ends verdict =>
            obtain rfl : verdict = .success outcome := Option.some.inj finished
            exact moves.justified sound chronicle
  | delivers task notice delivery found =>
      have chronicle := chronicled.running task delivery found
      refine chronicled.change found _ _ _ ?_ (by simp)
      intro underWay
      unfold arrival
      split
      next watch stage => exact chronicle.deliver stage notice
      next idle =>
        have still : delivery.deliver notice = delivery := by
          unfold Delivery.deliver
          split
          next watch stage => exact absurd stage (idle watch)
          next => rfl
        rw [List.append_nil, still]
        exact chronicle
  | closes task delivery found =>
      refine chronicled.change found _ _ _ ?_ (by simp)
      intro underWay
      rw [List.append_nil]
      exact (chronicled.running task delivery found).close

theorem run_chronicled (capacity : Nat) (acts : List Act) : Chronicled (run capacity acts) := by
  apply orderly_induction (motive := Chronicled) capacity
  · exact ⟨by simp [start], by simp [start]⟩
  · intro traffic act after orderly chronicled performs
    exact performs.chronicled orderly chronicled

/-- Whenever a call has succeeded, its log justifies the outcome. -/
theorem success_is_justified (capacity : Nat) (acts : List Act) (task : TaskId)
    (delivery : Delivery) (outcome : Outcome)
    (finished : (run capacity acts).calls[task]? = some ⟨delivery, some (.success outcome)⟩) :
    ∃ transaction since front lookup fed left,
      Justified ((run capacity acts).log task) delivery.signer delivery.call delivery.depth outcome
        transaction since front lookup fed left :=
  (run_chronicled capacity acts).finished task delivery outcome finished

def neighbourPaid : Event := ⟨.applyExtrinsic 0, "Balances", "Transfer", []⟩

def ownSuccess : Event := ⟨.applyExtrinsic 1, "System", "ExtrinsicSuccess", []⟩

/-- A call to which the first block is enough. While the events of that block are collected the
block is retracted, and another one includes the transaction. -/
def retractedCall : List Act :=
  let signer : Signer := ⟨Bytes32.fill 1, fun _ => .ok (.sr25519 [])⟩
  let finds (answer : Option Answer) (free : Bool) : Act :=
    .advances 0 ⟨0, false, ⟨fun _ _ => .ok [], fun _ _ _ _ => .ok []⟩, answer, free⟩
  let goesOn : Act := finds none true
  let isTold (answer : Answer) : Act := finds (some answer) true
  let reported (status : Status) : Act := .delivers 0 (.status status)
  [.begins 0 {} ⟨.inBlock, none⟩ ⟨"lock", [], []⟩ signer, goesOn, goesOn,
    isTold (.nonce (.ok 5)), goesOn, isTold (.sent (.ok ())),
    reported (.inBlock (Bytes32.fill 2)), finds none false, goesOn, goesOn,
    reported .retracted, isTold (.position (.ok (some 0))), goesOn,
    reported (.inBlock (Bytes32.fill 3)), isTold (.events (.ok [neighbourPaid])), goesOn, goesOn,
    goesOn, isTold (.position (.ok (some 1))), goesOn,
    isTold (.events (.ok [neighbourPaid, ownSuccess]))]

def retractedOutcome : Outcome where
  status := .inBlock (Bytes32.fill 3)
  block := Bytes32.fill 3
  events := [ownSuccess]
  nonce := 5
  hash := Blake2b.digest256 []
  history := [.inBlock (Bytes32.fill 2), .retracted, .inBlock (Bytes32.fill 3)]
  dispatch := .success

theorem retracted_call_is_justified :
    ∃ delivery, (run 1 retractedCall).calls[0]? =
        some ⟨delivery, some (.success retractedOutcome)⟩ ∧
      ∃ transaction since front lookup fed left,
        Justified ((run 1 retractedCall).log 0) delivery.signer delivery.call delivery.depth
          retractedOutcome transaction since front lookup fed left :=
  ⟨_, rfl, success_is_justified 1 retractedCall 0 _ _ rfl⟩

end LedgerCourier.Traffic
