import LedgerCourier.Proofs.Delivery.Deal

/-!
# Calls at one desk

Any number of calls share a desk. They begin when they like, their steps are interleaved in any
order, the ledger answers and reports what it likes, and each step finds its own moment: the time,
whether its caller has given up, the channel. The journal keeps what the steps showed.
-/

namespace LedgerCourier

set_option autoImplicit false

structure Call where
  delivery : Delivery
  verdict : Option (Verdict Outcome)

structure Record where
  task : TaskId
  account : AccountId
  observation : Observation

namespace Call

def errand? (call : Call) : Option Errand :=
  match call.verdict with
  | none => call.delivery.errand?
  | some _ => none

def number? (call : Call) : Option Nat :=
  match call.verdict with
  | none => call.delivery.number?
  | some _ => none

def after (call : Call) : Progress Delivery (Verdict Outcome) → Call
  | .waits => call
  | .goesOn next _ => { call with delivery := next }
  | .ends verdict => { call with verdict := some verdict }

end Call

structure Traffic where
  desk : Desk
  calls : List Call
  journal : List Record

namespace Traffic

inductive Act where
  | begins (now : Nat) (settings : Settings) (options : WaitOptions) (call : EncodedCall)
      (signer : Signer)
  | advances (task : TaskId) (moment : Moment)
  | delivers (task : TaskId) (notice : Notice)
  | closes (task : TaskId)

def start (capacity : Nat) : Traffic := ⟨Desk.start capacity, [], []⟩

def errands (traffic : Traffic) (task : TaskId) : Option Errand :=
  traffic.calls[task]?.bind Call.errand?

def enter (traffic : Traffic) (delivery : Delivery) : Traffic :=
  { traffic with calls := traffic.calls ++ [⟨delivery, none⟩] }

def change (traffic : Traffic) (task : TaskId) (desk : Desk) (call : Call)
    (shown : List Observation) : Traffic :=
  ⟨desk, traffic.calls.set task call,
    traffic.journal ++ shown.map (Record.mk task call.delivery.signer.account)⟩

/-- What is seen when a notice arrives: nothing if the transaction is not watched any more. -/
def arrival (delivery : Delivery) (notice : Notice) : List Observation :=
  match delivery.stage with
  | .watching _ => [.arrived notice]
  | _ => []

def perform (traffic : Traffic) : Act → Traffic
  | .begins now settings options call signer =>
      traffic.enter (Delivery.start now settings options call signer)
  | .advances task moment =>
      match traffic.calls[task]? with
      | some ⟨delivery, none⟩ =>
          let step := delivery.advance task traffic.desk moment
          traffic.change task step.1 (Call.after ⟨delivery, none⟩ step.2)
            (delivery.observations moment step.2)
      | _ => traffic
  | .delivers task notice =>
      match traffic.calls[task]? with
      | some ⟨delivery, none⟩ =>
          traffic.change task traffic.desk ⟨delivery.deliver notice, none⟩
            (arrival delivery notice)
      | _ => traffic
  | .closes task =>
      match traffic.calls[task]? with
      | some ⟨delivery, none⟩ => traffic.change task traffic.desk ⟨delivery.close, none⟩ []
      | _ => traffic

def run (capacity : Nat) (acts : List Act) : Traffic := acts.foldl perform (start capacity)

inductive Performs (traffic : Traffic) : Act → Traffic → Prop where
  | stays {act : Act} : Performs traffic act traffic
  | begins (now : Nat) (settings : Settings) (options : WaitOptions) (call : EncodedCall)
      (signer : Signer) :
      Performs traffic (.begins now settings options call signer)
        (traffic.enter (Delivery.start now settings options call signer))
  | advances (task : TaskId) (moment : Moment) (delivery : Delivery)
      (held : traffic.calls[task]? = some ⟨delivery, none⟩) (desk : Desk)
      (progress : Progress Delivery (Verdict Outcome))
      (moves : delivery.Moves task traffic.desk moment (desk, progress)) :
      Performs traffic (.advances task moment)
        (traffic.change task desk (Call.after ⟨delivery, none⟩ progress)
          (delivery.observations moment progress))
  | delivers (task : TaskId) (notice : Notice) (delivery : Delivery)
      (held : traffic.calls[task]? = some ⟨delivery, none⟩) :
      Performs traffic (.delivers task notice)
        (traffic.change task traffic.desk ⟨delivery.deliver notice, none⟩
          (arrival delivery notice))
  | closes (task : TaskId) (delivery : Delivery)
      (held : traffic.calls[task]? = some ⟨delivery, none⟩) :
      Performs traffic (.closes task)
        (traffic.change task traffic.desk ⟨delivery.close, none⟩ [])

theorem perform_performs (traffic : Traffic) (act : Act) :
    Performs traffic act (traffic.perform act) := by
  cases act with
  | begins now settings options call signer => exact .begins now settings options call signer
  | advances task moment =>
      simp only [perform]
      split
      next delivery held =>
        exact .advances task moment delivery held _ _
          (delivery.advance_moves task traffic.desk moment)
      next => exact .stays
  | delivers task notice =>
      simp only [perform]
      split
      next delivery held => exact .delivers task notice delivery held
      next => exact .stays
  | closes task =>
      simp only [perform]
      split
      next delivery held => exact .closes task delivery held
      next => exact .stays

theorem run_snoc (capacity : Nat) (acts : List Act) (act : Act) :
    run capacity (acts ++ [act]) = (run capacity acts).perform act := by
  simp [run]

/-- What holds at the start and is kept by each act that is allowed holds after every run of such
acts. -/
theorem run_induction_of (allowed : Act → Prop) {motive : Traffic → Prop} (capacity : Nat)
    (initially : motive (start capacity))
    (kept : ∀ traffic act after, allowed act → motive traffic → Performs traffic act after →
      motive after)
    (acts : List Act) (all : ∀ act ∈ acts, allowed act) : motive (run capacity acts) := by
  have general : ∀ traffic, motive traffic → motive (acts.foldl perform traffic) := by
    induction acts with
    | nil => exact fun traffic holds => holds
    | cons act acts induction =>
        intro traffic holds
        obtain ⟨first, rest⟩ := List.forall_mem_cons.mp all
        exact induction rest _ (kept traffic act _ first holds (perform_performs traffic act))
  exact general (start capacity) initially

theorem run_induction {motive : Traffic → Prop} (capacity : Nat)
    (initially : motive (start capacity))
    (kept : ∀ traffic act after, motive traffic → Performs traffic act after → motive after)
    (acts : List Act) : motive (run capacity acts) :=
  run_induction_of (fun _ => True) capacity initially
    (fun traffic act after _ holds performs => kept traffic act after holds performs) acts
    fun _ _ => trivial

theorem Performs.journal_grows {traffic after : Traffic} {act : Act}
    (performs : Performs traffic act after) : traffic.journal <+: after.journal := by
  cases performs with
  | stays => exact List.prefix_refl _
  | begins => exact List.prefix_refl _
  | advances => exact List.prefix_append _ _
  | delivers => exact List.prefix_append _ _
  | closes => exact List.prefix_append _ _

theorem deliver_same (delivery : Delivery) (notice : Notice) :
    (delivery.deliver notice).standing = delivery.standing ∧
      (delivery.deliver notice).signer = delivery.signer ∧
        (delivery.deliver notice).recalled = delivery.recalled := by
  unfold Delivery.deliver
  split
  next watch stage =>
    simp [Delivery.standing, Delivery.errand?, Delivery.number?, Delivery.recalled, stage,
      Watch.errand?, Watch.recalled, Watch.deliver]
  next => exact ⟨rfl, rfl, rfl⟩

theorem close_same (delivery : Delivery) :
    delivery.close.standing = delivery.standing ∧ delivery.close.signer = delivery.signer ∧
      delivery.close.recalled = delivery.recalled := by
  unfold Delivery.close
  split
  next watch stage =>
    simp [Delivery.standing, Delivery.errand?, Delivery.number?, Delivery.recalled, stage,
      Watch.errand?, Watch.recalled, Watch.close]
  next => exact ⟨rfl, rfl, rfl⟩

theorem standing_after (delivery : Delivery) (progress : Progress Delivery (Verdict Outcome)) :
    (Call.after ⟨delivery, none⟩ progress).errand? =
        (delivery.standingAfter progress).errand ∧
      (Call.after ⟨delivery, none⟩ progress).number? =
        (delivery.standingAfter progress).number := by
  cases progress <;> exact ⟨rfl, rfl⟩

theorem signer_after {task : TaskId} {desk after : Desk} {moment : Moment} {delivery : Delivery}
    {progress : Progress Delivery (Verdict Outcome)}
    (moves : delivery.Moves task desk moment (after, progress)) :
    (Call.after ⟨delivery, none⟩ progress).delivery.signer = delivery.signer := by
  cases progress with
  | waits => rfl
  | goesOn next request => exact moves.same_call.2.1
  | ends verdict => rfl

theorem errands_change {traffic : Traffic} {task : TaskId} {before : Call}
    (held : traffic.calls[task]? = some before) (desk : Desk) (call : Call)
    (shown : List Observation) :
    (traffic.change task desk call shown).errands =
      Function.update traffic.errands task call.errand? := by
  obtain ⟨inside, -⟩ := List.getElem?_eq_some_iff.mp held
  exact lookup_set Call.errand? inside call

theorem errands_enter (traffic : Traffic) (now : Nat) (settings : Settings)
    (options : WaitOptions) (call : EncodedCall) (signer : Signer) :
    (traffic.enter (Delivery.start now settings options call signer)).errands =
      Function.update traffic.errands traffic.calls.length
        (some (Errand.start signer.account .reserve)) :=
  lookup_append Call.errand? traffic.calls
    ⟨Delivery.start now settings options call signer, none⟩

theorem calls_change {traffic : Traffic} {task : TaskId} {before : Call}
    (held : traffic.calls[task]? = some before) (desk : Desk) (call : Call)
    (shown : List Observation) (other : TaskId) :
    (traffic.change task desk call shown).calls[other]? =
      if task = other then some call else traffic.calls[other]? := by
  obtain ⟨inside, -⟩ := List.getElem?_eq_some_iff.mp held
  split
  next same =>
    subst same
    simp [change, inside]
  next different => exact List.getElem?_set_ne different

theorem enter_call {traffic : Traffic} {delivery : Delivery} {task : TaskId} {call : Call}
    (found : (traffic.enter delivery).calls[task]? = some call) :
    traffic.calls[task]? = some call ∨ call = ⟨delivery, none⟩ := by
  rw [enter, List.getElem?_append] at found
  split at found
  · exact Or.inl found
  · exact Or.inr (List.mem_singleton.mp (List.mem_of_getElem? found))

theorem errands_of_under_way {traffic : Traffic} {task : TaskId} {delivery : Delivery}
    (held : traffic.calls[task]? = some ⟨delivery, none⟩) :
    traffic.errands task = delivery.errand? := by
  simp [errands, held, Call.errand?]

/-- The lines agree with the errands of the calls, each call is where its stage says, and the
journal has what the calls recall. -/
structure Orderly (traffic : Traffic) : Prop where
  disciplined : Disciplined traffic.desk.sequencer traffic.errands
  sound : ∀ (task : TaskId) delivery, traffic.calls[task]? = some ⟨delivery, none⟩ → delivery.Sound
  recalled : ∀ (task : TaskId) delivery, traffic.calls[task]? = some ⟨delivery, none⟩ →
    ∀ observation ∈ delivery.recalled,
      ⟨task, delivery.signer.account, observation⟩ ∈ traffic.journal

end Traffic

theorem Deal.disciplined {task : TaskId} {sequencer after : Sequencer} {answer : Option Answer}
    {before later : Standing} {recalled shown : List Observation}
    (deal : Deal task sequencer answer recalled before shown after later)
    {errands : TaskId → Option Errand} (own : errands task = before.errand)
    (disciplined : Disciplined sequencer errands) :
    Disciplined after (Function.update errands task later.errand) := by
  cases deal with
  | rests =>
      rw [← own, Function.update_eq_self]
      exact disciplined
  | setsOut account purpose idle => exact disciplined.sets_out (own.trans idle) account purpose
  | attends errand next request after held moves =>
      exact disciplined.advances (own.trans held) moves
  | obtains errand number after held empty moves =>
      exact disciplined.advances (own.trans held) moves
  | misses errand result after held empty moves =>
      exact disciplined.advances (own.trans held) moves
  | settles errand number result after held filled purpose moves =>
      exact disciplined.advances (own.trans held) moves
  | stops =>
      cases held : before.errand with
      | none =>
          have idle : errands task = none := own.trans held
          have same : Function.update errands task none = errands := by
            rw [← idle, Function.update_eq_self]
          rw [same]
          exact disciplined
      | some errand => exact disciplined.abandons (own.trans held)

namespace Traffic

theorem Orderly.changed {traffic : Traffic} (orderly : Orderly traffic) {task : TaskId}
    {before : Call} (held : traffic.calls[task]? = some before) {desk : Desk} {call : Call}
    (shown : List Observation)
    (disciplined : Disciplined desk.sequencer (Function.update traffic.errands task call.errand?))
    (sound : ∀ delivery, call = ⟨delivery, none⟩ → delivery.Sound)
    (recalled : ∀ delivery, call = ⟨delivery, none⟩ → ∀ observation ∈ delivery.recalled,
      observation ∈ shown ∨ ⟨task, delivery.signer.account, observation⟩ ∈ traffic.journal) :
    Orderly (traffic.change task desk call shown) where
  disciplined := by
    rw [errands_change held]
    exact disciplined
  sound := by
    intro other delivery found
    rw [calls_change held] at found
    split at found
    · exact sound delivery (Option.some.inj found)
    · exact orderly.sound other delivery found
  recalled := by
    intro other delivery found observation inside
    rw [calls_change held] at found
    split at found
    next same =>
      obtain rfl := Option.some.inj found
      subst same
      rcases recalled delivery rfl observation inside with shown | earlier
      · exact List.mem_append_right _ (List.mem_map_of_mem shown)
      · exact List.mem_append_left _ earlier
    next =>
      exact List.mem_append_left _ (orderly.recalled other delivery found observation inside)

/-- What a call was told, now or before, is in the journal when it is decided upon. -/
theorem Orderly.told {traffic : Traffic} (orderly : Orderly traffic) {task : TaskId}
    {delivery : Delivery} (held : traffic.calls[task]? = some ⟨delivery, none⟩) {desk : Desk}
    {call : Call} (signer : call.delivery.signer = delivery.signer) {shown : List Observation}
    {observation : Observation} (inside : observation ∈ delivery.recalled ++ shown) :
    ⟨task, call.delivery.signer.account, observation⟩ ∈
      (traffic.change task desk call shown).journal := by
  rcases List.mem_append.mp inside with recalled | now
  · rw [signer]
    exact List.mem_append_left _ (orderly.recalled task delivery held observation recalled)
  · exact List.mem_append_right _ (List.mem_map_of_mem now)

theorem Performs.orderly {traffic after : Traffic} {act : Act}
    (performs : Performs traffic act after) (orderly : Orderly traffic) : Orderly after := by
  have unmoved : ∀ {task : TaskId} {delivery next : Delivery},
      traffic.calls[task]? = some ⟨delivery, none⟩ → next.standing = delivery.standing →
        Disciplined traffic.desk.sequencer
          (Function.update traffic.errands task (Call.mk next none).errand?) := by
    intro task delivery next held same
    have errand : (Call.mk next none).errand? = traffic.errands task :=
      (congrArg Standing.errand same).trans (errands_of_under_way held).symm
    rw [errand, Function.update_eq_self]
    exact orderly.disciplined
  cases performs with
  | stays => exact orderly
  | begins now settings options call signer =>
      constructor
      · rw [errands_enter]
        exact orderly.disciplined.sets_out (by simp [Traffic.errands]) signer.account .reserve
      · intro task delivery found
        rcases enter_call found with earlier | begun
        · exact orderly.sound task delivery earlier
        · cases begun
          exact Delivery.start_sound now settings options call signer
      · intro task delivery found
        rcases enter_call found with earlier | begun
        · exact orderly.recalled task delivery earlier
        · cases begun
          simp [Delivery.recalled, Delivery.start]
  | advances task moment delivery held desk progress moves =>
      have sound := orderly.sound task delivery held
      refine orderly.changed held _ ?_ ?_ ?_
      · rw [(standing_after delivery progress).1]
        exact (moves.deals sound).disciplined (errands_of_under_way held) orderly.disciplined
      · intro next same
        cases progress with
        | waits =>
            cases same
            exact sound
        | goesOn following request =>
            cases same
            exact moves.sound sound
        | ends verdict => cases same
      · intro next same observation inside
        cases progress with
        | waits =>
            cases same
            exact Or.inr (orderly.recalled task delivery held observation inside)
        | goesOn following request =>
            cases same
            rcases moves.recalls with nothing | ⟨-, shown⟩
            · simp [nothing] at inside
            · exact Or.inl (shown observation inside)
        | ends verdict => cases same
  | delivers task notice delivery held =>
      obtain ⟨standing, signer, recalled⟩ := deliver_same delivery notice
      refine orderly.changed held _ (unmoved held standing) ?_ ?_
      · intro next same
        cases same
        exact (orderly.sound task delivery held).deliver notice
      · intro next same observation inside
        cases same
        rw [signer]
        exact Or.inr (orderly.recalled task delivery held observation (recalled ▸ inside))
  | closes task delivery held =>
      obtain ⟨standing, signer, recalled⟩ := close_same delivery
      refine orderly.changed held _ (unmoved held standing) ?_ ?_
      · intro next same
        cases same
        exact (orderly.sound task delivery held).close
      · intro next same observation inside
        cases same
        rw [signer]
        exact Or.inr (orderly.recalled task delivery held observation (recalled ▸ inside))

theorem start_orderly (capacity : Nat) : Orderly (start capacity) where
  disciplined := Disciplined.start fun task => by simp [errands, start]
  sound := by simp [start]
  recalled := by simp [start]

theorem run_orderly (capacity : Nat) (acts : List Act) : Orderly (run capacity acts) :=
  run_induction capacity (start_orderly capacity)
    (fun _ _ _ orderly performs => performs.orderly orderly) acts

/-- As `run_induction`, with all traffic known to be orderly. -/
theorem orderly_induction {motive : Traffic → Prop} (capacity : Nat)
    (initially : motive (start capacity))
    (kept : ∀ traffic act after, Orderly traffic → motive traffic →
      Performs traffic act after → motive after)
    (acts : List Act) : motive (run capacity acts) := by
  have both : Orderly (run capacity acts) ∧ motive (run capacity acts) := by
    apply run_induction (motive := fun traffic => Orderly traffic ∧ motive traffic) capacity
    · exact ⟨start_orderly capacity, initially⟩
    · intro traffic act after holds performs
      exact ⟨performs.orderly holds.1, kept traffic act after holds.1 holds.2 performs⟩
  exact both.2

end Traffic

end LedgerCourier
