import LedgerCourier.Proofs.Nonce.Office
import Mathlib.Data.List.Induction
import Mathlib.Data.List.Nodup

/-!
# Reservations in succession

Callers reserve numbers of one account at the same time. The line in front of the account puts
them in an order: each caller at some moment becomes the head of the line, and it stays the head
until it is served or leaves. Finding the line is part of arriving at it, because the table of all
lines is never kept while anybody waits. Along that order the numbers handed out are consecutive
and begin with the only answer that was ever taken from the ledger. What other callers do at other
accounts, what the ledger answers and who walks away makes no difference to this.
-/

namespace LedgerCourier

set_option autoImplicit false

def Visit.number? (visit : Visit) : Option Nat :=
  match visit.fate with
  | .finished (.reserved number) => some number
  | _ => none

namespace Errand

theorem Moves.line_of_end {task : TaskId} {sequencer after : Sequencer} {answer : Option Answer}
    {errand : Errand} {result : Result}
    (moves : errand.Moves task sequencer answer (after, .ends result)) (account : AccountId) :
    (after.counter account).line = if errand.account = account
      then (sequencer.counter account).line.erase task else (sequencer.counter account).line := by
  cases moves <;> simp

theorem Moves.line_going {task : TaskId} {sequencer after : Sequencer} {answer : Option Answer}
    {errand : Errand} {progress : Progress Errand Result}
    (moves : errand.Moves task sequencer answer (after, progress))
    (going : ∀ result, progress ≠ .ends result) (account : AccountId) :
    (after.counter account).line = (sequencer.counter account).line ∨
      (after.counter account).line = (sequencer.counter account).line ++ [task] := by
  cases moves with
  | arrives stage =>
      rw [Sequencer.line_enter]
      split
      · exact Or.inr rfl
      · exact Or.inl rfl
  | waits stage => exact Or.inl rfl
  | asks stage purpose head unknown => exact Or.inl rfl
  | takesKnown | takesTold | exhausts | fails | givesBack | forgets =>
      exact absurd rfl (going _)

theorem advance_told {errand : Errand} {sequencer : Sequencer} {next number : Nat}
    {allocator : Allocator} (stage : errand.stage = .asking)
    (taken : (sequencer.allocator errand.account).take next = some (number, allocator))
    (task : TaskId) :
    errand.advance task sequencer (some (.nonce (.ok next))) =
      ((sequencer.withAllocator errand.account allocator).leave errand.account task,
        .ends (.reserved number)) := by
  simp [advance, stage, takeNumber, taken]

end Errand

theorem Visit.after_same {visit : Visit} {task : TaskId} {sequencer after : Sequencer}
    {answer : Option Answer} {progress : Progress Errand Errand.Result}
    (moves : visit.errand.Moves task sequencer answer (after, progress)) :
    (visit.after progress).errand.account = visit.errand.account ∧
      (visit.after progress).errand.purpose = visit.errand.purpose := by
  cases progress with
  | waits => exact ⟨rfl, rfl⟩
  | goesOn errand request => exact moves.same_errand
  | ends result => exact ⟨rfl, rfl⟩

namespace Office

/-- Who is at the head of the line of an account and so has its count to itself. -/
def holder? (office : Office) (account : AccountId) : Option TaskId :=
  (office.sequencer.counter account).line.head?

def number? (office : Office) (task : TaskId) : Option Nat :=
  office.visits[task]?.bind Visit.number?

/-- What there is to note along a run, where each act is looked at in the office it is done in. -/
def recordFrom {Entry : Type} (observe : Office → Act → Option Entry) :
    Office → List Act → List Entry
  | _, [] => []
  | office, act :: acts =>
      (observe office act).toList ++ recordFrom observe (office.perform act) acts

def record {Entry : Type} (observe : Office → Act → Option Entry) (acts : List Act) :
    List Entry :=
  recordFrom observe start acts

def succeeds? (account : AccountId) (office : Office) (act : Act) : Option TaskId :=
  if (office.perform act).holder? account = office.holder? account then none
  else (office.perform act).holder? account

def holders (account : AccountId) : List Act → List TaskId := record (succeeds? account)

def told? (account : AccountId) (office : Office) : Act → Option Nat
  | .advances task (some (.nonce (.ok number))) =>
      match office.errands task with
      | some errand =>
          if errand.account = account ∧ errand.stage = .asking then some number else none
      | none => none
  | _ => none

/-- The numbers that were taken from the ledger for an account, one for each question that was
answered with success. -/
def tellings (account : AccountId) : List Act → List Nat := record (told? account)

def numbersInOrder (account : AccountId) (acts : List Act) : List Nat :=
  (holders account acts).filterMap (run acts).number?

def Disturbs (account : AccountId) (office : Office) : Act → Prop
  | .forgets other => other = account
  | .returns caller =>
      ∃ visit, office.visits[caller]? = some visit ∧ visit.errand.account = account
  | _ => False

def Undisturbed (account : AccountId) (acts : List Act) : Prop :=
  ∀ front act, front ++ [act] <+: acts → ¬Disturbs account (run front) act

theorem record_from_append {Entry : Type} (observe : Office → Act → Option Entry)
    (office : Office) (front back : List Act) :
    recordFrom observe office (front ++ back) =
      recordFrom observe office front ++ recordFrom observe (office.runFrom front) back := by
  induction front generalizing office with
  | nil => rfl
  | cons act front induction =>
      rw [List.cons_append, recordFrom, recordFrom, induction, run_from_cons, List.append_assoc]

theorem record_snoc {Entry : Type} (observe : Office → Act → Option Entry) (acts : List Act)
    (act : Act) :
    record observe (acts ++ [act]) = record observe acts ++ (observe (run acts) act).toList := by
  have last : recordFrom observe (run acts) [act] = (observe (run acts) act).toList := by
    simp [recordFrom]
  rw [record, record_from_append]
  exact congrArg _ last

theorem undisturbed_snoc {account : AccountId} {acts : List Act} {act : Act}
    (undisturbed : Undisturbed account (acts ++ [act])) :
    Undisturbed account acts ∧ ¬Disturbs account (run acts) act :=
  ⟨fun front other inside => undisturbed front other (inside.trans (List.prefix_append _ _)),
    undisturbed acts act (List.prefix_refl _)⟩

theorem number_of_errand {office : Office} {task : TaskId} {errand : Errand}
    (held : office.errands task = some errand) : office.number? task = none := by
  obtain ⟨visit, inside, underWay⟩ := Option.bind_eq_some_iff.mp held
  obtain ⟨caller, errand, fate⟩ := visit
  cases fate with
  | underWay => simp [number?, inside, Visit.number?]
  | finished result => cases underWay
  | abandoned => cases underWay

theorem Performs.visits_kept {office after : Office} {act : Act}
    (performs : Performs office act after) {task : TaskId} {visit : Visit}
    (held : office.visits[task]? = some visit) :
    ∃ next, after.visits[task]? = some next ∧ next.errand.account = visit.errand.account ∧
      (visit.fate ≠ .underWay → next = visit) := by
  obtain ⟨inside, -⟩ := List.getElem?_eq_some_iff.mp held
  cases performs with
  | stays => exact ⟨visit, held, rfl, fun _ => rfl⟩
  | enters caller account purpose cause =>
      refine ⟨visit, ?_, rfl, fun _ => rfl⟩
      rw [enter, List.getElem?_append_left inside]
      exact held
  | advances other answer moving found underWay sequencer progress moves =>
      by_cases same : other = task
      · subst same
        obtain rfl : moving = visit := Option.some.inj (found.symm.trans held)
        exact ⟨moving.after progress, by simp [inside], (Visit.after_same moves).1,
          fun ended => absurd underWay ended⟩
      · refine ⟨visit, ?_, rfl, fun _ => rfl⟩
        rw [List.getElem?_set_ne same]
        exact held
  | abandons other leaving found underWay =>
      by_cases same : other = task
      · subst same
        obtain rfl : leaving = visit := Option.some.inj (found.symm.trans held)
        exact ⟨{ leaving with fate := .abandoned }, by simp [inside], rfl,
          fun ended => absurd underWay ended⟩
      · refine ⟨visit, ?_, rfl, fun _ => rfl⟩
        rw [List.getElem?_set_ne same]
        exact held

theorem Performs.line_cases {office after : Office} {act : Act}
    (performs : Performs office act after) (account : AccountId) :
    (after.sequencer.counter account).line = (office.sequencer.counter account).line ∨
      (∃ task, (after.sequencer.counter account).line =
        (office.sequencer.counter account).line ++ [task]) ∨
      ∃ task visit, (after.sequencer.counter account).line =
        (office.sequencer.counter account).line.erase task ∧
          after.visits[task]? = some visit ∧ visit.fate ≠ .underWay := by
  cases performs with
  | stays => exact Or.inl rfl
  | enters caller other purpose cause => exact Or.inl rfl
  | advances task answer visit held underWay sequencer progress moves =>
      obtain ⟨inside, -⟩ := List.getElem?_eq_some_iff.mp held
      cases progress with
      | waits =>
          exact (moves.line_going (by simp) account).imp_right fun joins => Or.inl ⟨task, joins⟩
      | goesOn errand request =>
          exact (moves.line_going (by simp) account).imp_right fun joins => Or.inl ⟨task, joins⟩
      | ends result =>
          have line := moves.line_of_end account
          split at line
          · exact Or.inr (Or.inr ⟨task, visit.after (.ends result), line, by simp [inside],
              by simp [Visit.after]⟩)
          · exact Or.inl line
  | abandons task visit held underWay =>
      obtain ⟨inside, -⟩ := List.getElem?_eq_some_iff.mp held
      simp only [Errand.abandon]
      split
      next => exact Or.inl rfl
      next =>
        rw [Sequencer.line_leave]
        split
        · exact Or.inr (Or.inr ⟨task, { visit with fate := .abandoned }, rfl, by simp [inside],
            by simp⟩)
        · exact Or.inl rfl

theorem Performs.holder_kept {office after : Office} {act : Act}
    (performs : Performs office act after) {account : AccountId} {task : TaskId}
    (head : office.holder? account = some task) :
    after.holder? account = some task ∨
      ∃ visit, after.visits[task]? = some visit ∧ visit.fate ≠ .underWay := by
  simp only [holder?] at head ⊢
  rcases performs.line_cases account with same | ⟨joining, joins⟩ | ⟨leaving, visit, leaves, ended⟩
  · rw [same]
    exact Or.inl head
  · rw [joins, List.head?_append, head]
    exact Or.inl rfl
  · by_cases own : leaving = task
    · subst own
      exact Or.inr ⟨visit, ended⟩
    · left
      rw [leaves]
      cases line : (office.sequencer.counter account).line with
      | nil => simp [line] at head
      | cons first rest =>
          obtain rfl : first = task := by simpa [line] using head
          simp [List.erase_cons_tail, Ne.symm own]

/-- The callers who held the line of an account so far, the present head being the last. -/
structure InOrder (account : AccountId) (office : Office) (holders : List TaskId) : Prop where
  once : holders.Nodup
  own : ∀ task ∈ holders, ∃ visit, office.visits[task]? = some visit ∧
    visit.errand.account = account
  earlier : ∀ task ∈ holders, office.holder? account = some task ∨
    ∃ visit, office.visits[task]? = some visit ∧ visit.fate ≠ .underWay
  present : ∀ task, office.holder? account = some task → holders.getLast? = some task

theorem holder_errand {office : Office} (disciplined : Disciplined office.sequencer office.errands)
    {account : AccountId} {task : TaskId} (head : office.holder? account = some task) :
    ∃ errand, office.errands task = some errand ∧ errand.account = account := by
  obtain ⟨errand, held, own, -⟩ :=
    (disciplined.standing account task).mp (List.mem_of_head? head)
  exact ⟨errand, held, own⟩

theorem visit_of_errand {office : Office} {task : TaskId} {errand : Errand}
    (held : office.errands task = some errand) :
    ∃ visit, office.visits[task]? = some visit ∧ visit.errand = errand ∧
      visit.fate = .underWay := by
  obtain ⟨visit, inside, known⟩ := Option.bind_eq_some_iff.mp held
  obtain ⟨caller, errand, fate⟩ := visit
  cases fate with
  | underWay => exact ⟨_, inside, Option.some.inj known, rfl⟩
  | finished result => cases known
  | abandoned => cases known

/-- An act adds at most one caller to the order, who was not in it before. -/
theorem InOrder.step {account : AccountId} {office after : Office} {act : Act}
    {holders : List TaskId} (inOrder : InOrder account office holders)
    (disciplined : Disciplined after.sequencer after.errands)
    (performs : Performs office act after) (performed : after = office.perform act) :
    InOrder account after (holders ++ (succeeds? account office act).toList) := by
  have own : ∀ task ∈ holders, ∃ visit, after.visits[task]? = some visit ∧
      visit.errand.account = account := by
    intro task member
    obtain ⟨visit, held, same⟩ := inOrder.own task member
    obtain ⟨next, kept, unmoved, -⟩ := performs.visits_kept held
    exact ⟨next, kept, unmoved.trans same⟩
  have earlier : ∀ task ∈ holders, after.holder? account = some task ∨
      ∃ visit, after.visits[task]? = some visit ∧ visit.fate ≠ .underWay := by
    intro task member
    rcases inOrder.earlier task member with head | ⟨visit, held, ended⟩
    · exact performs.holder_kept head
    · obtain ⟨next, kept, -, unchanged⟩ := performs.visits_kept held
      exact Or.inr ⟨next, kept, by rw [unchanged ended]; exact ended⟩
  rw [succeeds?, ← performed]
  split
  next same =>
    rw [Option.toList_none, List.append_nil]
    exact ⟨inOrder.once, own, earlier, fun task head => inOrder.present task (same ▸ head)⟩
  next changed =>
    cases head : after.holder? account with
    | none =>
        rw [Option.toList_none, List.append_nil]
        exact ⟨inOrder.once, own, earlier, by simp [head]⟩
    | some task =>
        obtain ⟨errand, held, ownErrand⟩ := holder_errand disciplined head
        obtain ⟨visit, inside, rfl, underWay⟩ := visit_of_errand held
        -- A caller who had been the head before would still be it, or be gone.
        have fresh : task ∉ holders := by
          intro member
          rcases inOrder.earlier task member with before | ⟨former, heldBefore, ended⟩
          · exact changed (head.trans before.symm)
          · obtain ⟨next, kept, -, unchanged⟩ := performs.visits_kept heldBefore
            obtain rfl : next = visit := Option.some.inj (kept.symm.trans inside)
            rw [← unchanged ended] at ended
            exact ended underWay
        rw [Option.toList_some]
        refine ⟨?_, ?_, ?_, ?_⟩
        · exact List.nodup_append.mpr ⟨inOrder.once, by simp, fun first member second alone => by
            rintro rfl
            exact fresh (List.mem_singleton.mp alone ▸ member)⟩
        · intro other member
          rcases List.mem_append.mp member with member | alone
          · exact own other member
          · exact ⟨visit, List.mem_singleton.mp alone ▸ inside, ownErrand⟩
        · intro other member
          rcases List.mem_append.mp member with member | alone
          · exact earlier other member
          · exact Or.inl (List.mem_singleton.mp alone ▸ head)
        · intro other same
          rw [List.getLast?_concat]
          exact head.symm.trans same

def OnlyReserving (account : AccountId) (office : Office) : Prop :=
  ∀ (task : TaskId) visit, office.visits[task]? = some visit →
    visit.errand.account = account → visit.errand.purpose = .reserve

/-- What an act means for an account at which all callers reserve. -/
inductive Turn (account : AccountId) (office : Office) (act : Act) (after : Office) : Prop where
  | idle (silent : told? account office act = none)
      (unchanged : after.sequencer.allocator account = office.sequencer.allocator account)
      (unserved : ∀ task, (∀ visit, office.visits[task]? = some visit →
        visit.errand.account = account) → after.number? task = office.number? task)
  | serves (task : TaskId) (answer : Option Answer) (next number : Nat) (allocator : Allocator)
      (served : act = .advances task answer) (head : office.holder? account = some task)
      (taken : (office.sequencer.allocator account).take next = some (number, allocator))
      (changed : after.sequencer.allocator account = allocator)
      (given : after.number? = Function.update office.number? task (some number))
      (source : (office.sequencer.allocator account).next = some next ∧
          told? account office act = none ∨
        (office.sequencer.allocator account).next = none ∧
          told? account office act = some next)

theorem number_enter (office : Office) (caller : TaskId) (account : AccountId)
    (purpose : Errand.Purpose) :
    (office.enter caller account purpose).number? = office.number? := by
  have appended : (office.enter caller account purpose).number? =
      Function.update office.number? office.visits.length none :=
    lookup_append Visit.number? office.visits ⟨caller, Errand.start account purpose, .underWay⟩
  rw [appended, Function.update_eq_self_iff]
  simp [number?]

theorem number_set {office : Office} {task : TaskId} {before : Visit}
    (held : office.visits[task]? = some before) (visit : Visit) (sequencer : Sequencer)
    (journal : List Deed) :
    (Office.mk sequencer (office.visits.set task visit) journal).number? =
      Function.update office.number? task visit.number? := by
  obtain ⟨inside, -⟩ := List.getElem?_eq_some_iff.mp held
  exact lookup_set Visit.number? inside visit

theorem number_set_none {office : Office} {task : TaskId} {before : Visit}
    (held : office.visits[task]? = some before) (underWay : before.fate = .underWay)
    {visit : Visit} (none : visit.number? = none) (sequencer : Sequencer)
    (journal : List Deed) :
    (Office.mk sequencer (office.visits.set task visit) journal).number? = office.number? := by
  rw [number_set held, none, Function.update_eq_self_iff]
  simp [number?, held, Visit.number?, underWay]

theorem told_iff (account : AccountId) (office : Office) (act : Act) (number : Nat) :
    told? account office act = some number ↔ ∃ task errand,
      act = .advances task (some (.nonce (.ok number))) ∧ office.errands task = some errand ∧
        errand.account = account ∧ errand.stage = .asking := by
  constructor
  · intro told
    unfold told? at told
    split at told
    next task answer =>
      split at told
      next errand held =>
        split at told
        next asking =>
          cases told
          exact ⟨task, errand, rfl, held, asking⟩
        next => cases told
      next => cases told
    next => cases told
  · rintro ⟨task, errand, rfl, held, own, stage⟩
    simp [told?, held, own, stage]

theorem perform_advances {office : Office} {task : TaskId} {visit : Visit}
    (held : office.visits[task]? = some visit) (underWay : visit.fate = .underWay)
    {answer : Option Answer} {sequencer : Sequencer} {progress : Progress Errand Errand.Result}
    (step : visit.errand.advance task office.sequencer answer = (sequencer, progress)) :
    office.perform (.advances task answer) =
      ⟨sequencer, office.visits.set task (visit.after progress),
        office.journal ++ visit.deeds progress⟩ := by
  obtain ⟨caller, errand, fate⟩ := visit
  subst underWay
  simp only [perform, held, step]

theorem turn_of_told {account : AccountId} {office : Office} {act : Act} {next : Nat}
    (disciplined : Disciplined office.sequencer office.errands)
    (told : told? account office act = some next) (small : next + 1 < Allocator.limit) :
    Turn account office act (office.perform act) := by
  obtain ⟨task, errand, rfl, held, rfl, stage⟩ := (told_iff account office act next).mp told
  obtain ⟨visit, inside, rfl, underWay⟩ := visit_of_errand held
  obtain ⟨-, head, unknown⟩ := disciplined.asking task visit.errand held stage
  have taken : (office.sequencer.allocator visit.errand.account).take next =
      some (next, ⟨some (next + 1), []⟩) := by
    simp [Allocator.take, (disciplined.wellFormed visit.errand.account).unknown unknown, small]
  rw [perform_advances inside underWay (Errand.advance_told stage taken task)]
  exact .serves task _ next next _ rfl ((Sequencer.is_head_iff _ _ _).mp head) taken (by simp)
    (number_set inside _ _ _) (Or.inr ⟨unknown, told⟩)

theorem turn_of_silent {account : AccountId} {office after : Office} {act : Act}
    (reserving : OnlyReserving account office) (silent : told? account office act = none)
    (performs : Performs office act after) : Turn account office act after := by
  cases performs with
  | stays => exact .idle silent rfl fun _ _ => rfl
  | enters caller other purpose cause =>
      exact .idle silent rfl fun task _ =>
        congrFun (number_enter office caller other purpose) task
  | abandons task visit held underWay =>
      refine .idle silent (Errand.allocator_abandon task office.sequencer visit.errand account) ?_
      exact fun other _ => congrFun (number_set_none held underWay rfl _ _) other
  | advances task answer visit held underWay sequencer progress moves =>
      have known := errands_of_under_way held underWay
      by_cases own : visit.errand.account = account
      · subst own
        have unserved : (∀ number, progress ≠ .ends (.reserved number)) →
            (visit.after progress).number? = none := by
          intro unserved
          cases progress with
          | waits => simp [Visit.after, Visit.number?, underWay]
          | goesOn errand request => simp [Visit.after, Visit.number?, underWay]
          | ends result =>
              cases result with
              | reserved number => exact absurd rfl (unserved number)
              | exhausted | failed | done => rfl
        have idle : sequencer.allocator visit.errand.account =
            office.sequencer.allocator visit.errand.account →
            (∀ number, progress ≠ .ends (.reserved number)) →
              Turn visit.errand.account office (.advances task answer)
                ⟨sequencer, office.visits.set task (visit.after progress),
                  office.journal ++ visit.deeds progress⟩ :=
          fun same none => .idle silent same fun other _ =>
            congrFun (number_set_none held underWay (unserved none) _ _) other
        cases moves with
        | arrives stage => exact idle (by simp) (by simp)
        | waits stage => exact idle rfl (by simp)
        | asks stage purpose head unknown => exact idle rfl (by simp)
        | exhausts next stage source purpose refused => exact idle (by simp) (by simp)
        | fails cause stage told => exact idle (by simp) (by simp)
        | takesKnown next number allocator stage purpose head counted taken =>
            exact .serves task answer next number allocator rfl
              ((Sequencer.is_head_iff _ _ _).mp head) taken (by simp) (number_set held _ _ _)
              (Or.inl ⟨counted, silent⟩)
        | takesTold next number allocator stage told taken =>
            -- Then the ledger did tell a number.
            have answered : told? visit.errand.account office (.advances task answer) = some next :=
              (told_iff _ _ _ _).mpr ⟨task, visit.errand, told ▸ rfl, known, rfl, stage⟩
            cases silent.symm.trans answered
        | givesBack number stage purpose head =>
            cases purpose.symm.trans (reserving task visit held rfl)
        | forgets stage purpose head =>
            cases purpose.symm.trans (reserving task visit held rfl)
      · refine .idle silent (moves.other_account own) ?_
        intro other present
        have different : other ≠ task := by
          rintro rfl
          exact own (present visit held)
        rw [number_set held, Function.update_of_ne different]

theorem account_of_returnable {office : Office} {caller : TaskId} {account : AccountId}
    {number : Nat} (mine : office.returnable? caller = some (account, number)) :
    ∃ visit, office.visits[caller]? = some visit ∧ visit.errand.account = account := by
  unfold returnable? at mine
  split at mine
  next own errand given found =>
    split at mine
    next => cases mine
    next =>
      obtain ⟨same, -⟩ := Prod.mk.inj (Option.some.inj mine)
      exact ⟨_, found, same⟩
  next => cases mine

theorem Performs.only_reserving {office after : Office} {act : Act} {account : AccountId}
    (performs : Performs office act after) (reserving : OnlyReserving account office)
    (peaceful : ¬Disturbs account office act) : OnlyReserving account after := by
  have replaced : ∀ {task : TaskId} {visit next : Visit} sequencer journal,
      office.visits[task]? = some visit → next.errand.account = visit.errand.account →
        next.errand.purpose = visit.errand.purpose →
          OnlyReserving account ⟨sequencer, office.visits.set task next, journal⟩ := by
    intro task visit next sequencer journal held sameAccount samePurpose other present found own
    obtain ⟨inside, -⟩ := List.getElem?_eq_some_iff.mp held
    by_cases same : task = other
    · subst same
      obtain rfl : next = present := by simpa [inside] using found
      exact samePurpose.trans (reserving task visit held (sameAccount.symm.trans own))
    · rw [List.getElem?_set_ne same] at found
      exact reserving other present found own
  cases performs with
  | stays => exact reserving
  | enters caller other purpose cause =>
      intro task visit held own
      rcases enter_visit held with earlier | ⟨-, rfl⟩
      · exact reserving task visit earlier own
      · rcases cause with ⟨-, -, same⟩ | ⟨rfl, -, -⟩ | ⟨number, rfl, -, mine⟩
        · exact same
        · exact absurd own peaceful
        · obtain ⟨visit, found, same⟩ := account_of_returnable mine
          exact absurd ⟨visit, found, same.trans own⟩ peaceful
  | advances task answer visit held underWay sequencer progress moves =>
      obtain ⟨sameAccount, samePurpose⟩ := Visit.after_same moves
      exact replaced _ _ held sameAccount samePurpose
  | abandons task visit held underWay => exact replaced _ _ held rfl rfl

/-- The count of an account together with what was taken from the ledger and what was handed out:
nothing yet, or everything from the ledger's number on. -/
inductive Counted (allocator : Allocator) : List Nat → List Nat → Prop where
  | unasked (fresh : allocator = Allocator.start) : Counted allocator [] []
  | counting (first count : Nat) (known : allocator = ⟨some (first + count + 1), []⟩) :
      Counted allocator [first] (List.range' first (count + 1))

structure Succession (account : AccountId) (office : Office) (holders : List TaskId)
    (tellings : List Nat) : Prop where
  inOrder : InOrder account office holders
  reserving : OnlyReserving account office
  /-- Nobody gets a number without having been the head of the line. -/
  served : ∀ (task : TaskId) visit, office.visits[task]? = some visit →
    visit.errand.account = account → office.number? task ≠ none → task ∈ holders
  counted : Counted (office.sequencer.allocator account) tellings
    (holders.filterMap office.number?)

theorem succession_start (account : AccountId) : Succession account start [] [] where
  inOrder := ⟨by simp, by simp, by simp, by
    intro task head
    simp [holder?, start, Sequencer.line_start] at head⟩
  reserving := by
    intro task visit held
    simp [start] at held
  served := by
    intro task visit held
    simp [start] at held
  counted := .unasked (Sequencer.allocator_start account)

theorem succeeds_unserved {account : AccountId} {office : Office} {act : Act}
    (disciplined : Disciplined (office.perform act).sequencer (office.perform act).errands) :
    (succeeds? account office act).toList.filterMap (office.perform act).number? = [] := by
  rw [succeeds?]
  split
  next => rfl
  next =>
    cases head : (office.perform act).holder? account with
    | none => rfl
    | some task =>
        obtain ⟨errand, held, -⟩ := holder_errand disciplined head
        simp [number_of_errand held]

/-- A number is counted on from the last one, or begins the count as the ledger told it. -/
theorem Counted.serve {allocator after : Allocator} {tellings numbers : List Nat}
    (counted : Counted allocator tellings numbers) {next number : Nat} {told : Option Nat}
    (taken : allocator.take next = some (number, after))
    (source : allocator.next = some next ∧ told = none ∨
      allocator.next = none ∧ told = some next) :
    Counted after (tellings ++ told.toList) (numbers ++ [number]) := by
  cases counted with
  | unasked fresh =>
      subst fresh
      obtain ⟨⟨⟩, -⟩ | ⟨-, rfl⟩ := source
      obtain ⟨rfl, -, rfl⟩ := Allocator.take_unknown Allocator.start_well_formed rfl taken
      exact .counting number 0 rfl
  | counting first count known =>
      subst known
      obtain ⟨same, rfl⟩ | ⟨⟨⟩, -⟩ := source
      obtain rfl : first + count + 1 = next := Option.some.inj same
      simp only [Allocator.take] at taken
      split at taken
      next small =>
        obtain ⟨rfl, rfl⟩ := Prod.mk.inj (Option.some.inj taken)
        have longer : List.range' first (count + 1) ++ [first + count + 1] =
            List.range' first (count + 1 + 1) := List.range'_1_concat.symm
        rw [longer]
        exact .counting first (count + 1) rfl
      next => cases taken

theorem Turn.counted {account : AccountId} {office after : Office} {act : Act}
    {holders : List TaskId} {tellings : List Nat} (turn : Turn account office act after)
    (disciplined : Disciplined office.sequencer office.errands)
    (succession : Succession account office holders tellings) :
    Counted (after.sequencer.allocator account)
      (tellings ++ (told? account office act).toList) (holders.filterMap after.number?) := by
  have counted := succession.counted
  cases turn with
  | idle silent unchanged unserved =>
      have same : holders.filterMap after.number? = holders.filterMap office.number? := by
        apply List.filterMap_congr
        intro task member
        obtain ⟨visit, held, own⟩ := succession.inOrder.own task member
        exact unserved task fun other found => by
          rw [← Option.some.inj (held.symm.trans found)]
          exact own
      rw [silent, Option.toList_none, List.append_nil, unchanged, same]
      exact counted
  | serves task answer next number allocator served head taken changed given source =>
      -- The head is the last in the order so far, so its number goes behind all others.
      obtain ⟨front, rfl⟩ := List.getLast?_eq_some_iff.mp (succession.inOrder.present task head)
      have apart := (List.nodup_append.mp succession.inOrder.once).2.2
      obtain ⟨errand, held, -⟩ := holder_errand disciplined head
      have before : (front ++ [task]).filterMap office.number? =
          front.filterMap office.number? := by
        simp [List.filterMap_append, number_of_errand held]
      have now : (front ++ [task]).filterMap after.number? =
          front.filterMap office.number? ++ [number] := by
        rw [List.filterMap_append, given]
        congr 1
        · apply List.filterMap_congr
          intro other member
          rw [Function.update_of_ne (apart other member task (List.mem_singleton_self task))]
        · simp
      rw [before] at counted
      rw [now, changed]
      exact counted.serve taken (source.imp_right id)

theorem Turn.served {account : AccountId} {office after : Office} {act : Act}
    {holders : List TaskId} {tellings : List Nat} (turn : Turn account office act after)
    (performs : Performs office act after)
    (succession : Succession account office holders tellings) {task : TaskId} {visit : Visit}
    (held : after.visits[task]? = some visit) (own : visit.errand.account = account)
    (served : after.number? task ≠ none) : task ∈ holders := by
  have owned : ∀ former, office.visits[task]? = some former →
      former.errand.account = account := by
    intro former before
    obtain ⟨next, kept, same, -⟩ := performs.visits_kept before
    obtain rfl : next = visit := Option.some.inj (kept.symm.trans held)
    exact same.symm.trans own
  have earlier : office.number? task ≠ none → task ∈ holders := by
    intro before
    cases former : office.visits[task]? with
    | none => simp [number?, former] at before
    | some visit => exact succession.served task visit former (owned visit former) before
  cases turn with
  | idle silent unchanged unserved => exact earlier (unserved task owned ▸ served)
  | serves head answer next number allocator act isHead taken changed given source =>
      by_cases same : task = head
      · subst same
        exact List.mem_of_getLast? (succession.inOrder.present task isHead)
      · rw [given, Function.update_of_ne same] at served
        exact earlier served

theorem Succession.turn {account : AccountId} {office : Office} {holders : List TaskId}
    {tellings : List Nat} (succession : Succession account office holders tellings) {act : Act}
    (disciplined : Disciplined office.sequencer office.errands)
    (small : ∀ next, told? account office act = some next → next + 1 < Allocator.limit) :
    Turn account office act (office.perform act) := by
  cases told : told? account office act with
  | none => exact turn_of_silent succession.reserving told (perform_performs office act)
  | some next => exact turn_of_told disciplined told (small next told)

theorem Succession.step {account : AccountId} {office : Office} {holders : List TaskId}
    {tellings : List Nat} (succession : Succession account office holders tellings) {act : Act}
    (disciplined : Disciplined office.sequencer office.errands)
    (peaceful : ¬Disturbs account office act)
    (small : ∀ next, told? account office act = some next → next + 1 < Allocator.limit) :
    Succession account (office.perform act) (holders ++ (succeeds? account office act).toList)
      (tellings ++ (told? account office act).toList) := by
  have performs := perform_performs office act
  have later := performs.disciplined disciplined
  have turn := succession.turn disciplined small
  constructor
  · exact succession.inOrder.step later performs rfl
  · exact performs.only_reserving succession.reserving peaceful
  · intro task visit held own served
    exact List.mem_append_left _ (turn.served performs succession held own served)
  · rw [List.filterMap_append, succeeds_unserved later, List.append_nil]
    exact turn.counted disciplined succession

/-- What holds of the succession after a whole run, as long as the ledger does not tell the last
number there is. -/
theorem succession_run {account : AccountId} {acts : List Act}
    (undisturbed : Undisturbed account acts)
    (small : ∀ next ∈ tellings account acts, next + 1 < Allocator.limit) :
    Succession account (run acts) (holders account acts) (tellings account acts) := by
  induction acts using List.reverseRecOn with
  | nil => exact succession_start account
  | append_singleton acts act induction =>
      obtain ⟨before, peaceful⟩ := undisturbed_snoc undisturbed
      rw [tellings, record_snoc] at small
      have succession := induction before fun next member =>
        small next (List.mem_append_left _ member)
      rw [run_snoc, holders, tellings, record_snoc, record_snoc]
      apply succession.step (disciplined_run acts) peaceful
      intro next told
      exact small next (List.mem_append_right _ (by simp [told]))

theorem Counted.consecutive {allocator : Allocator} {tellings numbers : List Nat}
    (counted : Counted allocator tellings numbers) :
    tellings.length ≤ 1 ∧
      numbers = tellings.flatMap fun first => List.range' first numbers.length := by
  cases counted with
  | unasked fresh => simp
  | counting first count known => simp

theorem visit_kept_over {office : Office} {task : TaskId} {visit : Visit}
    (held : office.visits[task]? = some visit) (ended : visit.fate ≠ .underWay)
    (acts : List Act) : (office.runFrom acts).visits[task]? = some visit := by
  induction acts generalizing office with
  | nil => exact held
  | cons act acts induction =>
      obtain ⟨next, kept, -, unchanged⟩ := (perform_performs office act).visits_kept held
      obtain rfl := unchanged ended
      exact induction kept

theorem fate_of_number {office : Office} {task : TaskId} {number : Nat}
    (numbered : office.number? task = some number) :
    ∃ visit, office.visits[task]? = some visit ∧ visit.fate = .finished (.reserved number) := by
  obtain ⟨visit, held, known⟩ := Option.bind_eq_some_iff.mp numbered
  refine ⟨visit, held, ?_⟩
  unfold Visit.number? at known
  split at known
  next found fate => rw [fate, Option.some.inj known]
  next => cases known

/-- The count of an account only changes for callers who are given a number. -/
theorem count_changes_for_served {account : AccountId} {acts front : List Act} {act : Act}
    (undisturbed : Undisturbed account acts)
    (small : ∀ next ∈ tellings account acts, next + 1 < Allocator.limit)
    (inside : front ++ [act] <+: acts) :
    (run (front ++ [act])).sequencer.allocator account =
        (run front).sequencer.allocator account ∨
      ∃ task answer visit number, act = .advances task answer ∧
        (run acts).visits[task]? = some visit ∧ visit.errand.account = account ∧
          visit.fate = .finished (.reserved number) := by
  obtain ⟨back, rfl⟩ := inside
  have disciplined := disciplined_run front
  obtain ⟨before, -⟩ := undisturbed_snoc fun other last within =>
    undisturbed other last (within.trans (List.prefix_append _ back))
  have told : ∀ next ∈ tellings account (front ++ [act]), next + 1 < Allocator.limit := by
    intro next member
    apply small next
    rw [tellings, record, record_from_append]
    exact List.mem_append_left _ member
  rw [tellings, record_snoc] at told
  have succession := succession_run before fun next member =>
    told next (List.mem_append_left _ member)
  have performs := perform_performs (run front) act
  -- Whoever is served by this act is served for good: nothing later touches a visit that is over.
  have turn : Turn account (run front) act ((run front).perform act) :=
    succession.turn disciplined fun next answered =>
      told next (List.mem_append_right _ (by simp [answered]))
  rw [run_snoc]
  cases turn with
  | idle silent unchanged unserved => exact Or.inl unchanged
  | serves task answer next number allocator served head taken changed given source =>
      right
      have numbered : ((run front).perform act).number? task = some number := by simp [given]
      obtain ⟨visit, held, fate⟩ := fate_of_number numbered
      obtain ⟨errand, under, own⟩ := holder_errand disciplined head
      obtain ⟨former, heldBefore, rfl, -⟩ := visit_of_errand under
      obtain ⟨same, kept, sameAccount, -⟩ := performs.visits_kept heldBefore
      obtain rfl : same = visit := Option.some.inj (kept.symm.trans held)
      have kept := visit_kept_over held (by simp [fate]) back
      rw [← run_snoc, ← run_append] at kept
      exact ⟨task, answer, same, number, served, kept, sameAccount.trans own, fate⟩

end Office

end LedgerCourier
