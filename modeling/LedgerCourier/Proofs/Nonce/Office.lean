import LedgerCourier.Proofs.Nonce.Line

/-!
# Callers at the sequencer

Any number of callers reserve numbers, give them back and have counts forgotten. Their errands
advance in any order, the ledger answers what it likes, and a caller may walk away at any time.
A caller gives back only a number that was handed out to it, and only once. The journal keeps
what was done to the counts, in the order in which it was done.
-/

namespace LedgerCourier

set_option autoImplicit false

inductive Visit.Fate where
  | underWay
  | finished (result : Errand.Result)
  | abandoned

structure Visit where
  caller : TaskId
  errand : Errand
  fate : Visit.Fate

/-- What was done to the count of an account, and for whom. -/
inductive Deed where
  | handedOut (account : AccountId) (caller : TaskId) (number : Nat)
  | givenBack (account : AccountId) (caller : TaskId) (number : Nat)
  | forgotten (account : AccountId)
deriving DecidableEq

namespace Visit

def errand? (visit : Visit) : Option Errand :=
  match visit.fate with
  | .underWay => some visit.errand
  | _ => none

def after (visit : Visit) : Progress Errand Errand.Result → Visit
  | .waits => visit
  | .goesOn errand _ => { visit with errand := errand }
  | .ends result => { visit with fate := .finished result }

def deeds (visit : Visit) : Progress Errand Errand.Result → List Deed
  | .ends (.reserved number) => [.handedOut visit.errand.account visit.caller number]
  | .ends .done =>
      match visit.errand.purpose with
      | .giveBack number => [.givenBack visit.errand.account visit.caller number]
      | .forget => [.forgotten visit.errand.account]
      | .reserve => []
  | _ => []

end Visit

structure Office where
  sequencer : Sequencer
  visits : List Visit
  journal : List Deed

namespace Office

inductive Act where
  | reserves (account : AccountId)
  | returns (caller : TaskId)
  | forgets (account : AccountId)
  | advances (task : TaskId) (answer : Option Answer)
  | abandons (task : TaskId)

def start : Office := ⟨Sequencer.start, [], []⟩

def errands (office : Office) (task : TaskId) : Option Errand :=
  office.visits[task]?.bind Visit.errand?

def enter (office : Office) (caller : TaskId) (account : AccountId) (purpose : Errand.Purpose) :
    Office :=
  { office with
    visits := office.visits ++ [⟨caller, Errand.start account purpose, .underWay⟩] }

/-- What a caller may give back: the number handed out to it, unless it was returned before. -/
def returnable? (office : Office) (caller : TaskId) : Option (AccountId × Nat) :=
  match office.visits[caller]? with
  | some ⟨_, errand, .finished (.reserved number)⟩ =>
      if office.visits.any fun visit =>
          visit.caller == caller && visit.errand.purpose != .reserve then none
      else some (errand.account, number)
  | _ => none

def perform (office : Office) : Act → Office
  | .reserves account => office.enter office.visits.length account .reserve
  | .forgets account => office.enter office.visits.length account .forget
  | .returns caller =>
      match office.returnable? caller with
      | some (account, number) => office.enter caller account (.giveBack number)
      | none => office
  | .advances task answer =>
      match office.visits[task]? with
      | some ⟨caller, errand, .underWay⟩ =>
          let visit : Visit := ⟨caller, errand, .underWay⟩
          let step := errand.advance task office.sequencer answer
          ⟨step.1, office.visits.set task (visit.after step.2),
            office.journal ++ visit.deeds step.2⟩
      | _ => office
  | .abandons task =>
      match office.visits[task]? with
      | some ⟨caller, errand, .underWay⟩ =>
          { office with
            sequencer := errand.abandon task office.sequencer
            visits := office.visits.set task ⟨caller, errand, .abandoned⟩ }
      | _ => office

def runFrom (office : Office) (acts : List Act) : Office := acts.foldl perform office

def run (acts : List Act) : Office := start.runFrom acts

@[simp] theorem run_from_nil (office : Office) : office.runFrom [] = office := rfl

theorem run_from_cons (office : Office) (act : Act) (acts : List Act) :
    office.runFrom (act :: acts) = (office.perform act).runFrom acts := rfl

theorem run_from_append (office : Office) (front back : List Act) :
    office.runFrom (front ++ back) = (office.runFrom front).runFrom back :=
  List.foldl_append

theorem run_append (front back : List Act) : run (front ++ back) = (run front).runFrom back :=
  run_from_append start front back

theorem run_snoc (acts : List Act) (act : Act) : run (acts ++ [act]) = (run acts).perform act :=
  run_append acts [act]

theorem errands_enter (office : Office) (caller : TaskId) (account : AccountId)
    (purpose : Errand.Purpose) :
    (office.enter caller account purpose).errands =
      Function.update office.errands office.visits.length (some (Errand.start account purpose)) :=
  lookup_append Visit.errand? office.visits ⟨caller, Errand.start account purpose, .underWay⟩

theorem errands_set {office : Office} {task : TaskId} {before : Visit}
    (held : office.visits[task]? = some before) (visit : Visit) (sequencer : Sequencer)
    (journal : List Deed) :
    (Office.mk sequencer (office.visits.set task visit) journal).errands =
      Function.update office.errands task visit.errand? := by
  obtain ⟨inside, -⟩ := List.getElem?_eq_some_iff.mp held
  exact lookup_set Visit.errand? inside visit

inductive Performs (office : Office) : Act → Office → Prop where
  | stays {act : Act} : Performs office act office
  | enters {act : Act} (caller : TaskId) (account : AccountId) (purpose : Errand.Purpose)
      (cause : (act = .reserves account ∧ caller = office.visits.length ∧ purpose = .reserve) ∨
        (act = .forgets account ∧ caller = office.visits.length ∧ purpose = .forget) ∨
        ∃ number, act = .returns caller ∧ purpose = .giveBack number ∧
          office.returnable? caller = some (account, number)) :
      Performs office act (office.enter caller account purpose)
  | advances (task : TaskId) (answer : Option Answer) (visit : Visit)
      (held : office.visits[task]? = some visit) (underWay : visit.fate = .underWay)
      (sequencer : Sequencer) (progress : Progress Errand Errand.Result)
      (moves : visit.errand.Moves task office.sequencer answer (sequencer, progress)) :
      Performs office (.advances task answer)
        ⟨sequencer, office.visits.set task (visit.after progress),
          office.journal ++ visit.deeds progress⟩
  | abandons (task : TaskId) (visit : Visit) (held : office.visits[task]? = some visit)
      (underWay : visit.fate = .underWay) :
      Performs office (.abandons task)
        { office with
          sequencer := visit.errand.abandon task office.sequencer
          visits := office.visits.set task { visit with fate := .abandoned } }

theorem perform_performs (office : Office) (act : Act) :
    Performs office act (office.perform act) := by
  cases act with
  | reserves account => exact .enters _ account _ (Or.inl ⟨rfl, rfl, rfl⟩)
  | forgets account => exact .enters _ account _ (Or.inr (Or.inl ⟨rfl, rfl, rfl⟩))
  | returns caller =>
      simp only [perform]
      split
      next account number mine =>
        exact .enters _ account _ (Or.inr (Or.inr ⟨number, rfl, rfl, mine⟩))
      next => exact .stays
  | advances task answer =>
      simp only [perform]
      split
      next caller errand held =>
        exact .advances task answer ⟨caller, errand, .underWay⟩ held rfl _ _
          (errand.advance_moves task office.sequencer answer)
      next => exact .stays
  | abandons task =>
      simp only [perform]
      split
      next caller errand held => exact .abandons task ⟨caller, errand, .underWay⟩ held rfl
      next => exact .stays

theorem errands_of_under_way {office : Office} {task : TaskId} {visit : Visit}
    (held : office.visits[task]? = some visit) (underWay : visit.fate = .underWay) :
    office.errands task = some visit.errand := by
  simp [errands, held, Visit.errand?, underWay]

theorem errand_after {visit : Visit} (underWay : visit.fate = .underWay)
    (progress : Progress Errand Errand.Result) :
    (visit.after progress).errand? = visit.errand.next? progress := by
  cases progress <;> simp [Visit.after, Visit.errand?, Errand.next?, underWay]

theorem run_induction {motive : Office → Prop} (initially : motive start)
    (kept : ∀ office act after, motive office → Performs office act after → motive after)
    (acts : List Act) : motive (run acts) := by
  have general : ∀ office, motive office → motive (office.runFrom acts) := by
    induction acts with
    | nil => exact fun office holds => holds
    | cons act acts induction =>
        intro office holds
        rw [run_from_cons]
        exact induction _ (kept office act _ holds (perform_performs office act))
  exact general start initially

theorem Performs.disciplined {office after : Office} {act : Act}
    (performs : Performs office act after)
    (disciplined : Disciplined office.sequencer office.errands) :
    Disciplined after.sequencer after.errands := by
  cases performs with
  | stays => exact disciplined
  | enters caller account purpose cause =>
      rw [errands_enter]
      refine disciplined.sets_out ?_ account purpose
      simp [errands]
  | advances task answer visit held underWay sequencer progress moves =>
      rw [errands_set held, errand_after underWay]
      exact disciplined.advances (errands_of_under_way held underWay) moves
  | abandons task visit held underWay =>
      rw [errands_set held]
      exact disciplined.abandons (errands_of_under_way held underWay)

theorem disciplined_run (acts : List Act) :
    Disciplined (run acts).sequencer (run acts).errands :=
  run_induction (motive := fun office => Disciplined office.sequencer office.errands)
    (Disciplined.start fun task => by simp [errands, start])
    (fun _ _ _ disciplined performs => performs.disciplined disciplined) acts

/-- Whom the visits and the deeds belong to. -/
structure Callers (office : Office) : Prop where
  owners : ∀ account caller number, .handedOut account caller number ∈ office.journal →
    ∃ visit, office.visits[caller]? = some visit ∧ visit.fate = .finished (.reserved number)
  returning : ∀ (task : TaskId) visit number, office.visits[task]? = some visit →
    visit.errand.purpose = .giveBack number →
      ∃ own, office.visits[visit.caller]? = some own ∧ own.fate = .finished (.reserved number)
  reserving : ∀ (task : TaskId) visit, office.visits[task]? = some visit →
    visit.errand.purpose = .reserve → visit.caller = task

theorem callers_start : Callers start where
  owners := by simp [start]
  returning := by simp [start]
  reserving := by simp [start]

theorem enter_visit {office : Office} {caller : TaskId} {account : AccountId}
    {purpose : Errand.Purpose} {task : Nat} {visit : Visit}
    (held : (office.enter caller account purpose).visits[task]? = some visit) :
    office.visits[task]? = some visit ∨ task = office.visits.length ∧
      visit = ⟨caller, Errand.start account purpose, .underWay⟩ := by
  rw [Office.enter, List.getElem?_append] at held
  split at held
  · exact Or.inl held
  next outside =>
    obtain ⟨inside, same⟩ := List.getElem?_eq_some_iff.mp held
    rw [List.length_singleton] at inside
    obtain rfl : task = office.visits.length := by omega
    exact Or.inr ⟨rfl, by simpa using same.symm⟩

theorem Callers.enter {office : Office} (callers : Callers office) (caller : TaskId)
    (account : AccountId) (purpose : Errand.Purpose)
    (own : purpose = .reserve → caller = office.visits.length)
    (returned : ∀ number, purpose = .giveBack number →
      ∃ visit, office.visits[caller]? = some visit ∧ visit.fate = .finished (.reserved number)) :
    Callers (office.enter caller account purpose) := by
  have kept : ∀ (task : TaskId) visit, office.visits[task]? = some visit →
      (office.enter caller account purpose).visits[task]? = some visit := by
    intro task visit held
    obtain ⟨inside, -⟩ := List.getElem?_eq_some_iff.mp held
    rw [Office.enter, List.getElem?_append_left inside]
    exact held
  constructor
  · intro other holder number given
    obtain ⟨visit, held, finished⟩ := callers.owners other holder number given
    exact ⟨visit, kept holder visit held, finished⟩
  · intro task visit number held returns
    rcases enter_visit held with held | ⟨-, rfl⟩
    · obtain ⟨first, own, finished⟩ := callers.returning task visit number held returns
      exact ⟨first, kept _ first own, finished⟩
    · obtain ⟨first, own, finished⟩ := returned number returns
      exact ⟨first, kept _ first own, finished⟩
  · intro task visit held reserves
    rcases enter_visit held with held | ⟨rfl, rfl⟩
    · exact callers.reserving task visit held reserves
    · exact own reserves

theorem Callers.set {office : Office} (callers : Callers office) {task : TaskId}
    {visit : Visit} (held : office.visits[task]? = some visit) (next : Visit)
    (underWay : visit.fate = .underWay) (sameCaller : next.caller = visit.caller)
    (samePurpose : next.errand.purpose = visit.errand.purpose) (sequencer : Sequencer)
    (deeds : List Deed)
    (owned : ∀ account caller number, .handedOut account caller number ∈ deeds →
      caller = task ∧ next.fate = .finished (.reserved number)) :
    Callers ⟨sequencer, office.visits.set task next, office.journal ++ deeds⟩ := by
  obtain ⟨inside, -⟩ := List.getElem?_eq_some_iff.mp held
  have kept : ∀ (other : TaskId) own number, office.visits[other]? = some own →
      own.fate = .finished (.reserved number) →
        (office.visits.set task next)[other]? = some own := by
    intro other own number found finished
    have different : task ≠ other := by
      rintro rfl
      obtain rfl : visit = own := Option.some.inj (held.symm.trans found)
      rw [underWay] at finished
      cases finished
    rw [List.getElem?_set_ne different]
    exact found
  have known : ∀ (other : TaskId) own, (office.visits.set task next)[other]? = some own →
      ∃ former, office.visits[other]? = some former ∧ own.caller = former.caller ∧
        own.errand.purpose = former.errand.purpose := by
    intro other own found
    by_cases same : task = other
    · subst same
      obtain rfl : next = own := by simpa [inside] using found
      exact ⟨visit, held, sameCaller, samePurpose⟩
    · rw [List.getElem?_set_ne same] at found
      exact ⟨own, found, rfl, rfl⟩
  constructor
  · intro account caller number given
    rcases List.mem_append.mp given with earlier | new
    · obtain ⟨own, found, finished⟩ := callers.owners account caller number earlier
      exact ⟨own, kept caller own number found finished, finished⟩
    · obtain ⟨rfl, finished⟩ := owned account caller number new
      exact ⟨next, by simp [inside], finished⟩
  · intro other own number found returns
    obtain ⟨former, before, caller, purpose⟩ := known other own found
    obtain ⟨first, first_held, finished⟩ :=
      callers.returning other former number before (purpose.symm.trans returns)
    exact ⟨first, caller ▸ kept _ first number first_held finished, finished⟩
  · intro other own found reserves
    obtain ⟨former, before, caller, purpose⟩ := known other own found
    exact caller.trans (callers.reserving other former before (purpose.symm.trans reserves))

theorem Performs.callers {office after : Office} {act : Act} (performs : Performs office act after)
    (disciplined : Disciplined office.sequencer office.errands) (callers : Callers office) :
    Callers after := by
  cases performs with
  | stays => exact callers
  | enters caller account purpose cause =>
      rcases cause with ⟨-, own, first⟩ | ⟨-, own, first⟩ | ⟨number, -, rfl, mine⟩
      · exact callers.enter caller account purpose (fun _ => own) (by simp [first])
      · exact callers.enter caller account purpose (fun _ => own) (by simp [first])
      · apply callers.enter caller account _ (by simp)
        intro other same
        obtain rfl : number = other := by simpa using same
        unfold returnable? at mine
        split at mine
        next own errand given found =>
          split at mine
          · cases mine
          · obtain ⟨rfl, rfl⟩ : errand.account = account ∧ given = number := by simpa using mine
            exact ⟨_, found, rfl⟩
        next => cases mine
  | advances task answer visit held underWay sequencer progress moves =>
      refine callers.set held _ underWay ?_ ?_ sequencer _ ?_
      · cases progress <;> rfl
      · cases progress with
        | waits => rfl
        | goesOn errand request => exact moves.same_errand.2
        | ends result => rfl
      · intro account caller number given
        cases progress with
        | waits => simp [Visit.deeds] at given
        | goesOn errand request => simp [Visit.deeds] at given
        | ends result =>
            cases result with
            | reserved found =>
                obtain ⟨-, rfl, rfl⟩ : account = visit.errand.account ∧ caller = visit.caller ∧
                  number = found := by simpa [Visit.deeds] using given
                have purpose := disciplined.reserves (errands_of_under_way held underWay) moves
                exact ⟨callers.reserving task visit held purpose, rfl⟩
            | exhausted => simp [Visit.deeds] at given
            | failed cause => simp [Visit.deeds] at given
            | done =>
                simp only [Visit.deeds] at given
                split at given <;> simp at given
  | abandons task visit held underWay =>
      have gone : Callers ⟨visit.errand.abandon task office.sequencer,
          office.visits.set task { visit with fate := .abandoned }, office.journal ++ []⟩ :=
        callers.set held { visit with fate := .abandoned } underWay rfl rfl _ [] (by simp)
      simpa using gone

end Office

end LedgerCourier
