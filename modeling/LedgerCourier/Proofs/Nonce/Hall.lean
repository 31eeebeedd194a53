import LedgerCourier.Proofs.Nonce.Line
import Mathlib.Data.Set.Operations
import Mathlib.Order.Bounds.Defs

/-!
# The count of an account hands out the least free number

Any number of errands are under way, for any accounts and for any purpose: a number may be given
back by somebody who never had it, twice, or although it was never handed out. They advance in any
order, the ledger answers what it likes, and anybody may leave at any time. However the count of an
account came about, it is the only one with its numbers in use, and whatever is done to it can be
said of those numbers alone.
-/

namespace LedgerCourier

set_option autoImplicit false

structure Hall where
  sequencer : Sequencer
  errands : List (Option Errand)

def Progress.result? {Task Result : Type} : Progress Task Result → Option Result
  | .ends result => some result
  | _ => none

namespace Hall

inductive Act where
  | comes (account : AccountId) (purpose : Errand.Purpose)
  | advances (task : TaskId) (answer : Option Answer)
  | leaves (task : TaskId)

def Act.told? : Act → Option Nat
  | .advances _ (some (.nonce (.ok number))) => some number
  | _ => none

def start : Hall := ⟨Sequencer.start, []⟩

def standing (hall : Hall) (task : TaskId) : Option Errand := hall.errands[task]?.bind id

def allocator (hall : Hall) (account : AccountId) : Allocator := hall.sequencer.allocator account

def perform (hall : Hall) : Act → Hall
  | .comes account purpose =>
      { hall with errands := hall.errands ++ [some (Errand.start account purpose)] }
  | .advances task answer =>
      match hall.standing task with
      | some errand =>
          let step := errand.advance task hall.sequencer answer
          ⟨step.1, hall.errands.set task (errand.next? step.2)⟩
      | none => hall
  | .leaves task =>
      match hall.standing task with
      | some errand => ⟨errand.abandon task hall.sequencer, hall.errands.set task none⟩
      | none => hall

def run (acts : List Act) : Hall := acts.foldl perform start

/-- The purpose of the errand for an account that is over with an act, and its result. -/
def served? (hall : Hall) (account : AccountId) : Act → Option (Errand.Purpose × Errand.Result)
  | .advances task answer =>
      match hall.standing task with
      | some errand =>
          if errand.account = account then
            (errand.advance task hall.sequencer answer).2.result?.map (errand.purpose, ·)
          else none
      | none => none
  | _ => none

theorem standing_set {hall : Hall} {task : TaskId} {errand : Errand}
    (held : hall.standing task = some errand) (next : Option Errand) (sequencer : Sequencer) :
    (Hall.mk sequencer (hall.errands.set task next)).standing =
      Function.update hall.standing task next := by
  obtain ⟨place, found, -⟩ := Option.bind_eq_some_iff.mp held
  obtain ⟨inside, -⟩ := List.getElem?_eq_some_iff.mp found
  exact lookup_set id inside next

theorem perform_disciplined {hall : Hall} (disciplined : Disciplined hall.sequencer hall.standing)
    (act : Act) : Disciplined (hall.perform act).sequencer (hall.perform act).standing := by
  cases act with
  | comes account purpose =>
      have entered : (hall.perform (.comes account purpose)).standing =
          Function.update hall.standing hall.errands.length
            (some (Errand.start account purpose)) :=
        lookup_append id hall.errands (some (Errand.start account purpose))
      rw [entered]
      exact disciplined.sets_out (by simp [standing]) account purpose
  | advances task answer =>
      simp only [perform]
      split
      next errand held =>
        rw [standing_set held]
        exact disciplined.advances held (errand.advance_moves task hall.sequencer answer)
      next => exact disciplined
  | leaves task =>
      simp only [perform]
      split
      next errand held =>
        rw [standing_set held]
        exact disciplined.abandons held
      next => exact disciplined

theorem run_disciplined (acts : List Act) :
    Disciplined (run acts).sequencer (run acts).standing := by
  have general : ∀ hall : Hall, Disciplined hall.sequencer hall.standing →
      Disciplined (acts.foldl perform hall).sequencer (acts.foldl perform hall).standing := by
    -- the acts are taken from the front, so this is said of every hall they may start in
    induction acts with
    | nil => exact fun hall disciplined => disciplined
    | cons act acts induction =>
        intro hall disciplined
        exact induction _ (perform_disciplined disciplined act)
  exact general start (Disciplined.start fun task => by simp [standing, start])

theorem run_well_formed (acts : List Act) (account : AccountId) :
    ((run acts).allocator account).WellFormed :=
  (run_disciplined acts).wellFormed account

end Hall

namespace Allocator

/-- What becomes of a count, where the ledger tells a number, by an errand that is over. -/
inductive Serves (count : Allocator) (told : Option Nat) :
    Option (Errand.Purpose × Errand.Result) → Allocator → Prop where
  | nobody : Serves count told none count
  | handsOut (number : Nat) (after : Allocator) (known : count.next ≠ none)
      (still : after.next ≠ none) (least : IsLeast {other | count.uses other = false} number)
      (used : ∀ other, after.uses other = true ↔ count.uses other = true ∨ other = number) :
      Serves count told (some (.reserve, .reserved number)) after
  | begins (number : Nat) (after : Allocator) (unknown : count.next = none)
      (heard : told = some number) (used : ∀ other, after.uses other = true ↔ other ≤ number) :
      Serves count told (some (.reserve, .reserved number)) after
  | refuses (empty : count.released = [])
      (last : count.next = some (limit - 1) ∨ count.next = none ∧
        ∃ number, told = some number ∧ (number < limit → number = limit - 1)) :
      Serves count told (some (.reserve, .exhausted)) count
  | misses (cause : Failure) (unknown : count.next = none) :
      Serves count told (some (.reserve, .failed cause)) count
  | takesBack (number : Nat) (after : Allocator)
      (unknown : count.next = none → after = count) (known : count.next ≠ none → after.next ≠ none)
      (used : ∀ other, after.uses other = true ↔ count.uses other = true ∧ other ≠ number) :
      Serves count told (some (.giveBack number, .done)) after
  | forgets : Serves count told (some (.forget, .done)) start

theorem take_known_least {count after : Allocator} {next number : Nat}
    (wellFormed : count.WellFormed) (known : count.next = some next)
    (taken : count.take next = some (number, after)) :
    IsLeast {other | count.uses other = false} number := by
  obtain ⟨-, -, free, lower, -⟩ := take_known wellFormed known taken
  refine ⟨free, ?_⟩
  intro other unused
  by_contra smaller
  rw [Set.mem_ofPred_eq, lower other (by omega)] at unused
  cases unused

theorem take_known_serves {count after : Allocator} {next number : Nat}
    (wellFormed : count.WellFormed) (known : count.next = some next)
    (taken : count.take next = some (number, after)) (told : Option Nat) :
    count.Serves told (some (.reserve, .reserved number)) after := by
  obtain ⟨-, still, -, -, used⟩ := take_known wellFormed known taken
  exact .handsOut number after (by simp [known]) still (take_known_least wellFormed known taken)
    used

theorem take_told_serves {count after : Allocator} {next number : Nat}
    (wellFormed : count.WellFormed) (unknown : count.next = none)
    (taken : count.take next = some (number, after)) :
    count.Serves (some next) (some (.reserve, .reserved number)) after := by
  obtain ⟨rfl, -, rfl⟩ := take_unknown wellFormed unknown taken
  refine .begins number _ unknown rfl ?_
  intro other
  rw [uses_of_known rfl]
  simp only [List.not_mem_nil, not_false_eq_true, and_true]
  omega

theorem give_back_serves {count : Allocator} (wellFormed : count.WellFormed) (number : Nat)
    (told : Option Nat) :
    count.Serves told (some (.giveBack number, .done)) (count.giveBack number) := by
  obtain ⟨-, unknown, used⟩ := give_back_spec wellFormed number
  refine .takesBack number _ ?_ (mt unknown.mp) used
  intro unknown
  simp [giveBack, unknown]

end Allocator

namespace Errand

theorem served_at_head {task : TaskId} {sequencer : Sequencer} {errand : Errand}
    (stage : errand.stage = .inLine) (head : sequencer.isHead errand.account task = true)
    (known : errand.purpose = .reserve → (sequencer.allocator errand.account).next ≠ none)
    (answer : Option Answer) : (errand.advance task sequencer answer).2.result? ≠ none := by
  simp only [advance, stage, head, serve, if_true]
  cases purpose : errand.purpose with
  | giveBack number => simp [Progress.result?]
  | forget => simp [Progress.result?]
  | reserve =>
      obtain ⟨next, same⟩ := Option.ne_none_iff_exists'.mp (known purpose)
      simp only [same, takeNumber]
      split <;> simp [Progress.result?]

theorem advance_arriving {task : TaskId} {sequencer : Sequencer} {errand : Errand}
    (stage : errand.stage = .arriving) (answer : Option Answer) :
    errand.advance task sequencer answer =
      (sequencer.enter errand.account task, .goesOn { errand with stage := .inLine } none) := by
  simp only [advance, stage]

theorem asks_at_head {task : TaskId} {sequencer : Sequencer} {errand : Errand}
    (stage : errand.stage = .inLine) (head : sequencer.isHead errand.account task = true)
    (reserves : errand.purpose = .reserve)
    (unknown : (sequencer.allocator errand.account).next = none) (answer : Option Answer) :
    errand.advance task sequencer answer =
      (sequencer, .goesOn { errand with stage := .asking } (some (.nonce errand.account))) := by
  simp only [advance, stage, head, serve, reserves, unknown, if_true]

theorem served_when_told {task : TaskId} {sequencer : Sequencer} {errand : Errand}
    (stage : errand.stage = .asking) (told : Except Failure Nat) :
    (errand.advance task sequencer (some (.nonce told))).2.result? ≠ none := by
  simp only [advance, stage]
  cases told with
  | error cause => simp [Progress.result?]
  | ok next =>
      simp only [takeNumber]
      split <;> simp [Progress.result?]

theorem exhausted_in_line {task : TaskId} {sequencer : Sequencer} {errand : Errand}
    (stage : errand.stage = .inLine) {answer : Option Answer}
    (ended : (errand.advance task sequencer answer).2 = .ends .exhausted) :
    ∃ next, (sequencer.allocator errand.account).next = some next ∧
      (sequencer.allocator errand.account).take next = none := by
  simp only [advance, stage, serve] at ended
  split at ended
  · cases purpose : errand.purpose with
    | giveBack number => simp [purpose] at ended
    | forget => simp [purpose] at ended
    | reserve =>
        cases known : (sequencer.allocator errand.account).next with
        | none => simp [purpose, known] at ended
        | some next =>
            refine ⟨next, rfl, ?_⟩
            simp only [purpose, known, takeNumber] at ended
            split at ended
            · cases ended
            next refused => exact refused
  · cases ended

end Errand

namespace Hall

theorem refuses_serves {hall : Hall} (disciplined : Disciplined hall.sequencer hall.standing)
    {task : TaskId} {errand : Errand} (held : hall.standing task = some errand)
    {answer : Option Answer} {next : Nat} (stage : errand.stage ≠ .arriving)
    (source : errand.stage = .asking → answer = some (.nonce (.ok next)))
    (refused : (hall.allocator errand.account).take next = none)
    (ended : (errand.advance task hall.sequencer answer).2 = .ends .exhausted) :
    (hall.allocator errand.account).Serves (Act.told? (.advances task answer))
      (some (.reserve, .exhausted)) (hall.allocator errand.account) := by
  cases position : errand.stage with
  | arriving => exact absurd position stage
  | inLine =>
      obtain ⟨last, known, refused⟩ := Errand.exhausted_in_line position ended
      obtain ⟨empty, large⟩ := Allocator.take_refused refused
      have small := (disciplined.wellFormed errand.account).bounded last known
      obtain rfl : last = Allocator.limit - 1 := by omega
      exact .refuses empty (Or.inl known)
  | asking =>
      obtain ⟨-, -, unknown⟩ := disciplined.asking task errand held position
      obtain ⟨empty, large⟩ := Allocator.take_refused refused
      refine .refuses empty (Or.inr ⟨unknown, next, ?_, ?_⟩)
      · rw [source position]
        rfl
      · intro small
        omega

theorem advances_serves {hall : Hall} (disciplined : Disciplined hall.sequencer hall.standing)
    {task : TaskId} {errand : Errand} (held : hall.standing task = some errand)
    (answer : Option Answer) :
    (hall.allocator errand.account).Serves (Act.told? (.advances task answer))
      ((errand.advance task hall.sequencer answer).2.result?.map (errand.purpose, ·))
      ((errand.advance task hall.sequencer answer).1.allocator errand.account) := by
  have moves := errand.advance_moves task hall.sequencer answer
  have wellFormed := disciplined.wellFormed errand.account
  generalize step : errand.advance task hall.sequencer answer = outcome at moves
  cases moves with
  | arrives stage =>
      rw [Sequencer.allocator_enter]
      exact .nobody
  | waits stage => exact .nobody
  | asks stage purpose head unknown => exact .nobody
  | takesKnown next number after stage purpose head known taken =>
      simp only [Progress.result?, purpose, Option.map_some, Sequencer.allocator_leave,
        Sequencer.allocator_with_allocator, if_true]
      exact Allocator.take_known_serves wellFormed known taken _
  | takesTold next number after stage told taken =>
      obtain ⟨purpose, -, unknown⟩ := disciplined.asking task errand held stage
      simp only [Progress.result?, purpose, Option.map_some, Sequencer.allocator_leave,
        Sequencer.allocator_with_allocator, if_true, told]
      exact Allocator.take_told_serves wellFormed unknown taken
  | exhausts next stage source purpose refused =>
      -- nothing in the step itself says what an errand that was told a number is for
      have reserves : errand.purpose = .reserve := by
        cases position : errand.stage with
        | arriving => exact absurd position stage
        | inLine => exact purpose position
        | asking => exact (disciplined.asking task errand held position).1
      simp only [Progress.result?, reserves, Option.map_some, Sequencer.allocator_leave]
      exact refuses_serves disciplined held stage source refused (congrArg Prod.snd step)
  | fails cause stage told =>
      obtain ⟨purpose, -, unknown⟩ := disciplined.asking task errand held stage
      simp only [Progress.result?, purpose, Option.map_some, Sequencer.allocator_leave]
      exact .misses cause unknown
  | givesBack number stage purpose head =>
      simp only [Progress.result?, purpose, Option.map_some, Sequencer.allocator_leave,
        Sequencer.allocator_with_allocator, if_true]
      exact Allocator.give_back_serves wellFormed number _
  | forgets stage purpose head =>
      simp only [Progress.result?, purpose, Option.map_some, Sequencer.allocator_leave,
        Sequencer.allocator_with_allocator, if_true]
      exact .forgets

theorem perform_serves {hall : Hall} (disciplined : Disciplined hall.sequencer hall.standing)
    (account : AccountId) (act : Act) :
    (hall.allocator account).Serves act.told? (hall.served? account act)
      ((hall.perform act).allocator account) := by
  cases act with
  | comes other purpose => exact .nobody
  | leaves task =>
      have same : (hall.perform (.leaves task)).allocator account = hall.allocator account := by
        simp only [perform]
        split
        · exact Errand.allocator_abandon ..
        · rfl
      rw [same]
      exact .nobody
  | advances task answer =>
      simp only [perform, served?]
      split
      next errand held =>
        split
        next same =>
          subst same
          exact advances_serves disciplined held answer
        next different =>
          have same : (errand.advance task hall.sequencer answer).1.allocator account =
              hall.sequencer.allocator account :=
            (errand.advance_moves task hall.sequencer answer).other_account different
          simp only [allocator, same]
          exact .nobody
      next => exact .nobody

/-- What can be said of the count of an account, and of whatever is done to it next. -/
structure IsLeastFree (account : AccountId) (hall : Hall) : Prop where
  /-- The last number before the end is in use, so nothing that was given back is next to it. -/
  low : ∀ next, (hall.allocator account).next = some next →
    ∀ number ∈ (hall.allocator account).released, number < next - 1
  bounded : ∀ next, (hall.allocator account).next = some next → next < Allocator.limit
  unknown : (hall.allocator account).next = none → (hall.allocator account).released = []
  sole : ∀ acts other, (hall.allocator account).next ≠ none →
    ((run acts).allocator other).next ≠ none →
      (∀ number, ((run acts).allocator other).uses number =
        (hall.allocator account).uses number) →
          (run acts).allocator other = hall.allocator account
  serves : ∀ act, (hall.allocator account).Serves act.told? (hall.served? account act)
    ((hall.perform act).allocator account)
  /-- The line is made of those who have entered it and are not over. -/
  line : ∀ task, task ∈ (hall.sequencer.counter account).line ↔
    ∃ errand, hall.standing task = some errand ∧ errand.account = account ∧
      errand.stage ≠ .arriving
  enters : ∀ task errand, hall.standing task = some errand → errand.account = account →
    errand.stage = .arriving → ∀ answer,
      (hall.perform (.advances task answer)).standing task =
          some { errand with stage := .inLine } ∧
        ((hall.perform (.advances task answer)).sequencer.counter account).line =
          (hall.sequencer.counter account).line ++ [task]
  /-- A reservation at the head of the line of an unknown count asks the ledger. -/
  asks : ∀ task errand, hall.standing task = some errand → errand.account = account →
    errand.stage = .inLine → hall.sequencer.isHead account task = true →
      errand.purpose = .reserve → (hall.allocator account).next = none → ∀ answer,
        (errand.advance task hall.sequencer answer).2 =
            .goesOn { errand with stage := .asking } (some (.nonce account)) ∧
          (hall.perform (.advances task answer)).standing task =
            some { errand with stage := .asking }
  /-- Whoever is at the head of the line is served, after the ledger was asked if need be. -/
  prompt : ∀ task errand, hall.standing task = some errand → errand.account = account →
    errand.stage = .inLine → hall.sequencer.isHead account task = true →
      (errand.purpose = .reserve → (hall.allocator account).next ≠ none) →
        ∀ answer, hall.served? account (.advances task answer) ≠ none
  answered : ∀ task errand, hall.standing task = some errand → errand.account = account →
    errand.stage = .asking → ∀ told,
      hall.served? account (.advances task (some (.nonce told))) ≠ none

/-- However a count came about, it belongs to the numbers that are in use, a reservation answers
the least one that is not, and nothing is refused but the last one. -/
theorem count_is_least_free (acts : List Act) (account : AccountId) :
    IsLeastFree account (run acts) := by
  have disciplined := run_disciplined acts
  have wellFormed := run_well_formed acts account
  refine ⟨?_, wellFormed.bounded, wellFormed.unknown, ?_, perform_serves disciplined account,
    disciplined.standing account, ?_, ?_, ?_, ?_⟩
  · intro next known number member
    have bound := wellFormed.below next known number member
    omega
  · intro others other known told same
    exact wellFormed.determined (run_well_formed others other) known told same
  · intro task errand held mine stage answer
    subst mine
    simp only [perform, held, Errand.advance_arriving stage]
    rw [standing_set held]
    simp [Errand.next?]
  · intro task errand held mine stage head reserves unknown answer
    subst mine
    simp only [perform, held, Errand.asks_at_head stage head reserves unknown]
    rw [standing_set held]
    simp [Errand.next?]
  · intro task errand held mine stage head known answer
    subst mine
    simpa [served?, held] using Errand.served_at_head stage head known answer
  · intro task errand held mine stage told
    subst mine
    simpa [served?, held] using Errand.served_when_told stage told

def outcomes (account : AccountId) (hall : Hall) : List Act → List (Errand.Purpose × Errand.Result)
  | [] => []
  | act :: acts =>
      (hall.served? account act).toList ++ (hall.perform act).outcomes account acts

def visit (account : AccountId) (purpose : Errand.Purpose) (task : TaskId) : List Act :=
  [.comes account purpose, .advances task none, .advances task none]

/-- The second reservation waits in line while the ledger is asked for the first one. The number
that is given back, twice, is handed out before a fresh one, and after everything was forgotten
the ledger is asked once more. -/
theorem returned_number_comes_first :
    let account := Bytes32.fill 1
    let acts : List Act := visit account .reserve 0 ++ visit account .reserve 1 ++
      [.advances 0 (some (.nonce (.ok 5))), .advances 1 none] ++
      visit account (.giveBack 5) 2 ++ visit account (.giveBack 5) 3 ++ visit account .reserve 4 ++
      visit account .reserve 5 ++ visit account .forget 6 ++ visit account .reserve 7 ++
      [.advances 7 (some (.nonce (.ok 9)))]
    IsLeastFree account (run acts) ∧
      start.outcomes account acts =
        [(.reserve, .reserved 5), (.reserve, .reserved 6), (.giveBack 5, .done),
          (.giveBack 5, .done), (.reserve, .reserved 5), (.reserve, .reserved 7),
          (.forget, .done), (.reserve, .reserved 9)] ∧
      (run acts).allocator account = ⟨some 10, []⟩ := by
  intro account acts
  exact ⟨count_is_least_free acts account, by decide, by decide⟩

end Hall

end LedgerCourier
