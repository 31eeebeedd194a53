import LedgerCourier.Nonce.Errand
import LedgerCourier.Proofs.Nonce.Allocation
import Mathlib.Logic.Function.Basic

/-!
# Errands in line

One step of an errand is described once, by `Errand.Moves`. From it follows the discipline of
the lines: whoever has arrived and not left stands in the line of one account exactly once, and
whoever waits for the ledger's answer is the head of a line in front of an unknown count. So
nobody can change an allocator behind the back of the task that asks for it.
-/

namespace LedgerCourier

set_option autoImplicit false

namespace Sequencer

variable (sequencer : Sequencer) (account other : AccountId) (task : TaskId)

@[simp] theorem allocator_enter :
    (sequencer.enter account task).allocator other = sequencer.allocator other := by
  simp only [allocator, enter, counter_update]
  split
  next same => rw [same]
  next => rfl

@[simp] theorem allocator_leave :
    (sequencer.leave account task).allocator other = sequencer.allocator other := by
  simp only [allocator, leave, counter_update]
  split
  next same => rw [same]
  next => rfl

@[simp] theorem allocator_with_allocator (allocator : Allocator) :
    (sequencer.withAllocator account allocator).allocator other =
      if account = other then allocator else sequencer.allocator other := by
  simp only [Sequencer.allocator, withAllocator, counter_update]
  split <;> rfl

@[simp] theorem line_enter :
    ((sequencer.enter account task).counter other).line =
      if account = other then (sequencer.counter other).line ++ [task]
      else (sequencer.counter other).line := by
  simp only [enter, counter_update]
  split
  next same => rw [same]
  next => rfl

@[simp] theorem line_leave :
    ((sequencer.leave account task).counter other).line =
      if account = other then (sequencer.counter other).line.erase task
      else (sequencer.counter other).line := by
  simp only [leave, counter_update]
  split
  next same => rw [same]
  next => rfl

@[simp] theorem line_with_allocator (allocator : Allocator) :
    ((sequencer.withAllocator account allocator).counter other).line =
      (sequencer.counter other).line := by
  simp only [withAllocator, counter_update]
  split
  next same => rw [same]
  next => rfl

theorem is_head_iff :
    sequencer.isHead account task = true ↔
      (sequencer.counter account).line.head? = some task := by
  simp [isHead]

theorem allocator_start : start.allocator account = Allocator.start := by
  simp [allocator, counter, start]

theorem line_start : (start.counter account).line = [] := by
  simp [counter, start]

end Sequencer

inductive Errand.Moves (task : TaskId) (sequencer : Sequencer) (answer : Option Answer)
    (errand : Errand) : Sequencer × Progress Errand Errand.Result → Prop where
  | arrives (stage : errand.stage = .arriving) :
      Moves task sequencer answer errand
        (sequencer.enter errand.account task, .goesOn { errand with stage := .inLine } none)
  | waits (stage : errand.stage ≠ .arriving) :
      Moves task sequencer answer errand (sequencer, .waits)
  | asks (stage : errand.stage = .inLine) (purpose : errand.purpose = .reserve)
      (head : sequencer.isHead errand.account task = true)
      (unknown : (sequencer.allocator errand.account).next = none) :
      Moves task sequencer answer errand
        (sequencer, .goesOn { errand with stage := .asking } (some (.nonce errand.account)))
  | takesKnown (next number : Nat) (after : Allocator) (stage : errand.stage = .inLine)
      (purpose : errand.purpose = .reserve)
      (head : sequencer.isHead errand.account task = true)
      (known : (sequencer.allocator errand.account).next = some next)
      (taken : (sequencer.allocator errand.account).take next = some (number, after)) :
      Moves task sequencer answer errand
        ((sequencer.withAllocator errand.account after).leave errand.account task,
          .ends (.reserved number))
  | takesTold (next number : Nat) (after : Allocator) (stage : errand.stage = .asking)
      (told : answer = some (.nonce (.ok next)))
      (taken : (sequencer.allocator errand.account).take next = some (number, after)) :
      Moves task sequencer answer errand
        ((sequencer.withAllocator errand.account after).leave errand.account task,
          .ends (.reserved number))
  | exhausts (next : Nat) (stage : errand.stage ≠ .arriving)
      (source : errand.stage = .asking → answer = some (.nonce (.ok next)))
      (purpose : errand.stage = .inLine → errand.purpose = .reserve)
      (refused : (sequencer.allocator errand.account).take next = none) :
      Moves task sequencer answer errand
        (sequencer.leave errand.account task, .ends .exhausted)
  | fails (cause : Failure) (stage : errand.stage = .asking)
      (told : answer = some (.nonce (.error cause))) :
      Moves task sequencer answer errand
        (sequencer.leave errand.account task, .ends (.failed cause))
  | givesBack (number : Nat) (stage : errand.stage = .inLine)
      (purpose : errand.purpose = .giveBack number)
      (head : sequencer.isHead errand.account task = true) :
      Moves task sequencer answer errand
        ((sequencer.withAllocator errand.account
          ((sequencer.allocator errand.account).giveBack number)).leave errand.account task,
          .ends .done)
  | forgets (stage : errand.stage = .inLine) (purpose : errand.purpose = .forget)
      (head : sequencer.isHead errand.account task = true) :
      Moves task sequencer answer errand
        ((sequencer.withAllocator errand.account Allocator.start).leave errand.account task,
          .ends .done)

namespace Errand

theorem advance_moves (task : TaskId) (sequencer : Sequencer) (answer : Option Answer)
    (errand : Errand) :
    errand.Moves task sequencer answer (errand.advance task sequencer answer) := by
  obtain ⟨account, purpose, stage⟩ := errand
  cases stage with
  | arriving => exact .arrives rfl
  | inLine =>
      by_cases head : sequencer.isHead account task = true
      · cases purpose with
        | giveBack number =>
            simpa [advance, serve, head] using Moves.givesBack number rfl rfl head
        | forget => simpa [advance, serve, head] using Moves.forgets rfl rfl head
        | reserve =>
            cases known : (sequencer.allocator account).next with
            | none => simpa [advance, serve, head, known] using Moves.asks rfl rfl head known
            | some next =>
                simp only [advance, serve, head, known, takeNumber, if_true]
                split
                next number after taken =>
                  exact .takesKnown next number after rfl rfl head known taken
                next refused => exact .exhausts next (by simp) (by simp) (by simp) refused
      · simpa [advance, head] using Moves.waits (by simp)
  | asking =>
      simp only [advance]
      split
      next next =>
        simp only [takeNumber]
        split
        next number after taken => exact .takesTold next number after rfl rfl taken
        next refused => exact .exhausts next (by simp) (by simp) (by simp) refused
      next cause => exact .fails cause rfl rfl
      next => exact .waits (by simp)

theorem Moves.other_account {task : TaskId} {sequencer after : Sequencer}
    {answer : Option Answer} {errand : Errand} {progress : Progress Errand Result}
    (moves : errand.Moves task sequencer answer (after, progress)) {account : AccountId}
    (different : errand.account ≠ account) :
    after.allocator account = sequencer.allocator account := by
  cases moves <;> simp [different]

theorem Moves.same_errand {task : TaskId} {sequencer after : Sequencer} {answer : Option Answer}
    {errand next : Errand} {request : Option Request}
    (moves : errand.Moves task sequencer answer (after, .goesOn next request)) :
    next.account = errand.account ∧ next.purpose = errand.purpose := by
  cases moves <;> exact ⟨rfl, rfl⟩

@[simp] theorem allocator_abandon (task : TaskId) (sequencer : Sequencer) (errand : Errand)
    (account : AccountId) :
    (errand.abandon task sequencer).allocator account = sequencer.allocator account := by
  unfold abandon
  split
  · rfl
  · exact sequencer.allocator_leave errand.account account task

def next? (errand : Errand) : Progress Errand Result → Option Errand
  | .waits => some errand
  | .goesOn errand _ => some errand
  | .ends _ => none

end Errand

theorem lookup_set {Item Part : Type} (part : Item → Option Part) {items : List Item}
    {position : TaskId} (inside : position < items.length) (item : Item) :
    (fun other : TaskId => (items.set position item)[other]?.bind part) =
      Function.update (fun other : TaskId => items[other]?.bind part) position (part item) := by
  funext other
  by_cases same : other = position
  · subst same
    simp [inside]
  · rw [Function.update_of_ne same]
    simp [List.getElem?_set_ne (Ne.symm same)]

theorem lookup_append {Item Part : Type} (part : Item → Option Part) (items : List Item)
    (item : Item) :
    (fun other : TaskId => (items ++ [item])[other]?.bind part) =
      Function.update (fun other : TaskId => items[other]?.bind part) items.length (part item) := by
  funext other
  rcases Nat.lt_trichotomy other items.length with inside | same | beyond
  · rw [Function.update_of_ne (Nat.ne_of_lt inside), List.getElem?_append_left inside]
  · subst same
    simp
  · have outside : (items ++ [item]).length ≤ other := by
      rw [List.length_append]
      exact beyond
    rw [Function.update_of_ne (Nat.ne_of_gt beyond), List.getElem?_eq_none outside,
      List.getElem?_eq_none (Nat.le_of_lt beyond)]

/-- The lines in front of the allocators agree with the errands that are under way. -/
structure Disciplined (sequencer : Sequencer) (errands : TaskId → Option Errand) : Prop where
  distinct : ∀ account, (sequencer.counter account).line.Nodup
  standing : ∀ account task, task ∈ (sequencer.counter account).line ↔
    ∃ errand, errands task = some errand ∧ errand.account = account ∧ errand.stage ≠ .arriving
  asking : ∀ task errand, errands task = some errand → errand.stage = .asking →
    errand.purpose = .reserve ∧ sequencer.isHead errand.account task = true ∧
      (sequencer.allocator errand.account).next = none
  wellFormed : ∀ account, (sequencer.allocator account).WellFormed

namespace Disciplined

variable {sequencer after : Sequencer} {errands : TaskId → Option Errand} {task : TaskId}
  {errand : Errand}

theorem start {idle : TaskId → Option Errand} (none : ∀ task, idle task = none) :
    Disciplined Sequencer.start idle where
  distinct := fun account => by simp [Sequencer.line_start]
  standing := fun account task => by simp [Sequencer.line_start, none]
  asking := fun task errand held => by simp [none] at held
  wellFormed := fun account => by
    rw [Sequencer.allocator_start]
    exact Allocator.start_well_formed

theorem sets_out (disciplined : Disciplined sequencer errands) (idle : errands task = none)
    (account : AccountId) (purpose : Errand.Purpose) :
    Disciplined sequencer (Function.update errands task (some (Errand.start account purpose))) where
  distinct := disciplined.distinct
  standing := by
    intro other member
    by_cases same : member = task
    · subst same
      rw [disciplined.standing other member]
      simp [idle, Errand.start]
    · simpa [same] using disciplined.standing other member
  asking := by
    intro member errand held stage
    by_cases same : member = task
    · subst same
      obtain rfl : Errand.start account purpose = errand := by simpa using held
      simp [Errand.start] at stage
    · exact disciplined.asking member errand (by simpa [same] using held) stage
  wellFormed := disciplined.wellFormed

theorem head_unique (disciplined : Disciplined sequencer errands) {member : TaskId}
    {asker : Errand} (held : errands member = some asker) (stage : asker.stage = .asking)
    (head : sequencer.isHead asker.account task = true) : member = task := by
  have first := (disciplined.asking member asker held stage).2.1
  rw [Sequencer.is_head_iff] at first head
  exact Option.some.inj (first.symm.trans head)

theorem arrives (disciplined : Disciplined sequencer errands)
    (held : errands task = some errand) (stage : errand.stage = .arriving) :
    Disciplined (sequencer.enter errand.account task)
      (Function.update errands task (some { errand with stage := .inLine })) where
  distinct := by
    intro account
    have absent : task ∉ (sequencer.counter account).line := by
      rw [disciplined.standing account task, held]
      simp [stage]
    rw [Sequencer.line_enter]
    split
    · exact List.nodup_append.mpr ⟨disciplined.distinct account, by simp,
        fun member inside other alone => by
          rintro rfl
          exact absent (by simpa using (List.mem_singleton.mp alone) ▸ inside)⟩
    · exact disciplined.distinct account
  standing := by
    intro account member
    rw [Sequencer.line_enter]
    have before := disciplined.standing account member
    by_cases same : member = task
    · subst same
      rw [held] at before
      simp only [Option.some.injEq, exists_eq_left', stage, ne_eq, not_true_eq_false, and_false,
        iff_false] at before
      split <;> simp_all
    · split <;> simp [same, before]
  asking := by
    intro member asker under asks
    by_cases same : member = task
    · subst same
      obtain rfl : _ = asker := by simpa using under
      simp at asks
    · obtain ⟨purpose, head, unknown⟩ :=
        disciplined.asking member asker (by simpa [same] using under) asks
      refine ⟨purpose, ?_, by simpa using unknown⟩
      rw [Sequencer.is_head_iff] at head ⊢
      rw [Sequencer.line_enter]
      split
      · rw [List.head?_append, head]
        rfl
      · exact head
  wellFormed := fun account => by simpa using disciplined.wellFormed account

theorem asks (disciplined : Disciplined sequencer errands)
    (held : errands task = some errand) (stage : errand.stage = .inLine)
    (purpose : errand.purpose = .reserve)
    (head : sequencer.isHead errand.account task = true)
    (unknown : (sequencer.allocator errand.account).next = none) :
    Disciplined sequencer
      (Function.update errands task (some { errand with stage := .asking })) where
  distinct := disciplined.distinct
  standing := by
    intro account member
    by_cases same : member = task
    · subst same
      rw [disciplined.standing account member, held]
      simp [stage]
    · simpa [same] using disciplined.standing account member
  asking := by
    intro member asker under asks
    by_cases same : member = task
    · subst same
      obtain rfl : _ = asker := by simpa using under
      exact ⟨purpose, head, unknown⟩
    · exact disciplined.asking member asker (by simpa [same] using under) asks
  wellFormed := disciplined.wellFormed

theorem departs (disciplined : Disciplined sequencer errands)
    (held : errands task = some errand)
    (lines : ∀ account, (after.counter account).line =
      if errand.account = account then (sequencer.counter account).line.erase task
      else (sequencer.counter account).line)
    (others : ∀ account, errand.account ≠ account →
      after.allocator account = sequencer.allocator account)
    (wellFormed : (after.allocator errand.account).WellFormed)
    (changed : after.allocator errand.account = sequencer.allocator errand.account ∨
      sequencer.isHead errand.account task = true) :
    Disciplined after (Function.update errands task none) where
  distinct := by
    intro account
    rw [lines account]
    split
    · exact (disciplined.distinct account).erase task
    · exact disciplined.distinct account
  standing := by
    intro account member
    rw [lines account]
    have before := disciplined.standing account member
    by_cases same : member = task
    · subst same
      split
      next => simpa using (disciplined.distinct account).not_mem_erase
      next elsewhere =>
        rw [before, held]
        simp [elsewhere]
    · split
      · rw [List.mem_erase_of_ne same, before]
        simp [same]
      · rw [before]
        simp [same]
  asking := by
    intro member asker under asks
    have different : member ≠ task := by
      rintro rfl
      simp at under
    have under : errands member = some asker := by simpa [different] using under
    obtain ⟨purpose, head, unknown⟩ := disciplined.asking member asker under asks
    refine ⟨purpose, ?_, ?_⟩
    · rw [Sequencer.is_head_iff] at head ⊢
      rw [lines]
      split
      · cases line : (sequencer.counter asker.account).line with
        | nil => simp [line] at head
        | cons first rest =>
            obtain rfl : first = member := by simpa [line] using head
            simp [List.erase_cons_tail, different]
      · exact head
    · by_cases same : errand.account = asker.account
      · rcases changed with unchanged | own
        · rw [← same, unchanged, same]
          exact unknown
        · exact absurd (disciplined.head_unique under asks (same ▸ own)) different
      · rw [others asker.account same]
        exact unknown
  wellFormed := by
    intro account
    by_cases same : errand.account = account
    · exact same ▸ wellFormed
    · rw [others account same]
      exact disciplined.wellFormed account

theorem leaves (disciplined : Disciplined sequencer errands)
    (held : errands task = some errand) :
    Disciplined (sequencer.leave errand.account task) (Function.update errands task none) :=
  disciplined.departs held (fun account => by simp) (fun account different => by simp)
    (by simpa using disciplined.wellFormed errand.account) (Or.inl (by simp))

theorem leaves_with (disciplined : Disciplined sequencer errands)
    (held : errands task = some errand) (allocator : Allocator) (wellFormed : allocator.WellFormed)
    (head : sequencer.isHead errand.account task = true) :
    Disciplined ((sequencer.withAllocator errand.account allocator).leave errand.account task)
      (Function.update errands task none) :=
  disciplined.departs held (fun account => by simp)
    (fun account different => by simp [different]) (by simpa using wellFormed) (Or.inr head)

theorem abandons (disciplined : Disciplined sequencer errands)
    (held : errands task = some errand) :
    Disciplined (errand.abandon task sequencer) (Function.update errands task none) := by
  by_cases stage : errand.stage = .arriving
  · have still : errand.abandon task sequencer = sequencer := by simp [Errand.abandon, stage]
    have absent : ∀ account, task ∉ (sequencer.counter account).line := by
      intro account
      rw [disciplined.standing account task, held]
      simp [stage]
    rw [still]
    refine disciplined.departs held ?_ (fun account different => rfl)
      (disciplined.wellFormed errand.account) (Or.inl rfl)
    intro account
    rw [List.erase_of_not_mem (absent account)]
    simp
  · have leaving : errand.abandon task sequencer = sequencer.leave errand.account task := by
      unfold Errand.abandon
      split
      next arriving => exact absurd arriving stage
      next => rfl
    rw [leaving]
    exact disciplined.leaves held

theorem reserves (disciplined : Disciplined sequencer errands)
    (held : errands task = some errand) {answer : Option Answer} {number : Nat}
    (moves : errand.Moves task sequencer answer (after, .ends (.reserved number))) :
    errand.purpose = .reserve := by
  cases moves with
  | takesKnown next number allocator stage purpose head known taken => exact purpose
  | takesTold next number allocator stage told taken =>
      exact (disciplined.asking task errand held stage).1

theorem hands_out (disciplined : Disciplined sequencer errands)
    (held : errands task = some errand) {answer : Option Answer} {number : Nat}
    (moves : errand.Moves task sequencer answer (after, .ends (.reserved number))) :
    (sequencer.allocator errand.account).uses number = false ∧
      (after.allocator errand.account).uses number = true ∧
      ∀ other, (sequencer.allocator errand.account).uses other = true →
        (after.allocator errand.account).uses other = true := by
  cases moves with
  | takesKnown next number allocator stage purpose head known taken =>
      obtain ⟨-, -, free, -, same⟩ :=
        Allocator.take_known (disciplined.wellFormed errand.account) known taken
      simp only [Sequencer.allocator_leave, Sequencer.allocator_with_allocator, if_true]
      exact ⟨free, (same number).mpr (Or.inr rfl), fun other used => (same other).mpr (Or.inl used)⟩
  | takesTold next number allocator stage told taken =>
      obtain ⟨-, -, unknown⟩ := disciplined.asking task errand held stage
      obtain ⟨rfl, -, rfl⟩ :=
        Allocator.take_unknown (disciplined.wellFormed errand.account) unknown taken
      simp only [Sequencer.allocator_leave, Sequencer.allocator_with_allocator, if_true]
      refine ⟨Allocator.not_uses_unknown unknown number, by simp [Allocator.uses], ?_⟩
      intro other used
      rw [Allocator.not_uses_unknown unknown other] at used
      cases used

theorem advances (disciplined : Disciplined sequencer errands)
    (held : errands task = some errand) {answer : Option Answer}
    {progress : Progress Errand Errand.Result}
    (moves : errand.Moves task sequencer answer (after, progress)) :
    Disciplined after (Function.update errands task (errand.next? progress)) := by
  cases moves with
  | arrives stage => exact disciplined.arrives held stage
  | waits stage =>
      have same : Function.update errands task (some errand) = errands := by
        rw [← held, Function.update_eq_self]
      simpa only [Errand.next?, same] using disciplined
  | asks stage purpose head unknown => exact disciplined.asks held stage purpose head unknown
  | takesKnown next number allocator stage purpose head known taken =>
      have spec := Allocator.take_known (disciplined.wellFormed errand.account) known taken
      exact disciplined.leaves_with held allocator spec.1 head
  | takesTold next number allocator stage told taken =>
      obtain ⟨-, head, unknown⟩ := disciplined.asking task errand held stage
      obtain ⟨-, small, rfl⟩ :=
        Allocator.take_unknown (disciplined.wellFormed errand.account) unknown taken
      exact disciplined.leaves_with held _ (Allocator.single_well_formed small) head
  | exhausts next stage source purpose refused => exact disciplined.leaves held
  | fails cause stage told => exact disciplined.leaves held
  | givesBack number stage purpose head =>
      have spec := Allocator.give_back_spec (disciplined.wellFormed errand.account) number
      exact disciplined.leaves_with held _ spec.1 head
  | forgets stage purpose head =>
      exact disciplined.leaves_with held _ Allocator.start_well_formed head

end Disciplined

end LedgerCourier
