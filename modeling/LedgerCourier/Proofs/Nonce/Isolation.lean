import LedgerCourier.Proofs.Nonce.Succession

/-!
# One account by itself

Whatever happens at other accounts can be left out of a run. What remains is a run of its own, in
which callers are numbered anew, and it mirrors the whole one: the count of the account is the
same, its line holds the same callers under their new numbers, and every caller at the account
fares the same. The steps of an errand cannot tell the two runs apart.
-/

namespace LedgerCourier

set_option autoImplicit false

section Places

variable {Item : Type} {items : List Item} {position : Nat} {item : Item} {kept : Item → Bool}

theorem split_at_position (held : items[position]? = some item) :
    ∃ front back, items = front ++ item :: back ∧ front.length = position := by
  obtain ⟨inside, rfl⟩ := List.getElem?_eq_some_iff.mp held
  refine ⟨items.take position, items.drop (position + 1), ?_, ?_⟩
  · rw [← List.drop_eq_getElem_cons inside, List.take_append_drop]
  · rw [List.length_take]
    omega

theorem filter_at_position (held : items[position]? = some item) (keeps : kept item) :
    (items.filter kept)[(items.take position).countP kept]? = some item := by
  obtain ⟨front, back, rfl, rfl⟩ := split_at_position held
  simp [List.filter_append, keeps, List.countP_eq_length_filter]

theorem filter_set_kept (held : items[position]? = some item) (keeps : kept item) {next : Item}
    (keepsNext : kept next) :
    (items.set position next).filter kept =
      (items.filter kept).set ((items.take position).countP kept) next := by
  obtain ⟨front, back, rfl, rfl⟩ := split_at_position held
  simp [List.filter_append, keeps, keepsNext, List.countP_eq_length_filter]

theorem filter_set_dropped (held : items[position]? = some item) (drops : ¬kept item)
    {next : Item} (dropsNext : ¬kept next) :
    (items.set position next).filter kept = items.filter kept := by
  obtain ⟨front, back, rfl, rfl⟩ := split_at_position held
  simp [List.filter_append, drops, dropsNext]

theorem count_set (held : items[position]? = some item) {next : Item}
    (same : kept next = kept item) (place : Nat) :
    ((items.set position next).take place).countP kept = (items.take place).countP kept := by
  have unchanged : (items.set position next).map kept = items.map kept := by
    obtain ⟨front, back, rfl, rfl⟩ := split_at_position held
    simp [same]
  have counts : ∀ list : List Item, (list.take place).countP kept =
      ((list.map kept).take place).countP id := by
    intro list
    rw [← List.map_take, List.countP_map]
    rfl
  rw [counts, counts, unchanged]

theorem count_lt_count (held : items[position]? = some item) (keeps : kept item) {place : Nat}
    (later : position < place) :
    (items.take position).countP kept < (items.take place).countP kept := by
  obtain ⟨front, back, rfl, rfl⟩ := split_at_position held
  obtain ⟨more, rfl⟩ := Nat.exists_eq_add_of_lt later
  rw [List.take_left, Nat.add_assoc, List.take_length_add_append, List.countP_append,
    List.take_succ_cons, List.countP_cons_of_pos keeps]
  omega

end Places

theorem erase_map {rename : TaskId → TaskId} {line : List TaskId} {task : TaskId}
    (apart : ∀ other ∈ line, rename other = rename task → other = task) :
    (line.map rename).erase (rename task) = (line.erase task).map rename := by
  induction line with
  | nil => rfl
  | cons first rest induction =>
      obtain ⟨here, later⟩ := List.forall_mem_cons.mp apart
      by_cases same : first = task
      · subst same
        simp
      · have different : rename first ≠ rename task := fun equal => same (here equal)
        rw [List.map_cons, List.erase_cons_tail (by simpa using different),
          List.erase_cons_tail (by simpa using same), List.map_cons, induction later]

namespace Sequencer

/-- Two sequencers agree on an account up to the names of the callers in its line. -/
structure Mirrors (account : AccountId) (rename : TaskId → TaskId) (whole part : Sequencer) :
    Prop where
  allocator : part.allocator account = whole.allocator account
  line : (part.counter account).line = (whole.counter account).line.map rename

namespace Mirrors

variable {account : AccountId} {rename : TaskId → TaskId} {whole part : Sequencer}
  {task : TaskId}

theorem is_head (mirrors : Mirrors account rename whole part)
    (apart : ∀ other ∈ (whole.counter account).line, rename other = rename task → other = task) :
    part.isHead account (rename task) = whole.isHead account task := by
  rw [Bool.eq_iff_iff, is_head_iff, is_head_iff, mirrors.line, List.head?_map]
  cases line : (whole.counter account).line with
  | nil => simp
  | cons first rest =>
      rw [line] at apart
      simp only [List.head?_cons, Option.map_some, Option.some.injEq]
      exact ⟨apart first List.mem_cons_self, fun same => congrArg rename same⟩

theorem renamed (mirrors : Mirrors account rename whole part) {other : TaskId → TaskId}
    (same : ∀ task ∈ (whole.counter account).line, other task = rename task) :
    Mirrors account other whole part where
  allocator := mirrors.allocator
  line := by rw [mirrors.line, List.map_congr_left same]

theorem enter (mirrors : Mirrors account rename whole part) :
    Mirrors account rename (whole.enter account task) (part.enter account (rename task)) where
  allocator := by simpa using mirrors.allocator
  line := by simp [mirrors.line]

theorem leave (mirrors : Mirrors account rename whole part)
    (apart : ∀ other ∈ (whole.counter account).line, rename other = rename task → other = task) :
    Mirrors account rename (whole.leave account task) (part.leave account (rename task)) where
  allocator := by simpa using mirrors.allocator
  line := by simp [mirrors.line, erase_map apart]

theorem with_allocator (mirrors : Mirrors account rename whole part) (allocator : Allocator) :
    Mirrors account rename (whole.withAllocator account allocator)
      (part.withAllocator account allocator) where
  allocator := by simp
  line := by simp [mirrors.line]

theorem leave_with (mirrors : Mirrors account rename whole part)
    (apart : ∀ other ∈ (whole.counter account).line, rename other = rename task → other = task)
    (allocator : Allocator) :
    Mirrors account rename ((whole.withAllocator account allocator).leave account task)
      ((part.withAllocator account allocator).leave account (rename task)) :=
  (mirrors.with_allocator allocator).leave (by simpa using apart)

end Mirrors

end Sequencer

namespace Errand

variable {rename : TaskId → TaskId} {whole part : Sequencer} {task : TaskId} {errand : Errand}

theorem take_number_mirrors (mirrors : Sequencer.Mirrors errand.account rename whole part)
    (apart : ∀ other ∈ (whole.counter errand.account).line,
      rename other = rename task → other = task) (next : Nat) :
    (takeNumber (rename task) part errand.account next).2 =
        (takeNumber task whole errand.account next).2 ∧
      Sequencer.Mirrors errand.account rename (takeNumber task whole errand.account next).1
        (takeNumber (rename task) part errand.account next).1 := by
  simp only [takeNumber, mirrors.allocator]
  split
  · exact ⟨rfl, mirrors.leave_with apart _⟩
  · exact ⟨rfl, mirrors.leave apart⟩

/-- A step of an errand sees and changes nothing but the count and the line of its own account. -/
theorem advance_mirrors (mirrors : Sequencer.Mirrors errand.account rename whole part)
    (apart : ∀ other ∈ (whole.counter errand.account).line,
      rename other = rename task → other = task) (answer : Option Answer) :
    (errand.advance (rename task) part answer).2 = (errand.advance task whole answer).2 ∧
      Sequencer.Mirrors errand.account rename (errand.advance task whole answer).1
        (errand.advance (rename task) part answer).1 := by
  simp only [advance, mirrors.is_head apart]
  split
  · exact ⟨rfl, mirrors.enter⟩
  · split
    · simp only [serve, mirrors.allocator]
      split
      · exact ⟨rfl, mirrors.leave_with apart _⟩
      · exact ⟨rfl, mirrors.leave_with apart _⟩
      · split
        · exact take_number_mirrors mirrors apart _
        · exact ⟨rfl, mirrors⟩
    · exact ⟨rfl, mirrors⟩
  · split
    · exact take_number_mirrors mirrors apart _
    · exact ⟨rfl, mirrors.leave apart⟩
    · exact ⟨rfl, mirrors⟩

theorem abandon_mirrors (mirrors : Sequencer.Mirrors errand.account rename whole part)
    (apart : ∀ other ∈ (whole.counter errand.account).line,
      rename other = rename task → other = task) :
    Sequencer.Mirrors errand.account rename (errand.abandon task whole)
      (errand.abandon (rename task) part) := by
  simp only [abandon]
  split
  · exact mirrors
  · exact mirrors.leave apart

theorem Moves.line_elsewhere {task : TaskId} {sequencer after : Sequencer}
    {answer : Option Answer} {errand : Errand} {progress : Progress Errand Result}
    (moves : errand.Moves task sequencer answer (after, progress)) {account : AccountId}
    (different : errand.account ≠ account) :
    (after.counter account).line = (sequencer.counter account).line := by
  cases moves <;> simp [different]

theorem abandon_elsewhere {errand : Errand} {account : AccountId}
    (different : errand.account ≠ account) (task : TaskId) (sequencer : Sequencer) :
    ((errand.abandon task sequencer).counter account).line =
      (sequencer.counter account).line := by
  simp only [abandon]
  split
  · rfl
  · simp [different]

end Errand

namespace Visit

def isAt (account : AccountId) (visit : Visit) : Bool := visit.errand.account = account

def view (visit : Visit) : Errand × Fate := (visit.errand, visit.fate)

theorem is_at_iff {account : AccountId} {visit : Visit} :
    visit.isAt account ↔ visit.errand.account = account := by
  simp [isAt]

theorem view_after {first second : Visit} (same : first.view = second.view)
    (progress : Progress Errand Errand.Result) :
    (first.after progress).view = (second.after progress).view := by
  obtain ⟨sameErrand, sameFate⟩ := Prod.mk.inj same
  cases progress <;> simp [after, view, sameErrand, sameFate]

end Visit

namespace Office

def rank (account : AccountId) (office : Office) (task : TaskId) : TaskId :=
  (office.visits.take task).countP (Visit.isAt account)

def comesTo (account : AccountId) (office : Office) (task : TaskId) : Bool :=
  office.visits[task]?.any (Visit.isAt account)

/-- What is left of an act when only one account is looked at. -/
def keep? (account : AccountId) (office : Office) : Act → Option Act
  | .reserves other => if other = account then some (.reserves other) else none
  | .forgets other => if other = account then some (.forgets other) else none
  | .returns caller =>
      if office.comesTo account caller then some (.returns (office.rank account caller)) else none
  | .advances task answer =>
      if office.comesTo account task then some (.advances (office.rank account task) answer)
      else none
  | .abandons task =>
      if office.comesTo account task then some (.abandons (office.rank account task)) else none

/-- A run without everything that is done at other accounts. -/
def within (account : AccountId) : List Act → List Act := record (keep? account)

structure Reflects (account : AccountId) (whole part : Office) : Prop where
  visits : part.visits.map Visit.view =
    (whole.visits.filter (Visit.isAt account)).map Visit.view
  counter : Sequencer.Mirrors account (whole.rank account) whole.sequencer part.sequencer

theorem comes_to_iff {account : AccountId} {office : Office} {task : TaskId} :
    office.comesTo account task ↔
      ∃ visit, office.visits[task]? = some visit ∧ visit.errand.account = account := by
  rw [comesTo, Option.any_eq_true]
  simp only [Visit.isAt, decide_eq_true_eq]

theorem rank_set {account : AccountId} {office : Office} {task : TaskId} {visit next : Visit}
    (held : office.visits[task]? = some visit)
    (same : next.errand.account = visit.errand.account) (sequencer : Sequencer)
    (journal : List Deed) :
    (Office.mk sequencer (office.visits.set task next) journal).rank account =
      office.rank account := by
  have sameSide : next.isAt account = visit.isAt account := by
    simp only [Visit.isAt, same]
  funext place
  exact count_set held sameSide place

theorem rank_enter {account : AccountId} {office : Office} {task : TaskId}
    (inside : task < office.visits.length) (caller : TaskId) (other : AccountId)
    (purpose : Errand.Purpose) :
    (office.enter caller other purpose).rank account task = office.rank account task := by
  rw [rank, enter, List.take_append_of_le_length (Nat.le_of_lt inside), rank]

/-- Callers at one account have different numbers among themselves. -/
theorem rank_apart {account : AccountId} {office : Office}
    (disciplined : Disciplined office.sequencer office.errands) {task : TaskId} {visit : Visit}
    (held : office.visits[task]? = some visit) (own : visit.errand.account = account) :
    ∀ other ∈ (office.sequencer.counter account).line,
      office.rank account other = office.rank account task → other = task := by
  intro other member same
  obtain ⟨errand, under, ownOther, -⟩ := (disciplined.standing account other).mp member
  obtain ⟨present, heldOther, rfl, -⟩ := visit_of_errand under
  rcases Nat.lt_trichotomy other task with before | equal | behind
  · have less := count_lt_count heldOther (Visit.is_at_iff.mpr ownOther) before
    exact absurd same (Nat.ne_of_lt less)
  · exact equal
  · have less := count_lt_count held (Visit.is_at_iff.mpr own) behind
    exact absurd same (Nat.ne_of_gt less)

namespace Reflects

variable {account : AccountId} {whole part : Office} {task : TaskId} {visit : Visit}

theorem start : Reflects account Office.start Office.start where
  visits := rfl
  counter := ⟨rfl, by simp [Office.start, Sequencer.line_start]⟩

theorem visit_found (reflects : Reflects account whole part)
    (held : whole.visits[task]? = some visit) (own : visit.errand.account = account) :
    ∃ image, part.visits[whole.rank account task]? = some image ∧ image.view = visit.view := by
  have found := filter_at_position held (Visit.is_at_iff.mpr own)
  have seen : (part.visits.map Visit.view)[whole.rank account task]? = some visit.view := by
    rw [reflects.visits, List.getElem?_map, rank, found]
    rfl
  rw [List.getElem?_map, Option.map_eq_some_iff] at seen
  exact seen

theorem counter_enter (reflects : Reflects account whole part)
    (disciplined : Disciplined whole.sequencer whole.errands) (caller : TaskId)
    (other : AccountId) (purpose : Errand.Purpose) :
    Sequencer.Mirrors account ((whole.enter caller other purpose).rank account)
      whole.sequencer part.sequencer := by
  apply reflects.counter.renamed
  intro task member
  obtain ⟨errand, under, -⟩ := (disciplined.standing account task).mp member
  obtain ⟨visit, held, -⟩ := visit_of_errand under
  obtain ⟨inside, -⟩ := List.getElem?_eq_some_iff.mp held
  exact rank_enter inside caller other purpose

theorem enter (reflects : Reflects account whole part)
    (disciplined : Disciplined whole.sequencer whole.errands) (caller other : TaskId)
    (purpose : Errand.Purpose) :
    Reflects account (whole.enter caller account purpose) (part.enter other account purpose) where
  visits := by
    have kept : (Visit.mk caller (Errand.start account purpose) .underWay).isAt account :=
      Visit.is_at_iff.mpr rfl
    simp only [Office.enter, List.map_append, List.filter_append, reflects.visits]
    rw [List.filter_cons_of_pos kept]
    rfl
  counter := reflects.counter_enter disciplined caller account purpose

theorem enter_elsewhere (reflects : Reflects account whole part)
    (disciplined : Disciplined whole.sequencer whole.errands) {other : AccountId}
    (different : other ≠ account) (caller : TaskId) (purpose : Errand.Purpose) :
    Reflects account (whole.enter caller other purpose) part where
  visits := by
    have dropped : ¬(Visit.mk caller (Errand.start other purpose) .underWay).isAt account :=
      fun own => different (Visit.is_at_iff.mp own)
    simp only [Office.enter, List.filter_append, reflects.visits]
    rw [List.filter_cons_of_neg dropped, List.filter_nil, List.append_nil]
  counter := reflects.counter_enter disciplined caller other purpose

theorem replace (reflects : Reflects account whole part)
    (held : whole.visits[task]? = some visit) (own : visit.errand.account = account)
    {next image : Visit} (ownNext : next.errand.account = account) (same : image.view = next.view)
    {wholeAfter partAfter : Sequencer} {wholeJournal partJournal : List Deed}
    (mirrors : Sequencer.Mirrors account (whole.rank account) wholeAfter partAfter) :
    Reflects account ⟨wholeAfter, whole.visits.set task next, wholeJournal⟩
      ⟨partAfter, part.visits.set (whole.rank account task) image, partJournal⟩ where
  visits := by
    rw [List.map_set, reflects.visits, same, ← List.map_set,
      filter_set_kept held (Visit.is_at_iff.mpr own) (Visit.is_at_iff.mpr ownNext)]
    rfl
  counter := by
    rw [rank_set held (ownNext.trans own.symm)]
    exact mirrors

theorem replace_elsewhere (reflects : Reflects account whole part)
    (held : whole.visits[task]? = some visit) (different : visit.errand.account ≠ account)
    {next : Visit} (sameAccount : next.errand.account = visit.errand.account)
    {after : Sequencer} {journal : List Deed}
    (allocator : after.allocator account = whole.sequencer.allocator account)
    (line : (after.counter account).line = (whole.sequencer.counter account).line) :
    Reflects account ⟨after, whole.visits.set task next, journal⟩ part where
  visits := by
    have dropped : ¬visit.isAt account := fun own => different (Visit.is_at_iff.mp own)
    have droppedNext : ¬next.isAt account := fun own =>
      different (sameAccount.symm.trans (Visit.is_at_iff.mp own))
    rw [reflects.visits, filter_set_dropped held dropped droppedNext]
  counter := by
    rw [rank_set held sameAccount]
    exact ⟨reflects.counter.allocator.trans allocator.symm,
      reflects.counter.line.trans (congrArg _ line.symm)⟩

end Reflects

theorem perform_over {office : Office} {task : TaskId}
    (ended : ∀ visit, office.visits[task]? = some visit → visit.fate ≠ .underWay) :
    (∀ answer, office.perform (.advances task answer) = office) ∧
      office.perform (.abandons task) = office := by
  constructor
  · intro answer
    simp only [perform]
    split
    next caller errand held => exact absurd rfl (ended _ held)
    next => rfl
  · simp only [perform]
    split
    next caller errand held => exact absurd rfl (ended _ held)
    next => rfl

theorem perform_abandons {office : Office} {task : TaskId} {visit : Visit}
    (held : office.visits[task]? = some visit) (underWay : visit.fate = .underWay) :
    office.perform (.abandons task) =
      ⟨visit.errand.abandon task office.sequencer,
        office.visits.set task { visit with fate := .abandoned }, office.journal⟩ := by
  obtain ⟨caller, errand, fate⟩ := visit
  subst underWay
  simp only [perform, held]

namespace Reflects

variable {account : AccountId} {whole part : Office} {task : TaskId}

theorem advances (reflects : Reflects account whole part)
    (disciplined : Disciplined whole.sequencer whole.errands) {visit : Visit}
    (held : whole.visits[task]? = some visit) (underWay : visit.fate = .underWay)
    (own : visit.errand.account = account) (answer : Option Answer) :
    Reflects account (whole.perform (.advances task answer))
      (part.perform (.advances (whole.rank account task) answer)) := by
  obtain ⟨image, found, same⟩ := reflects.visit_found held own
  obtain ⟨sameErrand, sameFate⟩ := Prod.mk.inj same
  have apart := rank_apart disciplined held own
  subst own
  obtain ⟨sameProgress, mirrors⟩ := Errand.advance_mirrors reflects.counter apart answer
  rw [perform_advances held underWay rfl,
    perform_advances found (sameFate.trans underWay) (by rw [sameErrand]), sameProgress]
  have unmoved := Visit.after_same (visit.errand.advance_moves task whole.sequencer answer)
  exact reflects.replace held rfl unmoved.1 (Visit.view_after same _) mirrors

theorem advances_elsewhere (reflects : Reflects account whole part) {visit : Visit}
    (held : whole.visits[task]? = some visit) (underWay : visit.fate = .underWay)
    (different : visit.errand.account ≠ account) (answer : Option Answer) :
    Reflects account (whole.perform (.advances task answer)) part := by
  have moves := visit.errand.advance_moves task whole.sequencer answer
  rw [perform_advances held underWay rfl]
  exact reflects.replace_elsewhere held different (Visit.after_same moves).1
    (moves.other_account different) (moves.line_elsewhere different)

theorem abandons (reflects : Reflects account whole part)
    (disciplined : Disciplined whole.sequencer whole.errands) {visit : Visit}
    (held : whole.visits[task]? = some visit) (underWay : visit.fate = .underWay)
    (own : visit.errand.account = account) :
    Reflects account (whole.perform (.abandons task))
      (part.perform (.abandons (whole.rank account task))) := by
  obtain ⟨image, found, same⟩ := reflects.visit_found held own
  obtain ⟨sameErrand, sameFate⟩ := Prod.mk.inj same
  have apart := rank_apart disciplined held own
  subst own
  have mirrors := Errand.abandon_mirrors reflects.counter apart
  rw [perform_abandons held underWay, perform_abandons found (sameFate.trans underWay),
    sameErrand]
  refine reflects.replace held rfl ?_ ?_ mirrors
  · rfl
  · rfl

theorem abandons_elsewhere (reflects : Reflects account whole part) {visit : Visit}
    (held : whole.visits[task]? = some visit) (underWay : visit.fate = .underWay)
    (different : visit.errand.account ≠ account) :
    Reflects account (whole.perform (.abandons task)) part := by
  rw [perform_abandons held underWay]
  refine reflects.replace_elsewhere held different ?_ ?_ ?_
  · rfl
  · exact Errand.allocator_abandon task whole.sequencer visit.errand account
  · exact Errand.abandon_elsewhere different task whole.sequencer

theorem ended (reflects : Reflects account whole part)
    (ended : ∀ visit, whole.visits[task]? = some visit → visit.fate ≠ .underWay)
    (own : whole.comesTo account task) :
    ∀ visit, part.visits[whole.rank account task]? = some visit → visit.fate ≠ .underWay := by
  obtain ⟨visit, held, ownVisit⟩ := comes_to_iff.mp own
  obtain ⟨image, found, same⟩ := reflects.visit_found held ownVisit
  intro other foundOther
  obtain rfl : image = other := Option.some.inj (found.symm.trans foundOther)
  rw [(Prod.mk.inj same).2]
  exact ended visit held

theorem visiting (reflects : Reflects account whole part) {act image : Act}
    (kept : keep? account whole act = if whole.comesTo account task then some image else none)
    (idle : (∀ visit, whole.visits[task]? = some visit → visit.fate ≠ .underWay) →
      whole.perform act = whole)
    (idleImage : (∀ visit, part.visits[whole.rank account task]? = some visit →
      visit.fate ≠ .underWay) → part.perform image = part)
    (here : ∀ visit, whole.visits[task]? = some visit → visit.fate = .underWay →
      visit.errand.account = account → Reflects account (whole.perform act) (part.perform image))
    (elsewhere : ∀ visit, whole.visits[task]? = some visit → visit.fate = .underWay →
      visit.errand.account ≠ account → Reflects account (whole.perform act) part) :
    Reflects account (whole.perform act) (part.runFrom (keep? account whole act).toList) := by
  rw [kept]
  by_cases ended : ∀ visit, whole.visits[task]? = some visit → visit.fate ≠ .underWay
  · rw [idle ended]
    split
    next own =>
      rw [Option.toList_some, run_from_cons, idleImage (reflects.ended ended own)]
      exact reflects
    next => exact reflects
  · simp only [not_forall, Classical.not_not] at ended
    obtain ⟨visit, held, underWay⟩ := ended
    split
    next own =>
      obtain ⟨other, heldOther, same⟩ := comes_to_iff.mp own
      obtain rfl : visit = other := Option.some.inj (held.symm.trans heldOther)
      exact here visit held underWay same
    next away =>
      exact elsewhere visit held underWay fun same =>
        away (comes_to_iff.mpr ⟨visit, held, same⟩)

/-- One act in the whole office is the same act in the part, or none. The case that matters is a
step of a visit at the account; everything else leaves the account alone. -/
theorem step (reflects : Reflects account whole part)
    (disciplined : Disciplined whole.sequencer whole.errands) {act : Act}
    (peaceful : ¬Disturbs account whole act) :
    Reflects account (whole.perform act) (part.runFrom (keep? account whole act).toList) := by
  cases act with
  | reserves other =>
      simp only [keep?]
      split
      next same =>
        subst same
        exact reflects.enter disciplined _ _ _
      next different => exact reflects.enter_elsewhere disciplined different _ _
  | forgets other =>
      have different : other ≠ account := peaceful
      simp only [keep?, if_neg different]
      exact reflects.enter_elsewhere disciplined different _ _
  | returns caller =>
      have away : ¬whole.comesTo account caller := fun comes =>
        peaceful (comes_to_iff.mp comes)
      simp only [keep?, if_neg away, perform]
      split
      next other number mine =>
        apply reflects.enter_elsewhere disciplined
        rintro rfl
        exact peaceful (account_of_returnable mine)
      next => exact reflects
  | advances task answer =>
      exact reflects.visiting rfl (fun ended => (perform_over ended).1 answer)
        (fun ended => (perform_over ended).1 answer)
        (fun _ held underWay own => reflects.advances disciplined held underWay own answer)
        (fun _ held underWay away => reflects.advances_elsewhere held underWay away answer)
  | abandons task =>
      exact reflects.visiting rfl (fun ended => (perform_over ended).2)
        (fun ended => (perform_over ended).2)
        (fun _ held underWay own => reflects.abandons disciplined held underWay own)
        (fun _ held underWay away => reflects.abandons_elsewhere held underWay away)

end Reflects

theorem reflects_run {account : AccountId} {acts : List Act}
    (undisturbed : Undisturbed account acts) :
    Reflects account (run acts) (run (within account acts)) := by
  induction acts using List.reverseRecOn with
  | nil => exact .start
  | append_singleton acts act induction =>
      obtain ⟨before, peaceful⟩ := undisturbed_snoc undisturbed
      rw [run_snoc, within, record_snoc, run_append]
      exact (induction before).step (disciplined_run acts) peaceful

/-- Callers who only reserve numbers of an account, in any interleaving with each other and with
callers elsewhere, are put in the order in which they come to be the head of its line. At most one
question about the account is answered with success, and the numbers handed out are, in that
order, consecutive from the answer on. Callers who fail or walk away do not change the count and
are not in the line any more. Leaving out all that is done at other accounts changes nothing for
the callers at this one. -/
theorem reservations_linearised {account : AccountId} {acts : List Act}
    (undisturbed : Undisturbed account acts)
    (small : ∀ next ∈ tellings account acts, next + 1 < Allocator.limit) :
    ((holders account acts).Nodup ∧
      ∀ (task : TaskId) visit number, (run acts).visits[task]? = some visit →
        visit.errand.account = account → visit.fate = .finished (.reserved number) →
          task ∈ holders account acts) ∧
    ((tellings account acts).length ≤ 1 ∧
      numbersInOrder account acts = (tellings account acts).flatMap fun first =>
        List.range' first (numbersInOrder account acts).length) ∧
    ((∀ front act, front ++ [act] <+: acts →
        (run (front ++ [act])).sequencer.allocator account =
          (run front).sequencer.allocator account ∨
        ∃ task answer visit number, act = .advances task answer ∧
          (run acts).visits[task]? = some visit ∧ visit.errand.account = account ∧
            visit.fate = .finished (.reserved number)) ∧
      ∀ (task : TaskId) visit, (run acts).visits[task]? = some visit →
        visit.fate ≠ .underWay → task ∉ ((run acts).sequencer.counter account).line) ∧
    (run (within account acts)).visits.map Visit.view =
        ((run acts).visits.filter (Visit.isAt account)).map Visit.view ∧
      (run (within account acts)).sequencer.allocator account =
        (run acts).sequencer.allocator account := by
  have succession := succession_run undisturbed small
  have reflects := reflects_run undisturbed
  refine ⟨⟨succession.inOrder.once, ?_⟩, succession.counted.consecutive,
    ⟨fun front act => count_changes_for_served undisturbed small, ?_⟩,
    reflects.visits, reflects.counter.allocator⟩
  · intro task visit number held own fate
    exact succession.served task visit held own (by simp [number?, held, Visit.number?, fate])
  · intro task visit held ended standing
    obtain ⟨errand, under, -⟩ := ((disciplined_run acts).standing account task).mp standing
    obtain ⟨other, found, -, underWay⟩ := visit_of_errand under
    obtain rfl : visit = other := Option.some.inj (held.symm.trans found)
    exact ended underWay

/-- Four callers at one account and one elsewhere. The caller elsewhere is stuck in its question,
the first in line is told about a failure, and the last in line walks away. -/
def crowdedCounter : List Act :=
  let steps (tasks : List TaskId) : List Act := tasks.map fun task => .advances task none
  [.reserves (Bytes32.fill 1), .reserves (Bytes32.fill 2), .reserves (Bytes32.fill 1),
    .reserves (Bytes32.fill 1), .reserves (Bytes32.fill 1)] ++
    steps [1, 1, 2, 0, 3, 4, 2] ++ [.advances 2 (some (.nonce (.error (.other "offline"))))] ++
    steps [0] ++ [.abandons 4, .advances 0 (some (.nonce (.ok 7)))] ++ steps [3]

theorem crowded_counter_linearised :
    Undisturbed (Bytes32.fill 1) crowdedCounter ∧
      holders (Bytes32.fill 1) crowdedCounter = [2, 0, 3] ∧
      tellings (Bytes32.fill 1) crowdedCounter = [7] ∧
      numbersInOrder (Bytes32.fill 1) crowdedCounter = [7, 8] ∧
      (run (within (Bytes32.fill 1) crowdedCounter)).visits.map Visit.view =
        ((run crowdedCounter).visits.filter (Visit.isAt (Bytes32.fill 1))).map Visit.view := by
  have undisturbed : Undisturbed (Bytes32.fill 1) crowdedCounter := by
    intro front act inside
    have member : act ∈ crowdedCounter := inside.subset (by simp)
    simp only [crowdedCounter, List.map_cons, List.map_nil, List.cons_append, List.nil_append,
      List.mem_cons, List.not_mem_nil, or_false] at member
    rcases member with rfl | rfl | rfl | rfl | rfl | rfl | rfl | rfl | rfl | rfl | rfl | rfl | rfl |
      rfl | rfl | rfl | rfl <;> exact id
  have told : tellings (Bytes32.fill 1) crowdedCounter = [7] := by decide
  have order : holders (Bytes32.fill 1) crowdedCounter = [2, 0, 3] := by decide
  have count : (numbersInOrder (Bytes32.fill 1) crowdedCounter).length = 2 := by decide
  obtain ⟨-, ⟨-, numbers⟩, -, same, -⟩ :=
    reservations_linearised undisturbed (by rw [told]; decide)
  rw [told, count] at numbers
  exact ⟨undisturbed, order, told, numbers, same⟩

end Office

end LedgerCourier
