import LedgerCourier.Proofs.Traffic.Basic
import LedgerCourier.Proofs.Traffic.Books

/-!
# Conservation of numbers

For each account the numbers in use are those below the answer with which its count began,
those that calls in progress hold, and those that finished attempts have left in use. No number
is claimed twice. This holds at every moment of every run in which nobody says that a number is
out of date, because then no count is ever forgotten.
-/

namespace LedgerCourier

set_option autoImplicit false

theorem Deal.remembers {task : TaskId} {sequencer after : Sequencer} {answer : Option Answer}
    {before later : Standing} {recalled shown : List Observation}
    (deal : Deal task sequencer answer recalled before shown after later)
    (fresh : ∀ observation ∈ recalled ++ shown, observation.IsFresh)
    (remembers : ∀ errand, before.errand = some errand → errand.purpose ≠ .forget) :
    ∀ errand, later.errand = some errand → errand.purpose ≠ .forget := by
  cases deal with
  | rests => exact remembers
  | setsOut account purpose idle told kept stale =>
      rintro errand same forgets
      obtain rfl : Errand.start account purpose = errand := by simpa using same
      obtain ⟨observation, inside, outdated⟩ := stale forgets
      exact outdated (fresh observation inside)
  | attends errand next request after held moves =>
      rintro following same
      obtain rfl : next = following := by simpa using same
      rw [moves.same_errand.2]
      exact remembers errand held
  | obtains => simp
  | misses => simp
  | settles => simp
  | stops => simp

theorem Delivery.Sound.errand_account {delivery : Delivery} (sound : delivery.Sound)
    {errand : Errand} (held : delivery.errand? = some errand) :
    errand.account = delivery.signer.account := by
  unfold Delivery.errand? at held
  split at held
  next submission stage =>
    obtain ⟨-, signer, still⟩ := sound.submitting submission stage
    rw [← signer]
    unfold Submission.errand? at held
    split at held
    next own position =>
      obtain rfl := Option.some.inj held
      exact (still.reserving own position).1
    next nonce own error position =>
      obtain rfl := Option.some.inj held
      exact (still.undoing nonce own error position).1
    next => cases held
  next watch stage =>
    obtain ⟨prepared, -, still⟩ := sound.watching watch stage
    unfold Watch.errand? at held
    split at held
    next own error position =>
      obtain rfl := Option.some.inj held
      exact (still.settling own error position).1.trans prepared.origin
    next => cases held
  next => cases held

namespace Traffic

def heldBy (account : AccountId) (call : Call) : Option Nat :=
  if call.delivery.signer.account = account then call.number? else none

def held (account : AccountId) (traffic : Traffic) : List Nat :=
  traffic.calls.filterMap (heldBy account)

/-- What was seen of the calls of an account. -/
def seen (account : AccountId) (traffic : Traffic) : List Observation :=
  traffic.journal.filterMap fun record =>
    if record.account = account then some record.observation else none

/-- The numbers that finished attempts of an account have left in use. -/
def kept (account : AccountId) (traffic : Traffic) : List Nat :=
  (traffic.seen account).filterMap Observation.kept?

/-- The successful answers to questions for the number of an account. -/
def answers (account : AccountId) (traffic : Traffic) : List Nat :=
  (traffic.seen account).filterMap Observation.told?

def IsFresh (traffic : Traffic) : Prop :=
  ∀ record ∈ traffic.journal, record.observation.IsFresh

def books (account : AccountId) (traffic : Traffic) : Books where
  allocator := traffic.desk.sequencer.allocator account
  answers := (traffic.answers account).filter Allocator.canBegin
  claims := traffic.held account ++ traffic.kept account

theorem seen_change (traffic : Traffic) (account : AccountId) (task : TaskId) (desk : Desk)
    (call : Call) (shown : List Observation) :
    (traffic.change task desk call shown).seen account =
      traffic.seen account ++ if call.delivery.signer.account = account then shown else [] := by
  simp only [seen, change, List.filterMap_append, List.filterMap_map]
  congr 1
  split
  next same => simp [same]
  next different => simp [different]

theorem filter_map_set {Item Part : Type} (choose : Item → Option Part) {items : List Item}
    {position : Nat} {before : Item} (found : items[position]? = some before) (item : Item) :
    ∃ rest, (items.filterMap choose).Perm ((choose before).toList ++ rest) ∧
      ((items.set position item).filterMap choose).Perm ((choose item).toList ++ rest) := by
  obtain ⟨inside, rfl⟩ := List.getElem?_eq_some_iff.mp found
  obtain ⟨front, back, whole, -, replaced⟩ :
      ∃ front back, items = front ++ items[position] :: back ∧ front.length = position ∧
        items.set position item = front ++ item :: back := List.exists_of_set inside
  have moved : ∀ middle : Item, ((front ++ middle :: back).filterMap choose).Perm
      ((choose middle).toList ++ (front.filterMap choose ++ back.filterMap choose)) := by
    intro middle
    have split : (front ++ middle :: back).filterMap choose =
        front.filterMap choose ++ ((choose middle).toList ++ back.filterMap choose) := by
      rw [List.filterMap_append, List.filterMap_cons]
      cases choose middle <;> rfl
    rw [split]
    exact List.perm_append_comm_assoc _ _ _
  refine ⟨front.filterMap choose ++ back.filterMap choose, ?_, ?_⟩
  · conv_lhs => rw [whole]
    exact moved _
  · rw [replaced]
    exact moved item

/-- Where a call changes, the claims on its account change by its own number and by those that
its attempts leave in use. -/
theorem claims_change {traffic : Traffic} {task : TaskId} {before call : Call}
    (found : traffic.calls[task]? = some before)
    (signer : call.delivery.signer = before.delivery.signer) (account : AccountId) (desk : Desk)
    (shown : List Observation) (mine : before.delivery.signer.account = account) :
    ∃ rest, ((traffic.books account).claims).Perm (before.number?.toList ++ rest) ∧
      (((traffic.change task desk call shown).books account).claims).Perm
        (call.number?.toList ++ (shown.filterMap Observation.kept? ++ rest)) := by
  obtain ⟨others, earlier, later⟩ := filter_map_set (heldBy account) found call
  have own : heldBy account before = before.number? := by simp [heldBy, mine]
  have next : heldBy account call = call.number? := by simp [heldBy, signer, mine]
  rw [own] at earlier
  rw [next] at later
  refine ⟨others ++ traffic.kept account, ?_, ?_⟩
  · rw [← List.append_assoc]
    exact earlier.append_right _
  · have grown : (traffic.change task desk call shown).kept account =
        traffic.kept account ++ shown.filterMap Observation.kept? := by
      rw [kept, seen_change, if_pos (by rw [signer]; exact mine), List.filterMap_append]
      rfl
    have moved := later.append_right
      (traffic.kept account ++ shown.filterMap Observation.kept?)
    simp only [books, held, grown]
    apply moved.trans
    rw [List.append_assoc]
    apply List.Perm.append_left _
    rw [← List.append_assoc]
    exact List.perm_append_comm

theorem answers_change (traffic : Traffic) (task : TaskId) (account : AccountId) (desk : Desk)
    (call : Call) (shown : List Observation) (mine : call.delivery.signer.account = account) :
    ((traffic.change task desk call shown).books account).answers =
      (traffic.books account).answers ++
        (shown.filterMap Observation.told?).filter Allocator.canBegin := by
  simp only [books, answers, seen_change, if_pos mine, List.filterMap_append, List.filter_append]

theorem books_elsewhere {traffic : Traffic} {task : TaskId} {before call : Call}
    (found : traffic.calls[task]? = some before)
    (signer : call.delivery.signer = before.delivery.signer) {account : AccountId} {desk : Desk}
    (shown : List Observation) (other : before.delivery.signer.account ≠ account)
    (allocator : desk.sequencer.allocator account = traffic.desk.sequencer.allocator account) :
    (traffic.books account).Turns ((traffic.change task desk call shown).books account) := by
  have elsewhere : call.delivery.signer.account ≠ account := by rwa [signer]
  obtain ⟨rest, earlier, later⟩ := filter_map_set (heldBy account) found call
  have none : heldBy account before = none := by simp [heldBy, other]
  have still : heldBy account call = Option.none := by simp [heldBy, elsewhere]
  rw [none] at earlier
  rw [still] at later
  have seen : (traffic.change task desk call shown).seen account = traffic.seen account := by
    rw [seen_change, if_neg elsewhere, List.append_nil]
  have turned : (traffic.change task desk call shown).books account =
      ⟨(traffic.books account).allocator, (traffic.books account).answers,
        (traffic.change task desk call shown).held account ++ traffic.kept account⟩ := by
    simp only [books, answers, kept, seen]
    rw [← allocator]
    rfl
  rw [turned]
  exact .rests _ ((later.trans earlier.symm).append_right _)

/-- A call that goes on with the same number, of which nothing was told, leaves all books as
they were. -/
theorem books_unmoved {traffic : Traffic} {task : TaskId} {before call : Call}
    (found : traffic.calls[task]? = some before)
    (signer : call.delivery.signer = before.delivery.signer)
    (number : call.number? = before.number?) (account : AccountId) {shown : List Observation}
    (told : shown.filterMap Observation.told? = [])
    (kept : shown.filterMap Observation.kept? = []) :
    (traffic.books account).Turns
      ((traffic.change task traffic.desk call shown).books account) := by
  by_cases mine : before.delivery.signer.account = account
  · obtain ⟨rest, earlier, later⟩ :=
      claims_change found signer account traffic.desk shown mine
    have answers := answers_change traffic task account traffic.desk call shown
      (by rw [signer]; exact mine)
    rw [told] at answers
    rw [kept, number] at later
    have turned : (traffic.change task traffic.desk call shown).books account =
        ⟨(traffic.books account).allocator, (traffic.books account).answers,
          ((traffic.change task traffic.desk call shown).books account).claims⟩ := by
      rw [Books.mk.injEq]
      exact ⟨rfl, by rw [answers]; simp, rfl⟩
    rw [turned]
    exact .rests _ (Deal.rest_perm earlier later)
  · exact books_elsewhere found signer shown mine rfl

def Remembers (traffic : Traffic) : Prop :=
  ∀ task errand, traffic.errands task = some errand → errand.purpose ≠ .forget

theorem arrival_silent (delivery : Delivery) (notice : Notice) :
    (arrival delivery notice).filterMap Observation.told? = [] ∧
      (arrival delivery notice).filterMap Observation.kept? = [] := by
  unfold arrival
  split <;> exact ⟨rfl, rfl⟩

theorem Performs.turns {traffic after : Traffic} {act : Act}
    (performs : Performs traffic act after) (orderly : Orderly traffic)
    (remembers : Remembers traffic) (account : AccountId) :
    (traffic.books account).Turns (after.books account) := by
  cases performs with
  | stays => exact .rests _ (List.Perm.refl _)
  | begins now settings options call signer =>
      have idle :
          heldBy account ⟨Delivery.start now settings options call signer, none⟩ = none := by
        have number : (Delivery.start now settings options call signer).number? = none := rfl
        simp [heldBy, Call.number?, number]
      have same : (traffic.enter (Delivery.start now settings options call signer)).held account =
          traffic.held account := by
        simp [held, enter, idle]
      have books : (traffic.enter (Delivery.start now settings options call signer)).books account =
          ⟨(traffic.books account).allocator, (traffic.books account).answers,
            (traffic.books account).claims⟩ := by
        simp only [Traffic.books, same]
        rfl
      rw [books]
      exact .rests _ (List.Perm.refl _)
  | advances task moment delivery found desk progress moves =>
      have sound := orderly.sound task delivery found
      have deal := moves.deals sound
      have signer := signer_after moves
      by_cases mine : delivery.signer.account = account
      · obtain ⟨rest, earlier, later⟩ := claims_change found signer account desk
          (delivery.observations moment progress) mine
        have answers := answers_change traffic task account desk _
          (delivery.observations moment progress) (by rw [signer]; exact mine)
        rw [(standing_after delivery progress).2] at later
        have turns := deal.turns (errands_of_under_way found) orderly.disciplined
          (fun errand held => (sound.errand_account held).trans mine)
          (fun errand held =>
            remembers task errand ((errands_of_under_way found).trans held))
          (traffic.books account).answers earlier later
        rw [← answers] at turns
        exact turns
      · refine books_elsewhere found signer _ mine (deal.other_account ?_)
        intro errand held same
        exact mine ((sound.errand_account held).symm.trans same)
  | delivers task notice delivery found =>
      obtain ⟨standing, signer, -⟩ := deliver_same delivery notice
      obtain ⟨told, kept⟩ := arrival_silent delivery notice
      have number : (Call.mk (delivery.deliver notice) none).number? =
          (Call.mk delivery none).number? := congrArg Standing.number standing
      exact books_unmoved found signer number account told kept
  | closes task delivery found =>
      obtain ⟨standing, signer, -⟩ := close_same delivery
      have number : (Call.mk delivery.close none).number? = (Call.mk delivery none).number? :=
        congrArg Standing.number standing
      exact books_unmoved found signer number account rfl rfl

theorem Remembers.change {traffic : Traffic} (remembers : Remembers traffic) {task : TaskId}
    {before call : Call} (found : traffic.calls[task]? = some before) (desk : Desk)
    (shown : List Observation)
    (own : ∀ errand, call.errand? = some errand → errand.purpose ≠ .forget) :
    Remembers (traffic.change task desk call shown) := by
  intro other errand held
  rw [errands_change found] at held
  by_cases same : other = task
  · subst same
    exact own errand (by simpa using held)
  · rw [Function.update_of_ne same] at held
    exact remembers other errand held

theorem Performs.remembers {traffic after : Traffic} {act : Act}
    (performs : Performs traffic act after) (orderly : Orderly traffic)
    (remembers : Remembers traffic) (fresh : IsFresh after) : Remembers after := by
  have still : ∀ {task : TaskId} {delivery next : Delivery},
      traffic.calls[task]? = some ⟨delivery, none⟩ → next.standing = delivery.standing →
        ∀ errand, (Call.mk next none).errand? = some errand → errand.purpose ≠ .forget := by
    intro task delivery next found same errand held
    have own : (Call.mk next none).errand? = delivery.errand? := congrArg Standing.errand same
    exact remembers task errand ((errands_of_under_way found).trans (own ▸ held))
  cases performs with
  | stays => exact remembers
  | begins now settings options call signer =>
      intro task errand held
      rw [errands_enter] at held
      by_cases same : task = traffic.calls.length
      · subst same
        obtain rfl : Errand.start signer.account .reserve = errand := by simpa using held
        simp [Errand.start]
      · rw [Function.update_of_ne same] at held
        exact remembers task errand held
  | advances task moment delivery found desk progress moves =>
      apply remembers.change found desk _
      rw [(standing_after delivery progress).1]
      refine (moves.deals (orderly.sound task delivery found)).remembers ?_ ?_
      · intro observation inside
        exact fresh _ (orderly.told found (signer_after moves) inside)
      · intro errand held
        exact remembers task errand ((errands_of_under_way found).trans held)
  | delivers task notice delivery found =>
      exact remembers.change found _ _ (still found (deliver_same delivery notice).1)
  | closes task delivery found =>
      exact remembers.change found _ _ (still found (close_same delivery).1)

theorem start_balanced (capacity : Nat) (account : AccountId) :
    ((start capacity).books account).Balanced := by
  have unknown : ((start capacity).books account).allocator.next = none := by
    simp [books, start, Desk.start, Sequencer.allocator_start, Allocator.start]
  exact ⟨fun _ => ⟨rfl, rfl⟩, fun known => absurd unknown known⟩

theorem books_balanced (capacity : Nat) (acts : List Act) (fresh : IsFresh (run capacity acts))
    (account : AccountId) : ((run capacity acts).books account).Balanced := by
  have general : IsFresh (run capacity acts) → Remembers (run capacity acts) ∧
      ∀ account, ((run capacity acts).books account).Balanced := by
    apply orderly_induction (motive := fun traffic => IsFresh traffic → Remembers traffic ∧
      ∀ account, (traffic.books account).Balanced) capacity
    · intro _
      exact ⟨by simp [Remembers, errands, start], start_balanced capacity⟩
    · intro traffic act after orderly invariant performs later
      have earlier : IsFresh traffic := by
        intro record inside
        exact later record (performs.journal_grows.subset inside)
      obtain ⟨remembers, balanced⟩ := invariant earlier
      refine ⟨performs.remembers orderly remembers later, ?_⟩
      intro account
      exact (performs.turns orderly remembers account).balanced (balanced account)
  exact (general fresh).2 account

/-- Which numbers of an account are in use, and for whom. -/
structure Conserved (account : AccountId) (traffic : Traffic) (next start : Nat) : Prop where
  /-- An answer that is too large for a count to begin with ends its call and starts nothing. -/
  began : (traffic.answers account).filter Allocator.canBegin = [start]
  inUse : ∀ number, number < next ∧
      number ∉ (traffic.desk.sequencer.allocator account).released ↔
    number < start ∨ number ∈ traffic.held account ∨ number ∈ traffic.kept account
  above : ∀ number ∈ traffic.held account ++ traffic.kept account, start ≤ number
  distinct : (traffic.held account ++ traffic.kept account).Nodup

/-- At every moment of a run in which nobody says that a number is out of date, the numbers of
an account that are in use are those below the answer with which its count began, those that
its attempts in progress hold and those that finished attempts have left in use, without any
overlap. -/
theorem numbers_conserved (capacity : Nat) (acts : List Act)
    (fresh : IsFresh (run capacity acts)) (account : AccountId) (next : Nat)
    (known : ((run capacity acts).desk.sequencer.allocator account).next = some next) :
    ∃ start, Conserved account (run capacity acts) next start := by
  have balanced := books_balanced capacity acts fresh account
  obtain ⟨start, counted⟩ := balanced.known (by simp [books, known])
  refine ⟨start, counted.answers, ?_, counted.above, counted.distinct⟩
  intro number
  have used := counted.used number
  rw [books, Allocator.uses_of_known known, List.mem_append] at used
  exact used

/-- Three calls of one account. The transaction of the first is dropped, which the history is not
free to take at once, and its number goes to the third, whose extrinsic is refused. The second runs
out of time. Then both others try once more. -/
def crossingCalls : List Act :=
  let signer : Signer := ⟨Bytes32.fill 1, fun _ => .ok (.sr25519 [])⟩
  let begins (now : Nat) (timeout : Option Nat) : Act :=
    .begins now {} ⟨.finalized, timeout⟩ ⟨"lock", [], []⟩ signer
  let finds (now : Nat) (answer : Option Answer) (free : Bool) : Moment :=
    ⟨now, false, ⟨fun _ _ => .ok [], fun _ _ _ _ => .ok []⟩, answer, free⟩
  let goesOn (task : TaskId) (now : Nat) : Act := .advances task (finds now none true)
  let isTold (task : TaskId) (now : Nat) (answer : Answer) : Act :=
    .advances task (finds now (some answer) true)
  [begins 0 none, goesOn 0 0, goesOn 0 0, begins 0 (some 300), goesOn 1 0,
    isTold 0 10 (.nonce (.ok 5)), goesOn 1 10, goesOn 0 10, goesOn 1 10,
    isTold 0 20 (.sent (.ok ())), isTold 1 20 (.sent (.ok ())), .delivers 0 (.status .dropped),
    .advances 0 (finds 30 none false), goesOn 0 40, goesOn 0 40, goesOn 0 40,
    begins 100 none, goesOn 2 100, goesOn 2 100, goesOn 2 100,
    isTold 2 110 (.sent (.error (.request "connection reset"))), goesOn 2 110, goesOn 2 110,
    goesOn 1 300, goesOn 0 540, goesOn 0 540, goesOn 0 540,
    goesOn 2 610, goesOn 2 610, goesOn 2 610, goesOn 0 610, isTold 0 620 (.sent (.ok ()))]

/-- No number is lost or doubled: 5 was dropped and refused and is in use once more, 6 stays used by
the call that ran out of time, and 7 is new. -/
theorem crossing_calls_conserve :
    let account := Bytes32.fill 1
    let traffic := run 1 crossingCalls
    traffic.calls.map Call.number? = [some 5, none, some 7] ∧
      traffic.kept account = [6] ∧
      (traffic.seen account).filterMap Observation.failureText? =
        ["RPC error: connection reset"] ∧
      IsFresh traffic ∧ ∃ start, Conserved account traffic 8 start := by
  intro account traffic
  have words : (traffic.journal.all fun record =>
      record.observation.failureText?.all fun text => !Stale.isStale text) = true := by decide
  have fresh : IsFresh traffic := by
    intro record inside text told
    simpa [told] using List.all_eq_true.mp words record inside
  exact ⟨rfl, rfl, rfl, fresh, numbers_conserved 1 crossingCalls fresh account 8 rfl⟩

end Traffic

end LedgerCourier
