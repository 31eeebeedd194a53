import LedgerCourier.Proofs.Status.Lifecycle
import LedgerCourier.Proofs.Watch.Moves

/-!
# The verdict of a queue

All notices about a transaction have arrived before its watch begins. However the steps of the
watch are spread over time, and whatever the ledger answers to its questions, the watch comes to
the verdict that follows from the queue as a whole: feed a tracker with the reports up to the
first interruption of the stream and look at where it ends. An inclusion that is followed by
further notices never decides.
-/

namespace LedgerCourier

set_option autoImplicit false

namespace Watch

def leading : List Notice → List Status
  | .status status :: rest => status :: leading rest
  | _ => []

def interruption? : List Notice → Option Failure
  | [] => none
  | .status _ :: rest => interruption? rest
  | .failure cause :: _ => some cause

/-- How a watch ends, without what the ledger tells about the block. -/
inductive Ending where
  | success (status : Status) (block : Hash)
  | failure (error : Error)

def ending? : Verdict Outcome → Option Ending
  | .success outcome => some (.success outcome.status outcome.block)
  | .failure error => some (.failure error)
  | .overflow => none

/-- The end to which the notices in a queue lead, none if more of them are waited for. -/
def foreseen (transaction : SignedTransaction) (depth : Depth) (closed : Bool)
    (tracker : Tracker) (notices : List Notice) : Option Ending :=
  let nonce := transaction.nonce
  let hash := transaction.hash
  match (tracker.feed (leading notices)).current, interruption? notices with
  | some (.finalized block), _ => some (.success (.finalized block) block)
  | some (.invalid reason), _ => some (.failure (.rejected nonce hash reason))
  | some .dropped, _ => some (.failure (.dropped nonce hash))
  | some .usurped, _ => some (.failure (.usurped nonce hash))
  | _, some cause => some (.failure (.watch nonce hash cause))
  | current, none =>
      match depth, current with
      | .inBlock, some (.inBlock block) => some (.success (.inBlock block) block)
      | _, _ => if closed then some (.failure (.subscriptionClosed nonce hash)) else none

/-- The notices up to the one that settles the matter: the report that makes the tracker
terminal or the first interruption of the stream. -/
def decisive (tracker : Tracker) : List Notice → List Notice
  | [] => []
  | .failure cause :: _ => if tracker.isTerminal then [] else [.failure cause]
  | .status status :: rest =>
      if tracker.isTerminal then []
      else .status status :: decisive (tracker.apply status).1 rest

theorem decisive_of_terminal {tracker : Tracker} (terminal : tracker.isTerminal = true)
    (notices : List Notice) : decisive tracker notices = [] := by
  cases notices with
  | nil => rfl
  | cons notice rest => cases notice <;> simp [decisive, terminal]

theorem foreseen_status (transaction : SignedTransaction) (depth : Depth) (closed : Bool)
    (tracker : Tracker) (status : Status) (rest : List Notice) :
    foreseen transaction depth closed tracker (.status status :: rest) =
      foreseen transaction depth closed (tracker.apply status).1 rest := rfl

def outlook (watch : Watch) : Option Ending :=
  foreseen watch.transaction watch.depth watch.closed watch.tracker watch.inbox

def due (watch : Watch) : List Notice := decisive watch.tracker watch.inbox

/-- Where a watch may stand if nothing arrives any more. -/
structure Coherent (watch : Watch) : Prop extends Sound watch where
  shallow : watch.stage = .awaiting → ∀ status, watch.tracker.current = some status →
    watch.depth.isSatisfiedBy status = true → watch.inbox ≠ []
  latest : ∀ status block collection, watch.stage = .collecting status block collection →
    watch.isOvertaken status = false

/-- How many steps there are at most until the watch ends or waits for notices, not counting those
that find the history held. -/
def effort (watch : Watch) : Nat :=
  match watch.stage with
  | .awaiting => watch.inbox.length + 5
  | .recording _ => watch.inbox.length + 6
  | .collecting _ _ (.starting _ _) => 4
  | .collecting _ _ (.locating _) => 3
  | .collecting _ _ (.located _ _) => 2
  | .collecting _ _ (.fetching _ _) => 1
  | .settling errand _ => if errand.stage = .arriving then 2 else 1

theorem setback_purpose {transaction : SignedTransaction} {status : Status}
    {purpose : Errand.Purpose} {error : Error}
    (setback : transaction.setback? status = some (purpose, error)) : purpose ≠ .reserve := by
  unfold SignedTransaction.setback? at setback
  split at setback
  · split at setback <;> cases setback <;> simp
  · cases setback
    simp
  · cases setback

theorem foreseen_of_setback {transaction : SignedTransaction} {depth : Depth} {closed : Bool}
    {tracker : Tracker} {status : Status} {purpose : Errand.Purpose} {error : Error}
    (current : tracker.current = some status)
    (setback : transaction.setback? status = some (purpose, error)) (notices : List Notice) :
    foreseen transaction depth closed tracker notices = some (.failure error) := by
  have terminal : tracker.isTerminal = true :=
    (Tracker.terminal_at current).trans (setback_terminal setback)
  unfold foreseen
  rw [Tracker.feed_of_terminal terminal, current]
  unfold SignedTransaction.setback? at setback
  split at setback
  · cases setback
    rfl
  · cases setback
    rfl
  · cases setback

theorem Decides.coherent {watch next : Watch} {request : Option Request}
    (decides : watch.Decides (.goesOn next request)) : next.Coherent := by
  refine ⟨decides.sound, ?_, ?_⟩
  · cases decides with
    | keepsOn lives shallow => exact fun _ => shallow
    | fails => simp [settle]
    | collects => simp
  · cases decides with
    | keepsOn => simp
    | fails => simp [settle]
    | collects status block current included deep latest =>
        intro other place collection stage
        obtain ⟨rfl, -⟩ : status = other ∧ _ := by simpa using stage
        exact latest

theorem Decides.same_circumstances {watch next : Watch} {request : Option Request}
    (decides : watch.Decides (.goesOn next request)) :
    next.outlook = watch.outlook ∧ next.due = watch.due := by
  cases decides <;> exact ⟨rfl, rfl⟩

theorem took_circumstances {watch : Watch} {status : Status} {rest : List Notice}
    (stage : watch.stage = .awaiting) (inbox : watch.inbox = .status status :: rest)
    (lives : watch.tracker.isTerminal = false) :
    (watch.took status rest).outlook = watch.outlook ∧
      watch.notice?.toList ++ (watch.took status rest).due = watch.due := by
  constructor
  · rw [outlook, outlook, inbox, foreseen_status]
    rfl
  · rw [due, due, inbox, decisive]
    simp [notice?, stage, inbox, lives, took]

theorem Decides.effort {watch next : Watch} {request : Option Request}
    (decides : watch.Decides (.goesOn next request)) : next.effort < watch.inbox.length + 6 := by
  cases decides with
  | keepsOn => simp [Watch.effort]
  | fails => simp [Watch.effort, settle, Errand.start]
  | collects => simp [Watch.effort]

theorem collection_effort {collection next : Collection} {answer : Option Answer}
    {request : Option Request} (advances : collection.advance answer = .goesOn next request)
    {watch : Watch} {status : Status} {block : Hash}
    (stage : watch.stage = .collecting status block collection) :
    Watch.effort { watch with stage := .collecting status block next } < watch.effort := by
  unfold Collection.advance at advances
  split at advances
  · cases advances
    simp [effort, stage]
  · split at advances <;> cases advances
    simp [effort, stage]
  · cases advances
    simp [effort, stage]
  · split at advances <;> cases advances

theorem step_within {earlier later : Nat} {free : Bool} (less : later < earlier) :
    later + (if free then 1 else 0) ≤ earlier := by
  split <;> omega

/-- A step that does not end a watch leads nearer to the end that the queue foretells, unless it
finds the history held. -/
theorem Moves.approaches {task : TaskId} {desk after : Desk} {moment : Moment}
    {watch next : Watch} {request : Option Request}
    (moves : watch.Moves task desk moment (after, .goesOn next request))
    (coherent : watch.Coherent) :
    next.Coherent ∧ next.outlook = watch.outlook ∧
      watch.notice?.toList ++ next.due = watch.due ∧
        next.effort + (if canRecord desk moment then 1 else 0) ≤ watch.effort := by
  have sound := moves.sound coherent.toSound
  cases moves with
  | takes status rest progress stage inbox decides =>
      obtain ⟨outlook, due⟩ := decides.same_circumstances
      obtain ⟨same, taken⟩ := took_circumstances stage inbox (coherent.lives stage)
      have before : watch.effort = rest.length + 6 := by simp [effort, stage, inbox]
      exact ⟨decides.coherent, outlook.trans same, due ▸ taken,
        before ▸ step_within decides.effort⟩
  | holds status rest stage inbox counts held =>
      obtain ⟨same, taken⟩ := took_circumstances stage inbox (coherent.lives stage)
      exact ⟨⟨sound, by simp, by simp⟩, same, taken, by simp [effort, stage, inbox, held, took]⟩
  | records status progress stage decides =>
      obtain ⟨outlook, due⟩ := decides.same_circumstances
      have nothing : watch.notice? = none := by simp [notice?, stage]
      have before : watch.effort = watch.inbox.length + 6 := by simp [effort, stage]
      exact ⟨decides.coherent, outlook, by rw [nothing, due]; rfl,
        before ▸ step_within decides.effort⟩
  | collects status block collection following request stage advances =>
      have nothing : watch.notice? = none := by simp [notice?, stage]
      refine ⟨⟨sound, by simp, ?_⟩, rfl, by rw [nothing]; rfl,
        step_within (collection_effort advances stage)⟩
      intro other place later same
      obtain ⟨rfl, -⟩ : status = other ∧ _ := by simpa using same
      exact coherent.latest status block collection stage
  | resumes status block collection found stage advances overtaken =>
      rw [coherent.latest status block collection stage] at overtaken
      cases overtaken
  | attends errand following error sequencer request stage moves =>
      have nothing : watch.notice? = none := by simp [notice?, stage]
      refine ⟨⟨sound, by simp, by simp⟩, rfl, by rw [nothing]; rfl, ?_⟩
      cases moves with
      | arrives arriving => exact step_within (by simp [effort, stage, arriving])
      | asks standing reserves =>
          obtain ⟨-, status, -, setback⟩ := coherent.settling errand error stage
          exact absurd reserves (setback_purpose setback)

theorem foreseen_interrupted {transaction : SignedTransaction} {depth : Depth} {closed : Bool}
    {tracker : Tracker} (lives : tracker.isTerminal = false) (cause : Failure)
    (rest : List Notice) :
    foreseen transaction depth closed tracker (.failure cause :: rest) =
      some (.failure (.watch transaction.nonce transaction.hash cause)) := by
  unfold foreseen
  simp only [leading, Tracker.feed, List.foldl_nil, interruption?]
  cases current : tracker.current with
  | none => rfl
  | some status => cases status <;> simp_all [Tracker.isTerminal, Status.isTerminal]

theorem foreseen_idle {transaction : SignedTransaction} {depth : Depth} {closed : Bool}
    {tracker : Tracker} (lives : tracker.isTerminal = false)
    (shallow : ∀ status, tracker.current = some status → depth.isSatisfiedBy status = false) :
    foreseen transaction depth closed tracker [] =
      if closed then some (.failure (.subscriptionClosed transaction.nonce transaction.hash))
      else none := by
  unfold foreseen
  simp only [leading, Tracker.feed, List.foldl_nil, interruption?]
  cases current : tracker.current with
  | none => cases depth <;> rfl
  | some status =>
      have unsatisfied := shallow status current
      cases status <;> cases depth <;>
        simp_all [Tracker.isTerminal, Status.isTerminal, Depth.isSatisfiedBy]

theorem Coherent.idle {watch : Watch} (coherent : watch.Coherent)
    (stage : watch.stage = .awaiting) (inbox : watch.inbox = []) :
    watch.outlook = if watch.closed
      then some (.failure (.subscriptionClosed watch.transaction.nonce watch.transaction.hash))
      else none := by
  rw [outlook, inbox]
  apply foreseen_idle (coherent.lives stage)
  intro status current
  by_contra deep
  exact coherent.shallow stage status current (by simpa using deep) inbox

/-- A state that is deep enough and that nothing in the inbox can take back decides. -/
theorem foreseen_success {watch : Watch} {status : Status} {block : Hash}
    (current : watch.tracker.current = some status) (included : status.block? = some block)
    (deep : watch.depth.isSatisfiedBy status = true) (latest : watch.isOvertaken status = false) :
    watch.outlook = some (.success status block) ∧ watch.due = [] := by
  cases status with
  | finalized final =>
      obtain rfl : final = block := by simpa [Status.block?] using included
      have terminal : watch.tracker.isTerminal = true := Tracker.terminal_at current
      refine ⟨?_, decisive_of_terminal terminal watch.inbox⟩
      unfold outlook foreseen
      rw [Tracker.feed_of_terminal terminal, current]
  | inBlock found =>
      obtain rfl : found = block := by simpa [Status.block?] using included
      have empty : watch.inbox = [] := by simpa [isOvertaken, Status.isTerminal] using latest
      have depth : watch.depth = .inBlock := by
        cases choice : watch.depth with
        | inBlock => rfl
        | finalized => simp [choice, Depth.isSatisfiedBy] at deep
      refine ⟨?_, by rw [due, empty]; rfl⟩
      unfold outlook foreseen
      rw [empty, depth]
      simp [leading, Tracker.feed, interruption?, current]
  | ready => simp [Status.block?] at included
  | broadcast => simp [Status.block?] at included
  | invalid reason => simp [Status.block?] at included
  | dropped => simp [Status.block?] at included
  | usurped => simp [Status.block?] at included
  | retracted => simp [Status.block?] at included

theorem foreseen_usurped {watch : Watch} (current : watch.tracker.current = some .usurped) :
    watch.outlook = some (.failure
        (.usurped watch.transaction.nonce watch.transaction.hash)) ∧ watch.due = [] := by
  have terminal : watch.tracker.isTerminal = true := Tracker.terminal_at current
  refine ⟨?_, decisive_of_terminal terminal watch.inbox⟩
  unfold outlook foreseen
  rw [Tracker.feed_of_terminal terminal, current]

theorem Moves.decides {task : TaskId} {desk after : Desk} {moment : Moment}
    {watch : Watch} {verdict : Verdict Outcome}
    (moves : watch.Moves task desk moment (after, .ends verdict)) (coherent : watch.Coherent) :
    ∃ ending, ending? verdict = some ending ∧ watch.outlook = some ending ∧
      watch.notice?.toList = watch.due := by
  cases moves with
  | breaks cause rest stage inbox =>
      have lives := coherent.lives stage
      refine ⟨_, rfl, ?_, ?_⟩
      · rw [outlook, inbox]
        exact foreseen_interrupted lives cause rest
      · simp [notice?, stage, inbox, due, decisive, lives]
  | runsDry stage inbox closed =>
      refine ⟨_, rfl, ?_, ?_⟩
      · rw [coherent.idle stage inbox, if_pos closed]
      · simp [notice?, stage, inbox, due, decisive]
  | takes status rest progress stage inbox decides =>
      cases decides with
      | usurped current =>
          obtain ⟨known, settled⟩ := foreseen_usurped current
          obtain ⟨same, taken⟩ := took_circumstances stage inbox (coherent.lives stage)
          refine ⟨_, rfl, same.symm.trans known, ?_⟩
          simpa [settled] using taken
  | records status progress stage decides =>
      cases decides with
      | usurped current =>
          obtain ⟨known, settled⟩ := foreseen_usurped current
          exact ⟨_, rfl, known, by simp [notice?, stage, settled]⟩
  | concludes status block collection found stage advances latest =>
      obtain ⟨current, included, deep⟩ := coherent.collecting status block collection stage
      obtain ⟨success, nothing⟩ := foreseen_success current included deep latest
      exact ⟨_, rfl, success, by simp [notice?, stage, nothing]⟩
  | settles errand error sequencer result stage moves =>
      obtain ⟨-, status, current, setback⟩ := coherent.settling errand error stage
      have terminal : watch.tracker.isTerminal = true := 
        (Tracker.terminal_at current).trans (setback_terminal setback)
      refine ⟨_, rfl, foreseen_of_setback current setback watch.inbox, ?_⟩
      simp [notice?, stage, due, decisive_of_terminal terminal]

structure Circumstance where
  desk : Desk
  moment : Moment

inductive Stand where
  | underWay (watch : Watch)
  | finished (verdict : Verdict Outcome)

def follow (task : TaskId) (watch : Watch) : List Circumstance → List Notice × Stand
  | [] => ([], .underWay watch)
  | circumstance :: course =>
      match (watch.advance task circumstance.desk circumstance.moment).2 with
      | .waits => watch.follow task course
      | .goesOn next _ =>
          let (later, stand) := next.follow task course
          (watch.notice?.toList ++ later, stand)
      | .ends verdict => (watch.notice?.toList, .finished verdict)

/-- The ledger answers what the watch asks, and the watch finds itself at the head of the line:
it never waits for anything but notices and the history. -/
def Served (task : TaskId) (watch : Watch) : List Circumstance → Prop
  | [] => True
  | circumstance :: course =>
      match (watch.advance task circumstance.desk circumstance.moment).2 with
      | .waits => (watch.stage = .awaiting ∨ ∃ status, watch.stage = .recording status) ∧
          watch.Served task course
      | .goesOn next _ => next.Served task course
      | .ends _ => True

def opened (transaction : SignedTransaction) (depth : Depth) (notices : List Notice)
    (closed : Bool) : Watch :=
  { Watch.start transaction depth with inbox := notices, closed := closed }

theorem opened_coherent (transaction : SignedTransaction) (depth : Depth)
    (notices : List Notice) (closed : Bool) :
    (opened transaction depth notices closed).Coherent := by
  have sound := start_sound transaction depth
  exact ⟨⟨sound.lives, sound.recording, sound.collecting, sound.settling⟩,
    by simp [opened, start, Tracker.start], by simp [opened, start]⟩

/-- Whatever a watch ends with, the queue foretold it, and nothing was taken beyond the notice
that settled the matter. -/
theorem Coherent.follow_ends {task : TaskId} {watch : Watch} (coherent : watch.Coherent)
    {course : List Circumstance} {taken : List Notice} {verdict : Verdict Outcome}
    (finished : watch.follow task course = (taken, .finished verdict)) :
    taken = watch.due ∧ ∃ ending, ending? verdict = some ending ∧
      watch.outlook = some ending := by
  induction course generalizing watch taken with
  | nil => simp [follow] at finished
  | cons circumstance course induction =>
      have moves := watch.advance_moves task circumstance.desk circumstance.moment
      simp only [follow] at finished
      generalize watch.advance task circumstance.desk circumstance.moment = step at moves finished
      obtain ⟨after, progress⟩ := step
      cases progress with
      | waits => exact induction coherent finished
      | goesOn next request =>
          obtain ⟨still, outlook, due, -⟩ := moves.approaches coherent
          obtain ⟨rfl, stand⟩ := Prod.ext_iff.mp finished
          obtain ⟨later, ending, told, foretold⟩ := induction still (Prod.ext rfl stand)
          refine ⟨?_, ending, told, outlook ▸ foretold⟩
          simp only [later, due]
      | ends ended =>
          obtain ⟨rfl, rfl⟩ : watch.notice?.toList = taken ∧ ended = verdict := by
            simpa using finished
          obtain ⟨ending, told, foretold, taken⟩ := moves.decides coherent
          exact ⟨taken, ending, told, foretold⟩

theorem follow_idle (task : TaskId) {watch : Watch} (stage : watch.stage = .awaiting)
    (inbox : watch.inbox = []) (opened : watch.closed = false) (course : List Circumstance) :
    watch.follow task course = ([], .underWay watch) := by
  induction course with
  | nil => rfl
  | cons circumstance course induction =>
      have waits : (watch.advance task circumstance.desk circumstance.moment).2 = .waits := by
        simp [advance, stage, inbox, opened]
      simp only [follow, waits]
      exact induction

theorem effort_positive (watch : Watch) : 0 < watch.effort := by
  unfold effort
  split <;> first | omega | (split <;> omega)

/-- How many of the steps find the history free. -/
def freeTurns (course : List Circumstance) : Nat :=
  course.countP fun circumstance => canRecord circumstance.desk circumstance.moment

/-- A watch that is served ends when as many steps as its effort have found the history free, or
it has taken all notices and waits for more. -/
theorem Coherent.follow_settles {task : TaskId} {watch : Watch} (coherent : watch.Coherent)
    {course : List Circumstance} (served : watch.Served task course)
    (enough : watch.effort ≤ freeTurns course) :
    (∃ taken verdict, watch.follow task course = (taken, .finished verdict)) ∨
      ∃ last, watch.follow task course = (watch.due, .underWay last) ∧ last.stage = .awaiting ∧
        last.inbox = [] ∧ last.closed = false ∧ watch.outlook = none := by
  induction course generalizing watch with
  | nil =>
      have positive := watch.effort_positive
      simp only [freeTurns, List.countP_nil] at enough
      omega
  | cons circumstance course induction =>
      have moves := watch.advance_moves task circumstance.desk circumstance.moment
      simp only [follow]
      simp only [Served] at served
      generalize watch.advance task circumstance.desk circumstance.moment = step at moves served ⊢
      obtain ⟨after, progress⟩ := step
      cases progress with
      | waits =>
          obtain ⟨-, idle, held⟩ := moves.rests
          obtain ⟨stage | ⟨status, stage⟩, later⟩ := served
          · obtain ⟨inbox, opened⟩ := idle stage
            have nothing : watch.due = [] := by rw [due, inbox]; rfl
            refine Or.inr ⟨watch, ?_, stage, inbox, opened, ?_⟩
            · rw [nothing]
              exact follow_idle task stage inbox opened course
            · rw [coherent.idle stage inbox, if_neg (by simp [opened])]
          · refine induction coherent later ?_
            simpa [freeTurns, held status stage] using enough
      | goesOn next request =>
          obtain ⟨still, outlook, due, smaller⟩ := moves.approaches coherent
          have left : next.effort ≤ freeTurns course := by
            rw [freeTurns, List.countP_cons] at enough
            exact Nat.le_of_add_le_add_right (smaller.trans enough)
          rcases induction still served left with
            ⟨taken, verdict, finished⟩ | ⟨last, underWay, rest⟩
          · exact Or.inl ⟨watch.notice?.toList ++ taken, verdict, by simp only [finished]⟩
          · exact Or.inr ⟨last, by simp only [underWay, due], outlook ▸ rest⟩
      | ends verdict => exact Or.inl ⟨watch.notice?.toList, verdict, rfl⟩

theorem foreseen_of_terminal (transaction : SignedTransaction) (depth : Depth) (closed : Bool)
    {tracker : Tracker} (terminal : tracker.isTerminal = true) (notices : List Notice) :
    foreseen transaction depth closed tracker notices ≠ none := by
  unfold foreseen
  rw [Tracker.feed_of_terminal terminal]
  cases current : tracker.current with
  | none => simp [Tracker.isTerminal, current] at terminal
  | some status => cases status <;> simp_all [Tracker.isTerminal, Status.isTerminal]

theorem decisive_of_unforeseen {transaction : SignedTransaction} {depth : Depth} {closed : Bool}
    {tracker : Tracker} {notices : List Notice}
    (unforeseen : foreseen transaction depth closed tracker notices = none) :
    decisive tracker notices = notices := by
  induction notices generalizing tracker with
  | nil => rfl
  | cons notice rest induction =>
      have lives : tracker.isTerminal = false := by
        rw [Bool.eq_false_iff]
        intro terminal
        exact foreseen_of_terminal transaction depth closed terminal _ unforeseen
      cases notice with
      | failure cause =>
          rw [foreseen_interrupted lives] at unforeseen
          cases unforeseen
      | status status =>
          rw [foreseen_status] at unforeseen
          simp [decisive, lives, induction unforeseen]

/-- Whenever a watch over a queue of notices ends, it ends as the queue foretells, having taken
the notices up to the one that settles the matter. If the ledger serves it, it does end, unless
the queue settles nothing: then it has taken all of it and waits. -/
theorem queue_gives_verdict (task : TaskId) (transaction : SignedTransaction) (depth : Depth)
    (notices : List Notice) (closed : Bool) (course : List Circumstance) :
    let watch := opened transaction depth notices closed
    let foretold := foreseen transaction depth closed Tracker.start notices
    (∀ taken verdict, watch.follow task course = (taken, .finished verdict) →
      taken = decisive Tracker.start notices ∧
        ∃ ending, ending? verdict = some ending ∧ foretold = some ending) ∧
    (watch.Served task course → notices.length + 5 ≤ freeTurns course →
      (foretold ≠ none → ∃ taken verdict, watch.follow task course = (taken, .finished verdict)) ∧
      (foretold = none → ∃ last, watch.follow task course = (notices, .underWay last) ∧
        last.stage = .awaiting ∧ last.inbox = [] ∧ last.closed = false)) := by
  intro watch foretold
  have coherent := opened_coherent transaction depth notices closed
  refine ⟨fun taken verdict finished => coherent.follow_ends finished, ?_⟩
  intro served enough
  have settles := coherent.follow_settles served enough
  constructor
  · intro foreseen
    rcases settles with finished | ⟨last, -, -, -, -, unforeseen⟩
    · exact finished
    · exact absurd unforeseen foreseen
  · intro unforeseen
    rcases settles with ⟨taken, verdict, finished⟩ | ⟨last, underWay, stage, inbox, opened, -⟩
    · obtain ⟨-, ending, -, foreseen⟩ := coherent.follow_ends finished
      exact absurd (foreseen.symm.trans unforeseen) (by simp)
    · refine ⟨last, ?_, stage, inbox, opened⟩
      rw [underWay]
      exact congrArg (·, _) (decisive_of_unforeseen unforeseen)

/-- A retraction that waits behind an inclusion is followed to the next block, also where the
history is not free when the inclusion is taken. -/
theorem retraction_is_followed :
    let transaction : SignedTransaction :=
      ⟨⟨"lock", [], []⟩, 5, Bytes32.fill 1, .sr25519 [], [], Bytes32.fill 7⟩
    let notices : List Notice :=
      [.status (.inBlock (Bytes32.fill 2)), .status .retracted,
        .status (.finalized (Bytes32.fill 3))]
    let unlocated : Moment :=
      ⟨0, false, ⟨fun _ _ => .ok [], fun _ _ _ _ => .ok []⟩, some (.position (.ok none)), true⟩
    let held : Moment := { unlocated with historyFree := false }
    let course := [⟨Desk.start 1, held⟩, ⟨Desk.start 1, held⟩] ++
      List.replicate 8 ⟨Desk.start 1, unlocated⟩
    ∃ taken verdict, (opened transaction .inBlock notices false).follow 0 course =
      (taken, .finished verdict) := by
  intro transaction notices unlocated held course
  have served : (opened transaction .inBlock notices false).Served 0 course :=
    ⟨Or.inr ⟨_, rfl⟩, trivial⟩
  have foretold : foreseen transaction .inBlock false Tracker.start notices ≠ none := by
    decide
  exact ((queue_gives_verdict 0 transaction .inBlock notices false course).2 served
    (by decide)).1 foretold

end Watch

end LedgerCourier
