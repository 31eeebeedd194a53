import LedgerCourier.Proofs.Nonce.Line
import LedgerCourier.Watch

/-!
# What a watch does in one step

A step takes a notice, or has the history keep what the last one reported, and decides what
follows from the state of the transaction, or it advances the collection of its events, or the
errand about its number. The cases below say under which circumstances each of these happens, so
that nothing about a watch is proved by running it.
-/

namespace LedgerCourier

set_option autoImplicit false

/-- What is done about the number of a transaction that failed, and how the failure is told. -/
def SignedTransaction.setback? (transaction : SignedTransaction) :
    Status → Option (Errand.Purpose × Error)
  | .invalid reason =>
      some (if Stale.isStale reason then .forget else .giveBack transaction.nonce,
        .rejected transaction.nonce transaction.hash reason)
  | .dropped =>
      some (.giveBack transaction.nonce, .dropped transaction.nonce transaction.hash)
  | _ => none

theorem Tracker.apply_of_counts {tracker : Tracker} {status : Status}
    (counts : (tracker.apply status).2 ≠ .ignored) :
    (tracker.apply status).1 = ⟨some status, tracker.history ++ [status]⟩ := by
  unfold apply at counts ⊢
  split
  next => rfl
  next refused => simp [refused] at counts

theorem Tracker.terminal_at {tracker : Tracker} {status : Status}
    (current : tracker.current = some status) : tracker.isTerminal = status.isTerminal := by
  simp [isTerminal, current]

namespace Watch

theorem setback_terminal {transaction : SignedTransaction} {status : Status}
    {purpose : Errand.Purpose} {error : Error}
    (setback : transaction.setback? status = some (purpose, error)) :
    status.isTerminal = true := by
  cases status <;> simp_all [SignedTransaction.setback?, Status.isTerminal]

def notice? (watch : Watch) : Option Notice :=
  match watch.stage with
  | .awaiting => watch.inbox.head?
  | _ => none

def took (watch : Watch) (status : Status) (rest : List Notice) : Watch :=
  { watch with tracker := (watch.tracker.apply status).1, inbox := rest }

/-- The history after a report was taken. -/
def recorded (watch : Watch) (history : History) (status : Status) : History :=
  if (watch.tracker.apply status).2 = .ignored then history
  else history.record watch.transaction.hash status

inductive Decides (watch : Watch) : Progress Watch (Verdict Outcome) → Prop where
  | keepsOn (lives : watch.tracker.isTerminal = false)
      (shallow : ∀ status, watch.tracker.current = some status →
        watch.depth.isSatisfiedBy status = true → watch.inbox ≠ []) :
      Decides watch (.goesOn { watch with stage := .awaiting } none)
  | fails (status : Status) (purpose : Errand.Purpose) (error : Error)
      (current : watch.tracker.current = some status)
      (setback : watch.transaction.setback? status = some (purpose, error)) :
      Decides watch (.goesOn (watch.settle purpose error) none)
  | usurped (current : watch.tracker.current = some .usurped) :
      Decides watch
        (.ends (.failure (.usurped watch.transaction.nonce watch.transaction.hash)))
  | collects (status : Status) (block : Hash) (current : watch.tracker.current = some status)
      (included : status.block? = some block) (deep : watch.depth.isSatisfiedBy status = true)
      (latest : watch.isOvertaken status = false) :
      Decides watch (.goesOn { watch with
        stage := .collecting status block (.starting block watch.transaction.hash) } none)

theorem examine_decides (watch : Watch) : watch.Decides watch.examine := by
  unfold examine
  split
  next current => exact .keepsOn (by simp [Tracker.isTerminal, current]) (by simp [current])
  next reason current => exact .fails _ _ _ current rfl
  next current => exact .fails _ _ _ current rfl
  next current => exact .usurped current
  next status valid kept replaced current =>
    split
    next outside =>
      refine .keepsOn ?_ ?_
      · cases status <;> simp_all [Tracker.isTerminal, Status.block?, Status.isTerminal]
      · intro other same deep
        obtain rfl : status = other := Option.some.inj (current.symm.trans same)
        cases status <;> simp_all [Depth.isSatisfiedBy, Status.block?]
    next block included =>
      split
      next shallow =>
        rcases Bool.or_eq_true_iff.mp shallow with shallow | overtaken
        · have unsatisfied : watch.depth.isSatisfiedBy status = false := by simpa using shallow
          refine .keepsOn ?_ ?_
          · cases status <;>
              simp_all [Tracker.isTerminal, Status.isTerminal, Depth.isSatisfiedBy, Status.block?]
          · intro other same deep
            obtain rfl : status = other := Option.some.inj (current.symm.trans same)
            rw [unsatisfied] at deep
            cases deep
        · obtain ⟨lives, queued⟩ : status.isTerminal = false ∧ watch.inbox.isEmpty = false := by
            simpa [isOvertaken] using overtaken
          refine .keepsOn (by simp [Tracker.isTerminal, current, lives]) ?_
          intro _ _ _ empty
          simp [empty] at queued
      next deep =>
        obtain ⟨satisfied, latest⟩ :
            watch.depth.isSatisfiedBy status = true ∧ watch.isOvertaken status = false := by
          simpa using deep
        exact .collects status block current included satisfied latest

inductive Moves (task : TaskId) (desk : Desk) (moment : Moment) (watch : Watch) :
    Desk × Progress Watch (Verdict Outcome) → Prop where
  | waits
      (idle : watch.stage = .awaiting → watch.inbox = [] ∧ watch.closed = false)
      (held : ∀ status, watch.stage = .recording status → canRecord desk moment = false) :
      Moves task desk moment watch (desk, .waits)
  | breaks (cause : Failure) (rest : List Notice) (stage : watch.stage = .awaiting)
      (inbox : watch.inbox = .failure cause :: rest) :
      Moves task desk moment watch
        (desk, .ends (.failure (.watch watch.transaction.nonce watch.transaction.hash cause)))
  | runsDry (stage : watch.stage = .awaiting) (inbox : watch.inbox = [])
      (closed : watch.closed = true) :
      Moves task desk moment watch (desk, .ends (.failure
        (.subscriptionClosed watch.transaction.nonce watch.transaction.hash)))
  | takes (status : Status) (rest : List Notice) (progress : Progress Watch (Verdict Outcome))
      (stage : watch.stage = .awaiting) (inbox : watch.inbox = .status status :: rest)
      (decides : (watch.took status rest).Decides progress) :
      Moves task desk moment watch
        ({ desk with history := watch.recorded desk.history status }, progress)
  | holds (status : Status) (rest : List Notice) (stage : watch.stage = .awaiting)
      (inbox : watch.inbox = .status status :: rest)
      (counts : (watch.tracker.apply status).2 ≠ .ignored)
      (held : canRecord desk moment = false) :
      Moves task desk moment watch
        (desk, .goesOn { watch.took status rest with stage := .recording status } none)
  | records (status : Status) (progress : Progress Watch (Verdict Outcome))
      (stage : watch.stage = .recording status) (decides : watch.Decides progress) :
      Moves task desk moment watch
        ({ desk with history := desk.history.record watch.transaction.hash status }, progress)
  | collects (status : Status) (block : Hash) (collection next : Collection)
      (request : Option Request) (stage : watch.stage = .collecting status block collection)
      (advances : collection.advance moment.answer = .goesOn next request) :
      Moves task desk moment watch
        (desk, .goesOn { watch with stage := .collecting status block next } request)
  | resumes (status : Status) (block : Hash) (collection : Collection)
      (found : Except Error (List Event))
      (stage : watch.stage = .collecting status block collection)
      (advances : collection.advance moment.answer = .ends found)
      (overtaken : watch.isOvertaken status = true) :
      Moves task desk moment watch (desk, .goesOn { watch with stage := .awaiting } none)
  | concludes (status : Status) (block : Hash) (collection : Collection)
      (found : Except Error (List Event))
      (stage : watch.stage = .collecting status block collection)
      (advances : collection.advance moment.answer = .ends found)
      (latest : watch.isOvertaken status = false) :
      Moves task desk moment watch
        (desk, .ends (.success (watch.outcome status block (found.toOption.getD []))))
  | attends (errand next : Errand) (error : Error) (sequencer : Sequencer)
      (request : Option Request) (stage : watch.stage = .settling errand error)
      (moves : errand.Moves task desk.sequencer moment.answer (sequencer, .goesOn next request)) :
      Moves task desk moment watch
        ({ desk with sequencer := sequencer },
          .goesOn { watch with stage := .settling next error } request)
  | settles (errand : Errand) (error : Error) (sequencer : Sequencer) (result : Errand.Result)
      (stage : watch.stage = .settling errand error)
      (moves : errand.Moves task desk.sequencer moment.answer (sequencer, .ends result)) :
      Moves task desk moment watch
        ({ desk with sequencer := sequencer }, .ends (.failure error))

theorem take_status_moves (task : TaskId) (desk : Desk) (moment : Moment) {watch : Watch}
    {status : Status} {rest : List Notice} (stage : watch.stage = .awaiting)
    (inbox : watch.inbox = .status status :: rest) :
    watch.Moves task desk moment (takeStatus desk moment { watch with inbox := rest } status) := by
  have decides := (watch.took status rest).examine_decides
  have takes : watch.Moves task desk moment _ := .takes status rest _ stage inbox decides
  unfold recorded at takes
  unfold takeStatus record
  by_cases ignored : (watch.tracker.apply status).2 = .ignored
  · simpa [ignored, took] using takes
  · by_cases free : canRecord desk moment = true
    · simpa [ignored, free, took] using takes
    · simpa [ignored, free, took] using
        Moves.holds status rest stage inbox ignored (by simpa using free)

theorem advance_moves (task : TaskId) (desk : Desk) (moment : Moment) (watch : Watch) :
    watch.Moves task desk moment (watch.advance task desk moment) := by
  unfold advance
  split
  next stage =>
    split
    next status rest inbox => exact take_status_moves task desk moment stage inbox
    next cause rest inbox => exact .breaks cause rest stage inbox
    next inbox =>
      split
      next closed => exact .runsDry stage inbox closed
      next opened => exact .waits (fun _ => ⟨inbox, by simpa using opened⟩) (by simp [stage])
  next status stage =>
    split
    next => exact .records status _ stage watch.examine_decides
    next held => exact .waits (by simp [stage]) fun _ _ => by simpa using held
  next status block collection stage =>
    cases advances : collection.advance moment.answer with
    | waits => exact .waits (by simp [stage]) (by simp [stage])
    | goesOn next request => exact .collects status block collection next request stage advances
    | ends found =>
        have concluding : watch.Moves task desk moment
            (desk, watch.conclude status block (found.toOption.getD [])) := by
          unfold conclude
          split
          next overtaken => exact .resumes status block collection found stage advances overtaken
          next latest =>
            exact .concludes status block collection found stage advances (by simpa using latest)
        cases found with
        | ok events => exact concluding
        | error error => exact concluding
  next errand error stage =>
    have moves := errand.advance_moves task desk.sequencer moment.answer
    generalize errand.advance task desk.sequencer moment.answer = step at moves
    obtain ⟨sequencer, progress⟩ := step
    cases progress with
    | waits =>
        cases moves
        exact .waits (by simp [stage]) (by simp [stage])
    | goesOn next request => exact .attends errand next error sequencer request stage moves
    | ends result => exact .settles errand error sequencer result stage moves

theorem Moves.rests {task : TaskId} {desk after : Desk} {moment : Moment} {watch : Watch}
    (moves : watch.Moves task desk moment (after, .waits)) :
    after = desk ∧ (watch.stage = .awaiting → watch.inbox = [] ∧ watch.closed = false) ∧
      ∀ status, watch.stage = .recording status → canRecord desk moment = false := by
  cases moves with
  | waits idle held => exact ⟨rfl, idle, held⟩
  | takes status rest progress stage inbox decides => cases decides
  | records status progress stage decides => cases decides

theorem Moves.counted {task : TaskId} {desk after : Desk} {moment : Moment} {watch : Watch} :
    ¬watch.Moves task desk moment (after, .ends .overflow) := by
  intro moves
  cases moves with
  | takes status rest progress stage inbox decides => cases decides
  | records status progress stage decides => cases decides

/-- What the stage of a watch says about the state of its transaction. -/
structure Sound (watch : Watch) : Prop where
  lives : watch.stage = .awaiting → watch.tracker.isTerminal = false
  recording : ∀ status, watch.stage = .recording status → watch.tracker.current = some status
  collecting : ∀ status block collection, watch.stage = .collecting status block collection →
    watch.tracker.current = some status ∧ status.block? = some block ∧
      watch.depth.isSatisfiedBy status = true
  settling : ∀ errand error, watch.stage = .settling errand error →
    errand.account = watch.transaction.origin ∧ ∃ status, watch.tracker.current = some status ∧
      watch.transaction.setback? status = some (errand.purpose, error)

theorem start_sound (transaction : SignedTransaction) (depth : Depth) :
    (start transaction depth).Sound := by
  constructor <;> simp [start, Tracker.start, Tracker.isTerminal]

theorem Sound.deliver {watch : Watch} (sound : watch.Sound) (notice : Notice) :
    (watch.deliver notice).Sound :=
  ⟨sound.lives, sound.recording, sound.collecting, sound.settling⟩

theorem Sound.close {watch : Watch} (sound : watch.Sound) : watch.close.Sound :=
  ⟨sound.lives, sound.recording, sound.collecting, sound.settling⟩

theorem Decides.sound {watch next : Watch} {request : Option Request}
    (decides : watch.Decides (.goesOn next request)) : next.Sound := by
  cases decides with
  | keepsOn lives shallow => exact ⟨fun _ => lives, by simp, by simp, by simp⟩
  | fails status purpose error current setback =>
      refine ⟨by simp [settle], by simp [settle], by simp [settle], ?_⟩
      intro errand told stage
      obtain ⟨rfl, rfl⟩ :
          Errand.start watch.transaction.origin purpose = errand ∧ error = told := by
        simpa [settle] using stage
      exact ⟨rfl, status, current, setback⟩
  | collects status block current included deep latest =>
      refine ⟨by simp, by simp, ?_, by simp⟩
      intro other place collection stage
      obtain ⟨rfl, rfl, -⟩ : status = other ∧ block = place ∧ _ := by simpa using stage
      exact ⟨current, included, deep⟩

theorem Moves.sound {task : TaskId} {desk after : Desk} {moment : Moment}
    {watch next : Watch} {request : Option Request}
    (moves : watch.Moves task desk moment (after, .goesOn next request)) (sound : watch.Sound) :
    next.Sound := by
  cases moves with
  | takes status rest progress stage inbox decides => exact decides.sound
  | holds status rest stage inbox counts held =>
      refine ⟨by simp, ?_, by simp, by simp⟩
      intro other same
      obtain rfl : status = other := by simpa using same
      exact congrArg Tracker.current (Tracker.apply_of_counts counts)
  | records status progress stage decides => exact decides.sound
  | collects status block collection following request stage advances =>
      refine ⟨by simp, by simp, ?_, by simp⟩
      intro other place later same
      obtain ⟨rfl, rfl, -⟩ : status = other ∧ block = place ∧ _ := by simpa using same
      exact sound.collecting status block collection stage
  | resumes status block collection found stage advances overtaken =>
      refine ⟨fun _ => ?_, by simp, by simp, by simp⟩
      obtain ⟨current, -⟩ := sound.collecting status block collection stage
      have lives : status.isTerminal = false := by
        simp only [isOvertaken, Bool.and_eq_true, Bool.not_eq_true'] at overtaken
        exact overtaken.1
      simp [Tracker.isTerminal, current, lives]
  | attends errand following error sequencer request stage moves =>
      refine ⟨by simp, by simp, by simp, ?_⟩
      intro other told same
      obtain ⟨rfl, rfl⟩ : following = other ∧ error = told := by simpa using same
      obtain ⟨account, purpose⟩ := moves.same_errand
      rw [account, purpose]
      exact sound.settling errand error stage

theorem Moves.same_transaction {task : TaskId} {desk after : Desk} {moment : Moment}
    {watch next : Watch} {request : Option Request}
    (moves : watch.Moves task desk moment (after, .goesOn next request)) :
    next.transaction = watch.transaction ∧ next.depth = watch.depth := by
  cases moves with
  | takes status rest progress stage inbox decides => cases decides <;> exact ⟨rfl, rfl⟩
  | holds => exact ⟨rfl, rfl⟩
  | records status progress stage decides => cases decides <;> exact ⟨rfl, rfl⟩
  | collects => exact ⟨rfl, rfl⟩
  | resumes => exact ⟨rfl, rfl⟩
  | attends => exact ⟨rfl, rfl⟩

end Watch

end LedgerCourier
