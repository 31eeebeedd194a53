import LedgerCourier.Proofs.Watch.Queue

/-!
# Notices that come in batches

A watch has the desk to itself. Notices come in batches, the next one when the watch has dealt
with the one before and waits for more. What the batches lead to follows from the batches alone,
and what becomes of the number follows from that. Where nobody else stands in line, and the ledger
answers, the watch does get there.
-/

namespace LedgerCourier

set_option autoImplicit false

namespace Watch

/-- Notices that come together, and whether the stream is over after them. -/
structure Batch where
  notices : List Notice
  closes : Bool

def receive (watch : Watch) (batch : Batch) : Watch :=
  let delivered := batch.notices.foldl deliver watch
  if batch.closes then delivered.close else delivered

theorem receive_eq (watch : Watch) (batch : Batch) :
    watch.receive batch = { watch with
      inbox := watch.inbox ++ batch.notices, closed := watch.closed || batch.closes } := by
  have delivered : ∀ notices : List Notice,
      notices.foldl deliver watch = { watch with inbox := watch.inbox ++ notices } := by
    intro notices
    induction notices generalizing watch with
    | nil => simp
    | cons notice notices induction =>
        rw [List.foldl_cons, induction]
        simp [deliver]
  unfold receive
  rw [delivered]
  cases batch.closes <;> simp [close]

def attend (task : TaskId) : Desk → Watch → List Moment → Desk × Stand
  | desk, watch, [] => (desk, .underWay watch)
  | desk, watch, moment :: moments =>
      match watch.advance task desk moment with
      | (after, .waits) => attend task after watch moments
      | (after, .goesOn next _) => attend task after next moments
      | (after, .ends verdict) => (after, .finished verdict)

structure Idle (watch : Watch) : Prop where
  stage : watch.stage = .awaiting
  inbox : watch.inbox = []
  opened : watch.closed = false

/-- The batches are dealt with one after another, until the watch ends or waits for more. -/
inductive Course (task : TaskId) : Desk → Watch → List Batch → Desk → Stand → Prop where
  | rests (desk : Desk) (watch : Watch) : Course task desk watch [] desk (.underWay watch)
  | decides (desk after : Desk) (watch : Watch) (batch : Batch) (batches : List Batch)
      (moments : List Moment) (verdict : Verdict Outcome)
      (attended : attend task desk (watch.receive batch) moments = (after, .finished verdict)) :
      Course task desk watch (batch :: batches) after (.finished verdict)
  | goesOn (desk between after : Desk) (watch next : Watch) (batch : Batch)
      (batches : List Batch) (moments : List Moment) (stand : Stand)
      (attended : attend task desk (watch.receive batch) moments = (between, .underWay next))
      (idle : next.Idle) (course : Course task between next batches after stand) :
      Course task desk watch (batch :: batches) after stand

def foreseenOf (transaction : SignedTransaction) (depth : Depth) :
    Tracker → List Batch → Option Ending
  | _, [] => none
  | tracker, batch :: batches =>
      match foreseen transaction depth batch.closes tracker batch.notices with
      | some ending => some ending
      | none => foreseenOf transaction depth (tracker.feed (leading batch.notices)) batches

/-- What becomes of the numbers of the account when a watch ends. -/
def Ending.settle (transaction : SignedTransaction) : Ending → Allocator → Allocator
  | .failure (.rejected _ _ reason), allocator =>
      if Stale.isStale reason then Allocator.start else allocator.giveBack transaction.nonce
  | .failure (.dropped _ _), allocator => allocator.giveBack transaction.nonce
  | _, allocator => allocator

def Stand.ending? : Stand → Option Ending
  | .underWay _ => none
  | .finished verdict => Watch.ending? verdict

def settled (transaction : SignedTransaction) (ending : Option Ending) (account : AccountId)
    (allocator : Allocator) : Allocator :=
  if transaction.origin = account then
    ending.elim allocator fun ending => ending.settle transaction allocator
  else allocator

def destination (watch : Watch) : Tracker := watch.tracker.feed (leading watch.inbox)

/-- The errand of a watch has no question for the ledger. -/
def Unasked (watch : Watch) : Prop :=
  ∀ errand error, watch.stage = .settling errand error → errand.stage ≠ .asking

variable {task : TaskId} {desk after : Desk} {watch next : Watch} {moment : Moment}
  {request : Option Request}

/-- What a watch keeps while it deals with its inbox. -/
structure LeadsTo (watch next : Watch) : Prop where
  coherent : next.Coherent
  unasked : next.Unasked
  outlook : next.outlook = watch.outlook
  destination : next.destination = watch.destination
  transaction : next.transaction = watch.transaction
  depth : next.depth = watch.depth

theorem LeadsTo.trans {last : Watch} (first : watch.LeadsTo next) (second : next.LeadsTo last) :
    watch.LeadsTo last :=
  ⟨second.coherent, second.unasked, second.outlook.trans first.outlook,
    second.destination.trans first.destination, second.transaction.trans first.transaction,
    second.depth.trans first.depth⟩

theorem Decides.unasked (decides : watch.Decides (.goesOn next request)) : next.Unasked := by
  cases decides with
  | keepsOn => simp [Unasked]
  | fails status purpose error current setback =>
      intro errand told stage
      obtain ⟨rfl, -⟩ : Errand.start watch.transaction.origin purpose = errand ∧ error = told := by
        simpa [settle] using stage
      simp [Errand.start]
  | collects => simp [Unasked]

theorem Moves.unasked (moves : watch.Moves task desk moment (after, .goesOn next request))
    (sound : watch.Sound) : next.Unasked := by
  cases moves with
  | takes status rest progress stage inbox decides => exact decides.unasked
  | holds => simp [Unasked]
  | records status progress stage decides => exact decides.unasked
  | collects => simp [Unasked]
  | resumes => simp [Unasked]
  | attends errand following error sequencer request stage moves =>
      intro other told same
      obtain ⟨rfl, -⟩ : following = other ∧ error = told := by simpa using same
      cases moves with
      | arrives position => simp
      | asks position purpose =>
          obtain ⟨-, status, -, setback⟩ := sound.settling errand error stage
          exact absurd purpose (setback_purpose setback)

theorem Decides.destination (decides : watch.Decides (.goesOn next request)) :
    next.destination = watch.destination := by
  cases decides <;> rfl

theorem Moves.destination (moves : watch.Moves task desk moment (after, .goesOn next request)) :
    next.destination = watch.destination := by
  cases moves with
  | takes status rest progress stage inbox decides =>
      rw [decides.destination, Watch.destination, Watch.destination, inbox]
      rfl
  | holds status rest stage inbox counts held =>
      rw [Watch.destination, Watch.destination, inbox]
      rfl
  | records status progress stage decides => exact decides.destination
  | collects => rfl
  | resumes => rfl
  | attends => rfl

theorem Moves.leads_to (moves : watch.Moves task desk moment (after, .goesOn next request))
    (coherent : watch.Coherent) : watch.LeadsTo next := by
  obtain ⟨still, outlook, -, -⟩ := moves.approaches coherent
  obtain ⟨transaction, depth⟩ := moves.same_transaction
  exact ⟨still, moves.unasked coherent.toSound, outlook, moves.destination, transaction, depth⟩

theorem Moves.allocators (moves : watch.Moves task desk moment (after, .goesOn next request))
    (account : AccountId) :
    after.sequencer.allocator account = desk.sequencer.allocator account := by
  cases moves with
  | takes => rfl
  | holds => rfl
  | records => rfl
  | collects => rfl
  | resumes => rfl
  | attends errand following error sequencer request stage moves =>
      cases moves with
      | arrives position => simp
      | asks => rfl

def purpose_leaves : Errand.Purpose → Allocator → Allocator
  | .giveBack number, allocator => allocator.giveBack number
  | .forget, _ => Allocator.start
  | .reserve, allocator => allocator

theorem errand_leaves {errand : Errand} {sequencer before : Sequencer} {answer : Option Answer}
    {result : Errand.Result}
    (stage : errand.stage ≠ .asking) (other : errand.purpose ≠ .reserve)
    (moves : errand.Moves task before answer (sequencer, .ends result)) (account : AccountId) :
    sequencer.allocator account =
      if errand.account = account then purpose_leaves errand.purpose (before.allocator account)
      else before.allocator account := by
  cases moves with
  | takesKnown next number after position purpose => exact absurd purpose other
  | takesTold next number after position => exact absurd position stage
  | exhausts next position source purpose =>
      cases known : errand.stage with
      | arriving => exact absurd known position
      | inLine => exact absurd (purpose known) other
      | asking => exact absurd known stage
  | fails cause position => exact absurd position stage
  | givesBack number position purpose =>
      rw [Sequencer.allocator_leave, Sequencer.allocator_with_allocator, purpose]
      split
      next same => rw [same, purpose_leaves]
      next => rfl
  | forgets position purpose =>
      rw [Sequencer.allocator_leave, Sequencer.allocator_with_allocator, purpose]
      rfl

theorem setback_settles {transaction : SignedTransaction} {status : Status}
    {purpose : Errand.Purpose} {error : Error}
    (setback : transaction.setback? status = some (purpose, error)) (allocator : Allocator) :
    (Ending.failure error).settle transaction allocator = purpose_leaves purpose allocator := by
  unfold SignedTransaction.setback? at setback
  split at setback
  next reason =>
    cases setback
    simp only [Ending.settle]
    split <;> rfl
  next =>
    cases setback
    rfl
  next => cases setback

theorem Moves.ends_as_foretold {verdict : Verdict Outcome}
    (moves : watch.Moves task desk moment (after, .ends verdict)) (coherent : watch.Coherent)
    (unasked : watch.Unasked) :
    ending? verdict = watch.outlook ∧ watch.outlook ≠ none ∧ ∀ account,
      after.sequencer.allocator account =
        settled watch.transaction watch.outlook account (desk.sequencer.allocator account) := by
  obtain ⟨ending, told, foretold, -⟩ := moves.decides coherent
  rw [foretold]
  refine ⟨told, by simp, ?_⟩
  intro account
  have untouched : ending.settle watch.transaction (desk.sequencer.allocator account) =
      desk.sequencer.allocator account →
        desk.sequencer.allocator account =
          settled watch.transaction (some ending) account (desk.sequencer.allocator account) := by
    intro same
    simp [settled, same]
  cases moves with
  | breaks cause rest stage inbox =>
      obtain rfl := Option.some.inj told
      exact untouched rfl
  | runsDry stage inbox closed =>
      obtain rfl := Option.some.inj told
      exact untouched rfl
  | takes status rest progress stage inbox decides =>
      cases decides with
      | usurped current =>
          obtain rfl := Option.some.inj told
          exact untouched rfl
  | records status progress stage decides =>
      cases decides with
      | usurped current =>
          obtain rfl := Option.some.inj told
          exact untouched rfl
  | concludes status block collection found stage advances latest =>
      obtain rfl := Option.some.inj told
      exact untouched rfl
  | settles errand error sequencer result stage moves =>
      obtain ⟨own, status, -, setback⟩ := coherent.settling errand error stage
      obtain rfl := Option.some.inj told
      have left := errand_leaves (unasked errand error stage) (setback_purpose setback) moves
        account
      rw [own] at left
      rw [left, settled, Option.elim, setback_settles setback]

/-- Where steps at any moments lead that nobody interferes with. -/
theorem Coherent.attend_leads (coherent : watch.Coherent) (unasked : watch.Unasked)
    {moments : List Moment} {stand : Stand}
    (attended : attend task desk watch moments = (after, stand)) :
    (∀ next, stand = .underWay next → watch.LeadsTo next ∧ ∀ account,
        after.sequencer.allocator account = desk.sequencer.allocator account) ∧
      ∀ verdict, stand = .finished verdict →
        ending? verdict = watch.outlook ∧ watch.outlook ≠ none ∧ ∀ account,
          after.sequencer.allocator account =
            settled watch.transaction watch.outlook account
              (desk.sequencer.allocator account) := by
  induction moments generalizing desk watch with
  | nil =>
      obtain ⟨rfl, rfl⟩ := Prod.mk.inj attended
      refine ⟨?_, by simp⟩
      intro next same
      obtain rfl : watch = next := by simpa using same
      exact ⟨⟨coherent, unasked, rfl, rfl, rfl, rfl⟩, fun _ => rfl⟩
  | cons moment moments induction =>
      have moves := watch.advance_moves task desk moment
      simp only [attend] at attended
      generalize watch.advance task desk moment = step at moves attended
      obtain ⟨between, progress⟩ := step
      cases progress with
      | waits =>
          obtain ⟨rfl, -⟩ := moves.rests
          exact induction coherent unasked attended
      | goesOn following request =>
          have leads := moves.leads_to coherent
          obtain ⟨goes, ends⟩ := induction leads.coherent leads.unasked attended
          have kept := moves.allocators
          constructor
          · intro next same
            obtain ⟨later, unchanged⟩ := goes next same
            exact ⟨leads.trans later, fun account => (unchanged account).trans (kept account)⟩
          · intro verdict same
            have settles := ends verdict same
            rw [leads.outlook, leads.transaction] at settles
            obtain ⟨told, foreseen, changed⟩ := settles
            refine ⟨told, foreseen, ?_⟩
            intro account
            rw [changed account, kept account]
      | ends verdict =>
          obtain ⟨rfl, rfl⟩ := Prod.mk.inj attended
          refine ⟨by simp, ?_⟩
          intro other same
          obtain rfl : verdict = other := by simpa using same
          exact moves.ends_as_foretold coherent unasked

theorem start_idle (transaction : SignedTransaction) (depth : Depth) :
    (start transaction depth).Idle :=
  ⟨rfl, rfl, rfl⟩

theorem start_coherent (transaction : SignedTransaction) (depth : Depth) :
    (start transaction depth).Coherent :=
  opened_coherent transaction depth [] false

theorem Idle.unasked (idle : watch.Idle) : watch.Unasked := by
  intro errand error stage
  cases idle.stage.symm.trans stage

theorem Idle.receive (idle : watch.Idle) (coherent : watch.Coherent) (batch : Batch) :
    (watch.receive batch).Coherent ∧ (watch.receive batch).Unasked ∧
      (watch.receive batch).outlook =
        foreseen watch.transaction watch.depth batch.closes watch.tracker batch.notices ∧
      (watch.receive batch).destination = watch.tracker.feed (leading batch.notices) := by
  have received := watch.receive_eq batch
  rw [idle.inbox, idle.opened, List.nil_append, Bool.false_or] at received
  rw [received]
  refine ⟨⟨⟨coherent.lives, coherent.recording, coherent.collecting, coherent.settling⟩, ?_, ?_⟩,
    idle.unasked, rfl, rfl⟩
  · intro stage status current deep
    exact absurd idle.inbox (coherent.shallow stage status current deep)
  · intro status block collection stage
    cases idle.stage.symm.trans stage

/-- However the steps of a watch are spread over time, it comes to the end to which the batches
lead, and the numbers of the account become what that end makes of them. -/
theorem Course.as_foretold {batches : List Batch} {stand : Stand}
    (course : Course task desk watch batches after stand) (coherent : watch.Coherent)
    (idle : watch.Idle) :
    stand.ending? = foreseenOf watch.transaction watch.depth watch.tracker batches ∧
      ∀ account, after.sequencer.allocator account =
        settled watch.transaction stand.ending? account (desk.sequencer.allocator account) := by
  induction course with
  | rests desk watch =>
      refine ⟨rfl, ?_⟩
      intro account
      simp [settled, Stand.ending?]
  | decides desk after watch batch batches moments verdict attended =>
      obtain ⟨still, unasked, outlook, -⟩ := idle.receive coherent batch
      obtain ⟨-, ends⟩ := still.attend_leads unasked attended
      obtain ⟨told, foretold, changed⟩ := ends verdict rfl
      have same : (watch.receive batch).transaction = watch.transaction := by
        rw [receive_eq]
      rw [same, ← told] at changed
      refine ⟨?_, changed⟩
      obtain ⟨ending, known⟩ := Option.ne_none_iff_exists'.mp foretold
      rw [Stand.ending?, told, known]
      simp [foreseenOf, ← outlook, known]
  | goesOn desk between after watch next batch batches moments stand attended rest course
      induction =>
      obtain ⟨still, unasked, outlook, destination⟩ := idle.receive coherent batch
      obtain ⟨goes, -⟩ := still.attend_leads unasked attended
      obtain ⟨leads, kept⟩ := goes next rfl
      have transaction : next.transaction = watch.transaction := by
        rw [leads.transaction, receive_eq]
      have depth : next.depth = watch.depth := by rw [leads.depth, receive_eq]
      have waits : foreseen watch.transaction watch.depth batch.closes watch.tracker
          batch.notices = none := by
        rw [← outlook, ← leads.outlook, leads.coherent.idle rest.stage rest.inbox,
          if_neg (by simp [rest.opened])]
      have tracker : next.tracker = watch.tracker.feed (leading batch.notices) := by
        have reached : next.destination = next.tracker := by
          rw [Watch.destination, rest.inbox]
          rfl
        rw [← reached, leads.destination, destination]
      obtain ⟨told, changed⟩ := induction leads.coherent rest
      rw [transaction] at changed
      refine ⟨?_, ?_⟩
      · rw [told, transaction, depth, tracker]
        simp [foreseenOf, waits]
      · intro account
        rw [changed account, kept account]

/-- Nobody else stands in the line of the account. -/
def Unhindered (task : TaskId) (desk : Desk) (watch : Watch) : Prop :=
  (desk.sequencer.counter watch.transaction.origin).line =
    match watch.stage with
    | .settling errand _ => if errand.stage = .arriving then [] else [task]
    | _ => []

theorem Decides.unhindered (decides : watch.Decides (.goesOn next request))
    (free : (desk.sequencer.counter watch.transaction.origin).line = []) :
    next.Unhindered task desk := by
  cases decides with
  | keepsOn => exact free
  | fails status purpose error current setback =>
      simp [Unhindered, settle, Errand.start, free]
  | collects => exact free

theorem Moves.unhindered (moves : watch.Moves task desk moment (after, .goesOn next request))
    (sound : watch.Sound) (free : watch.Unhindered task desk) : next.Unhindered task after := by
  cases moves with
  | takes status rest progress stage inbox decides =>
      have line : (desk.sequencer.counter watch.transaction.origin).line = [] := by
        simpa [Unhindered, stage] using free
      exact decides.unhindered line
  | holds status rest stage inbox counts held => simpa [Unhindered, stage, took] using free
  | records status progress stage decides =>
      have line : (desk.sequencer.counter watch.transaction.origin).line = [] := by
        simpa [Unhindered, stage] using free
      exact decides.unhindered line
  | collects status block collection following request stage advances =>
      simpa [Unhindered, stage] using free
  | resumes status block collection found stage advances overtaken =>
      simpa [Unhindered, stage] using free
  | attends errand following error sequencer request stage moves =>
      obtain ⟨own, status, -, setback⟩ := sound.settling errand error stage
      cases moves with
      | arrives position =>
          have line : (desk.sequencer.counter watch.transaction.origin).line = [] := by
            simpa [Unhindered, stage, position] using free
          simp [Unhindered, own, line]
      | asks position purpose => exact absurd purpose (setback_purpose setback)

theorem examine_moves (watch : Watch) : watch.examine ≠ .waits := by
  intro waits
  have decides := watch.examine_decides
  rw [waits] at decides
  cases decides

/-- A watch that has something to do can do it once the ledger answers and the history is free. -/
theorem Coherent.can_move (coherent : watch.Coherent) (unasked : watch.Unasked)
    (free : watch.Unhindered task desk) (busy : ¬watch.Idle) :
    ∃ moment, canRecord desk moment = true ∧ (watch.advance task desk moment).2 ≠ .waits := by
  let finds (answer : Option Answer) : Moment :=
    ⟨0, false, ⟨fun _ _ => .ok [], fun _ _ _ _ => .ok []⟩, answer, true⟩
  have free_history : ∀ answer, canRecord desk (finds answer) = true := by simp [canRecord, finds]
  cases stage : watch.stage with
  | awaiting =>
      refine ⟨finds none, free_history none, ?_⟩
      have moves := watch.advance_moves task desk (finds none)
      intro waits
      generalize watch.advance task desk (finds none) = step at moves waits
      obtain ⟨after, progress⟩ := step
      obtain rfl : progress = .waits := waits
      obtain ⟨inbox, opened⟩ := moves.rests.2.1 stage
      exact busy ⟨stage, inbox, opened⟩
  | recording status =>
      refine ⟨finds none, free_history none, ?_⟩
      simp [advance, stage, free_history, record, examine_moves]
  | collecting status block collection =>
      have concludes : ∀ events, watch.conclude status block events ≠ .waits := by
        intro events
        unfold conclude
        split <;> simp
      cases collection with
      | starting block extrinsic =>
          refine ⟨finds none, free_history none, ?_⟩
          simp [advance, stage, Collection.advance, Progress.lift]
      | locating block =>
          refine ⟨finds (some (.position (.ok none))), free_history _, ?_⟩
          simp [advance, stage, Collection.advance, Progress.lift, finds, concludes]
      | located block index =>
          refine ⟨finds none, free_history none, ?_⟩
          simp [advance, stage, Collection.advance, Progress.lift]
      | fetching block index =>
          refine ⟨finds (some (.events (.ok []))), free_history _, ?_⟩
          simp [advance, stage, Collection.advance, Progress.lift, finds, concludes]
  | settling errand error =>
      refine ⟨finds none, free_history none, ?_⟩
      obtain ⟨own, status, -, setback⟩ := coherent.settling errand error stage
      have purpose := setback_purpose setback
      cases position : errand.stage with
      | arriving => simp [advance, stage, Errand.advance, position, Progress.lift]
      | asking => exact absurd position (unasked errand error stage)
      | inLine =>
          have head : desk.sequencer.isHead errand.account task = true := by
            rw [Sequencer.is_head_iff, own]
            simpa [Unhindered, stage, position] using congrArg List.head? free
          cases known : errand.purpose with
          | reserve => exact absurd known purpose
          | giveBack number =>
              simp [advance, stage, Errand.advance, position, head, Errand.serve, known,
                Progress.lift]
          | forget =>
              simp [advance, stage, Errand.advance, position, head, Errand.serve, known,
                Progress.lift]

theorem Coherent.can_rest (coherent : watch.Coherent) (unasked : watch.Unasked)
    (free : watch.Unhindered task desk) :
    ∃ moments after stand, attend task desk watch moments = (after, stand) ∧
      ∀ next, stand = .underWay next → next.Idle ∧ next.Unhindered task after := by
  induction effort : watch.effort using Nat.strongRecOn generalizing desk watch with
  | ind effort induction =>
      by_cases idle : watch.Idle
      · refine ⟨[], desk, .underWay watch, rfl, ?_⟩
        intro next same
        obtain rfl : watch = next := by simpa using same
        exact ⟨idle, free⟩
      · obtain ⟨moment, unheld, moving⟩ := coherent.can_move unasked free idle
        have moves := watch.advance_moves task desk moment
        cases step : watch.advance task desk moment with
        | mk between progress =>
            rw [step] at moves moving
            cases progress with
            | waits => exact absurd rfl moving
            | goesOn following request =>
                obtain ⟨-, -, -, smaller⟩ := moves.approaches coherent
                rw [if_pos unheld] at smaller
                have leads := moves.leads_to coherent
                obtain ⟨moments, after, stand, attended, rests⟩ :=
                  induction following.effort (effort ▸ smaller) leads.coherent leads.unasked
                    (moves.unhindered coherent.toSound free) rfl
                refine ⟨moment :: moments, after, stand, ?_, rests⟩
                simp only [attend, step, attended]
            | ends verdict =>
                refine ⟨[moment], between, .finished verdict, ?_, by simp⟩
                simp only [attend, step]

theorem Idle.can_run (idle : watch.Idle) (coherent : watch.Coherent)
    (free : watch.Unhindered task desk) (batches : List Batch) :
    ∃ after stand, Course task desk watch batches after stand := by
  induction batches generalizing desk watch with
  | nil => exact ⟨desk, .underWay watch, .rests desk watch⟩
  | cons batch batches induction =>
      obtain ⟨still, unasked, -⟩ := idle.receive coherent batch
      have unhindered : (watch.receive batch).Unhindered task desk := by
        rw [receive_eq]
        exact free
      obtain ⟨moments, between, stand, attended, rests⟩ := still.can_rest unasked unhindered
      cases stand with
      | finished verdict =>
          exact ⟨between, .finished verdict, .decides desk between watch batch batches moments
            verdict attended⟩
      | underWay next =>
          obtain ⟨leads, -⟩ := (still.attend_leads unasked attended).1 next rfl
          obtain ⟨nextIdle, nextFree⟩ := rests next rfl
          obtain ⟨after, stand, course⟩ := induction nextIdle leads.coherent nextFree
          exact ⟨after, stand, .goesOn desk between after watch next batch batches moments stand
            attended nextIdle course⟩

end Watch

end LedgerCourier
