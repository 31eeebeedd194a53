import LedgerCourier.Proofs.Call.Stopping

/-!
# Running out of time after a terminal state

Once its tracker has accepted a terminal state, nothing more can happen to a transaction, but its
call is not over. The history takes the report, for which it may have to be waited for. The events
of a final block are looked up, and the number of a transaction that failed is taken care of, which
may mean to wait in the line of the account. The deadline is looked at in the meantime. A call that
reports a timeout has therefore not always missed the end of its transaction: the timeout names a
terminal state exactly if a turn that comes too late finds the call at this work. As long as no turn
does, a transaction seen to be final makes its call succeed.
-/

namespace LedgerCourier

set_option autoImplicit false

def Happening.IsLate (story : Story) : Happening → Prop
  | .turn _ moment => moment.cancelled = false ∧ story.call.delivery.isLate moment.now = true
  | _ => False

def Happening.IsInTime (story : Story) : Happening → Prop
  | .turn _ moment => moment.cancelled = false ∧ story.call.delivery.isLate moment.now = false
  | _ => True

/-- Whoever has a turn finds the answer to what the call has asked, and the history free if the
call waits for it. -/
def Happening.IsServed (story : Story) : Happening → Prop
  | .turn desk moment =>
      (story.call.delivery.question? ≠ none → story.call.delivery.heard? moment ≠ none) ∧
        (story.call.delivery.recalled ≠ [] → Watch.canRecord desk moment = true)
  | _ => True

namespace Watch

/-- What is left to be done for a transaction in a terminal state. -/
inductive Completes (watch : Watch) : Status → Prop where
  | records (status : Status) (stage : watch.stage = .recording status) : Completes watch status
  | collects (block : Hash) (collection : Collection)
      (stage : watch.stage = .collecting (.finalized block) block collection) :
      Completes watch (.finalized block)
  | settles (status : Status) (errand : Errand) (error : Error)
      (stage : watch.stage = .settling errand error)
      (setback : watch.transaction.setback? status = some (errand.purpose, error)) :
      Completes watch status

theorem Sound.completes {watch : Watch} (sound : watch.Sound) {status : Status}
    (current : watch.tracker.current = some status) (terminal : status.isTerminal = true) :
    watch.Completes status := by
  cases stage : watch.stage with
  | awaiting =>
      have lives := sound.lives stage
      simp [Tracker.isTerminal, current, terminal] at lives
  | recording other =>
      obtain rfl : other = status :=
        Option.some.inj ((sound.recording other stage).symm.trans current)
      exact .records other stage
  | collecting other block collection =>
      obtain ⟨reached, included, -⟩ := sound.collecting other block collection stage
      obtain rfl : other = status := Option.some.inj (reached.symm.trans current)
      cases other with
      | finalized final =>
          obtain rfl : final = block := Option.some.inj included
          exact .collects final collection stage
      | inBlock => cases terminal
      | ready | broadcast | invalid | dropped | usurped | retracted => cases included
  | settling errand error =>
      obtain ⟨-, other, reached, setback⟩ := sound.settling errand error stage
      obtain rfl : other = status := Option.some.inj (reached.symm.trans current)
      exact .settles other errand error stage setback

/-- A watch that has accepted a final block gets to its end in so many steps at most, if it finds
what it waits for. -/
inductive Nears (watch : Watch) (block : Hash) (left : Nat) : Prop where
  | records (stage : watch.stage = .recording (.finalized block))
      (current : watch.tracker.current = some (.finalized block)) (room : 5 ≤ left)
  | collects (collection : Collection)
      (stage : watch.stage = .collecting (.finalized block) block collection)
      (bounded : watch.effort ≤ left)

theorem Nears.positive {watch : Watch} {block : Hash} {left : Nat}
    (nears : watch.Nears block left) : 0 < left := by
  cases nears with
  | records stage current room => omega
  | collects collection stage bounded => exact Nat.lt_of_lt_of_le watch.effort_positive bounded

theorem effort_collecting {watch other : Watch} {status : Status} {block : Hash}
    {collection : Collection} (stage : watch.stage = .collecting status block collection)
    (same : other.stage = watch.stage) : other.effort = watch.effort := by
  rw [stage] at same
  unfold effort
  rw [stage, same]
  cases collection <;> rfl

theorem Nears.received {watch other : Watch} {block : Hash} {left : Nat}
    (nears : watch.Nears block left) (stage : other.stage = watch.stage)
    (tracker : other.tracker = watch.tracker) : other.Nears block left := by
  cases nears with
  | records position current room =>
      exact .records (stage.trans position) (tracker ▸ current) room
  | collects collection position bounded =>
      exact .collects collection (stage.trans position)
        (effort_collecting position stage ▸ bounded)

end Watch

namespace Delivery

variable {task : TaskId} {desk after : Desk} {moment : Moment} {delivery : Delivery}

theorem Moves.struck_by_deadline {number : Option Nat} {hash : Option Hash} {last : Option Status}
    (moves : delivery.Moves task desk moment
      (after, .ends (.failure (.timeout number hash last))))
    (sound : delivery.Sound) (active : delivery.IsActive) :
    delivery.interruption? moment = some .timedOut ∧
      delivery.interruptedError .timedOut = .timeout number hash last := by
  generalize outcome : Verdict.failure (Error.timeout number hash last) = verdict at moves
  cases moves with
  | stops interruption _ strikes =>
      have told := Verdict.failure.inj outcome
      cases interruption with
      | timedOut => exact ⟨strikes, told.symm⟩
      | cancelled =>
          unfold interruptedError at told
          cases stage : delivery.stage with
          | submitting submission => simp [stage, Interruption.toError] at told
          | watching watch => simp [stage, Interruption.toError] at told
          | pausing wakeAt error => exact absurd stage (active wakeAt error)
  | isRefused submission error after _ stage undisturbed moves follows =>
      cases follows with
      | surrenders final =>
          obtain rfl := Verdict.failure.inj outcome
          obtain ⟨-, -, still⟩ := sound.submitting submission stage
          cases moves with
          | undone nonce errand _ sequencer result position moves =>
              obtain ⟨-, -, refusal, -⟩ := still.undoing nonce errand _ position
              exact absurd rfl refusal
  | overflows => cases outcome
  | succeeds => cases outcome
  | fails watch error after _ stage undisturbed moves follows =>
      cases follows with
      | surrenders final =>
          obtain ⟨-, -, still⟩ := sound.watching watch stage
          obtain ⟨-, -, untimed⟩ := moves.end_names still
          exact absurd outcome.symm (untimed number hash last)
  | givesUp wakeAt error stage cancelled => exact absurd stage (active wakeAt error)

theorem advance_collecting {watch : Watch} {block : Hash} {collection : Collection}
    (undisturbed : delivery.interruption? moment = none)
    (stage : delivery.stage = .watching watch)
    (position : watch.stage = .collecting (.finalized block) block collection) (task : TaskId)
    (desk : Desk) :
    (delivery.advance task desk moment).2 =
      match collection.advance moment.answer with
      | .waits => .waits
      | .goesOn next request =>
          let following := { watch with stage := .collecting (.finalized block) block next }
          .goesOn { delivery with stage := .watching following } request
      | .ends found =>
          .ends (.success (watch.outcome (.finalized block) block (found.toOption.getD []))) := by
  rw [advance_undisturbed undisturbed]
  simp only [proceed, stage, Watch.advance, position]
  cases collection.advance moment.answer with
  | waits => rfl
  | goesOn next request => rfl
  | ends found =>
      cases found <;>
        simp [Progress.lift, Watch.conclude, Watch.isOvertaken, Status.isTerminal, Except.toOption]

theorem advance_recording {watch : Watch} {block : Hash}
    (undisturbed : delivery.interruption? moment = none)
    (stage : delivery.stage = .watching watch)
    (position : watch.stage = .recording (.finalized block))
    (current : watch.tracker.current = some (.finalized block)) (task : TaskId) (desk : Desk) :
    (delivery.advance task desk moment).2 =
      if Watch.canRecord desk moment then
        let following := { watch with
          stage := .collecting (.finalized block) block (.starting block watch.transaction.hash) }
        .goesOn { delivery with stage := .watching following } none
      else .waits := by
  rw [advance_undisturbed undisturbed]
  simp only [proceed, stage, Watch.advance, position, Watch.record]
  by_cases free : Watch.canRecord desk moment = true
  · have deep : watch.depth.isSatisfiedBy (.finalized block) = true := by
      cases watch.depth <;> rfl
    simp [free, Watch.examine, current, Status.block?, Watch.isOvertaken, Status.isTerminal, deep]
  · simp [free]

/-- While a delivery pauses, its last attempt is over, in a way that allows another one. -/
structure Paces (delivery : Delivery) (attempt : Attempt) : Prop where
  active : delivery.IsActive → attempt.ended = none
  pausing : ∀ wakeAt error, delivery.stage = .pausing wakeAt error →
    error.isRetryable = true ∧ attempt.ended ≠ none

theorem IsActive.paces (active : delivery.IsActive) {attempt : Attempt}
    (unfinished : attempt.ended = none) : delivery.Paces attempt :=
  ⟨fun _ => unfinished, fun wakeAt error stage => absurd stage (active wakeAt error)⟩

theorem Moves.paces {next : Delivery} {request : Option Request} {attempt : Attempt}
    (moves : delivery.Moves task desk moment (after, .goesOn next request))
    (own : (delivery.advance task desk moment).2 = .goesOn next request)
    (active : delivery.IsActive) (unfinished : attempt.ended = none) :
    next.Paces (attempt.extend task desk moment delivery) := by
  rcases moves.leads_on active with ⟨remains, -⟩ | ⟨error, follows⟩
  · apply remains.paces
    rw [attempt.extend_unfinished own (attempt_unfinished remains), unfinished]
  · have finished := attempt.extend_finished own (follows.attempt_over active)
    cases follows with
    | pauses wakeAt retryable left scheduled early =>
        refine ⟨fun remains => absurd rfl (remains wakeAt error), ?_⟩
        intro other told stage
        obtain ⟨-, rfl⟩ : wakeAt = other ∧ error = told := by simpa using stage
        exact ⟨retryable, by simp [finished]⟩

theorem Paces.received {next : Delivery} {attempt : Attempt} (paces : delivery.Paces attempt)
    (receives : delivery.Receives next) : next.Paces attempt := by
  cases receives with
  | unmoved => exact paces
  | watches watch other stage =>
      exact IsActive.paces (by simp [IsActive]) (paces.active (by simp [IsActive, stage]))

end Delivery

theorem Collection.served {collection : Collection} {answer : Option Answer} (extrinsic : Hash)
    (served : collection.question? extrinsic ≠ none →
      Answer.settled? (collection.question? extrinsic) answer ≠ none) :
    collection.advance answer ≠ .waits := by
  cases collection with
  | starting block other => simp [advance]
  | located block index => simp [advance]
  | locating block =>
      have settled := served (by simp [question?])
      cases answer with
      | none => exact absurd rfl settled
      | some reply =>
          cases reply with
          | position found => rcases found with cause | _ | index <;> simp [advance]
          | nonce | sent | events => exact absurd rfl settled
  | fetching block index =>
      have settled := served (by simp [question?])
      cases answer with
      | none => exact absurd rfl settled
      | some reply =>
          cases reply with
          | events found => cases found <;> simp [advance]
          | nonce | sent | position => exact absurd rfl settled

namespace Story

variable {story : Story} {task : TaskId} {desk : Desk} {moment : Moment} {delivery : Delivery}
  {block : Hash} {left : Nat}

/-- The call is under way, and the tracker of its present attempt has accepted a terminal state. -/
def IsFinishing (story : Story) : Prop :=
  story.call.verdict = none ∧ story.present.ended = none ∧
    (Tracker.start.feed story.present.reports).isTerminal = true

structure Paced (story : Story) : Prop extends Disclosed story where
  paces : story.call.verdict = none → story.call.delivery.Paces story.present

theorem start_paced (now : Nat) (settings : Settings) (options : WaitOptions)
    (call : EncodedCall) (signer : Signer) : (start now settings options call signer).Paced :=
  ⟨start_disclosed now settings options call signer,
    fun _ => Delivery.IsActive.paces (by simp [start, Delivery.start, Delivery.IsActive]) rfl⟩

theorem Paced.turn (paced : story.Paced) (underWay : story.call = ⟨delivery, none⟩) (desk : Desk)
    (moment : Moment) : (story.turn task desk moment delivery).Paced := by
  refine ⟨paced.toDisclosed.turn underWay desk moment, ?_⟩
  have paces : delivery.Paces story.present := by
    have kept := paced.paces (by rw [underWay])
    rwa [underWay] at kept
  by_cases active : delivery.IsActive
  · rw [turn_active underWay active]
    have moves := delivery.advance_moves task desk moment
    generalize known : delivery.advance task desk moment = step at moves
    obtain ⟨after, progress⟩ := step
    have own : (delivery.advance task desk moment).2 = progress := congrArg Prod.snd known
    cases progress with
    | waits =>
        intro _
        apply active.paces
        rw [Attempt.extend_unfinished _ own delivery.attempt_waiting, paces.active active]
    | goesOn next request => exact fun _ => moves.paces own active (paces.active active)
    | ends verdict => simp [Call.after]
  · obtain ⟨wakeAt, error, stage⟩ := Delivery.pausing_of_inactive active
    rw [turn_pausing underWay stage]
    split
    · simp
    · split
      · exact fun _ => Delivery.IsActive.paces (by simp [Delivery.IsActive]) rfl
      · exact paced.paces

theorem Paced.next (paced : story.Paced) (happening : Happening) :
    (story.next task happening).Paced := by
  refine ⟨paced.toDisclosed.next happening, ?_⟩
  obtain ⟨⟨delivery, decided⟩, past, present⟩ := story
  cases decided with
  | some verdict =>
      rw [next_of_over task rfl]
      exact paced.paces
  | none =>
      cases happening with
      | turn desk moment => exact (paced.turn rfl desk moment).paces
      | arrives notice =>
          exact fun _ => (paced.paces rfl).received (delivery.deliver_receives notice)
      | closes => exact fun _ => (paced.paces rfl).received delivery.close_receives

theorem tell_paced (paced : story.Paced) (happenings : List Happening) :
    (story.tell task happenings).Paced :=
  tell_induction (motive := Paced) task (fun _ happening still => still.next happening) paced
    happenings

/-- A call that is finishing watches, and completes what the terminal state demands. -/
theorem IsFinishing.completes (finishing : story.IsFinishing) (paced : story.Paced) :
    ∃ watch status, story.call.delivery.stage = .watching watch ∧
      watch.tracker = Tracker.start.feed story.present.reports ∧
        watch.tracker.current = some status ∧ status.isTerminal = true ∧
          watch.Completes status := by
  obtain ⟨underWay, unfinished, terminal⟩ := finishing
  obtain ⟨sound, continues⟩ := paced.underWay underWay
  cases stage : story.call.delivery.stage with
  | submitting submission =>
      rw [(continues.submitting submission stage).2] at terminal
      cases terminal
  | watching watch =>
      have tracked := (continues.watching watch stage).2
      rw [← tracked, Tracker.isTerminal, Option.any_eq_true] at terminal
      obtain ⟨status, current, terminal⟩ := terminal
      obtain ⟨-, -, still⟩ := sound.watching watch stage
      exact ⟨watch, status, rfl, tracked, current, terminal, still.completes current terminal⟩
  | pausing wakeAt error =>
      exact absurd unfinished ((paced.paces underWay).pausing wakeAt error stage).2

theorem IsFinishing.times_out (task : TaskId) (finishing : story.IsFinishing)
    (paced : story.Paced) {happening : Happening} (late : happening.IsLate story) :
    ∃ number hash status, (story.next task happening).call.verdict =
      some (.failure (.timeout number hash (some status))) ∧ status.isTerminal = true := by
  obtain ⟨watch, status, stage, -, current, terminal, -⟩ := finishing.completes paced
  obtain ⟨⟨delivery, decided⟩, past, present⟩ := story
  obtain rfl : decided = none := finishing.1
  cases happening with
  | arrives notice => exact absurd late id
  | closes => exact absurd late id
  | turn desk moment =>
      obtain ⟨wanted, late⟩ := late
      have active : delivery.IsActive := by
        intro wakeAt error pausing
        cases stage.symm.trans pausing
      have strikes : delivery.interruption? moment = some .timedOut := by
        rw [Delivery.interruption_active active, if_neg (by simp [wanted]), if_pos late]
      refine ⟨some watch.transaction.nonce, some watch.transaction.hash, status, ?_, terminal⟩
      rw [next_call, Call.next, Delivery.advance_struck strikes, ← current]
      have stage : delivery.stage = .watching watch := stage
      simp [Call.after, Delivery.interruptedError, stage, Interruption.toError]

/-- A turn that ends a call with a timeout finds the time up. If the timeout names a terminal state,
the tracker of the present attempt has accepted it. -/
theorem Paced.timeout_found (paced : story.Paced) (underWay : story.call.verdict = none)
    {number : Option Nat} {hash : Option Hash} {status : Status}
    (finished : (story.next task (.turn desk moment)).call.verdict =
      some (.failure (.timeout number hash (some status))))
    (terminal : status.isTerminal = true) :
    story.IsFinishing ∧ (Happening.turn desk moment).IsLate story := by
  obtain ⟨sound, continues⟩ := paced.underWay underWay
  have paces := paced.paces underWay
  obtain ⟨⟨delivery, decided⟩, past, present⟩ := story
  obtain rfl : decided = none := underWay
  by_cases active : delivery.IsActive
  · have moves := delivery.advance_moves task desk moment
    rw [next_call, Call.next] at finished
    generalize delivery.advance task desk moment = step at moves finished
    obtain ⟨after, progress⟩ := step
    cases progress with
    | waits => cases finished
    | goesOn next request => cases finished
    | ends verdict =>
        obtain rfl := Option.some.inj finished
        obtain ⟨strikes, told⟩ := moves.struck_by_deadline sound active
        have late : (Happening.turn desk moment).IsLate ⟨⟨delivery, none⟩, past, present⟩ := by
          rw [Delivery.interruption_active active] at strikes
          split at strikes
          · cases strikes
          next wanted =>
            split at strikes
            next late => exact ⟨by simpa using wanted, late⟩
            · cases strikes
        refine ⟨⟨rfl, paces.active active, ?_⟩, late⟩
        unfold Delivery.interruptedError at told
        cases stage : delivery.stage with
        | submitting submission => simp [stage, Interruption.toError] at told
        | watching watch =>
            have current : watch.tracker.current = some status := by
              simp only [stage, Interruption.toError, Error.timeout.injEq] at told
              exact told.2.2
            have tracked : watch.tracker = Tracker.start.feed present.reports :=
              (continues.watching watch stage).2
            simp [← tracked, Tracker.isTerminal, current, terminal]
        | pausing wakeAt error => exact absurd stage (active wakeAt error)
  · obtain ⟨wakeAt, error, stage⟩ := Delivery.pausing_of_inactive active
    obtain ⟨retryable, -⟩ := paces.pausing wakeAt error stage
    rw [next_turn rfl, turn_pausing rfl stage] at finished
    split at finished
    · obtain rfl : error = .timeout number hash (some status) := by simpa using finished
      cases retryable
    · split at finished <;> cases finished

theorem decided_by_turn {happenings : List Happening} (underWay : story.call.verdict = none)
    {verdict : Verdict Outcome}
    (finished : (story.tell task happenings).call.verdict = some verdict) :
    ∃ earlier desk moment later, happenings = earlier ++ .turn desk moment :: later ∧
      (story.tell task earlier).call.verdict = none ∧
        ((story.tell task earlier).next task (.turn desk moment)).call.verdict =
          some verdict := by
  induction happenings generalizing story with
  | nil => cases underWay.symm.trans finished
  | cons happening happenings induction =>
      cases known : (story.next task happening).call.verdict with
      | none =>
          obtain ⟨earlier, desk, moment, later, rfl, still, decided⟩ := induction known finished
          exact ⟨happening :: earlier, desk, moment, later, rfl, still, decided⟩
      | some other =>
          have finished : ((story.next task happening).tell task happenings).call.verdict =
              some verdict := finished
          rw [tell_of_over task known] at finished
          cases turns : happening.isTurn with
          | false =>
              have same := (story.next_without_turn task turns).2.1
              cases underWay.symm.trans (same.symm.trans finished)
          | true =>
              cases happening with
              | turn desk moment => exact ⟨[], desk, moment, happenings, rfl, underWay, finished⟩
              | arrives notice => cases turns
              | closes => cases turns

/-- The call has seen a final block and gets to its events, which takes no more than so many
steps. -/
def Collects (story : Story) (block : Hash) (left : Nat) : Prop :=
  ∃ delivery watch, story.call = ⟨delivery, none⟩ ∧ delivery.stage = .watching watch ∧
    watch.Nears block left

def Succeeds (story : Story) (block : Hash) : Prop :=
  ∃ outcome, story.call.verdict = some (.success outcome) ∧ outcome.status = .finalized block ∧
    outcome.block = block

theorem IsFinishing.collects (finishing : story.IsFinishing) (paced : story.Paced)
    (final : (Tracker.start.feed story.present.reports).current = some (.finalized block)) :
    story.Collects block (4 + story.call.delivery.recalled.length) := by
  obtain ⟨watch, status, stage, tracked, current, -, completes⟩ := finishing.completes paced
  obtain rfl : status = .finalized block := by
    rw [tracked, final] at current
    exact (Option.some.inj current).symm
  have running : story.call = ⟨story.call.delivery, none⟩ := by rw [← finishing.1]
  refine ⟨_, watch, running, stage, ?_⟩
  cases completes with
  | records _ position =>
      refine .records position current ?_
      simp [Delivery.recalled, stage, Watch.recalled, position]
  | collects _ collection position =>
      refine .collects collection position ?_
      unfold Watch.effort
      rw [position]
      cases collection <;> simp <;> omega
  | settles _ errand error position setback => cases setback

theorem Collects.turn (task : TaskId) (collects : story.Collects block left)
    (inTime : (Happening.turn desk moment).IsInTime story) :
    (story.next task (.turn desk moment)).Succeeds block ∨
      (story.next task (.turn desk moment)).Collects block left ∧
        ((Happening.turn desk moment).IsServed story →
          (story.next task (.turn desk moment)).Collects block (left - 1)) := by
  obtain ⟨delivery, watch, running, stage, nears⟩ := collects
  obtain ⟨wanted, early⟩ := inTime
  have active : delivery.IsActive := by simp [Delivery.IsActive, stage]
  have undisturbed : delivery.interruption? moment = none := by
    rw [running] at early
    rw [Delivery.interruption_active active]
    simp [wanted, early]
  have call : (story.next task (.turn desk moment)).call =
      Call.after ⟨delivery, none⟩ (delivery.advance task desk moment).2 := by
    rw [next_call, running, Call.next]
  cases nears with
  | records position current room =>
      rw [Delivery.advance_recording undisturbed stage position current task desk] at call
      by_cases free : Watch.canRecord desk moment = true
      · rw [if_pos free] at call
        have nearer : ∀ room, 4 ≤ room →
            (story.next task (.turn desk moment)).Collects block room :=
          fun room enough => ⟨_, _, call, rfl, .collects _ rfl enough⟩
        exact Or.inr ⟨nearer left (by omega), fun _ => nearer (left - 1) (by omega)⟩
      · rw [if_neg free] at call
        refine Or.inr ⟨⟨delivery, watch, call, stage, .records position current room⟩, ?_⟩
        intro served
        have recalled : delivery.recalled ≠ [] := by
          simp [Delivery.recalled, stage, Watch.recalled, position]
        simp only [Happening.IsServed, running] at served
        exact absurd (served.2 recalled) free
  | collects collection position bounded =>
      rw [Delivery.advance_collecting undisturbed stage position task desk] at call
      cases advances : collection.advance moment.answer with
      | waits =>
          rw [advances] at call
          refine Or.inr ⟨⟨delivery, watch, call, stage, .collects _ position bounded⟩, ?_⟩
          intro served
          have question : delivery.question? = collection.question? watch.transaction.hash := by
            simp [Delivery.question?, stage, Watch.question?, position]
          simp only [Happening.IsServed, running, Delivery.heard?, question] at served
          exact absurd advances (Collection.served watch.transaction.hash served.1)
      | goesOn next request =>
          rw [advances] at call
          have nearer := Watch.collection_effort advances position
          exact Or.inr ⟨⟨_, _, call, rfl, .collects next rfl (by omega)⟩,
            fun _ => ⟨_, _, call, rfl, .collects next rfl (by omega)⟩⟩
      | ends found =>
          rw [advances] at call
          exact Or.inl ⟨_, congrArg Call.verdict call, rfl, rfl⟩

theorem Collects.received (task : TaskId) (collects : story.Collects block left)
    {happening : Happening} (noTurn : happening.isTurn = false) :
    (story.next task happening).Collects block left := by
  obtain ⟨delivery, watch, running, stage, nears⟩ := collects
  cases happening with
  | turn desk moment => cases noTurn
  | arrives notice =>
      refine ⟨{ delivery with stage := .watching (watch.deliver notice) }, _, ?_, rfl,
        nears.received rfl rfl⟩
      simp [next_call, running, Call.next, Delivery.deliver, stage]
  | closes =>
      refine ⟨{ delivery with stage := .watching watch.close }, _, ?_, rfl,
        nears.received rfl rfl⟩
      simp [next_call, running, Call.next, Delivery.close, stage]

/-- As long as there is time, a call that collects goes on doing so or succeeds. If it is answered,
each turn brings it nearer to that. -/
theorem Collects.tell (collects : story.Collects block left) {happenings : List Happening}
    (inTime : story.Throughout Happening.IsInTime task happenings) :
    ((story.tell task happenings).Succeeds block ∨
        (story.tell task happenings).Collects block left) ∧
      (story.Throughout Happening.IsServed task happenings →
        (story.tell task happenings).Succeeds block ∨
          (story.tell task happenings).Collects block
            (left - happenings.countP Happening.isTurn)) := by
  induction happenings generalizing story left with
  | nil => exact ⟨Or.inr collects, fun _ => Or.inr collects⟩
  | cons happening happenings induction =>
      cases turns : happening.isTurn with
      | false =>
          obtain ⟨still, nearer⟩ := induction (collects.received task turns) inTime.2
          rw [List.countP_cons_of_neg (by simp [turns])]
          exact ⟨still, fun served => nearer served.2⟩
      | true =>
          rw [List.countP_cons_of_pos turns]
          cases happening with
          | arrives notice => cases turns
          | closes => cases turns
          | turn desk moment =>
              rcases collects.turn task inTime.1 with succeeds | ⟨kept, nearer⟩
              · obtain ⟨outcome, finished, rest⟩ := succeeds
                have decided : story.tell task (.turn desk moment :: happenings) =
                    story.next task (.turn desk moment) := tell_of_over task finished happenings
                rw [decided]
                exact ⟨Or.inl ⟨outcome, finished, rest⟩, fun _ => Or.inl ⟨outcome, finished, rest⟩⟩
              · refine ⟨(induction kept inTime.2).1, ?_⟩
                intro served
                have later := (induction (nearer served.1) inTime.2).2 served.2
                rwa [Nat.sub_sub, Nat.add_comm 1] at later

/-- A call times out with a terminal state exactly if a turn that comes too late finds it busy with
what that state demands: the history that is to take the report, the events of a final block, or the
number of a transaction that failed. While no turn comes too late, a call whose transaction is final
succeeds with its block, and it does so in its fourth turn that is served at the latest, or in its
fifth if the history is still to take the report, whatever the answers are. -/
theorem timeout_names_terminal_iff (task : TaskId) (now : Nat) (settings : Settings)
    (options : WaitOptions) (call : EncodedCall) (signer : Signer) (happenings : List Happening) :
    let begun := start now settings options call signer
    let story := begun.tell task happenings
    ((∃ number hash status, story.call.verdict =
        some (.failure (.timeout number hash (some status))) ∧ status.isTerminal = true) ↔
      ∃ earlier happening later, happenings = earlier ++ happening :: later ∧
        (begun.tell task earlier).IsFinishing ∧ happening.IsLate (begun.tell task earlier)) ∧
    (story.IsFinishing → ∃ watch status, story.call.delivery.stage = .watching watch ∧
      watch.tracker = Tracker.start.feed story.present.reports ∧
        watch.tracker.current = some status ∧ status.isTerminal = true ∧
          watch.Completes status) ∧
    ∀ block later, story.IsFinishing →
      (Tracker.start.feed story.present.reports).current = some (.finalized block) →
        story.Throughout Happening.IsInTime task later →
          (∀ verdict, (story.tell task later).call.verdict = some verdict → ∃ outcome,
            verdict = .success outcome ∧ outcome.status = .finalized block ∧
              outcome.block = block) ∧
          (story.Throughout Happening.IsServed task later →
            4 + story.call.delivery.recalled.length ≤ later.countP Happening.isTurn →
              (story.tell task later).call.verdict ≠ none) := by
  intro begun story
  have paced : ∀ happenings, (begun.tell task happenings).Paced :=
    tell_paced (start_paced now settings options call signer)
  refine ⟨⟨?timesOut, ?struck⟩, fun finishing => finishing.completes (paced happenings), ?final⟩
  case timesOut =>
    rintro ⟨number, hash, status, finished, terminal⟩
    obtain ⟨earlier, desk, moment, later, split, underWay, decided⟩ :=
      decided_by_turn (show begun.call.verdict = none from rfl) finished
    obtain ⟨finishing, late⟩ := (paced earlier).timeout_found underWay decided terminal
    exact ⟨earlier, _, later, split, finishing, late⟩
  case struck =>
    rintro ⟨earlier, happening, later, split, finishing, late⟩
    obtain ⟨number, hash, status, finished, terminal⟩ :=
      finishing.times_out task (paced earlier) late
    have ended : story = (begun.tell task earlier).next task happening := by
      simp only [story]
      rw [split, tell_append]
      exact tell_of_over task finished later
    exact ⟨number, hash, status, ended ▸ finished, terminal⟩
  case final =>
    intro block later finishing final inTime
    obtain ⟨still, nearer⟩ := (finishing.collects (paced happenings) final).tell inTime
    constructor
    · intro verdict finished
      rcases still with ⟨outcome, succeeded, rest⟩ | ⟨delivery, watch, running, -⟩
      · exact ⟨outcome, Option.some.inj (finished.symm.trans succeeded), rest⟩
      · rw [running] at finished
        cases finished
    · intro served enough
      rcases nearer served with ⟨outcome, succeeded, -⟩ | ⟨_, watch, -, -, nears⟩
      · simp [succeeded]
      · have positive := nears.positive
        omega

/-- A call that takes this report at 30 ms. For each of the later turns, the line of its account is
given. From 30 ms on the history is free or not. -/
def reportedAt30 (status : Status) (free : Bool) (later : List (Nat × List TaskId)) :
    List Happening :=
  let finds (now : Nat) (line : List TaskId) (answer : Option Answer) : Happening :=
    .turn ⟨⟨⟨[(Bytes32.fill 1, ⟨Allocator.start, line⟩)]⟩⟩, 0, History.withCapacity 1⟩
      ⟨now, false, ⟨fun _ _ => .ok [], fun _ _ _ _ => .ok []⟩, answer, free⟩
  [finds 0 [] none, finds 0 [0] none, finds 10 [0] (some (.nonce (.ok 5))), finds 10 [] none,
    finds 20 [] (some (.sent (.ok ()))), .arrives (.status status), finds 30 [] none] ++
    later.map fun (now, line) => finds now line none

/-- With a second to go, neither a call whose lookup is never answered, nor one that waits behind
another call to give its number back, nor one that finds the history held comes to its end in
time. -/
theorem settled_calls_time_out :
    let begun := start 0 {} ⟨.finalized, some 1000⟩ ⟨"lock", [], []⟩
      ⟨Bytes32.fill 1, fun _ => .ok (.sr25519 [])⟩
    let final := Status.finalized (Bytes32.fill 2)
    (begun.tell 0 (reportedAt30 final true [])).IsFinishing ∧
    (begun.tell 0 (reportedAt30 .dropped true [])).IsFinishing ∧
    (begun.tell 0 (reportedAt30 .usurped false [])).IsFinishing ∧
    ∃ hash,
      (begun.tell 0 (reportedAt30 final true [(30, []), (1000, [])])).call.verdict =
        some (.failure (.timeout (some 5) (some hash) (some final))) ∧
      (begun.tell 0 (reportedAt30 .dropped true [(30, [9]), (1000, [9, 0])])).call.verdict =
        some (.failure (.timeout (some 5) (some hash) (some .dropped))) ∧
      (begun.tell 0 (reportedAt30 .usurped false [(30, []), (1000, [])])).call.verdict =
        some (.failure (.timeout (some 5) (some hash) (some .usurped))) :=
  ⟨⟨rfl, rfl, rfl⟩, ⟨rfl, rfl, rfl⟩, ⟨rfl, rfl, rfl⟩, _, rfl, rfl, rfl⟩

end Story

end LedgerCourier
