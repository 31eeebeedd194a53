import LedgerCourier.Proofs.Call.Disclosure
import LedgerCourier.Proofs.Traffic.Success

/-!
# Following a transaction at a shared desk

Between the acceptance of an extrinsic and the end of that attempt a delivery follows the
transaction. What a step does to it, and to what the desk keeps about all of them, is told by three
signs among the things that are seen of the step: that the extrinsic was accepted, that a report was
taken, that the attempt is over. The five cases below are all there are.
-/

namespace LedgerCourier

set_option autoImplicit false

/-- What concerns the transaction that is followed. -/
inductive Sign where
  | accepted (extrinsic : Bytes)
  | report (status : Status)
  | ended

def Observation.sign? : Observation → Option Sign
  | .answered (.send extrinsic) (.sent (.ok _)) => some (.accepted extrinsic)
  | .took (.status status) => some (.report status)
  | .attemptOver _ => some .ended
  | _ => none

theorem Observation.sign_answered (request : Request) (answer : Answer) :
    Observation.sign? (.answered request answer) =
      (Observation.accepted? (.answered request answer)).map .accepted := by
  cases request with
  | send extrinsic =>
      cases answer with
      | sent result => cases result <;> rfl
      | nonce | position | events => rfl
  | nonce | position | events => rfl

theorem Observation.sign_took (notice : Notice) :
    Observation.sign? (.took notice) = (Observation.report? (.took notice)).map .report := by
  cases notice <;> rfl

/-- A transaction that is followed, with what its tracker has accepted. -/
structure Pursuit where
  hash : Hash
  tracker : Tracker

namespace Pursuit

def start (extrinsic : Bytes) : Pursuit := ⟨Blake2b.digest256 extrinsic, Tracker.start⟩

def hear (pursuit : Pursuit) (heard : Option Status) : Pursuit :=
  { pursuit with tracker := pursuit.tracker.feed heard.toList }

def archive (pursuit : Pursuit) (history : History) : Option Status → History
  | none => history
  | some status =>
      if (pursuit.tracker.apply status).2 = .ignored then history
      else history.record pursuit.hash status

end Pursuit

def Watch.pursuit (watch : Watch) : Pursuit := ⟨watch.transaction.hash, watch.tracker⟩

def Watch.report? (watch : Watch) : Option Status :=
  watch.notice?.bind fun notice => Observation.report? (.took notice)

namespace Delivery

def pursuit? (delivery : Delivery) : Option Pursuit :=
  match delivery.stage with
  | .watching watch => some watch.pursuit
  | _ => none

def pursuitAfter (delivery : Delivery) : Progress Delivery (Verdict Outcome) → Option Pursuit
  | .waits => delivery.pursuit?
  | .goesOn next _ => next.pursuit?
  | .ends _ => none

end Delivery

/-- What a step may do to the transaction that is followed, with the signs that it gives. In a
prompt step the history keeps at once what the tracker accepts. -/
inductive Pursues (prompt : Prop) (desk after : Desk) :
    Option Pursuit → List Sign → Option Pursuit → Prop where
  | rests (watches : after.watches = desk.watches) (history : after.history = desk.history) :
      Pursues prompt desk after none [] none
  | misses (watches : after.watches = desk.watches) (history : after.history = desk.history) :
      Pursues prompt desk after none [.ended] none
  | begins (extrinsic : Bytes) (watches : after.watches = desk.watches + 1)
      (history : after.history = desk.history) :
      Pursues prompt desk after none [.accepted extrinsic] (some (.start extrinsic))
  | follows (pursuit : Pursuit) (heard : Option Status) (watches : after.watches = desk.watches)
      (history : prompt → after.history = pursuit.archive desk.history heard) :
      Pursues prompt desk after (some pursuit) (heard.map .report).toList
        (some (pursuit.hear heard))
  | leaves (pursuit : Pursuit) (heard : Option Status)
      (watches : after.watches = desk.watches - 1)
      (history : prompt → after.history = pursuit.archive desk.history heard) :
      Pursues prompt desk after (some pursuit) ((heard.map .report).toList ++ [.ended]) none

/-- What an outcome tells of the transaction that was followed until then. -/
def Concludes (followed : Option Pursuit) (signs : List Sign) (outcome : Outcome) : Prop :=
  ∃ pursuit, followed = some pursuit ∧ signs = [.ended] ∧ outcome.hash = pursuit.hash ∧
    outcome.history = pursuit.tracker.history ∧ pursuit.tracker.current ≠ none

theorem Submission.Moves.desk_kept {task : TaskId} {desk after : Desk} {moment : Moment}
    {submission : Submission} {progress : Progress Submission (Verdict SignedTransaction)}
    (moves : submission.Moves task desk moment (after, progress))
    (pending : ∀ transaction, progress ≠ .ends (.success transaction)) :
    after.watches = desk.watches ∧ after.history = desk.history := by
  cases moves with
  | succeeds transaction stage answer => exact absurd rfl (pending transaction)
  | _ => exact ⟨rfl, rfl⟩

theorem Watch.no_report {watch : Watch} (busy : watch.stage = .awaiting → watch.inbox = []) :
    watch.report? = none := by
  unfold Watch.report? Watch.notice?
  split
  next stage => simp [busy stage]
  next => rfl

/-- A watch leaves the count of subscriptions alone. Where nothing waits for the history and it is
free, it keeps what the watch takes. -/
theorem Watch.Moves.archives {task : TaskId} {desk after : Desk} {moment : Moment}
    {watch : Watch} {progress : Progress Watch (Verdict Outcome)}
    (moves : watch.Moves task desk moment (after, progress)) :
    after.watches = desk.watches ∧
      (watch.recalled = [] ∧ Watch.canRecord desk moment = true →
        after.history = watch.pursuit.archive desk.history watch.report?) := by
  have unread : ∀ {sequencer : Sequencer}, (watch.stage = .awaiting → watch.inbox = []) →
      ({ desk with sequencer := sequencer } : Desk).watches = desk.watches ∧
        (watch.recalled = [] ∧ Watch.canRecord desk moment = true →
          ({ desk with sequencer := sequencer } : Desk).history =
            watch.pursuit.archive desk.history watch.report?) := by
    intro sequencer busy
    rw [Watch.no_report busy]
    exact ⟨rfl, fun _ => rfl⟩
  cases moves with
  | waits idle => exact unread fun stage => (idle stage).1
  | breaks cause rest stage inbox =>
      have untaken : watch.report? = none := by
        simp [Watch.report?, Watch.notice?, stage, inbox, Observation.report?]
      rw [untaken]
      exact ⟨rfl, fun _ => rfl⟩
  | runsDry stage inbox closed => exact unread fun _ => inbox
  | takes status rest progress stage inbox decides =>
      have taken : watch.report? = some status := by
        simp [Watch.report?, Watch.notice?, stage, inbox, Observation.report?]
      rw [taken]
      exact ⟨rfl, fun _ => rfl⟩
  | holds status rest stage inbox counts held =>
      refine ⟨rfl, ?_⟩
      rintro ⟨-, free⟩
      cases held.symm.trans free
  | records status progress stage decides =>
      refine ⟨rfl, ?_⟩
      rintro ⟨recalled, -⟩
      simp [Watch.recalled, stage] at recalled
  | collects status block collection next request stage advances => exact unread (by simp [stage])
  | resumes status block collection found stage advances overtaken =>
      exact unread (by simp [stage])
  | concludes status block collection found stage advances latest =>
      exact unread (by simp [stage])
  | attends errand next error sequencer request stage moves => exact unread (by simp [stage])
  | settles errand error sequencer result stage moves => exact unread (by simp [stage])

namespace Delivery

variable {task : TaskId} {desk after : Desk} {moment : Moment} {delivery : Delivery}
  {progress : Progress Delivery (Verdict Outcome)}

theorem signs_shown (moment : Moment) (moving : progress ≠ .waits) :
    (delivery.observations moment progress).filterMap Observation.sign? =
      ((delivery.acceptance? moment).map .accepted).toList ++
        ((delivery.reportTaken? moment).map .report).toList ++
        ((delivery.attemptOver? progress).map fun _ => .ended).toList := by
  have ended : ((delivery.attemptOver? progress).map Observation.attemptOver).toList.filterMap
      Observation.sign? = ((delivery.attemptOver? progress).map fun _ => Sign.ended).toList := by
    cases delivery.attemptOver? progress <;> rfl
  rw [observations_of_moving moving, List.filterMap_append, List.filterMap_append,
    filter_map_silent _ _ fun _ => rfl, ended, List.append_nil, consumed, acceptance?, reportTaken?]
  cases undisturbed : delivery.interruption? moment with
  | some interruption => rfl
  | none =>
      rw [if_pos rfl, List.filterMap_append, List.filterMap_append, filter_map_optional,
        filter_map_optional, filter_map_silent Observation.refused _ fun _ => rfl, List.append_nil]
      simp only [Observation.sign_answered, Observation.sign_took, Option.map_bind]
      rfl

theorem report_taken_watching {watch : Watch} (stage : delivery.stage = .watching watch)
    (undisturbed : delivery.interruption? moment = none) :
    delivery.reportTaken? moment = watch.report? := by
  simp [reportTaken?, undisturbed, notice?, stage, Watch.report?]

theorem submission_signs {submission : Submission} (stage : delivery.stage = .submitting submission)
    {inner : Progress Submission (Verdict SignedTransaction)}
    (moves : submission.Moves task desk moment (after, inner))
    (pending : ∀ transaction, inner ≠ .ends (.success transaction)) (acts : inner ≠ .waits)
    (moving : progress ≠ .waits) :
    (delivery.observations moment progress).filterMap Observation.sign? =
      ((delivery.attemptOver? progress).map fun _ => .ended).toList := by
  rw [signs_shown moment moving, unaccepted_submitting stage moves pending acts,
    no_report_submitting stage moment]
  rfl

theorem watching_signs {watch : Watch} (stage : delivery.stage = .watching watch)
    (undisturbed : delivery.interruption? moment = none) (moving : progress ≠ .waits) :
    (delivery.observations moment progress).filterMap Observation.sign? =
      (watch.report?.map .report).toList ++
        ((delivery.attemptOver? progress).map fun _ => .ended).toList := by
  rw [signs_shown moment moving, unaccepted_watching stage moment,
    report_taken_watching stage undisturbed]
  rfl

theorem struck_signs {interruption : Interruption}
    (strikes : delivery.interruption? moment = some interruption) (active : delivery.IsActive)
    (verdict : Verdict Outcome) :
    (delivery.observations moment (.ends verdict)).filterMap Observation.sign? = [.ended] := by
  have finished : delivery.attemptOver? (.ends verdict) = some verdict := by
    unfold attemptOver?
    cases stage : delivery.stage with
    | submitting submission => rfl
    | watching watch => rfl
    | pausing wakeAt error => exact absurd stage (active wakeAt error)
  rw [signs_shown moment (by simp), acceptance?, reportTaken?, strikes, finished]
  rfl

theorem FollowsUp.pursues_nothing {now : Nat} {error : Error}
    (follows : delivery.FollowsUp now error progress) : delivery.pursuitAfter progress = none := by
  cases follows <;> rfl

theorem pursuit_idle (idle : ∀ watch, delivery.stage ≠ .watching watch) :
    delivery.pursuit? = none := by
  unfold pursuit?
  split
  next watch stage => exact absurd stage (idle watch)
  next => rfl

/-- Nothing waits for the history, and it is free. -/
def IsPrompt (delivery : Delivery) (desk : Desk) (moment : Moment) : Prop :=
  delivery.recalled = [] ∧ Watch.canRecord desk moment = true

theorem prompt_watching {watch : Watch} (stage : delivery.stage = .watching watch)
    (prompt : delivery.IsPrompt desk moment) :
    watch.recalled = [] ∧ Watch.canRecord desk moment = true := by
  simpa [IsPrompt, recalled, stage] using prompt

theorem pursuit_watching {watch : Watch} (stage : delivery.stage = .watching watch) :
    delivery.pursuit? = some watch.pursuit := by
  simp [pursuit?, stage]

theorem submission_misses {submission : Submission}
    (stage : delivery.stage = .submitting submission)
    {inner : Progress Submission (Verdict SignedTransaction)}
    (moves : submission.Moves task desk moment (after, inner))
    (pending : ∀ transaction, inner ≠ .ends (.success transaction)) (acts : inner ≠ .waits)
    (moving : progress ≠ .waits) (verdict : Verdict Outcome)
    (finished : delivery.attemptOver? progress = some verdict)
    (idle : delivery.pursuitAfter progress = none) :
    Pursues (delivery.IsPrompt desk moment) desk after delivery.pursuit?
      ((delivery.observations moment progress).filterMap Observation.sign?)
      (delivery.pursuitAfter progress) := by
  obtain ⟨watches, history⟩ := moves.desk_kept pending
  rw [submission_signs stage moves pending acts moving, finished, idle,
    pursuit_idle (by simp [stage])]
  exact .misses watches history

theorem watching_leaves {watch : Watch} (stage : delivery.stage = .watching watch)
    (undisturbed : delivery.interruption? moment = none)
    {inner : Progress Watch (Verdict Outcome)}
    (moves : watch.Moves task desk moment (after, inner))
    (moving : progress ≠ .waits) (verdict : Verdict Outcome)
    (finished : delivery.attemptOver? progress = some verdict)
    (idle : delivery.pursuitAfter progress = none) :
    Pursues (delivery.IsPrompt desk moment) desk { after with watches := after.watches - 1 }
      delivery.pursuit?
      ((delivery.observations moment progress).filterMap Observation.sign?)
      (delivery.pursuitAfter progress) := by
  obtain ⟨watches, history⟩ := moves.archives
  rw [watching_signs stage undisturbed moving, finished, idle, pursuit_watching stage]
  exact .leaves watch.pursuit watch.report? (by rw [watches]) (history ∘ prompt_watching stage)

theorem struck_pursues {interruption : Interruption}
    (strikes : delivery.interruption? moment = some interruption) (active : delivery.IsActive)
    (task : TaskId) (desk : Desk) (verdict : Verdict Outcome) :
    Pursues (delivery.IsPrompt desk moment) desk (delivery.abandon task desk) delivery.pursuit?
      ((delivery.observations moment (.ends verdict)).filterMap Observation.sign?) none := by
  rw [struck_signs strikes active verdict]
  unfold abandon
  cases stage : delivery.stage with
  | submitting submission =>
      have kept : (submission.abandon task desk).watches = desk.watches ∧
          (submission.abandon task desk).history = desk.history := by
        unfold Submission.abandon
        split <;> exact ⟨rfl, rfl⟩
      rw [pursuit_idle (by simp [stage])]
      exact .misses kept.1 kept.2
  | watching watch =>
      have kept : (watch.abandon task desk).watches = desk.watches ∧
          (watch.abandon task desk).history = desk.history := by
        unfold Watch.abandon
        split <;> exact ⟨rfl, rfl⟩
      rw [pursuit_watching stage]
      exact .leaves watch.pursuit none (congrArg (· - 1) kept.1) fun _ => kept.2
  | pausing wakeAt error => exact absurd stage (active wakeAt error)

/-- A step is one of the five things that can happen to the transaction that is followed. -/
theorem Moves.pursues (moves : delivery.Moves task desk moment (after, progress))
    (sound : delivery.Sound) :
    Pursues (delivery.IsPrompt desk moment) desk after delivery.pursuit?
      ((delivery.observations moment progress).filterMap Observation.sign?)
      (delivery.pursuitAfter progress) := by
  cases moves with
  | waits undisturbed =>
      show Pursues (delivery.IsPrompt desk moment) desk desk delivery.pursuit? []
        delivery.pursuit?
      cases delivery.pursuit? with
      | none => exact .rests rfl rfl
      | some pursuit => exact .follows pursuit none rfl fun _ => rfl
  | idles submission after stage undisturbed moves =>
      obtain ⟨watches, history⟩ := moves.desk_kept (by simp)
      show Pursues (delivery.IsPrompt desk moment) desk after delivery.pursuit? []
        delivery.pursuit?
      rw [pursuit_idle (by simp [stage])]
      exact .rests watches history
  | stops interruption active strikes => exact struck_pursues strikes active task desk _
  | submits submission next after request stage undisturbed moves =>
      obtain ⟨watches, history⟩ := moves.desk_kept (by simp)
      have unfinished : delivery.attemptOver?
          (.goesOn { delivery with stage := .submitting next } request) = none := by
        simp [attemptOver?, stage]
      rw [submission_signs stage moves (by simp) (by simp) (by simp), unfinished,
        pursuit_idle (by simp [stage])]
      exact .rests watches history
  | isAccepted submission transaction after stage undisturbed moves =>
      obtain ⟨-, -, still⟩ := sound.submitting submission stage
      cases moves with
      | succeeds transaction position answer =>
          obtain ⟨channel, prepared⟩ := still.sending transaction position
          -- What is sent was prepared by the same submission, so its hash is that of its bytes.
          have hash := (SignedTransaction.prepare_spec prepared).2.2
          have followed : delivery.pursuitAfter (.goesOn
              { delivery with stage := .watching (Watch.start transaction delivery.depth) } none) =
                some (.start transaction.extrinsic) := by
            simp [pursuitAfter, pursuit?, Watch.pursuit, Watch.start, Pursuit.start, hash]
          rw [accepted_observations stage position undisturbed answer, followed,
            pursuit_idle (by simp [stage])]
          exact .begins transaction.extrinsic rfl rfl
  | isRefused submission error after progress stage undisturbed moves follows =>
      exact submission_misses stage moves (by simp) (by simp) follows.moving (.failure error)
        (follows.attempt_over (by simp [stage])) follows.pursues_nothing
  | overflows submission after stage undisturbed moves =>
      exact submission_misses stage moves (by simp) (by simp) (by simp) .overflow
        (by simp [attemptOver?, stage]) rfl
  | watches watch next after request stage undisturbed moves =>
      obtain ⟨watches, history⟩ := moves.archives
      have unfinished : delivery.attemptOver?
          (.goesOn { delivery with stage := .watching next } request) = none := by
        simp [attemptOver?, stage]
      have later : next.pursuit = watch.pursuit.hear watch.report? := by
        simp [Watch.pursuit, Pursuit.hear, moves.same_transaction.1, moves.feeds, Watch.report?]
      have followed : delivery.pursuitAfter
          (.goesOn { delivery with stage := .watching next } request) =
            some (watch.pursuit.hear watch.report?) := by
        rw [← later]
        rfl
      rw [watching_signs stage undisturbed (by simp), unfinished, followed, pursuit_watching stage]
      simpa using Pursues.follows watch.pursuit watch.report? watches
        (history ∘ prompt_watching stage)
  | succeeds watch outcome after stage undisturbed moves =>
      exact watching_leaves stage undisturbed moves (by simp) (.success outcome)
        (by simp [attemptOver?, stage]) rfl
  | fails watch error after progress stage undisturbed moves follows =>
      exact watching_leaves stage undisturbed moves follows.moving (.failure error)
        (follows.attempt_over (by simp [stage])) follows.pursues_nothing
  | givesUp wakeAt error stage cancelled =>
      rw [observations_pausing stage moment rfl, pursuit_idle (by simp [stage])]
      exact .rests rfl rfl
  | repeats wakeAt error stage awake wanted =>
      rw [observations_pausing stage moment rfl, pursuit_idle (by simp [stage])]
      exact .rests rfl rfl

theorem Moves.concludes {outcome : Outcome}
    (moves : delivery.Moves task desk moment (after, .ends (.success outcome)))
    (sound : delivery.Sound) :
    Concludes delivery.pursuit?
      ((delivery.observations moment (.ends (.success outcome))).filterMap Observation.sign?)
      outcome := by
  cases moves with
  | isRefused submission error after progress stage undisturbed moves follows => cases follows
  | fails watch error after progress stage undisturbed moves follows => cases follows
  | succeeds watch outcome after stage undisturbed moves =>
      obtain ⟨-, -, still⟩ := sound.watching watch stage
      have finished :
          delivery.attemptOver? (.ends (.success outcome)) = some (.success outcome) := by
        simp [attemptOver?, stage]
      rw [watching_signs stage undisturbed (by simp), finished, pursuit_watching stage]
      cases moves with
      | takes status rest progress taking inbox decides => cases decides
      | records status progress recording decides => cases decides
      | concludes status block collection found collecting advances latest =>
          have current := (still.collecting status block collection collecting).1
          rw [Watch.no_report (by simp [collecting])]
          exact ⟨watch.pursuit, rfl, rfl, rfl, rfl, by simp [Watch.pursuit, current]⟩

theorem Receives.same_pursuit {next : Delivery} (receives : delivery.Receives next) :
    next.pursuit? = delivery.pursuit? := by
  cases receives with
  | unmoved => rfl
  | watches watch other stage transaction tracker =>
      simp [pursuit?, stage, Watch.pursuit, transaction, tracker]

end Delivery

def Sign.next : Option Pursuit → Sign → Option Pursuit
  | _, .accepted extrinsic => some (.start extrinsic)
  | followed, .report status => followed.map fun pursuit => pursuit.hear (some status)
  | _, .ended => none

theorem Pursues.mono {prompt other : Prop} {desk after : Desk} {before later : Option Pursuit}
    {signs : List Sign} (pursues : Pursues prompt desk after before signs later)
    (implies : other → prompt) : Pursues other desk after before signs later := by
  cases pursues with
  | rests watches history => exact .rests watches history
  | misses watches history => exact .misses watches history
  | begins extrinsic watches history => exact .begins extrinsic watches history
  | follows pursuit heard watches history =>
      exact .follows pursuit heard watches (history ∘ implies)
  | leaves pursuit heard watches history =>
      exact .leaves pursuit heard watches (history ∘ implies)

theorem Pursues.leads {prompt : Prop} {desk after : Desk} {before later : Option Pursuit}
    {signs : List Sign} (pursues : Pursues prompt desk after before signs later) :
    signs.foldl Sign.next before = later := by
  cases pursues with
  | rests | misses | begins => rfl
  | follows pursuit heard => cases heard <;> rfl
  | leaves pursuit heard => cases heard <;> rfl

theorem Pursues.unmoved (prompt : Prop) (desk : Desk) (followed : Option Pursuit) :
    Pursues prompt desk desk followed [] followed := by
  cases followed with
  | none => exact .rests rfl rfl
  | some pursuit => exact .follows pursuit none rfl fun _ => rfl

def Call.pursuit? (call : Call) : Option Pursuit :=
  match call.verdict with
  | none => call.delivery.pursuit?
  | some _ => none

namespace Traffic

def signs (traffic : Traffic) (task : TaskId) : List Sign :=
  (traffic.log task).filterMap Observation.sign?

def pursued (traffic : Traffic) (task : TaskId) : Option Pursuit :=
  (traffic.signs task).foldl Sign.next none

theorem pursued_change (traffic : Traffic) (task other : TaskId) (desk : Desk) (call : Call)
    (shown : List Observation) :
    (traffic.change task desk call shown).pursued other =
      if task = other then (shown.filterMap Observation.sign?).foldl Sign.next
        (traffic.pursued other) else traffic.pursued other := by
  rw [pursued, signs, log_change, List.filterMap_append, List.foldl_append]
  split <;> rfl

def Prompt (traffic : Traffic) : Prop :=
  ∀ (task : TaskId) delivery, traffic.calls[task]? = some ⟨delivery, none⟩ →
    delivery.recalled = []

def Act.IsImmediate : Act → Prop
  | .advances _ moment => moment.historyFree = true
  | _ => True

/-- What an act may do to the transactions that are followed. -/
inductive Pursuing (prompt : Prop) (traffic : Traffic) : Traffic → Prop where
  | stays : Pursuing prompt traffic traffic
  | enters (delivery : Delivery) (idle : delivery.pursuit? = none) :
      Pursuing prompt traffic (traffic.enter delivery)
  | changes (task : TaskId) (before later : Call) (desk : Desk) (shown : List Observation)
      (held : traffic.calls[task]? = some before)
      (pursues : Pursues prompt traffic.desk desk before.pursuit?
        (shown.filterMap Observation.sign?) later.pursuit?)
      (concludes : ∀ outcome, later.verdict = some (.success outcome) →
        Concludes before.pursuit? (shown.filterMap Observation.sign?) outcome) :
      Pursuing prompt traffic (traffic.change task desk later shown)

theorem pursuit_after (delivery : Delivery) (progress : Progress Delivery (Verdict Outcome)) :
    (Call.after ⟨delivery, none⟩ progress).pursuit? = delivery.pursuitAfter progress := by
  cases progress <;> rfl

theorem arrival_signs (delivery : Delivery) (notice : Notice) :
    (arrival delivery notice).filterMap Observation.sign? = [] := by
  unfold arrival
  split <;> rfl

theorem Performs.pursuing {traffic after : Traffic} {act : Act}
    (performs : Performs traffic act after) (orderly : Orderly traffic) :
    Pursuing (traffic.Prompt ∧ act.IsImmediate) traffic after := by
  have received : ∀ {prompt : Prop} {task : TaskId} {delivery next : Delivery}
      {shown : List Observation}, traffic.calls[task]? = some ⟨delivery, none⟩ →
        delivery.Receives next → shown.filterMap Observation.sign? = [] →
          Pursuing prompt traffic (traffic.change task traffic.desk ⟨next, none⟩ shown) := by
    intro prompt task delivery next shown held receives silent
    refine .changes task ⟨delivery, none⟩ ⟨next, none⟩ traffic.desk shown held ?_ (by simp)
    rw [silent, show (Call.mk next none).pursuit? = next.pursuit? from rfl, receives.same_pursuit]
    exact .unmoved prompt traffic.desk delivery.pursuit?
  cases performs with
  | stays => exact .stays
  | begins now settings options call signer => exact .enters _ rfl
  | advances task moment delivery held desk progress moves =>
      have sound := orderly.sound task delivery held
      refine .changes task ⟨delivery, none⟩ _ desk _ held ?_ ?_
      · rw [pursuit_after]
        refine (moves.pursues sound).mono ?_
        rintro ⟨prompt, free⟩
        exact ⟨prompt task delivery held, by simp [Watch.canRecord, show _ = true from free]⟩
      · intro outcome success
        cases progress with
        | waits | goesOn => cases success
        | ends verdict =>
            obtain rfl : verdict = .success outcome := Option.some.inj success
            exact moves.concludes sound
  | delivers task notice delivery held =>
      exact received held (delivery.deliver_receives notice) (arrival_signs delivery notice)
  | closes task delivery held => exact received held delivery.close_receives rfl

def Told (traffic : Traffic) : Prop :=
  ∀ task : TaskId, traffic.pursued task = traffic.calls[task]?.bind Call.pursuit?

theorem Pursuing.told {prompt : Prop} {traffic after : Traffic}
    (pursuing : Pursuing prompt traffic after) (told : traffic.Told) : after.Told := by
  intro other
  cases pursuing with
  | stays => exact told other
  | enters delivery idle =>
      have earlier : (traffic.enter delivery).pursued other = traffic.pursued other := rfl
      rw [earlier, told, enter, List.getElem?_append]
      split
      next => rfl
      next outside =>
        rw [List.getElem?_eq_none (Nat.le_of_not_lt outside)]
        cases place : other - traffic.calls.length with
        | zero => simp [Call.pursuit?, idle]
        | succ => simp
  | changes task before later desk shown held pursues concludes =>
      rw [pursued_change, calls_change held, told]
      split
      next same =>
        subst same
        rw [held]
        exact pursues.leads
      next => rfl

/-- As `orderly_induction`, along acts that are told by what is followed. -/
theorem pursuing_induction {motive : Traffic → Prop} (capacity : Nat)
    (initially : motive (start capacity))
    (kept : ∀ prompt traffic after, traffic.Told → motive traffic →
      Pursuing prompt traffic after → motive after) (acts : List Act) :
    (run capacity acts).Told ∧ motive (run capacity acts) := by
  apply orderly_induction (motive := fun traffic => traffic.Told ∧ motive traffic) capacity
  · exact ⟨fun task => by simp [pursued, signs, log, start], initially⟩
  · intro traffic act after orderly holds performs
    have pursuing := performs.pursuing orderly
    exact ⟨pursuing.told holds.1, kept _ traffic after holds.1 holds.2 pursuing⟩

end Traffic

end LedgerCourier
