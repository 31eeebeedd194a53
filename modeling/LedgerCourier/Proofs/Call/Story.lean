import LedgerCourier.Proofs.Traffic.Basic
import Mathlib.Data.List.Induction

/-!
# The story of one call

A call is followed through everything that happens to it: its turns, each at a desk that other
calls may have used in any way since the last one, the notices that arrive, the end of the
reports. The story divides what it sees into the attempts that the call makes, and keeps the
times at which they begin and end. Every call of a traffic has such a story.
-/

namespace LedgerCourier

set_option autoImplicit false

/-- What may happen to a call. -/
inductive Happening where
  | turn (desk : Desk) (moment : Moment)
  | arrives (notice : Notice)
  | closes

namespace Call

def next (task : TaskId) : Call → Happening → Call
  | ⟨delivery, none⟩, .turn desk moment =>
      Call.after ⟨delivery, none⟩ (delivery.advance task desk moment).2
  | ⟨delivery, none⟩, .arrives notice => ⟨delivery.deliver notice, none⟩
  | ⟨delivery, none⟩, .closes => ⟨delivery.close, none⟩
  | ⟨delivery, some verdict⟩, _ => ⟨delivery, some verdict⟩

end Call

/-- What a call sets going in one of its turns. -/
inductive Undertaking where
  | reserves (number : Nat)
  | signs (number : Nat)
  | asks (request : Request)

def Undertaking.reserved? : Undertaking → Option Nat
  | .reserves number => some number
  | _ => none

def Undertaking.sent? : Undertaking → Option Bytes
  | .asks (.send extrinsic) => some extrinsic
  | _ => none

namespace Delivery

/-- The number that the sequencer hands out in a turn. -/
def handedOut? (task : TaskId) (desk : Desk) (moment : Moment) (delivery : Delivery) :
    Option Nat :=
  match delivery.interruption? moment, delivery.errand? with
  | none, some errand =>
      match errand.purpose, (errand.advance task desk.sequencer moment.answer).2 with
      | .reserve, .ends (.reserved number) => some number
      | _, _ => none
  | _, _ => none

def wakeAt? (delivery : Delivery) : Option Nat :=
  match delivery.stage with
  | .pausing wakeAt _ => some wakeAt
  | _ => none

def signing? (moment : Moment) (delivery : Delivery) : Option Nat :=
  match delivery.interruption? moment, delivery.stage with
  | none, .submitting ⟨_, _, .preparing number⟩ => some number
  | _, _ => none

def undertakings (task : TaskId) (desk : Desk) (moment : Moment) (delivery : Delivery) :
    List Undertaking :=
  ((delivery.handedOut? task desk moment).map .reserves).toList ++
    ((delivery.signing? moment).map .signs).toList ++
    ((delivery.advance task desk moment).2.request?.map .asks).toList

end Delivery

namespace Observation

def accepted? : Observation → Option Bytes
  | .answered (.send extrinsic) (.sent (.ok _)) => some extrinsic
  | _ => none

def report? : Observation → Option Status
  | .took (.status status) => some status
  | _ => none

end Observation

/-- One attempt of a call, as it is seen from outside. -/
structure Attempt where
  began : Nat
  undertaken : List Undertaking
  seen : List Observation
  ended : Option (Nat × Verdict Outcome)

namespace Attempt

def fresh (now : Nat) : Attempt := ⟨now, [], [], none⟩

def reserved (attempt : Attempt) : List Nat :=
  attempt.undertaken.filterMap Undertaking.reserved?

def sent (attempt : Attempt) : List Bytes := attempt.undertaken.filterMap Undertaking.sent?

/-- The extrinsics of the attempt that the call knows the ledger to have accepted. -/
def accepted (attempt : Attempt) : List Bytes :=
  attempt.seen.filterMap Observation.accepted?

def reports (attempt : Attempt) : List Status :=
  attempt.seen.filterMap Observation.report?

def extend (attempt : Attempt) (task : TaskId) (desk : Desk) (moment : Moment)
    (delivery : Delivery) : Attempt :=
  let progress := (delivery.advance task desk moment).2
  { attempt with
    undertaken := attempt.undertaken ++ delivery.undertakings task desk moment
    seen := attempt.seen ++ delivery.observations moment progress
    ended := match delivery.attemptOver? progress with
      | some verdict => some (moment.now, verdict)
      | none => attempt.ended }

end Attempt

/-- A call with the attempts that it has made. -/
structure Story where
  call : Call
  past : List Attempt
  present : Attempt

namespace Story

def attempts (story : Story) : List Attempt := story.past ++ [story.present]

def start (now : Nat) (settings : Settings) (options : WaitOptions) (call : EncodedCall)
    (signer : Signer) : Story :=
  ⟨⟨Delivery.start now settings options call signer, none⟩, [], Attempt.fresh now⟩

/-- The call has its turn. With a turn that ends a pause the next attempt begins. -/
def turn (story : Story) (task : TaskId) (desk : Desk) (moment : Moment) (delivery : Delivery) :
    Story :=
  let call := story.call.next task (.turn desk moment)
  match delivery.stage, (delivery.advance task desk moment).2 with
  | .pausing _ _, .goesOn _ _ =>
      ⟨call, story.past ++ [story.present], Attempt.fresh moment.now⟩
  | _, _ => ⟨call, story.past, story.present.extend task desk moment delivery⟩

def next (task : TaskId) (story : Story) (happening : Happening) : Story :=
  match story.call, happening with
  | ⟨delivery, none⟩, .turn desk moment => story.turn task desk moment delivery
  | _, _ => { story with call := story.call.next task happening }

def tell (task : TaskId) (story : Story) (happenings : List Happening) : Story :=
  happenings.foldl (next task) story

/-- Each happening meets a condition on the story up to then. -/
def Throughout (condition : Story → Happening → Prop) (task : TaskId) :
    Story → List Happening → Prop
  | _, [] => True
  | story, happening :: happenings =>
      condition story happening ∧ (story.next task happening).Throughout condition task happenings

instance decidableThroughout (condition : Story → Happening → Prop)
    [∀ story happening, Decidable (condition story happening)] (task : TaskId) :
    ∀ story happenings, Decidable (Throughout condition task story happenings)
  | _, [] => inferInstanceAs (Decidable True)
  | story, happening :: happenings =>
      have := decidableThroughout condition task (story.next task happening) happenings
      inferInstanceAs (Decidable (_ ∧ _))

variable {story : Story} {task : TaskId} {desk : Desk} {moment : Moment} {delivery : Delivery}
  {wakeAt : Nat} {error : Error}

theorem tell_append (task : TaskId) (story : Story) (before after : List Happening) :
    story.tell task (before ++ after) = (story.tell task before).tell task after := by
  simp [tell]

/-- What holds at the start and is kept by whatever happens holds of the whole story. -/
theorem tell_induction {motive : Story → Prop} (task : TaskId)
    (kept : ∀ story happening, motive story → motive (story.next task happening))
    {story : Story} (initially : motive story) (happenings : List Happening) :
    motive (story.tell task happenings) := by
  induction happenings generalizing story with
  | nil => exact initially
  | cons happening happenings induction => exact induction (kept story happening initially)

theorem Throughout.induction {motive : Story → Prop} {condition : Story → Happening → Prop}
    {task : TaskId} {happenings : List Happening}
    (throughout : story.Throughout condition task happenings)
    (kept : ∀ story happening, condition story happening → motive story →
      motive (story.next task happening))
    (initially : motive story) : motive (story.tell task happenings) := by
  induction happenings generalizing story with
  | nil => exact initially
  | cons happening happenings induction =>
      exact induction throughout.2 (kept story happening throughout.1 initially)

theorem Throughout.at_split {condition : Story → Happening → Prop} {task : TaskId}
    {earlier later : List Happening} {happening : Happening}
    (throughout : story.Throughout condition task (earlier ++ happening :: later)) :
    condition (story.tell task earlier) happening := by
  induction earlier generalizing story with
  | nil => exact throughout.1
  | cons first earlier induction => exact induction throughout.2

theorem next_call (task : TaskId) (story : Story) (happening : Happening) :
    (story.next task happening).call = story.call.next task happening := by
  unfold next
  split
  · unfold turn
    dsimp only
    split <;> rfl
  · rfl

theorem next_of_over (task : TaskId) {verdict : Verdict Outcome}
    (finished : story.call.verdict = some verdict) (happening : Happening) :
    story.next task happening = story := by
  obtain ⟨⟨delivery, decided⟩, past, present⟩ := story
  obtain rfl : decided = some verdict := finished
  cases happening <;> rfl

theorem tell_of_over (task : TaskId) {verdict : Verdict Outcome}
    (finished : story.call.verdict = some verdict) (happenings : List Happening) :
    story.tell task happenings = story := by
  induction happenings with
  | nil => rfl
  | cons happening happenings induction =>
      rw [tell, List.foldl_cons, next_of_over task finished]
      exact induction

theorem next_turn (underWay : story.call = ⟨delivery, none⟩) :
    story.next task (.turn desk moment) = story.turn task desk moment delivery := by
  simp [next, underWay]

theorem turn_active (underWay : story.call = ⟨delivery, none⟩)
    (active : ∀ wakeAt error, delivery.stage ≠ .pausing wakeAt error) :
    story.turn task desk moment delivery =
      ⟨Call.after ⟨delivery, none⟩ (delivery.advance task desk moment).2, story.past,
        story.present.extend task desk moment delivery⟩ := by
  unfold turn
  rw [underWay]
  dsimp only
  split
  next _ _ wakeAt error _ _ stage _ => exact absurd stage (active wakeAt error)
  next => rfl

end Story

namespace Delivery

variable {delivery next : Delivery} {wakeAt : Nat} {error : Error}

/-- What comes for a delivery may wait for its watch, and changes nothing else. -/
inductive Receives (delivery : Delivery) : Delivery → Prop where
  | unmoved : Receives delivery delivery
  | watches (watch other : Watch) (stage : delivery.stage = .watching watch)
      (transaction : other.transaction = watch.transaction)
      (tracker : other.tracker = watch.tracker) :
      Receives delivery { delivery with stage := .watching other }

theorem deliver_receives (delivery : Delivery) (notice : Notice) :
    delivery.Receives (delivery.deliver notice) := by
  unfold deliver
  split
  next watch stage => exact .watches watch (watch.deliver notice) stage rfl rfl
  next => exact .unmoved

theorem close_receives (delivery : Delivery) : delivery.Receives delivery.close := by
  unfold close
  split
  next watch stage => exact .watches watch watch.close stage rfl rfl
  next => exact .unmoved

theorem Receives.same_wake (receives : delivery.Receives next) :
    next.wakeAt? = delivery.wakeAt? := by
  cases receives with
  | unmoved => rfl
  | watches watch other stage => simp [wakeAt?, stage]

theorem advance_pausing (stage : delivery.stage = .pausing wakeAt error) (task : TaskId)
    (desk : Desk) (moment : Moment) :
    delivery.advance task desk moment =
      (desk, if moment.cancelled then .ends (.failure error)
        else if wakeAt ≤ moment.now then
          .goesOn { delivery with
            stage := .submitting (Submission.start delivery.call delivery.signer) } none
        else .waits) := by
  have undisturbed : delivery.interruption? moment = none := by simp [interruption?, stage]
  simp only [advance, undisturbed, proceed, stage]
  split
  · rfl
  · split <;> rfl

theorem request_pausing (stage : delivery.stage = .pausing wakeAt error) (task : TaskId)
    (desk : Desk) (moment : Moment) :
    (delivery.advance task desk moment).2.request? = none := by
  rw [advance_pausing stage]
  dsimp only
  split
  · rfl
  · split <;> rfl

theorem undertakings_pausing (stage : delivery.stage = .pausing wakeAt error) (task : TaskId)
    (desk : Desk) (moment : Moment) :
    delivery.undertakings task desk moment = [] := by
  have idle : delivery.errand? = none := by simp [errand?, stage]
  simp [undertakings, handedOut?, signing?, idle, stage, request_pausing stage]

theorem observations_pausing (stage : delivery.stage = .pausing wakeAt error) (moment : Moment)
    {progress : Progress Delivery (Verdict Outcome)} (quiet : progress.request? = none) :
    delivery.observations moment progress = [] := by
  by_cases moving : progress = .waits
  · rw [moving]
    rfl
  · rw [observations_of_moving moving, quiet]
    simp [consumed, heard?, Answer.settled?, question?, notice?, refusal?, attemptOver?, stage]

end Delivery

theorem Attempt.extend_pausing {delivery : Delivery} {wakeAt : Nat} {error : Error}
    (stage : delivery.stage = .pausing wakeAt error) (task : TaskId) (desk : Desk)
    (moment : Moment) (attempt : Attempt) :
    attempt.extend task desk moment delivery = attempt := by
  have unfinished : delivery.attemptOver? (delivery.advance task desk moment).2 = none := by
    simp [Delivery.attemptOver?, stage]
  have quiet := Delivery.request_pausing stage task desk moment
  simp only [extend, unfinished, Delivery.undertakings_pausing stage,
    Delivery.observations_pausing stage moment quiet, List.append_nil]

theorem Story.turn_pausing {story : Story} {delivery : Delivery} {wakeAt : Nat} {error : Error}
    (underWay : story.call = ⟨delivery, none⟩) (stage : delivery.stage = .pausing wakeAt error)
    (task : TaskId) (desk : Desk) (moment : Moment) :
    story.turn task desk moment delivery =
      if moment.cancelled then { story with call := ⟨delivery, some (.failure error)⟩ }
      else if wakeAt ≤ moment.now then
        ⟨⟨{ delivery with
              stage := .submitting (Submission.start delivery.call delivery.signer) }, none⟩,
          story.past ++ [story.present], Attempt.fresh moment.now⟩
      else story := by
  have advance := Delivery.advance_pausing stage task desk moment
  have same := story.present.extend_pausing stage task desk moment
  obtain ⟨call, past, present⟩ := story
  obtain rfl : call = ⟨delivery, none⟩ := underWay
  unfold turn
  by_cases cancelled : moment.cancelled = true
  · simp [stage, advance, same, cancelled, Call.next, Call.after]
  · by_cases awake : wakeAt ≤ moment.now
    · simp [stage, advance, cancelled, awake, Call.next, Call.after]
    · simp [stage, advance, same, cancelled, awake, Call.next, Call.after]

namespace Traffic

/-- What an act means for one of the calls. -/
def happening? (traffic : Traffic) (task : TaskId) : Act → Option Happening
  | .begins _ _ _ _ _ => none
  | .advances other moment => if other = task then some (.turn traffic.desk moment) else none
  | .delivers other notice => if other = task then some (.arrives notice) else none
  | .closes other => if other = task then some .closes else none

theorem change_call {traffic : Traffic} {task other : TaskId} {before : Call}
    (found : traffic.calls[other]? = some before) (desk : Desk) (call : Call)
    (shown : List Observation) :
    (traffic.change task desk call shown).calls[other]? =
      some (if task = other then call else before) := by
  by_cases same : task = other
  · subst same
    rw [calls_change found]
    simp
  · simp [change, same, found]

theorem perform_call {traffic : Traffic} {task : TaskId} {call : Call}
    (found : traffic.calls[task]? = some call) (act : Act) :
    (traffic.perform act).calls[task]? =
      some ((traffic.happening? task act).elim call (call.next task)) := by
  have moves : ∀ (other : TaskId) delivery happening desk shown,
      traffic.calls[other]? = some ⟨delivery, none⟩ →
        (traffic.change other desk (Call.next other ⟨delivery, none⟩ happening)
            shown).calls[task]? =
          some ((if other = task then some happening else none).elim call (call.next task)) := by
    intro other delivery happening desk shown held
    rw [change_call found]
    by_cases same : other = task
    · subst same
      obtain rfl : call = ⟨delivery, none⟩ := Option.some.inj (found.symm.trans held)
      simp
    · simp [same]
  have rests : ∀ (other : TaskId) happening,
      (∀ delivery, traffic.calls[other]? = some ⟨delivery, none⟩ → False) →
        traffic.calls[task]? =
          some ((if other = task then some happening else none).elim call (call.next task)) := by
    intro other happening idle
    by_cases same : other = task
    · subst same
      obtain ⟨delivery, decided⟩ := call
      cases decided with
      | none => exact absurd found (idle delivery)
      | some verdict => simp [Call.next, found]
    · simp [same, found]
  cases act with
  | begins now settings options encoded signer =>
      obtain ⟨inside, -⟩ := List.getElem?_eq_some_iff.mp found
      simp [perform, enter, happening?, List.getElem?_append_left inside, found]
  | advances other moment =>
      simp only [perform, happening?]
      split
      next delivery held => exact moves other delivery (.turn traffic.desk moment) _ _ held
      next idle => exact rests other _ idle
  | delivers other notice =>
      simp only [perform, happening?]
      split
      next delivery held => exact moves other delivery (.arrives notice) _ _ held
      next idle => exact rests other _ idle
  | closes other =>
      simp only [perform, happening?]
      split
      next delivery held => exact moves other delivery .closes _ _ held
      next idle => exact rests other _ idle

theorem begun_of_new {traffic : Traffic} {task : TaskId} {call : Call} {act : Act}
    (absent : traffic.calls[task]? = none)
    (found : (traffic.perform act).calls[task]? = some call) :
    ∃ now settings options encoded signer,
      call = ⟨Delivery.start now settings options encoded signer, none⟩ := by
  have outside : traffic.calls.length ≤ task := List.getElem?_eq_none_iff.mp absent
  have unchanged : ∀ other desk call shown,
      (traffic.change other desk call shown).calls[task]? = none := by
    intro other desk call shown
    simp [change, outside]
  have performs := traffic.perform_performs act
  generalize traffic.perform act = after at performs found
  cases performs with
  | stays => cases absent.symm.trans found
  | begins now settings options encoded signer =>
      rcases enter_call found with earlier | begun
      · cases absent.symm.trans earlier
      · exact ⟨now, settings, options, encoded, signer, begun⟩
  | advances other moment delivery held desk progress moves =>
      cases (unchanged _ _ _ _).symm.trans found
  | delivers other notice delivery held => cases (unchanged _ _ _ _).symm.trans found
  | closes other delivery held => cases (unchanged _ _ _ _).symm.trans found

theorem call_has_story (capacity : Nat) (acts : List Act) (task : TaskId) (call : Call)
    (found : (run capacity acts).calls[task]? = some call) :
    ∃ now settings options encoded signer happenings,
      call = ((Story.start now settings options encoded signer).tell task happenings).call := by
  induction acts using List.reverseRecOn generalizing call with
  | nil => simp [run, start] at found
  | append_singleton acts act induction =>
      rw [run_snoc] at found
      cases earlier : (run capacity acts).calls[task]? with
      | some before =>
          obtain ⟨now, settings, options, encoded, signer, happenings, told⟩ :=
            induction before earlier
          rw [perform_call earlier] at found
          refine ⟨now, settings, options, encoded, signer,
            happenings ++ ((run capacity acts).happening? task act).toList, ?_⟩
          rw [Story.tell_append, ← Option.some.inj found]
          cases (run capacity acts).happening? task act with
          | none => exact told
          | some happening =>
              rw [told]
              exact (Story.next_call task _ happening).symm
      | none =>
          obtain ⟨now, settings, options, encoded, signer, rfl⟩ := begun_of_new earlier found
          exact ⟨now, settings, options, encoded, signer, [], rfl⟩

end Traffic

end LedgerCourier
