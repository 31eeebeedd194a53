import LedgerCourier.Proofs.Delivery.Sound

/-!
# What can be seen of a delivery

A step of a delivery may consume an answer or a notice, be refused by the signer or the channel,
ask the ledger something and bring an attempt to its end. Each of these is an observation. What
a step does to the delivery's number and to its errand is read off the stage before and after it.
-/

namespace LedgerCourier

set_option autoImplicit false

inductive Observation where
  | asked (request : Request)
  | answered (request : Request) (answer : Answer)
  | arrived (notice : Notice)
  | took (notice : Notice)
  | refused (error : Error)
  | attemptOver (verdict : Verdict Outcome)

def Answer.fits : Answer → Request → Bool
  | .nonce _, .nonce _ | .sent _, .send _ | .position _, .position _ _ | .events _, .events _ =>
      true
  | _, _ => false

/-- The question that an answer settles, with the answer. -/
def Answer.settled? (question : Option Request) (answer : Option Answer) :
    Option (Request × Answer) :=
  match question, answer with
  | some request, some answer => if answer.fits request then some (request, answer) else none
  | _, _ => none

def Errand.question? (errand : Errand) : Option Request :=
  match errand.stage with
  | .asking => some (.nonce errand.account)
  | _ => none

def Collection.question? (extrinsic : Hash) : Collection → Option Request
  | .locating block => some (.position block extrinsic)
  | .fetching block _ => some (.events block)
  | _ => none

namespace Watch

def errand? (watch : Watch) : Option Errand :=
  match watch.stage with
  | .settling errand _ => some errand
  | _ => none

def question? (watch : Watch) : Option Request :=
  match watch.stage with
  | .awaiting | .recording _ => none
  | .collecting _ _ collection => collection.question? watch.transaction.hash
  | .settling errand _ => errand.question?

/-- The report that was taken and is decided upon when the history has it. -/
def recalled (watch : Watch) : List Observation :=
  match watch.stage with
  | .recording status => [.took (.status status)]
  | _ => []

end Watch

namespace Submission

def errand? (submission : Submission) : Option Errand :=
  match submission.stage with
  | .reserving errand | .undoing _ errand _ => some errand
  | _ => none

def question? (submission : Submission) : Option Request :=
  match submission.stage with
  | .reserving errand | .undoing _ errand _ => errand.question?
  | .preparing _ => none
  | .sending transaction => some (.send transaction.extrinsic)

def refusal? (submission : Submission) (moment : Moment) : Option Error :=
  match submission.stage with
  | .preparing nonce =>
      match SignedTransaction.prepare moment.channel submission.signer submission.call nonce with
      | .error error => some error
      | .ok _ => none
  | _ => none

end Submission

def Progress.request? {Task Result : Type} : Progress Task Result → Option Request
  | .goesOn _ request => request
  | _ => none

namespace Delivery

def errand? (delivery : Delivery) : Option Errand :=
  match delivery.stage with
  | .submitting submission => submission.errand?
  | .watching watch => watch.errand?
  | .pausing _ _ => none

def number? (delivery : Delivery) : Option Nat :=
  match delivery.stage with
  | .submitting submission => submission.nonce?
  | .watching watch => some watch.transaction.nonce
  | .pausing _ _ => none

def question? (delivery : Delivery) : Option Request :=
  match delivery.stage with
  | .submitting submission => submission.question?
  | .watching watch => watch.question?
  | .pausing _ _ => none

/-- What was seen before and is still to be decided upon. -/
def recalled (delivery : Delivery) : List Observation :=
  match delivery.stage with
  | .watching watch => watch.recalled
  | _ => []

def heard? (delivery : Delivery) (moment : Moment) : Option (Request × Answer) :=
  Answer.settled? delivery.question? moment.answer

def notice? (delivery : Delivery) : Option Notice :=
  match delivery.stage with
  | .watching watch => watch.notice?
  | _ => none

def refusal? (delivery : Delivery) (moment : Moment) : Option Error :=
  match delivery.stage with
  | .submitting submission => submission.refusal? moment
  | _ => none

/-- How the present attempt ends, if it does. A delivery that pauses has no attempt under way. -/
def attemptOver? (delivery : Delivery) (progress : Progress Delivery (Verdict Outcome)) :
    Option (Verdict Outcome) :=
  match delivery.stage, progress with
  | .pausing _ _, _ => none
  | _, .ends verdict => some verdict
  | _, .goesOn next _ =>
      match next.stage with
      | .pausing _ error => some (.failure error)
      | _ => none
  | _, .waits => none

/-- What a step shows. One that is struck by an interruption consumes nothing before it ends, and
one that waits shows nothing. -/
def observations (delivery : Delivery) (moment : Moment) :
    Progress Delivery (Verdict Outcome) → List Observation
  | .waits => []
  | progress =>
      let consumed : List Observation :=
        if delivery.interruption? moment = none then
          ((delivery.heard? moment).map fun heard => .answered heard.1 heard.2).toList ++
            (delivery.notice?.map .took).toList ++ ((delivery.refusal? moment).map .refused).toList
        else []
      consumed ++ (progress.request?.map .asked).toList ++
        ((delivery.attemptOver? progress).map .attemptOver).toList

end Delivery

namespace Verdict

/-- The number that stays used after an attempt, because its extrinsic may still be, or is, in
the pool or in a block. -/
def kept? : Verdict Outcome → Option Nat
  | .success outcome => some outcome.nonce
  | .failure (.usurped nonce _) | .failure (.watch nonce _ _)
  | .failure (.subscriptionClosed nonce _) => some nonce
  | .failure (.timeout nonce _ _) | .failure (.cancelled nonce _) => nonce
  | _ => none

end Verdict

namespace Observation

def told? : Observation → Option Nat
  | .answered (.nonce _) (.nonce (.ok number)) => some number
  | _ => none

def kept? : Observation → Option Nat
  | .attemptOver verdict => verdict.kept?
  | _ => none

/-- The text with which a collaborator says that something has failed. -/
def failureText? : Observation → Option String
  | .refused error => error.refusal?
  | .answered _ (.sent (.error cause)) => some cause.text
  | .took (.status (.invalid reason)) => some reason
  | _ => none

/-- Nobody claims that a number is out of date. -/
def IsFresh (observation : Observation) : Prop :=
  ∀ text, observation.failureText? = some text → Stale.isStale text = false

end Observation

def Errand.told? (errand : Errand) (answer : Option Answer) : Option Nat :=
  match errand.stage, answer with
  | .asking, some (.nonce (.ok number)) => some number
  | _, _ => none

theorem Errand.told_answer (errand : Errand) (answer : Option Answer) :
    ((Answer.settled? errand.question? answer).bind fun heard =>
        Observation.told? (.answered heard.1 heard.2)) = errand.told? answer := by
  unfold Answer.settled?
  cases stage : errand.stage with
  | arriving => simp [Errand.question?, Errand.told?, stage]
  | inLine => simp [Errand.question?, Errand.told?, stage]
  | asking =>
      cases answer with
      | none => simp [Errand.question?, Errand.told?, stage]
      | some answer =>
          rcases answer with told | sent | position | events
          · cases told <;>
              simp [Errand.question?, Errand.told?, stage, Answer.fits, Observation.told?]
          · simp [Errand.question?, Errand.told?, stage, Answer.fits]
          · simp [Errand.question?, Errand.told?, stage, Answer.fits]
          · simp [Errand.question?, Errand.told?, stage, Answer.fits]

theorem Answer.untold {question : Option Request}
    (other : ∀ account, question ≠ some (.nonce account)) (answer : Option Answer) :
    ((Answer.settled? question answer).bind fun heard =>
        Observation.told? (.answered heard.1 heard.2)) = none := by
  unfold Answer.settled?
  split
  next request answer =>
    split
    · cases request with
      | nonce account => exact absurd rfl (other account)
      | send extrinsic => rfl
      | position block extrinsic => rfl
      | events block => rfl
    · rfl
  next => rfl

namespace Delivery

variable {task : TaskId} {desk after : Desk} {moment : Moment} {delivery : Delivery}
  {progress : Progress Delivery (Verdict Outcome)}

theorem filter_map_optional {First Second Third : Type} (wrap : First → Second)
    (choose : Second → Option Third) (value : Option First) :
    (value.map wrap).toList.filterMap choose =
      (value.bind fun first => choose (wrap first)).toList := by
  cases value with
  | none => rfl
  | some first => cases chosen : choose (wrap first) <;> simp [chosen]

theorem told_of_question (delivery : Delivery) (moment : Moment) :
    ((delivery.heard? moment).bind fun heard =>
        Observation.told? (.answered heard.1 heard.2)) =
      delivery.errand?.bind fun errand => errand.told? moment.answer := by
  have asking : ∀ errand : Errand, delivery.question? = errand.question? →
      ((delivery.heard? moment).bind fun heard =>
        Observation.told? (.answered heard.1 heard.2)) = errand.told? moment.answer := by
    intro errand question
    rw [heard?, question]
    exact errand.told_answer moment.answer
  have idle : (∀ account, delivery.question? ≠ some (.nonce account)) →
      ((delivery.heard? moment).bind fun heard =>
        Observation.told? (.answered heard.1 heard.2)) = none :=
    fun other => Answer.untold other moment.answer
  unfold errand?
  split
  next submission stage =>
    cases position : submission.stage with
    | reserving errand =>
        simpa [Submission.errand?, position] using
          asking errand (by simp [question?, stage, Submission.question?, position])
    | preparing nonce =>
        simpa [Submission.errand?, position] using
          idle (by simp [question?, stage, Submission.question?, position])
    | sending transaction =>
        simpa [Submission.errand?, position] using
          idle (by simp [question?, stage, Submission.question?, position])
    | undoing nonce errand error =>
        simpa [Submission.errand?, position] using
          asking errand (by simp [question?, stage, Submission.question?, position])
  next watch stage =>
    cases position : watch.stage with
    | awaiting =>
        simpa [Watch.errand?, position] using
          idle (by simp [question?, stage, Watch.question?, position])
    | recording status =>
        simpa [Watch.errand?, position] using
          idle (by simp [question?, stage, Watch.question?, position])
    | collecting status block collection =>
        have asked : ∀ account, delivery.question? ≠ some (.nonce account) := by
          intro account
          cases collection <;>
            simp [question?, stage, Watch.question?, position, Collection.question?]
        simpa [Watch.errand?, position] using idle asked
    | settling errand error =>
        simpa [Watch.errand?, position] using
          asking errand (by simp [question?, stage, Watch.question?, position])
  next wakeAt error stage => exact idle (by simp [question?, stage])

theorem filter_map_silent {First Second Third : Type} (wrap : First → Second)
    (choose : Second → Option Third) (silent : ∀ first, choose (wrap first) = none)
    (value : Option First) : (value.map wrap).toList.filterMap choose = [] := by
  rw [filter_map_optional]
  cases value with
  | none => rfl
  | some first => simp [silent]

/-- What a step shows before it asks anything and before the attempt ends. -/
def consumed (delivery : Delivery) (moment : Moment) : List Observation :=
  if delivery.interruption? moment = none then
    ((delivery.heard? moment).map fun heard => .answered heard.1 heard.2).toList ++
      (delivery.notice?.map .took).toList ++ ((delivery.refusal? moment).map .refused).toList
  else []

theorem observations_of_moving (moving : progress ≠ .waits) :
    delivery.observations moment progress =
      delivery.consumed moment ++ (progress.request?.map .asked).toList ++
        ((delivery.attemptOver? progress).map .attemptOver).toList := by
  cases progress with
  | waits => exact absurd rfl moving
  | goesOn next request => rfl
  | ends verdict => rfl

theorem told_shown (delivery : Delivery) (moment : Moment) (moving : progress ≠ .waits) :
    (delivery.observations moment progress).filterMap Observation.told? =
      if delivery.interruption? moment = none then
        (delivery.errand?.bind fun errand => errand.told? moment.answer).toList
      else [] := by
  have silent : ∀ {Part : Type} (wrap : Part → Observation) (part : Option Part),
      (∀ value, (wrap value).told? = none) →
        (part.map wrap).toList.filterMap Observation.told? = [] :=
    fun wrap part never => filter_map_silent wrap Observation.told? never part
  rw [observations_of_moving moving, List.filterMap_append, List.filterMap_append,
    silent Observation.asked _ fun _ => rfl, silent Observation.attemptOver _ fun _ => rfl,
    ← told_of_question, consumed]
  split
  · rw [List.filterMap_append, List.filterMap_append, silent Observation.took _ fun _ => rfl,
      silent Observation.refused _ fun _ => rfl, filter_map_optional]
    simp
  · rfl

theorem kept_shown (delivery : Delivery) (moment : Moment) (moving : progress ≠ .waits) :
    (delivery.observations moment progress).filterMap Observation.kept? =
      ((delivery.attemptOver? progress).bind Verdict.kept?).toList := by
  have silent : ∀ {Part : Type} (wrap : Part → Observation) (part : Option Part),
      (∀ value, (wrap value).kept? = none) →
        (part.map wrap).toList.filterMap Observation.kept? = [] :=
    fun wrap part never => filter_map_silent wrap Observation.kept? never part
  have nothing : (delivery.consumed moment).filterMap Observation.kept? = [] := by
    unfold consumed
    split
    · rw [List.filterMap_append, List.filterMap_append, silent _ _ fun _ => rfl,
        silent Observation.took _ fun _ => rfl, silent Observation.refused _ fun _ => rfl]
      rfl
    · rfl
  rw [observations_of_moving moving, List.filterMap_append, List.filterMap_append, nothing,
    silent Observation.asked _ fun _ => rfl, filter_map_optional]
  rfl

theorem FollowsUp.moving {now : Nat} {error : Error}
    (follows : delivery.FollowsUp now error progress) : progress ≠ .waits := by
  cases follows <;> simp

theorem FollowsUp.attempt_over {now : Nat} {error : Error}
    (follows : delivery.FollowsUp now error progress)
    (active : ∀ wakeAt error, delivery.stage ≠ .pausing wakeAt error) :
    delivery.attemptOver? progress = some (.failure error) := by
  unfold attemptOver?
  cases follows <;> cases stage : delivery.stage <;> simp_all

theorem consumed_shown (moving : progress ≠ .waits) {observation : Observation}
    (inside : observation ∈ delivery.consumed moment) :
    observation ∈ delivery.observations moment progress := by
  rw [observations_of_moving moving, List.append_assoc]
  exact List.mem_append_left _ inside

theorem heard_consumed (undisturbed : delivery.interruption? moment = none) {request : Request}
    {answer : Answer} (question : delivery.question? = some request)
    (told : moment.answer = some answer) (fits : answer.fits request = true) :
    .answered request answer ∈ delivery.consumed moment := by
  simp [consumed, undisturbed, heard?, Answer.settled?, question, told, fits]

theorem notice_consumed (undisturbed : delivery.interruption? moment = none) {notice : Notice}
    (next : delivery.notice? = some notice) : .took notice ∈ delivery.consumed moment := by
  simp [consumed, undisturbed, next]

theorem refusal_consumed (undisturbed : delivery.interruption? moment = none) {error : Error}
    (refused : delivery.refusal? moment = some error) :
    .refused error ∈ delivery.consumed moment := by
  simp [consumed, undisturbed, refused]

theorem silent (moment : Moment) (moving : progress ≠ .waits) (idle : delivery.errand? = none)
    (unfinished : delivery.attemptOver? progress = none) :
    (delivery.observations moment progress).filterMap Observation.told? = [] ∧
      (delivery.observations moment progress).filterMap Observation.kept? = [] := by
  rw [told_shown delivery moment moving, kept_shown delivery moment moving, idle, unfinished]
  simp

theorem told_by_errand (moving : progress ≠ .waits)
    (undisturbed : delivery.interruption? moment = none) {errand : Errand}
    (held : delivery.errand? = some errand) :
    (delivery.observations moment progress).filterMap Observation.told? =
      (errand.told? moment.answer).toList := by
  rw [told_shown delivery moment moving, if_pos undisturbed, held]
  rfl

theorem kept_by_attempt (moment : Moment) (moving : progress ≠ .waits) (kept : Option Nat)
    (finished : (delivery.attemptOver? progress).bind Verdict.kept? = kept) :
    (delivery.observations moment progress).filterMap Observation.kept? = kept.toList := by
  rw [kept_shown delivery moment moving, finished]

end Delivery

end LedgerCourier
