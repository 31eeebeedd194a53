import LedgerCourier.Proofs.Delivery.BlockContent
import LedgerCourier.Proofs.Traffic.Narration
import LedgerCourier.Proofs.Traffic.Success

/-!
# Outcomes and the events of others

The outcome of a call is made of the number and the extrinsic of its last attempt, of the notices
that have arrived since the ledger was given the extrinsic, and of the events that the block has
for it. What else the block contains does not matter, and whether the block could be searched shows
in the events only.
-/

namespace LedgerCourier

set_option autoImplicit false

def Observation.isSending : Observation → Bool
  | .asked (.send _) => true
  | _ => false

def afterSending (log : List Observation) : List Observation :=
  (log.reverse.takeWhile fun observation => !observation.isSending).reverse

def tracked (seen : List Observation) : Tracker :=
  Tracker.start.feed (Watch.leading (seen.filterMap Observation.arrived?))

def Truthful (seen : List Observation) (block : Hash) (content : BlockContent) : Prop :=
  ∀ observation ∈ seen, observation.IsTrueOf block content

def eventsFound (seen : List Observation) (content : BlockContent) (extrinsic : Hash) :
    List Event :=
  if isMissed seen then [] else content.own extrinsic

theorem Observation.is_sending_iff (observation : Observation) :
    observation.isSending = true ↔ ∃ extrinsic, observation = .asked (.send extrinsic) := by
  unfold isSending
  split
  next extrinsic => simp
  next other => simpa using other

theorem after_sending_eq (earlier : List Observation) (extrinsic : Bytes)
    {seen : List Observation} (last : ∀ other, .asked (.send other) ∉ seen) :
    afterSending (earlier ++ .asked (.send extrinsic) :: seen) = seen := by
  have silent : ∀ observation ∈ seen.reverse, (!observation.isSending) = true := by
    intro observation inside
    rw [Bool.not_eq_true', Bool.eq_false_iff]
    intro sends
    obtain ⟨other, rfl⟩ := observation.is_sending_iff.mp sends
    exact last other (List.mem_reverse.mp inside)
  rw [afterSending, List.reverse_append, List.reverse_cons, List.append_assoc,
    List.takeWhile_append_of_pos silent]
  simp [Observation.isSending]

theorem Watch.leading_append (reports : List Status) (rest : List Notice) :
    leading (reports.map .status ++ rest) = reports ++ leading rest := by
  induction reports with
  | nil => rfl
  | cons status reports induction => exact congrArg (status :: ·) induction

/-- What a call tells after it has succeeded, by what was seen of it. -/
structure Explained (attempt : Attempt) (seen : List Observation) (outcome : Outcome) : Prop where
  number : attempt.reserved = [outcome.nonce]
  hash : attempt.accepted.map Blake2b.digest256 = [outcome.hash]
  status : (tracked seen).current = some outcome.status
  block : outcome.status.block? = some outcome.block
  history : outcome.history = (tracked seen).history
  events : ∀ content, Truthful seen outcome.block content →
    outcome.events = eventsFound seen content outcome.hash
  dispatch : Dispatch.Reported outcome.events outcome.dispatch
  refused : ∀ error, outcome.ensureSuccess = .error error ↔ ∃ details,
    outcome.dispatch = .failed details ∧
      error = .extrinsicFailed outcome.nonce outcome.hash details
  granted : outcome.ensureSuccess = .ok outcome ↔
    ∀ details, outcome.dispatch ≠ .failed details

namespace Justified

variable {log since front lookup : List Observation} {signer : Signer} {call : EncodedCall}
  {depth : Depth} {outcome : Outcome} {transaction : SignedTransaction} {fed : List Status}
  {left : List Notice}

theorem seen (justified : Justified log signer call depth outcome transaction since front lookup
    fed left) :
    afterSending log = .answered (.send transaction.extrinsic) (.sent (.ok ())) :: since ++
      [.attemptOver (.success outcome)] := by
  obtain ⟨earlier, whole⟩ := justified.sent
  have split : log = earlier ++ .asked (.send transaction.extrinsic) ::
      (.answered (.send transaction.extrinsic) (.sent (.ok ())) :: since ++
        [.attemptOver (.success outcome)]) := by
    rw [whole]
    simp [Watch.accepted]
  rw [split]
  refine after_sending_eq earlier transaction.extrinsic ?_
  intro other inside
  simp [justified.last other] at inside

theorem tracked_eq (justified : Justified log signer call depth outcome transaction since front
    lookup fed left) : tracked (afterSending log) = Tracker.start.feed fed := by
  have arrivals : (afterSending log).filterMap Observation.arrived? = fed.map .status ++ left := by
    rw [justified.seen, List.filterMap_append, List.filterMap_cons, justified.stream]
    simp [Observation.arrived?]
  rw [tracked, arrivals, Watch.leading_append, Tracker.feed_append]
  rcases justified.settled with final | empty
  · have terminal : (Tracker.start.feed fed).isTerminal = true := by
      rw [Tracker.isTerminal, justified.current, final]
      rfl
    rw [Tracker.feed_of_terminal terminal]
  · rw [empty]
    rfl

theorem heard (justified : Justified log signer call depth outcome transaction since front lookup
    fed left) :
    (afterSending log).filterMap Observation.heard? =
      (.answered (.send transaction.extrinsic) (.sent (.ok ())) :: front).filterMap
          Observation.heard? ++ lookup.filterMap Observation.heard? := by
  have acting : (since.filter Observation.isAction).filterMap Observation.heard? =
      since.filterMap Observation.heard? := by
    rw [List.filterMap_filter]
    apply List.filterMap_congr
    intro observation inside
    cases observation <;> rfl
  rw [justified.seen, List.filterMap_append, List.filterMap_cons, ← acting, justified.actions]
  simp [Observation.heard?]

theorem searched (justified : Justified log signer call depth outcome transaction since front
    lookup fed left) : ∀ observation ∈ lookup, observation ∈ afterSending log := by
  intro observation inside
  have acted : observation ∈ since.filter Observation.isAction := by
    rw [justified.actions]
    exact List.mem_append_right front inside
  rw [justified.seen]
  exact List.mem_append_left _ (List.mem_cons_of_mem _ (List.mem_of_mem_filter acted))

theorem explained (justified : Justified log signer call depth outcome transaction since front
    lookup fed left) {attempt : Attempt} (tells : Verdict.TellsOf (.success outcome) attempt) :
    Explained attempt (afterSending log) outcome where
  number := tells.number.symm
  hash := tells.hash.symm
  status := by rw [justified.tracked_eq, justified.current]
  block := justified.included
  history := by rw [justified.tracked_eq, justified.history]
  events := by
    intro content truly
    exact justified.looked.finds
      (fun observation inside => truly observation (justified.searched observation inside))
      justified.heard
  dispatch := by
    rw [justified.dispatch]
    exact Dispatch.of_events_reported outcome.events
  refused := outcome.ensure_success_iff.1
  granted := outcome.ensure_success_iff.2

end Justified

/-- Two attempts with the same number and extrinsic for which the same notices have arrived. -/
structure Alike (attempt : Attempt) (seen : List Observation) (other : Attempt)
    (watched : List Observation) : Prop where
  number : other.reserved = attempt.reserved
  extrinsic : other.accepted = attempt.accepted
  arrived : watched.filterMap Observation.arrived? = seen.filterMap Observation.arrived?

/-- What explains an outcome leaves nothing but the events open. -/
theorem Explained.same_but_events {attempt other : Attempt} {seen watched : List Observation}
    {outcome second : Outcome} (explained : Explained attempt seen outcome)
    (also : Explained other watched second) (alike : Alike attempt seen other watched) :
    second = { outcome with events := second.events, dispatch := second.dispatch } := by
  have trackers : tracked watched = tracked seen := by rw [tracked, alike.arrived, tracked]
  have nonce : second.nonce = outcome.nonce := by
    have numbers := alike.number
    rw [also.number, explained.number] at numbers
    exact List.singleton_inj.mp numbers
  have hash : second.hash = outcome.hash := by
    have hashes := also.hash
    rw [alike.extrinsic, explained.hash] at hashes
    exact (List.singleton_inj.mp hashes).symm
  have status : second.status = outcome.status := by
    have current := also.status
    rw [trackers, explained.status] at current
    exact (Option.some.inj current).symm
  have block : second.block = outcome.block := by
    have included := also.block
    rw [status, explained.block] at included
    exact (Option.some.inj included).symm
  have history : second.history = outcome.history := by
    rw [also.history, explained.history, trackers]
  rw [← status, ← block, ← nonce, ← hash, ← history]

namespace Watch

/-- The watch while it searches the block of a state that is deep enough. -/
def searching (watch : Watch) (status : Status) (block : Hash) (collection : Collection) : Watch :=
  { watch with stage := .collecting status block collection }

variable {watch : Watch} {status : Status}

theorem follow_searching (task : TaskId) (latest : watch.isOvertaken status = false)
    (block : Hash) (collection : Collection) (circumstance : Circumstance)
    (course : List Circumstance) :
    (watch.searching status block collection).follow task (circumstance :: course) =
      match collection.advance circumstance.moment.answer with
      | .waits => (watch.searching status block collection).follow task course
      | .goesOn next _ => (watch.searching status block next).follow task course
      | .ends result =>
          ([], .finished (.success (watch.outcome status block (result.toOption.getD [])))) := by
  have concludes : ∀ events,
      (watch.searching status block collection).conclude status block events =
        .ends (.success (watch.outcome status block events)) :=
    fun events => if_neg (Bool.eq_false_iff.mp latest)
  have advances : ∀ desk moment,
      ((watch.searching status block collection).advance task desk moment).2 =
        (collection.advance moment.answer).lift (watch.searching status block) fun result =>
          .ends (.success (watch.outcome status block (result.toOption.getD []))) := by
    intro desk moment
    simp only [advance, searching]
    congr 1
    funext result
    cases result with
    | error error => exact concludes []
    | ok events => exact concludes events
  rw [follow, advances]
  cases collection.advance circumstance.moment.answer <;> rfl

structure Answers (content : BlockContent) (extrinsic : Hash)
    (position : Except Failure (Option Nat)) (events : Except Failure (List Event)) : Prop where
  position : ∀ found, position = .ok found → found = content.extrinsics.idxOf? extrinsic
  events : ∀ all, events = .ok all → all = content.events

/-- A search ends with success at the state with which it began. What is answered shows in the
events only, and they are the extrinsic's own unless a question failed. -/
def EndsSearch (watch : Watch) (status : Status) (block : Hash) : Prop :=
  ∀ (task : TaskId) (first second third fourth : Circumstance) (content : BlockContent)
    (position : Except Failure (Option Nat)) (events : Except Failure (List Event)),
    Answers content watch.transaction.hash position events →
      second.moment.answer = some (.position position) →
        fourth.moment.answer = some (.events events) →
          (watch.searching status block (.starting block watch.transaction.hash)).follow task
              [first, second, third, fourth] =
            ([], .finished (.success (watch.outcome status block
              (if position.isOk && events.isOk then content.own watch.transaction.hash else []))))

theorem ends_search (latest : watch.isOvertaken status = false) (block : Hash) :
    watch.EndsSearch status block := by
  intro task first second third fourth content position events answers located fetched
  rw [follow_searching task latest]
  simp only [Collection.advance]
  rw [follow_searching task latest, located]
  rcases position with cause | none | index
  · rfl
  · have outside := answers.position none rfl
    have nothing : content.own watch.transaction.hash = [] := by rw [BlockContent.own, ← outside]
    rw [nothing, ite_self]
    rfl
  · simp only [Collection.advance]
    rw [follow_searching task latest]
    simp only [Collection.advance]
    rw [follow_searching task latest, fetched]
    cases events with
    | error cause => rfl
    | ok events =>
        have inside := answers.position (some index) rfl
        have own : content.own watch.transaction.hash = Event.ofExtrinsic index events := by
          rw [BlockContent.own_of_position inside.symm, answers.events events rfl]
        rw [own]
        rfl

end Watch

namespace Traffic

/-- A call of some run has succeeded, with its last attempt and what was seen of it since the last
extrinsic was handed to the ledger. -/
def Succeeds (attempt : Attempt) (seen : List Observation) (outcome : Outcome) : Prop :=
  ∃ capacity acts task story, story? capacity task acts = some story ∧
    story.call.verdict = some (.success outcome) ∧ story.present = attempt ∧
      afterSending ((run capacity acts).log task) = seen

theorem Succeeds.explained {attempt : Attempt} {seen : List Observation} {outcome : Outcome}
    (succeeds : Succeeds attempt seen outcome) : Explained attempt seen outcome := by
  obtain ⟨capacity, acts, task, story, told, finished, rfl, rfl⟩ := succeeds
  have tells := (story_recounts capacity task acts story told).disclosed.finished _ finished
  have call := story_call capacity task acts
  obtain ⟨⟨delivery, decided⟩, past, present⟩ := story
  obtain rfl : decided = some (.success outcome) := finished
  rw [told] at call
  obtain ⟨transaction, since, front, lookup, fed, left, justified⟩ :=
    (run_chronicled capacity acts).finished task delivery outcome call.symm
  exact justified.explained tells

/-- The outcome of a call is explained by its own number, extrinsic, notices and events. Two calls
that agree in the first three have the same outcome but for the events, and altogether the same if
the same events are found for them, whatever else the blocks contain and whichever lookups fail.
A search ends with success whatever is answered, and a node answers truly. -/
theorem outcomes_depend_on_own_events :
    (∀ attempt seen outcome, Succeeds attempt seen outcome →
      Explained attempt seen outcome ∧
      ∀ other watched second, Succeeds other watched second → Alike attempt seen other watched →
        second = { outcome with events := second.events, dispatch := second.dispatch } ∧
        ∀ content contents, Truthful seen outcome.block content →
          Truthful watched outcome.block contents →
            eventsFound watched contents outcome.hash = eventsFound seen content outcome.hash →
              second = outcome) ∧
    (∀ (watch : Watch) status block, watch.isOvertaken status = false →
      watch.EndsSearch status block) ∧
    ∀ (node : Node) block held request, node.blocks.get? block = some held →
      (Observation.answered request (node.answer request).2.1).IsTrueOf block held.content := by
  refine ⟨?explained, fun watch status block latest => Watch.ends_search latest block,
    fun node block held request known => Node.answers_truly known request⟩
  intro attempt seen outcome succeeds
  have explained := succeeds.explained
  refine ⟨explained, ?_⟩
  intro other watched second also alike
  have same := explained.same_but_events also.explained alike
  refine ⟨same, ?_⟩
  intro content contents truly alsoTruly own
  have block : second.block = outcome.block := by rw [same]
  have hash : second.hash = outcome.hash := by rw [same]
  have events : second.events = outcome.events := by
    rw [explained.events content truly, also.explained.events contents (block ▸ alsoTruly), hash,
      own]
  have dispatch : second.dispatch = outcome.dispatch := by
    rw [explained.dispatch.unique, also.explained.dispatch.unique, events]
  rw [same, events, dispatch]

/-- A call whose extrinsic stands first in its block, with the events of the block. -/
def searchedCall (events : List Event) : List Act :=
  let signer : Signer := ⟨Bytes32.fill 1, fun _ => .ok (.sr25519 [])⟩
  let finds (answer : Option Answer) : Act :=
    .advances 0 ⟨0, false, ⟨fun _ _ => .ok [], fun _ _ _ _ => .ok []⟩, answer, true⟩
  [.begins 0 {} ⟨.finalized, none⟩ ⟨"lock", [], []⟩ signer, finds none, finds none,
    finds (some (.nonce (.ok 5))), finds none, finds (some (.sent (.ok ()))),
    .delivers 0 (.status (.finalized (Bytes32.fill 2))), finds none, finds none,
    finds (some (.position (.ok (some 0)))), finds none, finds (some (.events (.ok events)))]

def searchedOutcome (events : List Event) : Outcome where
  status := .finalized (Bytes32.fill 2)
  block := Bytes32.fill 2
  events := Event.ofExtrinsic 0 events
  nonce := 5
  hash := Blake2b.digest256 []
  history := [.finalized (Bytes32.fill 2)]
  dispatch := Dispatch.ofEvents (Event.ofExtrinsic 0 events)

def searchedLog (events : List Event) : List Observation :=
  let block := Bytes32.fill 2
  let hash := Blake2b.digest256 []
  [.answered (.send []) (.sent (.ok ())), .arrived (.status (.finalized block)),
    .took (.status (.finalized block)), .asked (.position block hash),
    .answered (.position block hash) (.position (.ok (some 0))), .asked (.events block),
    .answered (.events block) (.events (.ok events)),
    .attemptOver (.success (searchedOutcome events))]

theorem searched_call_succeeds (events : List Event) : ∃ attempt,
    Succeeds attempt (searchedLog events) (searchedOutcome events) ∧
      attempt.reserved = [5] ∧ attempt.accepted = [[]] :=
  ⟨_, ⟨1, searchedCall events, 0, _, rfl, rfl, rfl, rfl⟩, rfl, rfl⟩

theorem searched_truthfully (events : List Event) (others : List Hash) :
    Truthful (searchedLog events) (Bytes32.fill 2) ⟨Blake2b.digest256 [] :: others, events⟩ := by
  have first : some 0 = (Blake2b.digest256 [] :: others).idxOf? (Blake2b.digest256 []) := by
    simp [List.idxOf?_cons]
  simp [Truthful, searchedLog, Observation.IsTrueOf, ← first]

/-- The failure of the extrinsic behind it does not show in the outcome of a call. -/
theorem neighbouring_failure_does_not_show :
    let own : Event := ⟨.applyExtrinsic 0, "System", "ExtrinsicSuccess", []⟩
    let failure : Event := ⟨.applyExtrinsic 1, "System", "ExtrinsicFailed", []⟩
    let watch := Watch.start ⟨⟨"lock", [], []⟩, 5, Bytes32.fill 1, .sr25519 [], [], Bytes32.fill 7⟩
      .finalized
    let status : Status := .finalized (Bytes32.fill 2)
    let held : Block := ⟨[[]], [own]⟩
    let node : Node := { Node.blank ⟨0, 0, Bytes32.fill 0, none⟩ false with
      blocks := Table.empty.insert (Bytes32.fill 2) held }
    (∃ attempt other, Succeeds attempt (searchedLog [own]) (searchedOutcome [own]) ∧
      Succeeds other (searchedLog [failure, own]) (searchedOutcome [failure, own]) ∧
      Alike attempt (searchedLog [own]) other (searchedLog [failure, own]) ∧
      searchedOutcome [failure, own] = searchedOutcome [own]) ∧
    (watch.isOvertaken status = false ∧ watch.EndsSearch status (Bytes32.fill 2)) ∧
    node.blocks.get? (Bytes32.fill 2) = some held ∧
      (Observation.answered (.events (Bytes32.fill 2))
        (node.answer (.events (Bytes32.fill 2))).2.1).IsTrueOf (Bytes32.fill 2) held.content := by
  intro own failure watch status held node
  obtain ⟨explains, ends, truly⟩ := outcomes_depend_on_own_events
  have known : node.blocks.get? (Bytes32.fill 2) = some held := rfl
  refine ⟨?_, ⟨rfl, ends watch status _ rfl⟩, known, truly node _ held _ known⟩
  obtain ⟨attempt, succeeds, number, extrinsic⟩ := searched_call_succeeds [own]
  obtain ⟨other, also, otherNumber, otherExtrinsic⟩ := searched_call_succeeds [failure, own]
  have alike : Alike attempt (searchedLog [own]) other (searchedLog [failure, own]) :=
    ⟨otherNumber.trans number.symm, otherExtrinsic.trans extrinsic.symm, rfl⟩
  have truthful := searched_truthfully [own] []
  have alsoTruthful := searched_truthfully [failure, own] [Bytes32.fill 9]
  obtain ⟨explained, compares⟩ := explains _ _ _ succeeds
  have same := (compares _ _ _ also alike).2 _ _ truthful alsoTruthful
  have found := explained.events _ truthful
  have alsoFound := (explains _ _ _ also).1.events _ alsoTruthful
  exact ⟨attempt, other, succeeds, also, alike, same (alsoFound.symm.trans found)⟩

end Traffic

end LedgerCourier
