import LedgerCourier.Proofs.Delivery.Deal
import LedgerCourier.Proofs.Status.Lifecycle

/-!
# The log of a delivery

The log keeps what was seen of one delivery, in order. While a transaction is watched, the log
says since when: it splits at the last extrinsic that was sent. From then on the notices that
have arrived are those that were fed to the tracker, followed by those that lie in the inbox, and
a search for the events of a block is the last thing that the delivery did.
-/

namespace LedgerCourier

set_option autoImplicit false

namespace Observation

def arrived? : Observation → Option Notice
  | .arrived notice => some notice
  | _ => none

def took? : Observation → Option Notice
  | .took notice => some notice
  | _ => none

def isAction : Observation → Bool
  | .arrived _ => false
  | _ => true

end Observation

/-- What is seen of a search for the events of an extrinsic until it gets to a stage. -/
inductive Search (block extrinsic : Hash) : Collection → List Observation → Prop where
  | starts : Search block extrinsic (.starting block extrinsic) []
  | asks : Search block extrinsic (.locating block) [.asked (.position block extrinsic)]
  | locates (index : Nat) :
      Search block extrinsic (.located block index)
        [.asked (.position block extrinsic),
          .answered (.position block extrinsic) (.position (.ok (some index)))]
  | fetches (index : Nat) :
      Search block extrinsic (.fetching block index)
        [.asked (.position block extrinsic),
          .answered (.position block extrinsic) (.position (.ok (some index))),
          .asked (.events block)]

/-- What is seen of a whole search, with the events that come of it. -/
inductive Lookup (block extrinsic : Hash) : List Observation → List Event → Prop where
  | unlocated (cause : Failure) :
      Lookup block extrinsic
        [.asked (.position block extrinsic),
          .answered (.position block extrinsic) (.position (.error cause))] []
  | absent :
      Lookup block extrinsic
        [.asked (.position block extrinsic),
          .answered (.position block extrinsic) (.position (.ok none))] []
  | unfetched (index : Nat) (cause : Failure) :
      Lookup block extrinsic
        [.asked (.position block extrinsic),
          .answered (.position block extrinsic) (.position (.ok (some index))),
          .asked (.events block), .answered (.events block) (.events (.error cause))] []
  | found (index : Nat) (events : List Event) :
      Lookup block extrinsic
        [.asked (.position block extrinsic),
          .answered (.position block extrinsic) (.position (.ok (some index))),
          .asked (.events block), .answered (.events block) (.events (.ok events))]
        (Event.ofExtrinsic index events)

def Collection.shown (extrinsic : Hash) (collection : Collection) (answer : Option Answer)
    (request : Option Request) : List Observation :=
  ((Answer.settled? (collection.question? extrinsic) answer).map fun heard =>
    Observation.answered heard.1 heard.2).toList ++ (request.map .asked).toList

theorem Search.goes_on {block extrinsic : Hash} {collection next : Collection}
    {lookup : List Observation} (search : Search block extrinsic collection lookup)
    {answer : Option Answer} {request : Option Request}
    (advances : collection.advance answer = .goesOn next request) :
    Search block extrinsic next (lookup ++ collection.shown extrinsic answer request) := by
  cases search with
  | starts =>
      cases advances
      exact .asks
  | asks =>
      simp only [Collection.advance] at advances
      split at advances <;> cases advances
      exact .locates _
  | locates index =>
      cases advances
      exact .fetches index
  | fetches index =>
      simp only [Collection.advance] at advances
      split at advances <;> cases advances

theorem Search.ends {block extrinsic : Hash} {collection : Collection}
    {lookup : List Observation} (search : Search block extrinsic collection lookup)
    {answer : Option Answer} {found : Except Error (List Event)}
    (advances : collection.advance answer = .ends found) :
    Lookup block extrinsic (lookup ++ collection.shown extrinsic answer none)
      (found.toOption.getD []) := by
  cases search with
  | starts => cases advances
  | asks =>
      simp only [Collection.advance] at advances
      split at advances <;> cases advances
      · exact .absent
      · exact .unlocated _
  | locates index => cases advances
  | fetches index =>
      simp only [Collection.advance] at advances
      split at advances <;> cases advances
      · exact .found index _
      · exact .unfetched index _

theorem Search.takes_nothing {block extrinsic : Hash} {collection : Collection}
    {lookup : List Observation} (search : Search block extrinsic collection lookup) :
    lookup.filterMap Observation.took? = [] := by
  cases search <;> rfl

theorem Lookup.takes_nothing {block extrinsic : Hash} {lookup : List Observation}
    {events : List Event} (found : Lookup block extrinsic lookup events) :
    lookup.filterMap Observation.took? = [] := by
  cases found <;> rfl

/-- An action that hands no extrinsic to the ledger. -/
def Observation.IsQuiet (observation : Observation) : Prop :=
  observation.isAction = true ∧ ∀ extrinsic, observation ≠ .asked (.send extrinsic)

theorem quiet_arrivals {more : List Observation}
    (quiet : ∀ observation ∈ more, observation.IsQuiet) :
    more.filterMap Observation.arrived? = [] := by
  rw [List.filterMap_eq_nil_iff]
  intro observation inside
  have action := (quiet observation inside).1
  cases observation with
  | arrived notice => cases action
  | asked request => rfl
  | answered request answer => rfl
  | took notice => rfl
  | refused error => rfl
  | attemptOver verdict => rfl

theorem quiet_actions {more : List Observation}
    (quiet : ∀ observation ∈ more, observation.IsQuiet) :
    more.filter Observation.isAction = more := by
  rw [List.filter_eq_self]
  exact fun observation inside => (quiet observation inside).1

theorem quiet_append {since more : List Observation}
    (last : ∀ extrinsic, .asked (.send extrinsic) ∉ since)
    (quiet : ∀ observation ∈ more, observation.IsQuiet) (extrinsic : Bytes) :
    .asked (.send extrinsic) ∉ since ++ more := by
  intro inside
  rcases List.mem_append.mp inside with before | new
  · exact last extrinsic before
  · exact (quiet _ new).2 extrinsic rfl

theorem Collection.shown_quiet {collection : Collection} {answer : Option Answer}
    {request : Option Request} (extrinsic : Hash)
    (asks : ∀ sent, request ≠ some (.send sent)) :
    ∀ observation ∈ collection.shown extrinsic answer request, observation.IsQuiet := by
  intro observation inside
  rcases List.mem_append.mp inside with heard | asked
  · obtain ⟨pair, -, rfl⟩ := Option.map_eq_some_iff.mp (Option.mem_toList.mp heard)
    exact ⟨rfl, by simp⟩
  · obtain ⟨own, same, rfl⟩ := Option.map_eq_some_iff.mp (Option.mem_toList.mp asked)
    refine ⟨rfl, ?_⟩
    rintro sent equal
    cases equal
    exact asks sent same

namespace Watch

def shown (watch : Watch) (answer : Option Answer) (request : Option Request) :
    List Observation :=
  ((Answer.settled? watch.question? answer).map fun heard =>
      Observation.answered heard.1 heard.2).toList ++
    (watch.notice?.map .took).toList ++ (request.map .asked).toList

def accepted (transaction : SignedTransaction) : List Observation :=
  [.asked (.send transaction.extrinsic),
    .answered (.send transaction.extrinsic) (.sent (.ok ()))]

/-- The search of a watch has got to where its stage says. -/
def Searched (watch : Watch) (lookup : List Observation) : Prop :=
  match watch.stage with
  | .collecting _ block collection => Search block watch.transaction.hash collection lookup
  | _ => lookup = []

/-- What a log says about a watch: its transaction was accepted with nothing sent since, and
since then `fed` went to the tracker and the search began after all of it. -/
structure Recorded (log : List Observation) (watch : Watch) (since front lookup : List Observation)
    (fed : List Status) : Prop where
  sent : ∃ earlier, log = earlier ++ accepted watch.transaction ++ since
  last : ∀ extrinsic, .asked (.send extrinsic) ∉ since
  arrivals : since.filterMap Observation.arrived? = fed.map .status ++ watch.inbox
  actions : since.filter Observation.isAction = front ++ lookup
  takes : front.filterMap Observation.took? = fed.map .status
  tracked : watch.tracker = Tracker.start.feed fed
  searched : watch.Searched lookup

variable {log since front lookup : List Observation} {watch next : Watch} {fed : List Status}

theorem start_recorded (earlier : List Observation) (transaction : SignedTransaction)
    (depth : Depth) :
    Recorded (earlier ++ accepted transaction) (start transaction depth) [] [] [] [] where
  sent := ⟨earlier, by simp [start]⟩
  last := by simp
  arrivals := rfl
  actions := rfl
  takes := rfl
  tracked := rfl
  searched := rfl

theorem Recorded.deliver (recorded : Recorded log watch since front lookup fed)
    (notice : Notice) :
    Recorded (log ++ [.arrived notice]) (watch.deliver notice) (since ++ [.arrived notice]) front
      lookup fed where
  sent := by
    obtain ⟨earlier, whole⟩ := recorded.sent
    exact ⟨earlier, by rw [whole, List.append_assoc]; rfl⟩
  last := by
    intro extrinsic inside
    rcases List.mem_append.mp inside with before | new
    · exact recorded.last extrinsic before
    · simp at new
  arrivals := by
    rw [List.filterMap_append, recorded.arrivals, List.append_assoc]
    rfl
  actions := by
    rw [List.filter_append, recorded.actions]
    simp [Observation.isAction]
  takes := recorded.takes
  tracked := recorded.tracked
  searched := recorded.searched

theorem Recorded.close (recorded : Recorded log watch since front lookup fed) :
    Recorded log watch.close since front lookup fed :=
  ⟨recorded.sent, recorded.last, recorded.arrivals, recorded.actions, recorded.takes,
    recorded.tracked, recorded.searched⟩

/-- A step that shows only quiet actions keeps the record, if what it takes from the inbox goes
to the tracker. -/
theorem Recorded.extend (recorded : Recorded log watch since front lookup fed) (next : Watch)
    (same : next.transaction = watch.transaction) {more : List Observation}
    (quiet : ∀ observation ∈ more, observation.IsQuiet) {newFront newLookup : List Observation}
    {newFed : List Status}
    (inbox : newFed.map .status ++ next.inbox = fed.map .status ++ watch.inbox)
    (actions : newFront ++ newLookup = front ++ lookup ++ more)
    (takes : newFront.filterMap Observation.took? = newFed.map .status)
    (tracked : next.tracker = Tracker.start.feed newFed) (searched : next.Searched newLookup) :
    Recorded (log ++ more) next (since ++ more) newFront newLookup newFed where
  sent := by
    obtain ⟨earlier, whole⟩ := recorded.sent
    exact ⟨earlier, by rw [whole, same, List.append_assoc]⟩
  last := quiet_append recorded.last quiet
  arrivals := by
    rw [List.filterMap_append, quiet_arrivals quiet, recorded.arrivals, inbox, List.append_nil]
  actions := by
    rw [List.filter_append, quiet_actions quiet, recorded.actions, actions]
  takes := takes
  tracked := tracked
  searched := searched

theorem Decides.keeps {request : Option Request}
    (decides : watch.Decides (.goesOn next request)) :
    next.transaction = watch.transaction ∧ next.tracker = watch.tracker ∧
      next.inbox = watch.inbox ∧ next.Searched [] ∧ request = none := by
  cases decides with
  | keepsOn => exact ⟨rfl, rfl, rfl, rfl, rfl⟩
  | fails => exact ⟨rfl, rfl, rfl, rfl, rfl⟩
  | collects => exact ⟨rfl, rfl, rfl, .starts, rfl⟩

theorem collection_sends_nothing {collection following : Collection} {answer : Option Answer}
    {request : Option Request} (advances : collection.advance answer = .goesOn following request)
    (sent : Bytes) : request ≠ some (.send sent) := by
  cases collection with
  | starting block extrinsic =>
      cases advances
      simp
  | locating block =>
      simp only [Collection.advance] at advances
      split at advances <;> cases advances
      simp
  | located block index =>
      cases advances
      simp
  | fetching block index =>
      simp only [Collection.advance] at advances
      split at advances <;> cases advances

theorem shown_collecting {status : Status} {block : Hash} {collection : Collection}
    (stage : watch.stage = .collecting status block collection) (answer : Option Answer)
    (request : Option Request) :
    watch.shown answer request = collection.shown watch.transaction.hash answer request := by
  simp [shown, question?, notice?, stage, Collection.shown]

theorem shown_awaiting (stage : watch.stage = .awaiting) (answer : Option Answer)
    (request : Option Request) :
    watch.shown answer request =
      (watch.inbox.head?.map .took).toList ++ (request.map .asked).toList := by
  simp [shown, question?, notice?, stage, Answer.settled?]

theorem shown_settling {errand following : Errand} {error : Error}
    (stage : watch.stage = .settling errand error) {task : TaskId} {sequencer after : Sequencer}
    {answer : Option Answer} {request : Option Request}
    (moves : errand.Moves task sequencer answer (after, .goesOn following request)) :
    ∀ observation ∈ watch.shown answer request, observation.IsQuiet ∧
      observation.took? = none := by
  have unasked : errand.question? = none := by
    cases moves with
    | arrives position => simp [Errand.question?, position]
    | asks position => simp [Errand.question?, position]
  intro observation inside
  simp only [shown, question?, notice?, stage, unasked, Answer.settled?, Option.map_none,
    Option.toList_none, List.nil_append] at inside
  obtain ⟨own, same, rfl⟩ := Option.map_eq_some_iff.mp (Option.mem_toList.mp inside)
  refine ⟨⟨rfl, ?_⟩, rfl⟩
  rintro sent equal
  cases equal
  cases moves <;> cases same

theorem Recorded.take (recorded : Recorded log watch since front lookup fed)
    (stage : watch.stage = .awaiting) {status : Status} {rest : List Notice}
    (inbox : watch.inbox = .status status :: rest) (answer : Option Answer)
    (transaction : next.transaction = watch.transaction)
    (tracker : next.tracker = (watch.tracker.apply status).1) (queue : next.inbox = rest)
    (begins : next.Searched []) :
    Recorded (log ++ watch.shown answer none) next (since ++ [.took (.status status)])
      (front ++ [.took (.status status)]) [] (fed ++ [status]) := by
  have empty : lookup = [] := by simpa [Searched, stage] using recorded.searched
  have shown : watch.shown answer none = [.took (.status status)] := by
    simp [shown_awaiting stage, inbox]
  rw [shown]
  refine recorded.extend next transaction ?_ ?_ ?_ ?_ ?_ begins
  · simp [Observation.IsQuiet, Observation.isAction]
  · rw [queue, inbox]
    simp
  · simp [empty]
  · rw [List.filterMap_append, recorded.takes]
    simp [Observation.took?]
  · rw [tracker, Tracker.feed_snoc, ← recorded.tracked]

theorem Moves.recorded {task : TaskId} {desk after : Desk} {moment : Moment}
    {request : Option Request}
    (moves : watch.Moves task desk moment (after, .goesOn next request))
    (recorded : Recorded log watch since front lookup fed) :
    ∃ newSince newFront newLookup newFed,
      Recorded (log ++ watch.shown moment.answer request) next newSince newFront newLookup
        newFed := by
  have searched := recorded.searched
  cases moves with
  | takes status rest progress stage inbox decides =>
      obtain ⟨transaction, tracker, queue, begins, rfl⟩ := decides.keeps
      exact ⟨_, _, _, _, recorded.take stage inbox moment.answer transaction tracker queue begins⟩
  | holds status rest stage inbox counts held =>
      exact ⟨_, _, _, _, recorded.take stage inbox moment.answer rfl rfl rfl rfl⟩
  | records status progress stage decides =>
      obtain ⟨transaction, tracker, queue, begins, rfl⟩ := decides.keeps
      have empty : lookup = [] := by simpa [Searched, stage] using searched
      have shown : watch.shown moment.answer none = [] := by
        simp [Watch.shown, question?, notice?, stage, Answer.settled?]
      rw [shown]
      refine ⟨_, front, [], fed, recorded.extend next transaction (by simp) ?_ ?_ recorded.takes
        (tracker.trans recorded.tracked) begins⟩
      · rw [queue]
      · simp [empty]
  | collects status block collection following request stage advances =>
      rw [shown_collecting stage]
      have search : Search block watch.transaction.hash collection lookup := by
        simpa [Searched, stage] using searched
      refine ⟨_, front, _, fed, recorded.extend
        { watch with stage := .collecting status block following } rfl
        (Collection.shown_quiet _ (collection_sends_nothing advances)) rfl ?_ recorded.takes
        recorded.tracked (search.goes_on advances)⟩
      rw [List.append_assoc]
  | resumes status block collection found stage advances overtaken =>
      rw [shown_collecting stage]
      have search : Search block watch.transaction.hash collection lookup := by
        simpa [Searched, stage] using searched
      refine ⟨_, front ++ lookup ++ _, [], fed, recorded.extend
        { watch with stage := .awaiting } rfl (Collection.shown_quiet _ fun sent => by simp) rfl
        (List.append_nil _) ?_ recorded.tracked rfl⟩
      rw [List.append_assoc, List.filterMap_append, (search.ends advances).takes_nothing,
        List.append_nil]
      exact recorded.takes
  | attends errand following error sequencer request stage moves =>
      have quiet := shown_settling stage moves
      have empty : lookup = [] := by simpa [Searched, stage] using searched
      refine ⟨_, front ++ watch.shown moment.answer request, [], fed, recorded.extend
        { watch with stage := .settling following error } rfl
        (fun observation inside => (quiet observation inside).1) rfl ?_ ?_ recorded.tracked rfl⟩
      · simp [empty]
      · have nothing : (watch.shown moment.answer request).filterMap Observation.took? = [] := by
          rw [List.filterMap_eq_nil_iff]
          exact fun observation inside => (quiet observation inside).2
        rw [List.filterMap_append, nothing, List.append_nil]
        exact recorded.takes

end Watch

/-- What a log says about an outcome. The last extrinsic that was sent is that of `transaction`.
Since it was accepted, `fed` and then `left` have arrived, the delivery did what is in `front`,
where it took exactly `fed`, and after that it looked for the events in the outcome's block. -/
structure Justified (log : List Observation) (signer : Signer) (call : EncodedCall) (depth : Depth)
    (outcome : Outcome) (transaction : SignedTransaction) (since front lookup : List Observation)
    (fed : List Status) (left : List Notice) : Prop where
  sent : ∃ earlier, log =
    earlier ++ Watch.accepted transaction ++ since ++ [.attemptOver (.success outcome)]
  last : ∀ extrinsic, .asked (.send extrinsic) ∉ since
  prepared : transaction.IsPrepared signer call
  number : outcome.nonce = transaction.nonce
  hash : outcome.hash = Blake2b.digest256 transaction.extrinsic
  stream : since.filterMap Observation.arrived? = fed.map .status ++ left
  actions : since.filter Observation.isAction = front ++ lookup
  takes : front.filterMap Observation.took? = fed.map .status
  current : (Tracker.start.feed fed).current = some outcome.status
  history : outcome.history = (Tracker.start.feed fed).history
  latest : outcome.history.getLast? = some outcome.status
  deep : depth.isSatisfiedBy outcome.status = true
  included : outcome.status.block? = some outcome.block
  settled : outcome.status = .finalized outcome.block ∨ left = []
  looked : Lookup outcome.block outcome.hash lookup outcome.events
  dispatch : outcome.dispatch = Dispatch.ofEvents outcome.events

namespace Watch

variable {log since front lookup : List Observation} {watch : Watch} {fed : List Status}

theorem settled_of_latest {status : Status} {block : Hash} (included : status.block? = some block)
    (latest : watch.isOvertaken status = false) :
    status = .finalized block ∨ watch.inbox = [] := by
  cases status with
  | finalized final =>
      left
      rw [Option.some.inj included]
  | inBlock other => exact Or.inr (by simpa [isOvertaken, Status.isTerminal] using latest)
  | ready => cases included
  | broadcast => cases included
  | invalid reason => cases included
  | dropped => cases included
  | usurped => cases included
  | retracted => cases included

theorem Moves.justified {task : TaskId} {desk after : Desk} {moment : Moment}
    {outcome : Outcome} (moves : watch.Moves task desk moment (after, .ends (.success outcome)))
    (recorded : Recorded log watch since front lookup fed) (sound : watch.Sound) {signer : Signer}
    {call : EncodedCall} (prepared : watch.transaction.IsPrepared signer call) :
    ∃ newSince newLookup,
      Justified (log ++ watch.shown moment.answer none ++ [.attemptOver (.success outcome)]) signer
        call watch.depth outcome watch.transaction newSince front newLookup fed watch.inbox := by
  cases moves with
  | takes status rest progress stage inbox decides => cases decides
  | records status progress stage decides => cases decides
  | concludes status block collection found stage advances latest =>
      obtain ⟨current, included, deep⟩ := sound.collecting status block collection stage
      have search : Search block watch.transaction.hash collection lookup := by
        simpa [Searched, stage] using recorded.searched
      have quiet : ∀ observation ∈ collection.shown watch.transaction.hash moment.answer none,
          observation.IsQuiet := Collection.shown_quiet _ (by simp)
      obtain ⟨earlier, whole⟩ := recorded.sent
      obtain ⟨channel, same⟩ := prepared
      have reached : (Tracker.start.feed fed).current = some status := by
        rw [← recorded.tracked, current]
      rw [shown_collecting stage]
      refine ⟨since ++ collection.shown watch.transaction.hash moment.answer none,
        lookup ++ collection.shown watch.transaction.hash moment.answer none, ?_⟩
      exact {
        sent := ⟨earlier, by rw [whole]; simp only [List.append_assoc]⟩
        last := quiet_append recorded.last quiet
        prepared := ⟨channel, same⟩
        number := rfl
        hash := (SignedTransaction.prepare_spec same).2.2
        stream := by
          rw [List.filterMap_append, quiet_arrivals quiet, recorded.arrivals, List.append_nil]
        actions := by
          rw [List.filter_append, quiet_actions quiet, recorded.actions, List.append_assoc]
        takes := recorded.takes
        current := reached
        history := congrArg Tracker.history recorded.tracked
        latest := by
          rw [outcome, recorded.tracked, ← Tracker.current_is_last, reached]
        deep := deep
        included := included
        settled := settled_of_latest included latest
        looked := search.ends advances
        dispatch := rfl }

end Watch

namespace Delivery

variable {log : List Observation} {delivery next : Delivery} {task : TaskId} {desk after : Desk}
  {moment : Moment}

/-- The log of a delivery that is not over agrees with its stage. -/
structure Chronicle (log : List Observation) (delivery : Delivery) : Prop where
  sending : ∀ submission transaction, delivery.stage = .submitting submission →
    submission.stage = .sending transaction →
      ∃ earlier, log = earlier ++ [.asked (.send transaction.extrinsic)]
  watching : ∀ watch, delivery.stage = .watching watch →
    ∃ since front lookup fed, watch.Recorded log since front lookup fed

theorem start_chronicle (now : Nat) (settings : Settings) (options : WaitOptions)
    (call : EncodedCall) (signer : Signer) (log : List Observation) :
    Chronicle log (start now settings options call signer) := by
  refine ⟨?_, by simp [start]⟩
  intro submission transaction stage position
  obtain rfl : Submission.start call signer = submission := by simpa [start] using stage
  simp [Submission.start] at position

theorem Chronicle.deliver (chronicle : Chronicle log delivery) {watch : Watch}
    (stage : delivery.stage = .watching watch) (notice : Notice) :
    Chronicle (log ++ [.arrived notice]) (delivery.deliver notice) := by
  have delivered : (delivery.deliver notice).stage = .watching (watch.deliver notice) := by
    simp [Delivery.deliver, stage]
  refine ⟨by simp [delivered], ?_⟩
  intro other same
  obtain rfl : watch.deliver notice = other := by simpa [delivered] using same
  obtain ⟨since, front, lookup, fed, recorded⟩ := chronicle.watching watch stage
  exact ⟨_, _, _, _, recorded.deliver notice⟩

theorem Chronicle.close (chronicle : Chronicle log delivery) : Chronicle log delivery.close := by
  unfold Delivery.close
  split
  next watch stage =>
    refine ⟨by simp, ?_⟩
    intro other same
    obtain rfl : watch.close = other := by simpa using same
    obtain ⟨since, front, lookup, fed, recorded⟩ := chronicle.watching watch stage
    exact ⟨_, _, _, _, recorded.close⟩
  next => exact chronicle

theorem consumed_watching {watch : Watch} (stage : delivery.stage = .watching watch)
    (undisturbed : delivery.interruption? moment = none) (request : Option Request) :
    delivery.consumed moment ++ (request.map .asked).toList =
      watch.shown moment.answer request := by
  simp [consumed, undisturbed, heard?, question?, notice?, refusal?, stage, Watch.shown]

theorem accepted_observations {submission : Submission} {transaction : SignedTransaction}
    (stage : delivery.stage = .submitting submission)
    (position : submission.stage = .sending transaction)
    (undisturbed : delivery.interruption? moment = none)
    (answer : moment.answer = some (.sent (.ok ()))) :
    delivery.observations moment (.goesOn
        { delivery with stage := .watching (Watch.start transaction delivery.depth) } none) =
      [.answered (.send transaction.extrinsic) (.sent (.ok ()))] := by
  rw [observations_of_moving (by simp)]
  simp [consumed, undisturbed, heard?, Answer.settled?, Answer.fits, question?, notice?, refusal?,
    stage, position, Submission.question?, Submission.refusal?, answer, Progress.request?,
    attemptOver?]

theorem FollowsUp.chronicle {now : Nat} {error : Error} {request : Option Request}
    (follows : delivery.FollowsUp now error (.goesOn next request)) (log : List Observation) :
    Chronicle log next := by
  cases follows
  exact ⟨by simp, by simp⟩

theorem Moves.chronicle {request : Option Request}
    (moves : delivery.Moves task desk moment (after, .goesOn next request))
    (chronicle : Chronicle log delivery) :
    Chronicle (log ++ delivery.observations moment (.goesOn next request)) next := by
  cases moves with
  | submits submission following after request stage undisturbed moves =>
      refine ⟨?_, by simp⟩
      intro other transaction same position
      obtain rfl : following = other := by simpa using same
      cases moves with
      | signs nonce transaction waiting prepared =>
          obtain rfl := Submission.Stage.sending.inj position
          rw [observations_of_moving (by simp)]
          refine ⟨log ++ delivery.consumed moment, ?_⟩
          simp [Progress.request?, attemptOver?, stage]
      | attends => cases position
      | reserves => cases position
      | declines => cases position
      | bounces => cases position
      | undoes => cases position
  | isAccepted submission transaction after stage undisturbed moves =>
      refine ⟨by simp, ?_⟩
      intro other same
      obtain rfl : Watch.start transaction delivery.depth = other := by simpa using same
      cases moves with
      | succeeds transaction position answer =>
          obtain ⟨earlier, whole⟩ := chronicle.sending submission transaction stage position
          rw [accepted_observations stage position undisturbed answer, whole, List.append_assoc]
          exact ⟨_, _, _, _, Watch.start_recorded earlier transaction delivery.depth⟩
  | isRefused submission error after progress stage undisturbed moves follows =>
      exact follows.chronicle _
  | watches watch following after request stage undisturbed moves =>
      refine ⟨by simp, ?_⟩
      intro other same
      obtain rfl : following = other := by simpa using same
      obtain ⟨since, front, lookup, fed, recorded⟩ := chronicle.watching watch stage
      have shown : delivery.observations moment
          (.goesOn { delivery with stage := .watching following } request) =
            watch.shown moment.answer request := by
        rw [observations_of_moving (by simp), ← consumed_watching stage undisturbed]
        simp [Progress.request?, attemptOver?, stage]
      rw [shown]
      exact moves.recorded recorded
  | fails watch error after progress stage undisturbed moves follows => exact follows.chronicle _
  | repeats wakeAt error stage awake wanted =>
      refine ⟨?_, by simp⟩
      intro submission transaction same position
      obtain rfl : Submission.start delivery.call delivery.signer = submission := by
        simpa using same
      simp [Submission.start] at position

/-- A delivery that ends with an outcome ends with one that its log justifies. -/
theorem Moves.justified {outcome : Outcome}
    (moves : delivery.Moves task desk moment (after, .ends (.success outcome)))
    (sound : delivery.Sound) (chronicle : Chronicle log delivery) :
    ∃ transaction since front lookup fed left,
      Justified (log ++ delivery.observations moment (.ends (.success outcome))) delivery.signer
        delivery.call delivery.depth outcome transaction since front lookup fed left := by
  cases moves with
  | isRefused submission error after progress stage undisturbed moves follows => cases follows
  | fails watch error after progress stage undisturbed moves follows => cases follows
  | succeeds watch outcome after stage undisturbed moves =>
      obtain ⟨prepared, depth, still⟩ := sound.watching watch stage
      obtain ⟨since, front, lookup, fed, recorded⟩ := chronicle.watching watch stage
      obtain ⟨newSince, newLookup, justified⟩ := moves.justified recorded still prepared
      have shown : delivery.observations moment (.ends (.success outcome)) =
          watch.shown moment.answer none ++ [.attemptOver (.success outcome)] := by
        rw [observations_of_moving (by simp), ← consumed_watching stage undisturbed]
        simp [Progress.request?, attemptOver?, stage]
      rw [shown, ← List.append_assoc, ← depth]
      exact ⟨_, _, _, _, _, _, justified⟩

end Delivery

end LedgerCourier
