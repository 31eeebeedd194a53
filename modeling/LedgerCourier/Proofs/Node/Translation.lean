import LedgerCourier.Node.Report
import LedgerCourier.Proofs.Watch.Batches

/-!
# What a node says and what is heard of it

Most of what a node says about an extrinsic stands for a state of the courier's own. The notices
that are made of a node's reports pass over a retraction, and call invalid what was usurped. So a
watch that gets these notices and one that is told the states themselves do not always agree. They
do as long as the node's last word is not that the extrinsic was usurped, and no wait for
inclusion ends while the block that was found last is retracted.
-/

namespace LedgerCourier

set_option autoImplicit false

namespace Tracker

/-- A tracker that has not seen the transaction in a block, or not since it lost one. -/
def IsOutside (tracker : Tracker) : Prop :=
  tracker.current = none ∨ tracker.current = some .ready ∨ tracker.current = some .broadcast ∨
    tracker.current = some .retracted

theorem apply_current (tracker : Tracker) (status : Status) :
    (tracker.apply status).1.current =
      if tracker.accepts status then some status else tracker.current := by
  unfold apply
  split <;> rfl

theorem apply_congr {tracker other : Tracker} (same : tracker.current = other.current)
    (status : Status) : (tracker.apply status).1.current = (other.apply status).1.current := by
  have accepted : tracker.accepts status = other.accepts status := by
    simp only [accepts, isTerminal, same]
  rw [apply_current, apply_current, accepted, same]

theorem apply_last {tracker : Tracker} {status : Status} (lives : tracker.isTerminal = false)
    (terminal : status.isTerminal = true) : (tracker.apply status).1.current = some status := by
  have accepted : tracker.accepts status = true := by
    obtain ⟨current, history⟩ := tracker
    cases current with
    | none =>
        cases status <;>
          simp_all [accepts, isTerminal, Status.isTerminal, follows, Status.rank?]
    | some held =>
        cases held <;> cases status <;>
          simp_all [accepts, isTerminal, Status.isTerminal, follows, Status.rank?]
  rw [apply_current, if_pos accepted]

theorem IsOutside.lives {tracker : Tracker} (outside : tracker.IsOutside) :
    tracker.isTerminal = false := by
  rcases outside with unseen | ready | broadcast | retracted <;>
    simp_all [isTerminal, Status.isTerminal]

theorem apply_found {tracker : Tracker} (place : tracker.IsOutside ∨
      ∃ block, tracker.current = some (.inBlock block)) (block : Hash) :
    (tracker.apply (.inBlock block)).1.current = some (.inBlock block) := by
  rw [apply_current]
  rcases place with (unseen | ready | broadcast | retracted) | ⟨other, found⟩
  · simp [accepts, isTerminal, follows, unseen, Status.rank?]
  · simp [accepts, isTerminal, follows, ready, Status.rank?, Status.isTerminal]
  · simp [accepts, isTerminal, follows, broadcast, Status.rank?, Status.isTerminal]
  · simp [accepts, isTerminal, follows, retracted, Status.rank?, Status.isTerminal]
  · by_cases same : other = block
    · simp [accepts, found, same]
    · simp [accepts, isTerminal, follows, found, same, Status.isTerminal]

theorem IsOutside.apply_waiting {tracker : Tracker} (outside : tracker.IsOutside)
    {status : Status} (waiting : status = .ready ∨ status = .broadcast) :
    (tracker.apply status).1.IsOutside := by
  unfold IsOutside
  rw [apply_current]
  split
  · rcases waiting with rfl | rfl <;> simp
  · exact outside

/-- Who knows of a block does not listen to reports from the pool. -/
theorem apply_waiting_inside {tracker : Tracker} {block : Hash}
    (found : tracker.current = some (.inBlock block)) {status : Status}
    (waiting : status = .ready ∨ status = .broadcast) :
    (tracker.apply status).1.current = some (.inBlock block) := by
  rcases waiting with rfl | rfl <;>
    simp [apply_current, accepts, isTerminal, follows, found, Status.rank?, Status.isTerminal]

theorem IsOutside.apply_retracted {tracker : Tracker} (outside : tracker.IsOutside) :
    (tracker.apply .retracted).1.current = tracker.current := by
  rcases outside with unseen | ready | broadcast | retracted <;>
    simp_all [apply_current, accepts, follows]

theorem apply_retracted_inside {tracker : Tracker} {block : Hash}
    (found : tracker.current = some (.inBlock block)) :
    (tracker.apply .retracted).1.current = some .retracted := by
  simp [apply_current, accepts, isTerminal, follows, found, Status.isTerminal]

end Tracker

namespace Watch

def lastEnding (transaction : SignedTransaction) : Status → Option Ending
  | .finalized block => some (.success (.finalized block) block)
  | .invalid reason => some (.failure (.rejected transaction.nonce transaction.hash reason))
  | .dropped => some (.failure (.dropped transaction.nonce transaction.hash))
  | .usurped => some (.failure (.usurped transaction.nonce transaction.hash))
  | _ => none

theorem last_ending_known (transaction : SignedTransaction) {status : Status}
    (terminal : status.isTerminal = true) :
    ∃ ending, lastEnding transaction status = some ending := by
  cases status with
  | finalized block => exact ⟨_, rfl⟩
  | invalid reason => exact ⟨_, rfl⟩
  | dropped => exact ⟨_, rfl⟩
  | usurped => exact ⟨_, rfl⟩
  | ready => cases terminal
  | broadcast => cases terminal
  | inBlock block => cases terminal
  | retracted => cases terminal

/-- The end that a state brings about while more notices may come. -/
def openEnding (depth : Depth) (current : Option Status) : Option Ending :=
  match depth, current with
  | .inBlock, some (.inBlock block) => some (.success (.inBlock block) block)
  | _, _ => none

variable {transaction : SignedTransaction} {depth : Depth} {closed : Bool} {tracker : Tracker}
  {notices : List Notice}

theorem foreseen_last {status : Status}
    (reached : (tracker.feed (leading notices)).current = some status)
    (terminal : status.isTerminal = true) :
    foreseen transaction depth closed tracker notices = lastEnding transaction status := by
  unfold foreseen
  rw [reached]
  cases status with
  | finalized block => rfl
  | invalid reason => rfl
  | dropped => rfl
  | usurped => rfl
  | ready => cases terminal
  | broadcast => cases terminal
  | inBlock block => cases terminal
  | retracted => cases terminal

theorem foreseen_open (lives : (tracker.feed (leading notices)).isTerminal = false)
    (uninterrupted : interruption? notices = none) :
    foreseen transaction depth false tracker notices =
      openEnding depth (tracker.feed (leading notices)).current := by
  unfold foreseen
  rw [uninterrupted]
  cases current : (tracker.feed (leading notices)).current with
  | none => cases depth <;> rfl
  | some status =>
      cases status <;> cases depth <;>
        simp_all [openEnding, Tracker.isTerminal, Status.isTerminal]

theorem foreseen_lost (lives : tracker.isTerminal = false)
    (waits : openEnding depth tracker.current = none) :
    foreseen transaction depth true tracker [] =
      some (.failure (.subscriptionClosed transaction.nonce transaction.hash)) := by
  unfold foreseen
  simp only [leading, Tracker.feed, List.foldl_nil, interruption?]
  cases current : tracker.current with
  | none => cases depth <;> rfl
  | some status =>
      cases status <;> cases depth <;>
        simp_all [openEnding, Tracker.isTerminal, Status.isTerminal]

inductive Kind where
  | success
  | rejected
  | dropped
  | usurped
  | closed
  | interrupted
deriving DecidableEq

def Ending.kind : Ending → Kind
  | .success _ _ => .success
  | .failure (.rejected _ _ _) => .rejected
  | .failure (.dropped _ _) => .dropped
  | .failure (.usurped _ _) => .usurped
  | .failure (.subscriptionClosed _ _) => .closed
  | .failure _ => .interrupted

end Watch

inductive NodeMessage where
  | ready
  | broadcast
  | inBlock (block : Hash)
  | retracted (block : Hash)
  | finalized (block : Hash)
  | usurped (extrinsic : Hash)
  | dropped
  | invalid
deriving DecidableEq

namespace NodeMessage

open Watch (Batch Ending Course Stand)

def report : NodeMessage → NodeReport
  | .ready => .ready
  | .broadcast => .broadcast
  | .inBlock block => .inBlock block
  | .retracted block => .retracted block
  | .finalized block => .finalized block
  | .usurped extrinsic => .usurped extrinsic
  | .dropped => .dropped
  | .invalid => .invalid

def status : NodeMessage → Status
  | .ready => .ready
  | .broadcast => .broadcast
  | .inBlock block => .inBlock block
  | .retracted _ => .retracted
  | .finalized block => .finalized block
  | .usurped _ => .usurped
  | .dropped => .dropped
  | .invalid => .invalid "Transaction is invalid (eg because of a bad nonce, signature etc)"

def isLast (message : NodeMessage) : Bool := message.report.isLast

def heard (messages : List NodeMessage) : Batch :=
  ⟨(NodeReport.notices (messages.map report)).1, (NodeReport.notices (messages.map report)).2⟩

def told (messages : List NodeMessage) : Batch :=
  ⟨messages.map fun message => .status message.status, false⟩

def stream (translate : List NodeMessage → Batch) (lost : Bool)
    (batches : List (List NodeMessage)) : List Batch :=
  batches.map translate ++ if lost then [⟨[], true⟩] else []

/-- What is known of the block that was found last. -/
inductive Sighting where
  | unseen
  | standing
  /-- The block was retracted, and none was found since. -/
  | retracted
deriving DecidableEq

def Sighting.after : Sighting → NodeMessage → Sighting
  | _, .inBlock _ => .standing
  | .standing, .retracted _ => .retracted
  | sighting, _ => sighting

def isUsurped : NodeMessage → Bool
  | .usurped _ => true
  | _ => false

/-- Nothing that decides is lost between the messages and what is heard of them. -/
def isFaithful (depth : Depth) : Sighting → List (List NodeMessage) → Bool
  | _, [] => true
  | sighting, batch :: batches =>
      match batch.find? isLast with
      | some message => !message.isUsurped
      | none =>
          match depth, batch.foldl Sighting.after sighting with
          | .inBlock, .standing => true
          | .inBlock, .retracted => false
          | _, later => isFaithful depth later batches

/-- How the tracker that hears of the messages relates to the one that is told the states. -/
def Mirrors (hearer : Tracker) : Sighting → Tracker → Prop
  | .unseen, listener => hearer.current = listener.current ∧ listener.IsOutside
  | .standing, listener => hearer.current = listener.current ∧
      ∃ block, listener.current = some (.inBlock block)
  | .retracted, listener => (∃ block, hearer.current = some (.inBlock block)) ∧
      listener.IsOutside

variable {hearer listener : Tracker} {sighting : Sighting}

theorem Mirrors.live (mirrors : Mirrors hearer sighting listener) :
    hearer.isTerminal = false ∧ listener.isTerminal = false := by
  cases sighting with
  | unseen =>
      obtain ⟨same, outside⟩ := mirrors
      have lives := outside.lives
      refine ⟨?_, lives⟩
      rwa [Tracker.isTerminal, same]
  | standing =>
      obtain ⟨same, block, found⟩ := mirrors
      simp [Tracker.isTerminal, same, found, Status.isTerminal]
  | retracted =>
      obtain ⟨⟨block, found⟩, outside⟩ := mirrors
      exact ⟨by simp [Tracker.isTerminal, found, Status.isTerminal], outside.lives⟩

theorem Mirrors.waiting (mirrors : Mirrors hearer sighting listener) {status : Status}
    (waiting : status = .ready ∨ status = .broadcast) :
    Mirrors (hearer.apply status).1 sighting (listener.apply status).1 := by
  cases sighting with
  | unseen => exact ⟨Tracker.apply_congr mirrors.1 status, mirrors.2.apply_waiting waiting⟩
  | standing =>
      obtain ⟨same, block, found⟩ := mirrors
      exact ⟨Tracker.apply_congr same status, block, Tracker.apply_waiting_inside found waiting⟩
  | retracted =>
      obtain ⟨⟨block, found⟩, outside⟩ := mirrors
      exact ⟨⟨block, Tracker.apply_waiting_inside found waiting⟩, outside.apply_waiting waiting⟩

theorem Mirrors.found (mirrors : Mirrors hearer sighting listener) (block : Hash) :
    Mirrors (hearer.apply (.inBlock block)).1 .standing (listener.apply (.inBlock block)).1 := by
  have places : (hearer.IsOutside ∨ ∃ block, hearer.current = some (.inBlock block)) ∧
      (listener.IsOutside ∨ ∃ block, listener.current = some (.inBlock block)) := by
    cases sighting with
    | unseen =>
        obtain ⟨same, outside⟩ := mirrors
        exact ⟨Or.inl (by simpa [Tracker.IsOutside, same] using outside), Or.inl outside⟩
    | standing =>
        obtain ⟨same, block, found⟩ := mirrors
        exact ⟨Or.inr ⟨block, same.trans found⟩, Or.inr ⟨block, found⟩⟩
    | retracted => exact ⟨Or.inr mirrors.1, Or.inl mirrors.2⟩
  have heard := Tracker.apply_found places.1 block
  have told := Tracker.apply_found places.2 block
  exact ⟨heard.trans told.symm, block, told⟩

theorem Mirrors.loses (mirrors : Mirrors hearer sighting listener) (block : Hash) :
    Mirrors hearer (sighting.after (.retracted block)) (listener.apply .retracted).1 := by
  cases sighting with
  | unseen =>
      obtain ⟨same, outside⟩ := mirrors
      have kept := outside.apply_retracted
      exact ⟨same.trans kept.symm, by simpa [Tracker.IsOutside, kept] using outside⟩
  | standing =>
      obtain ⟨same, other, found⟩ := mirrors
      have lost := Tracker.apply_retracted_inside found
      exact ⟨⟨other, same.trans found⟩, by simp [Tracker.IsOutside, lost]⟩
  | retracted =>
      obtain ⟨found, outside⟩ := mirrors
      have kept := outside.apply_retracted
      exact ⟨found, by simpa [Tracker.IsOutside, kept] using outside⟩

def hear (tracker : Tracker) (message : NodeMessage) : Tracker :=
  tracker.feed (Watch.leading message.report.notice?.toList)

theorem Mirrors.after (mirrors : Mirrors hearer sighting listener) {message : NodeMessage}
    (goesOn : message.isLast = false) :
    Mirrors (hear hearer message) (sighting.after message) (listener.apply message.status).1 := by
  cases message with
  | ready =>
      have same : sighting.after .ready = sighting := by cases sighting <;> rfl
      rw [same]
      exact mirrors.waiting (Or.inl rfl)
  | broadcast =>
      have same : sighting.after .broadcast = sighting := by cases sighting <;> rfl
      rw [same]
      exact mirrors.waiting (Or.inr rfl)
  | inBlock block => exact mirrors.found block
  | retracted block => exact mirrors.loses block
  | finalized block => cases goesOn
  | usurped extrinsic => cases goesOn
  | dropped => cases goesOn
  | invalid => cases goesOn

theorem heard_cons (message : NodeMessage) (messages : List NodeMessage) :
    heard (message :: messages) =
      if message.isLast then ⟨message.report.notice?.toList, true⟩
      else ⟨message.report.notice?.toList ++ (heard messages).notices,
        (heard messages).closes⟩ := by
  cases last : message.report.isLast <;> simp [heard, NodeReport.notices, isLast, last]

theorem leading_heard (message : NodeMessage) (notices : List Notice) :
    Watch.leading (message.report.notice?.toList ++ notices) =
        Watch.leading message.report.notice?.toList ++ Watch.leading notices ∧
      Watch.interruption? (message.report.notice?.toList ++ notices) =
        Watch.interruption? notices := by
  cases message <;> exact ⟨rfl, rfl⟩

theorem feed_heard (tracker : Tracker) (message : NodeMessage) (notices : List Notice) :
    tracker.feed (Watch.leading (message.report.notice?.toList ++ notices)) =
      (hear tracker message).feed (Watch.leading notices) := by
  rw [(leading_heard message notices).1, hear]
  simp [Tracker.feed]

theorem leading_told (messages : List NodeMessage) :
    Watch.leading (told messages).notices = messages.map status ∧
      Watch.interruption? (told messages).notices = none := by
  induction messages with
  | nil => exact ⟨rfl, rfl⟩
  | cons message messages induction =>
      obtain ⟨statuses, uninterrupted⟩ := induction
      exact ⟨congrArg (message.status :: ·) statuses, uninterrupted⟩

theorem heard_uninterrupted (messages : List NodeMessage) :
    Watch.interruption? (heard messages).notices = none := by
  induction messages with
  | nil => rfl
  | cons message messages induction =>
      rw [heard_cons]
      split
      · cases message <;> rfl
      · rw [(leading_heard message _).2]
        exact induction

theorem Mirrors.batch {messages : List NodeMessage}
    (mirrors : Mirrors hearer sighting listener) (goesOn : messages.find? isLast = none) :
    Mirrors (hearer.feed (Watch.leading (heard messages).notices))
        (messages.foldl Sighting.after sighting)
        (listener.feed (Watch.leading (told messages).notices)) ∧
      (heard messages).closes = false := by
  induction messages generalizing hearer sighting listener with
  | nil => exact ⟨mirrors, rfl⟩
  | cons message messages induction =>
      obtain ⟨more, rest⟩ : message.isLast = false ∧ messages.find? isLast = none := by
        cases last : message.isLast <;> simp_all
      obtain ⟨later, closes⟩ := induction (mirrors.after more) rest
      rw [heard_cons, if_neg (by simp [more]), feed_heard]
      exact ⟨later, closes⟩

/-- What is heard of a last word. It is what the word stands for, unless the extrinsic was
usurped. -/
theorem last_statuses {message : NodeMessage} (last : message.isLast = true) :
    message.status.isTerminal = true ∧ ∃ status,
      message.report.notice? = some (.status status) ∧ status.isTerminal = true ∧
        (message.isUsurped = false ∧ status = message.status ∨
          message.isUsurped = true ∧ message.status = .usurped ∧
            status = .invalid "Transaction was usurped by another with the same nonce") := by
  cases message with
  | finalized block => exact ⟨rfl, _, rfl, rfl, Or.inl ⟨rfl, rfl⟩⟩
  | usurped extrinsic => exact ⟨rfl, _, rfl, rfl, Or.inr ⟨rfl, rfl, rfl⟩⟩
  | dropped => exact ⟨rfl, _, rfl, rfl, Or.inl ⟨rfl, rfl⟩⟩
  | invalid => exact ⟨rfl, _, rfl, rfl, Or.inl ⟨rfl, rfl⟩⟩
  | ready => cases last
  | broadcast => cases last
  | inBlock block => cases last
  | retracted block => cases last

theorem Mirrors.last_word {messages : List NodeMessage} {message : NodeMessage}
    (mirrors : Mirrors hearer sighting listener)
    (last : messages.find? isLast = some message) :
    (∃ status, message.report.notice? = some (.status status) ∧
        (hearer.feed (Watch.leading (heard messages).notices)).current = some status) ∧
      (listener.feed (Watch.leading (told messages).notices)).current = some message.status := by
  induction messages generalizing hearer sighting listener with
  | nil => cases last
  | cons first messages induction =>
      rw [heard_cons]
      cases known : first.isLast with
      | true =>
          obtain rfl : first = message := by simpa [known] using last
          obtain ⟨terminal, status, notice, final, -⟩ := last_statuses known
          obtain ⟨hears, listens⟩ := mirrors.live
          have told := Tracker.apply_last listens terminal
          have settled : (listener.apply first.status).1.isTerminal = true := by
            simp [Tracker.isTerminal, told, terminal]
          refine ⟨⟨status, notice, ?_⟩, ?_⟩
          · rw [if_pos rfl, notice]
            exact Tracker.apply_last hears final
          · rw [(leading_told _).1, List.map_cons, Tracker.feed_cons,
              Tracker.feed_of_terminal settled]
            exact told
      | false =>
          rw [if_neg (by simp), feed_heard]
          exact induction (mirrors.after known) (by simpa [known] using last)

section Endings

variable {transaction : SignedTransaction} {depth : Depth} {messages : List NodeMessage}

theorem Mirrors.decides {message : NodeMessage} (mirrors : Mirrors hearer sighting listener)
    (transaction : SignedTransaction) (depth : Depth)
    (last : messages.find? isLast = some message) :
    (∃ status, message.report.notice? = some (.status status) ∧
        Watch.foreseen transaction depth (heard messages).closes hearer (heard messages).notices =
          Watch.lastEnding transaction status) ∧
      Watch.foreseen transaction depth (told messages).closes listener (told messages).notices =
        Watch.lastEnding transaction message.status := by
  obtain ⟨terminal, status, notice, final, -⟩ := last_statuses (List.find?_some last)
  obtain ⟨⟨other, same, hears⟩, listens⟩ := mirrors.last_word last
  obtain rfl : other = status := by simpa using same.symm.trans notice
  exact ⟨⟨other, notice, Watch.foreseen_last hears final⟩, Watch.foreseen_last listens terminal⟩

theorem Mirrors.leaves_open (mirrors : Mirrors hearer sighting listener)
    (transaction : SignedTransaction) (depth : Depth)
    (goesOn : messages.find? isLast = none) :
    Watch.foreseen transaction depth (heard messages).closes hearer (heard messages).notices =
        Watch.openEnding depth (hearer.feed (Watch.leading (heard messages).notices)).current ∧
      Watch.foreseen transaction depth (told messages).closes listener (told messages).notices =
        Watch.openEnding depth
          (listener.feed (Watch.leading (told messages).notices)).current := by
  obtain ⟨later, closes⟩ := mirrors.batch goesOn
  obtain ⟨hears, listens⟩ := later.live
  rw [closes]
  exact ⟨Watch.foreseen_open hears (heard_uninterrupted messages),
    Watch.foreseen_open listens (leading_told messages).2⟩

theorem outside_waits {tracker : Tracker} (outside : tracker.IsOutside) (depth : Depth) :
    Watch.openEnding depth tracker.current = none := by
  rcases outside with unseen | ready | broadcast | retracted <;>
    cases depth <;> simp_all [Watch.openEnding]

theorem Mirrors.waits (mirrors : Mirrors hearer sighting listener)
    (unseen : depth = .inBlock → sighting = .unseen) :
    Watch.openEnding depth hearer.current = none ∧
      Watch.openEnding depth listener.current = none := by
  cases depth with
  | finalized => exact ⟨rfl, rfl⟩
  | inBlock =>
      obtain rfl := unseen rfl
      have waits := outside_waits mirrors.2 .inBlock
      exact ⟨by rw [mirrors.1, waits], waits⟩

theorem faithful_last {batches : List (List NodeMessage)} {message : NodeMessage}
    (last : messages.find? isLast = some message) :
    isFaithful depth sighting (messages :: batches) = !message.isUsurped := by
  simp only [isFaithful, last]

theorem faithful_standing {batches : List (List NodeMessage)}
    (goesOn : messages.find? isLast = none)
    (sight : messages.foldl Sighting.after sighting = .standing) :
    isFaithful .inBlock sighting (messages :: batches) = true := by
  simp only [isFaithful, goesOn, sight]

theorem faithful_retracted {batches : List (List NodeMessage)}
    (goesOn : messages.find? isLast = none)
    (sight : messages.foldl Sighting.after sighting = .retracted) :
    isFaithful .inBlock sighting (messages :: batches) = false := by
  simp only [isFaithful, goesOn, sight]

theorem faithful_open {batches : List (List NodeMessage)}
    (goesOn : messages.find? isLast = none)
    (unseen : depth = .inBlock → messages.foldl Sighting.after sighting = .unseen) :
    isFaithful depth sighting (messages :: batches) =
      isFaithful depth (messages.foldl Sighting.after sighting) batches := by
  simp only [isFaithful, goesOn]
  cases depth with
  | finalized => rfl
  | inBlock => rw [unseen rfl]

/-- The two ways in which what is heard leads elsewhere than what the node says. -/
inductive Misheard (transaction : SignedTransaction) :
    Depth → Option Ending → Option Ending → Prop where
  | usurper (depth : Depth) : Misheard transaction depth
      (some (.failure (.rejected transaction.nonce transaction.hash
        "Transaction was usurped by another with the same nonce")))
      (some (.failure (.usurped transaction.nonce transaction.hash)))
  | retraction (block : Hash) : Misheard transaction .inBlock
      (some (.success (.inBlock block) block)) none

theorem Misheard.differ {heardEnd toldEnd : Option Ending}
    (misheard : Misheard transaction depth heardEnd toldEnd) :
    heardEnd.map Ending.kind ≠ toldEnd.map Ending.kind := by
  cases misheard <;> simp [Ending.kind]

/-- What one batch leads to, for who hears of it and who is told. Both come to the same end, both
wait for more, or they part. -/
inductive Judged (transaction : SignedTransaction) (depth : Depth) (hearer listener : Tracker)
    (sighting : Sighting) (messages : List NodeMessage) :
    Option Ending → Option Ending → Prop where
  | ends (ending : Ending)
      (faithful : ∀ batches, isFaithful depth sighting (messages :: batches) = true) :
      Judged transaction depth hearer listener sighting messages (some ending) (some ending)
  | waits
      (mirrors : Mirrors (hearer.feed (Watch.leading (heard messages).notices))
        (messages.foldl Sighting.after sighting)
        (listener.feed (Watch.leading (told messages).notices)))
      (unseen : depth = .inBlock → messages.foldl Sighting.after sighting = .unseen)
      (faithful : ∀ batches, isFaithful depth sighting (messages :: batches) =
        isFaithful depth (messages.foldl Sighting.after sighting) batches) :
      Judged transaction depth hearer listener sighting messages none none
  | differs (heardEnd : Ending) (toldEnd : Option Ending)
      (misheard : Misheard transaction depth (some heardEnd) toldEnd)
      (unfaithful : ∀ batches, isFaithful depth sighting (messages :: batches) = false) :
      Judged transaction depth hearer listener sighting messages (some heardEnd) toldEnd

theorem Mirrors.judged (mirrors : Mirrors hearer sighting listener)
    (transaction : SignedTransaction) (depth : Depth) (messages : List NodeMessage) :
    Judged transaction depth hearer listener sighting messages
      (Watch.foreseen transaction depth (heard messages).closes hearer (heard messages).notices)
      (Watch.foreseen transaction depth (told messages).closes listener
        (told messages).notices) := by
  cases last : messages.find? isLast with
  | some message =>
      obtain ⟨⟨status, notice, hears⟩, listens⟩ := mirrors.decides transaction depth last
      obtain ⟨terminal, other, same, -, meaning⟩ := last_statuses (List.find?_some last)
      obtain rfl : status = other := by simpa using notice.symm.trans same
      rw [hears, listens]
      rcases meaning with ⟨own, rfl⟩ | ⟨own, usurped, rfl⟩
      · obtain ⟨ending, known⟩ := Watch.last_ending_known transaction terminal
        rw [known]
        exact .ends ending fun batches => by rw [faithful_last last, own, Bool.not_false]
      · rw [usurped]
        exact .differs _ _ (.usurper depth)
          fun batches => by rw [faithful_last last, own, Bool.not_true]
  | none =>
      obtain ⟨later, -⟩ := mirrors.batch last
      obtain ⟨hears, listens⟩ := mirrors.leaves_open transaction depth last
      rw [hears, listens]
      by_cases unseen : depth = .inBlock → messages.foldl Sighting.after sighting = .unseen
      · obtain ⟨first, second⟩ := later.waits unseen
        rw [first, second]
        exact .waits later unseen fun batches => faithful_open last unseen
      · obtain ⟨rfl, seen⟩ : depth = .inBlock ∧
            messages.foldl Sighting.after sighting ≠ .unseen := by
          simpa using unseen
        cases sight : messages.foldl Sighting.after sighting with
        | unseen => exact absurd sight seen
        | standing =>
            rw [sight] at later
            obtain ⟨same, block, found⟩ := later
            rw [same, found]
            exact .ends _ fun batches => faithful_standing last sight
        | retracted =>
            rw [sight] at later
            obtain ⟨⟨block, found⟩, outside⟩ := later
            rw [found, outside_waits outside]
            exact .differs _ none (.retraction block) fun batches => faithful_retracted last sight

theorem foreseen_of_cons (translate : List NodeMessage → Batch) (lost : Bool)
    (transaction : SignedTransaction) (depth : Depth) (tracker : Tracker)
    (messages : List NodeMessage) (batches : List (List NodeMessage)) :
    Watch.foreseenOf transaction depth tracker (stream translate lost (messages :: batches)) =
      (Watch.foreseen transaction depth (translate messages).closes tracker
        (translate messages).notices).or
          (Watch.foreseenOf transaction depth
            (tracker.feed (Watch.leading (translate messages).notices))
            (stream translate lost batches)) := by
  simp only [stream, List.map_cons, List.cons_append, Watch.foreseenOf]
  cases Watch.foreseen transaction depth (translate messages).closes tracker
    (translate messages).notices <;> rfl

/-- When all messages have come and both still wait, they learn alike that the connection is
lost. -/
theorem Mirrors.ends_alike (mirrors : Mirrors hearer sighting listener)
    (waits : depth = .inBlock → sighting = .unseen) (transaction : SignedTransaction)
    (lost : Bool) :
    Watch.foreseenOf transaction depth hearer (stream heard lost []) =
      Watch.foreseenOf transaction depth listener (stream told lost []) := by
  obtain ⟨hears, listens⟩ := mirrors.live
  obtain ⟨first, second⟩ := mirrors.waits waits
  cases lost with
  | false => rfl
  | true =>
      simp [stream, Watch.foreseenOf, Watch.foreseen_lost hears first,
        Watch.foreseen_lost listens second]

/-- As long as nothing is lost that decides, the ends are the same. -/
theorem foreseen_agree {batches : List (List NodeMessage)}
    (faithful : isFaithful depth sighting batches = true)
    (mirrors : Mirrors hearer sighting listener)
    (waits : depth = .inBlock → sighting = .unseen) (transaction : SignedTransaction)
    (count : Nat) (lost : Bool) :
    Watch.foreseenOf transaction depth hearer (stream heard lost (batches.take count)) =
      Watch.foreseenOf transaction depth listener (stream told lost (batches.take count)) := by
  induction batches generalizing hearer sighting listener count with
  | nil =>
      rw [List.take_nil]
      exact mirrors.ends_alike waits transaction lost
  | cons messages batches induction =>
      cases count with
      | zero => exact mirrors.ends_alike waits transaction lost
      | succ count =>
          have judged := mirrors.judged transaction depth messages
          rw [List.take_succ_cons, foreseen_of_cons, foreseen_of_cons]
          generalize Watch.foreseen transaction depth (heard messages).closes hearer
            (heard messages).notices = heardEnd at judged ⊢
          generalize Watch.foreseen transaction depth (told messages).closes listener
            (told messages).notices = toldEnd at judged ⊢
          cases judged with
          | ends ending => rfl
          | waits later unseen same =>
              rw [same] at faithful
              exact induction faithful later unseen count
          | differs heardEnd toldEnd misheard unfaithful =>
              cases faithful.symm.trans (unfaithful batches)

theorem foreseen_misheard {batches : List (List NodeMessage)}
    (unfaithful : isFaithful depth sighting batches = false)
    (mirrors : Mirrors hearer sighting listener) (transaction : SignedTransaction) :
    ∃ count, Misheard transaction depth
      (Watch.foreseenOf transaction depth hearer (stream heard false (batches.take count)))
      (Watch.foreseenOf transaction depth listener (stream told false (batches.take count))) := by
  induction batches generalizing hearer sighting listener with
  | nil => cases unfaithful
  | cons messages batches induction =>
      have judged := mirrors.judged transaction depth messages
      generalize hears : Watch.foreseen transaction depth (heard messages).closes hearer
        (heard messages).notices = heardEnd at judged
      generalize listens : Watch.foreseen transaction depth (told messages).closes listener
        (told messages).notices = toldEnd at judged
      cases judged with
      | ends ending faithful => cases unfaithful.symm.trans (faithful batches)
      | waits later unseen same =>
          rw [same] at unfaithful
          obtain ⟨count, misheard⟩ := induction unfaithful later
          refine ⟨count + 1, ?_⟩
          rw [List.take_succ_cons, foreseen_of_cons, foreseen_of_cons, hears, listens]
          exact misheard
      | differs heardEnd toldEnd misheard =>
          refine ⟨1, ?_⟩
          rw [List.take_succ_cons, foreseen_of_cons, foreseen_of_cons, hears, listens]
          cases toldEnd with
          | some ending => exact misheard
          | none => exact misheard

end Endings

/-- A watch that hears of the messages and one that is told the states both come to rest, and
however they do, they come to results of one kind and leave the same numbers. -/
structure Agrees (task : TaskId) (desk : Desk) (transaction : SignedTransaction) (depth : Depth)
    (lost : Bool) (batches : List (List NodeMessage)) : Prop where
  hears : ∃ after stand, Course task desk (Watch.start transaction depth)
    (stream heard lost batches) after stand
  listens : ∃ after stand, Course task desk (Watch.start transaction depth)
    (stream told lost batches) after stand
  same : ∀ heardAfter heardStand toldAfter toldStand,
    Course task desk (Watch.start transaction depth) (stream heard lost batches) heardAfter
        heardStand →
      Course task desk (Watch.start transaction depth) (stream told lost batches) toldAfter
          toldStand →
        heardStand.ending?.map Ending.kind = toldStand.ending?.map Ending.kind ∧
          ∀ account, heardAfter.sequencer.allocator account =
            toldAfter.sequencer.allocator account

section Agreement

variable {task : TaskId} {desk : Desk} {transaction : SignedTransaction} {depth : Depth}
  {lost : Bool} {batches : List (List NodeMessage)}

theorem foretold {after : Desk} {stand : Stand} {arriving : List Batch}
    (course : Course task desk (Watch.start transaction depth) arriving after stand) :
    stand.ending? = Watch.foreseenOf transaction depth Tracker.start arriving ∧
      ∀ account, after.sequencer.allocator account =
        Watch.settled transaction stand.ending? account (desk.sequencer.allocator account) :=
  course.as_foretold (Watch.start_coherent transaction depth) (Watch.start_idle transaction depth)

theorem agrees_of_foreseen (free : (desk.sequencer.counter transaction.origin).line = [])
    (same : Watch.foreseenOf transaction depth Tracker.start (stream heard lost batches) =
      Watch.foreseenOf transaction depth Tracker.start (stream told lost batches)) :
    Agrees task desk transaction depth lost batches := by
  have runs : ∀ arriving, ∃ after stand,
      Course task desk (Watch.start transaction depth) arriving after stand :=
    (Watch.start_idle transaction depth).can_run (Watch.start_coherent transaction depth) free
  refine ⟨runs _, runs _, ?_⟩
  intro heardAfter heardStand toldAfter toldStand hears listens
  obtain ⟨heardEnd, heardNumbers⟩ := foretold hears
  obtain ⟨toldEnd, toldNumbers⟩ := foretold listens
  have ends : heardStand.ending? = toldStand.ending? := by rw [heardEnd, toldEnd, same]
  refine ⟨congrArg (Option.map Ending.kind) ends, ?_⟩
  intro account
  rw [heardNumbers account, toldNumbers account, ends]

theorem Agrees.foreseen (agrees : Agrees task desk transaction depth lost batches) :
    (Watch.foreseenOf transaction depth Tracker.start (stream heard lost batches)).map
        Ending.kind =
      (Watch.foreseenOf transaction depth Tracker.start (stream told lost batches)).map
        Ending.kind := by
  obtain ⟨heardAfter, heardStand, hears⟩ := agrees.hears
  obtain ⟨toldAfter, toldStand, listens⟩ := agrees.listens
  rw [← (foretold hears).1, ← (foretold listens).1]
  exact (agrees.same _ _ _ _ hears listens).1

theorem start_mirrors : Mirrors Tracker.start .unseen Tracker.start := ⟨rfl, Or.inl rfl⟩

/-- What is heard of a node's messages and what they say lead to the same results and the same
numbers, after each batch and whether or not the connection is lost then, exactly if nothing is
lost that decides: the node's last word is not that the extrinsic was usurped, and no wait for
inclusion comes to rest while the block that was found last is retracted. -/
theorem agree_iff_faithful (task : TaskId) (desk : Desk) (transaction : SignedTransaction)
    (depth : Depth) (free : (desk.sequencer.counter transaction.origin).line = [])
    (batches : List (List NodeMessage)) :
    (∀ count lost, Agrees task desk transaction depth lost (batches.take count)) ↔
      isFaithful depth .unseen batches = true := by
  constructor
  · intro agree
    by_contra lossy
    obtain ⟨count, misheard⟩ := foreseen_misheard
      (Bool.eq_false_iff.mpr lossy) start_mirrors transaction
    exact misheard.differ (agree count false).foreseen
  · intro faithful count lost
    exact agrees_of_foreseen free
      (foreseen_agree faithful start_mirrors (fun _ => rfl) transaction count lost)

/-- What goes wrong otherwise. After some batch, a number that another extrinsic has used is given
back, or a wait for inclusion succeeds at a block that was retracted before. -/
theorem unfaithful_is_misheard (task : TaskId) (desk : Desk) (transaction : SignedTransaction)
    (depth : Depth) (unfaithful : isFaithful depth .unseen batches = false) :
    ∃ count, ∀ heardAfter heardStand toldAfter toldStand,
      Course task desk (Watch.start transaction depth)
          (stream heard false (batches.take count)) heardAfter heardStand →
        Course task desk (Watch.start transaction depth)
            (stream told false (batches.take count)) toldAfter toldStand →
          Misheard transaction depth heardStand.ending? toldStand.ending? ∧
            heardAfter.sequencer.allocator transaction.origin =
              (if heardStand.ending?.map Ending.kind = some .rejected
                then (desk.sequencer.allocator transaction.origin).giveBack transaction.nonce
                else desk.sequencer.allocator transaction.origin) ∧
            toldAfter.sequencer.allocator transaction.origin =
              desk.sequencer.allocator transaction.origin := by
  obtain ⟨count, misheard⟩ := foreseen_misheard unfaithful start_mirrors transaction
  refine ⟨count, ?_⟩
  intro heardAfter heardStand toldAfter toldStand hears listens
  obtain ⟨heardEnd, heardNumbers⟩ := foretold hears
  obtain ⟨toldEnd, toldNumbers⟩ := foretold listens
  rw [← heardEnd, ← toldEnd] at misheard
  refine ⟨misheard, ?_⟩
  rw [heardNumbers, toldNumbers]
  have fresh : Stale.isStale "Transaction was usurped by another with the same nonce" = false := by
    decide
  generalize heardStand.ending? = first at misheard
  generalize toldStand.ending? = second at misheard
  cases misheard with
  | usurper => simp [Watch.settled, Ending.settle, Ending.kind, fresh]
  | retraction block => simp [Watch.settled, Ending.settle, Ending.kind]

/-- A wait for finality gets over a block that was retracted. -/
theorem reorganised_wait_agrees :
    Agrees 0 (Desk.start 1)
      ⟨⟨"lock", [], []⟩, 5, Bytes32.fill 1, .sr25519 [], [], Bytes32.fill 7⟩ .finalized true
      [[.ready, .inBlock (Bytes32.fill 2), .retracted (Bytes32.fill 2)],
        [.inBlock (Bytes32.fill 3)], [.finalized (Bytes32.fill 3)]] :=
  (agree_iff_faithful 0 (Desk.start 1)
    ⟨⟨"lock", [], []⟩, 5, Bytes32.fill 1, .sr25519 [], [], Bytes32.fill 7⟩ .finalized rfl
    [[.ready, .inBlock (Bytes32.fill 2), .retracted (Bytes32.fill 2)],
      [.inBlock (Bytes32.fill 3)], [.finalized (Bytes32.fill 3)]]).mpr (by decide) 3 true

/-- A wait for inclusion passes over a retraction that has already come, and an extrinsic that was
usurped is taken for an invalid one. -/
theorem retraction_and_usurper_misheard :
    (¬Agrees 0 (Desk.start 1)
        ⟨⟨"lock", [], []⟩, 5, Bytes32.fill 1, .sr25519 [], [], Bytes32.fill 7⟩ .inBlock true
        [[.ready, .inBlock (Bytes32.fill 2), .retracted (Bytes32.fill 2)]]) ∧
      ¬Agrees 0 (Desk.start 1)
        ⟨⟨"lock", [], []⟩, 5, Bytes32.fill 1, .sr25519 [], [], Bytes32.fill 7⟩ .inBlock true
        [[.ready, .usurped (Bytes32.fill 9)]] := by
  constructor
  · intro agrees
    exact absurd agrees.foreseen (by decide)
  · intro agrees
    exact absurd agrees.foreseen (by decide)

end Agreement

end NodeMessage

end LedgerCourier
