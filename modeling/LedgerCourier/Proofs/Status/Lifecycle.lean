import LedgerCourier.Status.Tracker
import Mathlib.Data.List.Chain
import Mathlib.Data.List.Induction

/-!
# The lifecycle of a transaction

Whatever a tracker is fed, the reports that it accepts make up a lifecycle: none of them is a
retraction of nothing, each leads to the next, and nothing follows a terminal one. What a tracker
accepts depends only on the report that it accepted last, so the lifecycle grows by one report at
a time.
-/

namespace LedgerCourier

set_option autoImplicit false

namespace Status

def isFailure : Status → Bool
  | .invalid _ | .dropped | .usurped => true
  | _ => false

def isOnTheWay : Status → Bool
  | .ready | .broadcast | .inBlock _ | .finalized _ => true
  | _ => false

def precedes : Status → Status → Bool
  | .ready, .broadcast | .ready, .inBlock _ | .ready, .finalized _
  | .broadcast, .inBlock _ | .broadcast, .finalized _ | .inBlock _, .finalized _ => true
  | _, _ => false

/-- How a state may follow another one. -/
@[mk_iff leads_to_iff]
inductive LeadsTo : Status → Status → Prop where
  | loses (block : Hash) : LeadsTo (.inBlock block) .retracted
  | fails {before failure : Status} (failed : failure.isFailure = true) : LeadsTo before failure
  | moves {old new : Hash} (elsewhere : old ≠ new) : LeadsTo (.inBlock old) (.inBlock new)
  | returns {status : Status} (onTheWay : status.isOnTheWay = true) : LeadsTo .retracted status
  | proceeds {before later : Status} (earlier : before.precedes later = true) :
      LeadsTo before later

/-- What a transaction may go through, from the first report to the last. -/
structure IsLifecycle (history : List Status) : Prop where
  begins : history.head? ≠ some .retracted
  leads : history.IsChain LeadsTo
  lives : ∀ status ∈ history.dropLast, status.isTerminal = false

def MayCome : Option Status → Status → Prop
  | none, status => status ≠ .retracted
  | some last, status => last.isTerminal = false ∧ last.LeadsTo status

theorem IsLifecycle.nil : IsLifecycle [] := ⟨by simp, .nil, by simp⟩

theorem IsLifecycle.snoc {history : List Status} (lifecycle : IsLifecycle history)
    {status : Status} (comes : MayCome history.getLast? status) :
    IsLifecycle (history ++ [status]) := by
  cases history using List.reverseRecOn with
  | nil => exact ⟨by simpa [MayCome] using comes, .singleton status, by simp⟩
  | append_singleton earlier last =>
      obtain ⟨open_, leads⟩ : last.isTerminal = false ∧ last.LeadsTo status := by
        simpa [MayCome] using comes
      refine ⟨?_, ?_, ?_⟩
      · have begins := lifecycle.begins
        rwa [List.head?_append_of_ne_nil _ (by simp)]
      · exact List.isChain_append.mpr ⟨lifecycle.leads, .singleton status, by simpa using leads⟩
      · intro other inside
        rw [List.dropLast_concat, List.mem_append, List.mem_singleton] at inside
        rcases inside with before | rfl
        · exact lifecycle.lives other (by simpa using before)
        · exact open_

end Status

namespace Tracker

def isSettled (tracker : Tracker) : Bool := tracker.history.getLast?.any Status.isTerminal

def answers (tracker : Tracker) : List Status → List Applied
  | [] => []
  | status :: rest => (tracker.apply status).2 :: (tracker.apply status).1.answers rest

theorem feed_cons (tracker : Tracker) (status : Status) (rest : List Status) :
    tracker.feed (status :: rest) = (tracker.apply status).1.feed rest := rfl

theorem feed_append (tracker : Tracker) (before after : List Status) :
    tracker.feed (before ++ after) = (tracker.feed before).feed after := by
  simp [feed]

theorem feed_snoc (tracker : Tracker) (statuses : List Status) (status : Status) :
    tracker.feed (statuses ++ [status]) = ((tracker.feed statuses).apply status).1 := by
  simp [feed]

theorem answers_snoc (tracker : Tracker) (statuses : List Status) (status : Status) :
    tracker.answers (statuses ++ [status]) =
      tracker.answers statuses ++ [((tracker.feed statuses).apply status).2] := by
  induction statuses generalizing tracker with
  | nil => rfl
  | cons first rest induction => simp [answers, feed_cons, induction]

theorem apply_of_terminal {tracker : Tracker} (terminal : tracker.isTerminal = true)
    (status : Status) : tracker.apply status = (tracker, .ignored) := by
  simp [apply, accepts, terminal]

theorem feed_of_terminal {tracker : Tracker} (terminal : tracker.isTerminal = true)
    (statuses : List Status) : tracker.feed statuses = tracker := by
  induction statuses with
  | nil => rfl
  | cons status rest induction =>
      rw [feed_cons, apply_of_terminal terminal]
      exact induction

theorem follows_iff {last : Status} (lives : last.isTerminal = false) (status : Status) :
    last ≠ status ∧ follows (some last) status = true ↔ last.LeadsTo status := by
  cases last with
  | finalized | invalid | dropped | usurped => cases lives
  | ready | broadcast | inBlock | retracted =>
      cases status <;>
        simp [follows, Status.rank?, Status.leads_to_iff, Status.isFailure, Status.isOnTheWay,
          Status.precedes]

theorem accepts_iff (tracker : Tracker) (status : Status) :
    tracker.accepts status = true ↔ Status.MayCome tracker.current status := by
  obtain ⟨current, history⟩ := tracker
  cases current with
  | none => cases status <;> simp [accepts, isTerminal, follows, Status.MayCome, Status.rank?]
  | some last =>
      have spread : accepts ⟨some last, history⟩ status = true ↔
          last.isTerminal = false ∧ last ≠ status ∧ follows (some last) status = true := by
        simp [accepts, isTerminal, and_assoc]
      rw [spread]
      exact and_congr_right fun lives => follows_iff lives status

inductive Applies (tracker : Tracker) (status : Status) : Tracker × Applied → Prop where
  | accepted (comes : Status.MayCome tracker.current status) (answer : Applied)
      (last : answer = .terminal ↔ status.isTerminal = true) (told : answer ≠ .ignored) :
      Applies tracker status (⟨some status, tracker.history ++ [status]⟩, answer)
  | ignored (unfit : ¬Status.MayCome tracker.current status) :
      Applies tracker status (tracker, .ignored)

theorem apply_applies (tracker : Tracker) (status : Status) :
    tracker.Applies status (tracker.apply status) := by
  unfold apply
  split
  next accepted =>
    refine .accepted ((tracker.accepts_iff status).mp accepted) _ ?_ ?_
    · cases status.isTerminal <;> simp
    · cases status.isTerminal <;> simp
  next refused => exact .ignored fun comes => refused ((tracker.accepts_iff status).mpr comes)

theorem current_is_last (statuses : List Status) :
    (start.feed statuses).current = (start.feed statuses).history.getLast? := by
  induction statuses using List.reverseRecOn with
  | nil => rfl
  | append_singleton statuses status induction =>
      have applies := (start.feed statuses).apply_applies status
      rw [feed_snoc]
      generalize (start.feed statuses).apply status = step at applies
      cases applies with
      | accepted comes answer last told => simp
      | ignored => exact induction

theorem history_is_lifecycle (statuses : List Status) :
    Status.IsLifecycle (start.feed statuses).history := by
  induction statuses using List.reverseRecOn with
  | nil => exact .nil
  | append_singleton statuses status induction =>
      have current := current_is_last statuses
      have applies := (start.feed statuses).apply_applies status
      rw [feed_snoc]
      generalize (start.feed statuses).apply status = step at applies
      cases applies with
      | accepted comes answer last told => exact induction.snoc (current ▸ comes)
      | ignored => exact induction

theorem unsettled_of_comes {statuses : List Status} {status : Status}
    (comes : Status.MayCome (start.feed statuses).current status) :
    (start.feed statuses).isSettled = false := by
  rw [isSettled, ← current_is_last]
  cases found : (start.feed statuses).current with
  | none => rfl
  | some last =>
      rw [found] at comes
      exact comes.1

/-- The answer to the next report says what the report does to the history. -/
structure Answers (tracker : Tracker) (status : Status) : Prop where
  last : (tracker.apply status).2 = .terminal ↔
    tracker.isSettled = false ∧ (tracker.apply status).1.isSettled = true
  grows : (tracker.apply status).2 = .advanced ∨ (tracker.apply status).2 = .terminal ↔
    (tracker.apply status).1.history = tracker.history ++ [status]
  rests : (tracker.apply status).2 = .ignored → (tracker.apply status).1 = tracker

theorem next_answer (statuses : List Status) (status : Status) :
    (start.feed statuses).Answers status := by
  have applies := (start.feed statuses).apply_applies status
  generalize step : (start.feed statuses).apply status = after at applies
  cases applies with
  | accepted comes answer last told =>
      have lives := unsettled_of_comes comes
      constructor
      · rw [step, lives, last]
        simp [isSettled]
      · cases answer <;> simp_all
      · simp [step, told]
  | ignored unfit => constructor <;> simp [step]

theorem count_last_answers (statuses : List Status) :
    (start.answers statuses).count .terminal =
      if (start.feed statuses).isSettled then 1 else 0 := by
  induction statuses using List.reverseRecOn with
  | nil => rfl
  | append_singleton statuses status induction =>
      have applies := (start.feed statuses).apply_applies status
      rw [answers_snoc, List.count_append, induction, feed_snoc]
      generalize (start.feed statuses).apply status = step at applies
      cases applies with
      | accepted comes answer last told =>
          have ends : isSettled ⟨some status, (start.feed statuses).history ++ [status]⟩ =
              status.isTerminal := by simp [isSettled]
          rw [unsettled_of_comes comes, ends]
          simp [List.count_singleton, last]
      | ignored unfit => simp

/-- Whatever a tracker is fed, its history is a lifecycle that ends at the current state, and each
answer says what the report has done to the history. -/
theorem every_run_is_lifecycle (statuses : List Status) :
    let tracker := start.feed statuses
    tracker.current = tracker.history.getLast? ∧
      Status.IsLifecycle tracker.history ∧
      (start.answers statuses).count .terminal = (if tracker.isSettled then 1 else 0) ∧
      ∀ status, tracker.Answers status :=
  ⟨current_is_last statuses, history_is_lifecycle statuses, count_last_answers statuses,
    next_answer statuses⟩

/-- An inclusion is taken back, and another one becomes final. -/
theorem retraction_is_lived_through :
    let reports : List Status := [.ready, .inBlock (Bytes32.fill 2), .inBlock (Bytes32.fill 2),
      .broadcast, .retracted, .inBlock (Bytes32.fill 3), .finalized (Bytes32.fill 3), .dropped]
    let tracker := start.feed reports
    start.answers reports = [.advanced, .advanced, .ignored, .ignored, .advanced, .advanced,
        .terminal, .ignored] ∧
      tracker.history = [.ready, .inBlock (Bytes32.fill 2), .retracted,
        .inBlock (Bytes32.fill 3), .finalized (Bytes32.fill 3)] ∧
      tracker.current = tracker.history.getLast? ∧ Status.IsLifecycle tracker.history := by
  intro reports tracker
  obtain ⟨current, lifecycle, -⟩ := every_run_is_lifecycle reports
  exact ⟨by decide, by decide, current, lifecycle⟩

end Tracker

end LedgerCourier
