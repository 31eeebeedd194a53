import LedgerCourier.Proofs.Status.Lifecycle

/-!
# Replays and repetitions

What a tracker accepts of the reports that follow depends on the report that it accepted last and
on nothing else. A history is therefore accepted once more as it stands, and a report that
changes nothing can be left out or put in.
-/

namespace LedgerCourier

set_option autoImplicit false

namespace Tracker

instance decidableMayCome (current : Option Status) (status : Status) :
    Decidable (Status.MayCome current status) :=
  decidable_of_iff _ (accepts_iff ⟨current, []⟩ status)

/-- The reports that are accepted from a given state on. -/
def accepted (current : Option Status) : List Status → List Status
  | [] => []
  | status :: rest =>
      if Status.MayCome current status then status :: accepted (some status) rest
      else accepted current rest

theorem apply_of_comes {tracker : Tracker} {status : Status}
    (comes : Status.MayCome tracker.current status) :
    tracker.apply status = (⟨some status, tracker.history ++ [status]⟩,
      if status.isTerminal then .terminal else .advanced) :=
  if_pos ((tracker.accepts_iff status).mpr comes)

theorem apply_of_unfit {tracker : Tracker} {status : Status}
    (unfit : ¬Status.MayCome tracker.current status) :
    tracker.apply status = (tracker, .ignored) :=
  if_neg fun accepts => unfit ((tracker.accepts_iff status).mp accepts)

theorem not_comes_again (status : Status) : ¬Status.MayCome (some status) status := by
  rintro ⟨lives, leads⟩
  exact ((follows_iff lives status).mpr leads).1 rfl

theorem feed_eq (tracker : Tracker) (reports : List Status) :
    tracker.feed reports =
      ⟨(accepted tracker.current reports).getLast?.or tracker.current,
        tracker.history ++ accepted tracker.current reports⟩ := by
  induction reports generalizing tracker with
  | nil => simp [feed, accepted]
  | cons status rest induction =>
      rw [feed_cons, induction]
      by_cases comes : Status.MayCome tracker.current status
      · simp [apply_of_comes comes, accepted, comes, List.getLast?_cons, Option.or_some]
      · simp [apply_of_unfit comes, accepted, comes]

theorem accepted_again (current : Option Status) (reports : List Status) :
    accepted current (accepted current reports) = accepted current reports := by
  induction reports generalizing current with
  | nil => rfl
  | cons status rest induction =>
      by_cases comes : Status.MayCome current status
      · simp [accepted, comes, induction]
      · simp [accepted, comes, induction]

theorem answers_accepted (tracker : Tracker) (reports : List Status) :
    ∀ answer ∈ tracker.answers (accepted tracker.current reports), answer ≠ .ignored := by
  induction reports generalizing tracker with
  | nil => simp [accepted, answers]
  | cons status rest induction =>
      by_cases comes : Status.MayCome tracker.current status
      · have later := induction ⟨some status, tracker.history ++ [status]⟩
        simp only [accepted, comes, if_true, answers, apply_of_comes comes, List.mem_cons]
        rintro answer (rfl | inside)
        · split <;> simp
        · exact later answer inside
      · rw [accepted, if_neg comes]
        exact induction tracker

/-- A report that is repeated at once changes nothing, whether or not it was accepted. -/
theorem apply_again (tracker : Tracker) (status : Status) :
    ((tracker.apply status).1.apply status).1 = (tracker.apply status).1 := by
  by_cases comes : Status.MayCome tracker.current status
  · rw [apply_of_comes comes, apply_of_unfit (not_comes_again status)]
  · rw [apply_of_unfit comes, apply_of_unfit comes]

theorem feed_again {fed : List Status} {status : Status} (last : fed.getLast? = some status) :
    start.feed (fed ++ [status]) = start.feed fed := by
  obtain ⟨earlier, rfl⟩ := List.getLast?_eq_some_iff.mp last
  rw [feed_snoc, feed_snoc, apply_again]

theorem terminal_of_answered {fed : List Status} (answered : .terminal ∈ start.answers fed) :
    (start.feed fed).isTerminal = true := by
  have settled : (start.feed fed).isSettled = true := by
    by_contra open_
    have counted := count_last_answers fed
    rw [if_neg open_, List.count_eq_zero] at counted
    exact counted answered
  rwa [isTerminal, current_is_last]

/-- After `fed`, the second list has the reports of the first and besides them only repetitions
of the report that was just fed and reports that come after an accepted terminal one. -/
inductive Padding : List Status → List Status → List Status → Prop where
  | done (fed : List Status) : Padding fed [] []
  | feeds {fed rest padded : List Status} (status : Status)
      (later : Padding (fed ++ [status]) rest padded) :
      Padding fed (status :: rest) (status :: padded)
  | repeats {fed reports padded : List Status} (status : Status)
      (last : fed.getLast? = some status) (later : Padding (fed ++ [status]) reports padded) :
      Padding fed reports (status :: padded)
  | outlives {fed reports padded : List Status} (status : Status)
      (answered : .terminal ∈ start.answers fed)
      (later : Padding (fed ++ [status]) reports padded) :
      Padding fed reports (status :: padded)

theorem Padding.idle {fed reports padded : List Status} (padding : Padding fed reports padded) :
    (start.feed fed).feed padded = (start.feed fed).feed reports := by
  induction padding with
  | done => rfl
  | feeds status later induction =>
      rw [feed_cons, feed_cons, ← feed_snoc]
      exact induction
  | repeats status last later induction =>
      rw [feed_cons, ← feed_snoc, induction, feed_again last]
  | outlives status answered later induction =>
      rw [feed_cons, ← feed_snoc, induction, feed_snoc,
        apply_of_terminal (terminal_of_answered answered)]

/-- A history is accepted once more as it stands and leads to the same state. Immediate repetitions
and whatever comes after a terminal report change nothing, wherever they are put in. Of the
reports that follow, those are accepted that fit the state which was left. -/
theorem replay_and_repetition_change_nothing (reports : List Status) :
    let tracker := start.feed reports
    (start.feed tracker.history = tracker ∧
      ∀ answer ∈ start.answers tracker.history, answer ≠ .ignored) ∧
    (∀ padded, Padding [] reports padded → start.feed padded = tracker) ∧
    ∀ later, (start.feed (reports ++ later)).history =
      tracker.history ++ accepted tracker.current later := by
  intro tracker
  have history : tracker.history = accepted start.current reports := by
    simp [tracker, feed_eq, start]
  refine ⟨⟨?replayed, ?answered⟩, fun padded padding => padding.idle, ?continued⟩
  case replayed =>
    rw [history, feed_eq, accepted_again, ← feed_eq]
  case answered =>
    rw [history]
    exact answers_accepted start reports
  case continued =>
    intro later
    rw [feed_append, feed_eq]

/-- An inclusion that was taken back, with repetitions of it, of a report that was ignored, and
with reports that come too late. -/
theorem reorganised_history_replays :
    let block := Bytes32.fill 1
    let reports : List Status := [.inBlock block, .ready, .retracted, .inBlock block, .dropped]
    let padded : List Status :=
      [.inBlock block, .ready, .ready, .retracted, .retracted, .inBlock block, .dropped,
        .finalized block]
    Padding [] reports padded ∧ start.feed padded = start.feed reports := by
  intro block reports padded
  have padding : Padding [] reports padded :=
    .feeds _ (.feeds _ (.repeats _ rfl (.feeds _ (.repeats _ rfl (.feeds _ (.feeds _
      (.outlives _ (by decide) (.done _))))))))
  exact ⟨padding, (replay_and_repetition_change_nothing reports).2.1 padded padding⟩

end Tracker

end LedgerCourier
