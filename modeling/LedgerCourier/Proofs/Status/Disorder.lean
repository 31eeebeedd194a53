import LedgerCourier.Proofs.Status.Replay

/-!
# Reports in disorder

As long as nothing is taken back, reports may come twice, too late, in any order or not at all: the
state in which a tracker ends is read off the reports as a whole. The first terminal one decides,
then the last inclusion, and the two early reports count only where there is neither.
-/

namespace LedgerCourier

set_option autoImplicit false

namespace Status

def isInBlock : Status → Bool
  | .inBlock _ => true
  | _ => false

def isEarly : Status → Bool
  | .ready | .broadcast => true
  | _ => false

/-- The state to which reports lead that take nothing back. -/
def destination (reports : List Status) : Option Status :=
  (reports.find? isTerminal).or ((reports.reverse.find? isInBlock).or
    (if .broadcast ∈ reports then some .broadcast
      else if .ready ∈ reports then some .ready else none))

theorem destination_single {status : Status} (kept : status ≠ .retracted) :
    destination [status] = some status := by
  cases status <;> simp_all [destination, isTerminal, isInBlock]

theorem destination_left {current status : Status} {rest : List Status}
    (comes : MayCome (some current) status) (stays : current ≠ .retracted)
    (kept : status ≠ .retracted) :
    destination (current :: status :: rest) = destination (status :: rest) := by
  obtain ⟨lives, leads⟩ := comes
  cases current with
  | finalized | invalid | dropped | usurped => cases lives
  | retracted => exact absurd rfl stays
  | ready | broadcast | inBlock =>
      cases status <;>
        simp_all [leads_to_iff, isFailure, isOnTheWay, precedes, destination, isTerminal,
          isInBlock, List.find?_cons]

theorem destination_unfit {current status : Status} {rest : List Status}
    (unfit : ¬MayCome (some current) status) (stays : current ≠ .retracted)
    (kept : status ≠ .retracted) :
    destination (current :: status :: rest) = destination (current :: rest) := by
  cases current with
  | finalized | invalid | dropped | usurped => simp [destination, isTerminal, List.find?_cons]
  | retracted => exact absurd rfl stays
  | ready | broadcast | inBlock =>
      cases status <;>
        simp_all [MayCome, leads_to_iff, isFailure, isOnTheWay, precedes, destination, isTerminal,
          isInBlock, List.find?_cons]

theorem find_later {wanted : Status → Bool}
    (never : ∀ status, wanted status = true → status.isEarly = false) (reports : List Status) :
    (reports.filter fun status => !status.isEarly).find? wanted = reports.find? wanted := by
  rw [List.find?_filter]
  congr 1
  funext status
  cases wants : wanted status with
  | false => simp
  | true => simp [never status wants]

/-- Of the early reports it matters only whether they occur. -/
theorem destination_congr {reports others : List Status}
    (later : (others.filter fun status => !status.isEarly) =
      reports.filter fun status => !status.isEarly)
    (ready : .ready ∈ others ↔ .ready ∈ reports)
    (broadcast : .broadcast ∈ others ↔ .broadcast ∈ reports) :
    destination others = destination reports := by
  have terminal : others.find? isTerminal = reports.find? isTerminal := by
    have never : ∀ status, isTerminal status = true → status.isEarly = false := by
      intro status
      cases status <;> simp [isTerminal, isEarly]
    rw [← find_later never others, later, find_later never]
  have included : others.reverse.find? isInBlock = reports.reverse.find? isInBlock := by
    have never : ∀ status, isInBlock status = true → status.isEarly = false := by
      intro status
      cases status <;> simp [isInBlock, isEarly]
    rw [← find_later never others.reverse, List.filter_reverse, later, ← List.filter_reverse,
      find_later never]
  simp only [destination, terminal, included, ready, broadcast]

end Status

namespace Tracker

open Status

/-- Where a tracker stands counts like a report that came before the others. -/
theorem feed_leads_to_destination (reports : List Status) (tracker : Tracker)
    (stays : tracker.current ≠ some .retracted) (kept : .retracted ∉ reports) :
    (tracker.feed reports).current = destination (tracker.current.toList ++ reports) := by
  induction reports generalizing tracker with
  | nil =>
      obtain ⟨current, history⟩ := tracker
      cases current with
      | none => rfl
      | some status => exact (destination_single (by simpa using stays)).symm
  | cons status rest induction =>
      obtain ⟨fits, later⟩ : status ≠ .retracted ∧ .retracted ∉ rest := by
        simpa [eq_comm] using kept
      rw [feed_cons]
      -- Of the state and the report that meets it, only the one that stands afterwards counts.
      by_cases comes : MayCome tracker.current status
      · rw [apply_of_comes comes, induction _ (by simpa using fits) later]
        cases current : tracker.current with
        | none => rfl
        | some standing =>
            rw [current] at comes stays
            exact (destination_left comes (by simpa using stays) fits).symm
      · rw [apply_of_unfit comes, induction tracker stays later]
        cases current : tracker.current with
        | none =>
            rw [current] at comes
            exact absurd fits comes
        | some standing =>
            rw [current] at comes stays
            exact (destination_unfit comes (by simpa using stays) fits).symm

/-- Without retractions a tracker ends at the first terminal report, else at the last inclusion,
else where the early reports lead. Reports that differ only in how often and where the early
ones come lead to the same state. -/
theorem disorder_is_harmless (reports : List Status) (kept : .retracted ∉ reports) :
    (start.feed reports).current = destination reports ∧
    ∀ others : List Status,
      (others.filter fun status => !status.isEarly) =
        (reports.filter fun status => !status.isEarly) →
      (.ready ∈ others ↔ .ready ∈ reports) → (.broadcast ∈ others ↔ .broadcast ∈ reports) →
        (start.feed others).current = (start.feed reports).current := by
  have leads := feed_leads_to_destination reports start (by simp [start]) kept
  refine ⟨leads, ?_⟩
  intro others later ready broadcast
  have still : .retracted ∉ others := by
    intro inside
    have member : .retracted ∈ others.filter fun status => !status.isEarly :=
      List.mem_filter.mpr ⟨inside, rfl⟩
    rw [later] at member
    exact kept (List.mem_of_mem_filter member)
  have also := feed_leads_to_destination others start (by simp [start]) still
  rw [leads, also]
  exact destination_congr later ready broadcast

/-- Two inclusions with the early reports behind them, and the same in order. -/
theorem overtaken_reports_are_harmless :
    let reports : List Status :=
      [.ready, .broadcast, .inBlock (Bytes32.fill 1), .inBlock (Bytes32.fill 2)]
    let others : List Status :=
      [.inBlock (Bytes32.fill 1), .broadcast, .ready, .inBlock (Bytes32.fill 2), .broadcast]
    .retracted ∉ reports ∧
      (start.feed reports).current = some (.inBlock (Bytes32.fill 2)) ∧
      (start.feed others).current = (start.feed reports).current := by
  intro reports others
  have kept : .retracted ∉ reports := by decide
  obtain ⟨leads, alike⟩ := disorder_is_harmless reports kept
  exact ⟨kept, leads, alike others rfl (by decide) (by decide)⟩

end Tracker

end LedgerCourier
