import LedgerCourier.Proofs.Desk.Pursuit
import LedgerCourier.Proofs.History.Room

/-!
# The register of submissions

The register is kept from what is seen of the calls alone. It numbers the extrinsics that the
ledger accepted, gives each its own tracker, and notes which reports that tracker accepts. Of each
call it remembers the latest submission, whose reports come after those of all earlier ones.
-/

namespace LedgerCourier

set_option autoImplicit false

structure Submitted where
  number : Nat
  task : TaskId
  hash : Hash
deriving DecidableEq

/-- A report that the tracker of a submission has accepted. -/
structure Entry where
  submission : Submitted
  status : Status

structure Register where
  submissions : List Submitted
  /-- The latest submission of each call, with its tracker. -/
  present : TaskId → Option (Submitted × Tracker)
  entries : List Entry

namespace Register

def blank : Register := ⟨[], fun _ => none, []⟩

def coming (register : Register) (task : TaskId) (extrinsic : Bytes) : Submitted :=
  ⟨register.submissions.length, task, Blake2b.digest256 extrinsic⟩

def submit (register : Register) (task : TaskId) (extrinsic : Bytes) : Register :=
  { register with
    submissions := register.submissions ++ [register.coming task extrinsic]
    present := Function.update register.present task
      (some (register.coming task extrinsic, Tracker.start)) }

/-- A report is put to the tracker of the latest submission, and is noted if that accepts it. -/
def hear (register : Register) (task : TaskId) (status : Status) : Register :=
  match register.present task with
  | none => register
  | some (own, tracker) =>
      { register with
        present := Function.update register.present task (some (own, (tracker.apply status).1))
        entries := register.entries ++
          if (tracker.apply status).2 = .ignored then [] else [⟨own, status⟩] }

def note (task : TaskId) (register : Register) : Sign → Register
  | .accepted extrinsic => register.submit task extrinsic
  | .report status => register.hear task status
  | .ended => register

def acceptedOf (register : Register) (own : Submitted) : List Status :=
  (register.entries.filter fun entry => entry.submission = own).map Entry.status

/-- Those that the trackers of all other submissions of the same transaction have accepted. -/
def acceptedElsewhere (register : Register) (own : Submitted) : List Status :=
  (register.entries.filter fun entry =>
    entry.submission.hash = own.hash ∧ entry.submission ≠ own).map Entry.status

def records (register : Register) : List (Hash × Status) :=
  register.entries.map fun entry => (entry.submission.hash, entry.status)

def latest? (register : Register) (task : TaskId) : Option Submitted :=
  (register.submissions.filter fun submission => submission.task = task).getLast?

/-- What the register says about the latest submission of a call. -/
structure IsPresent (register : Register) (task : TaskId) (own : Submitted) (tracker : Tracker) :
    Prop where
  latest : register.latest? task = some own
  fed : ∃ reports, tracker = Tracker.start.feed reports
  accepted : register.acceptedOf own = tracker.history
  last : register.entries.filter (fun entry => entry.submission.task = task) =
    register.entries.filter (fun entry => entry.submission.task = task ∧ entry.submission ≠ own) ++
      register.entries.filter fun entry => entry.submission = own

structure Sound (register : Register) : Prop where
  numbered : register.submissions.map Submitted.number =
    List.range register.submissions.length
  known : ∀ entry ∈ register.entries, entry.submission ∈ register.submissions
  present : ∀ task own tracker, register.present task = some (own, tracker) →
    register.IsPresent task own tracker

variable {register : Register} {task : TaskId} {own : Submitted} {tracker : Tracker}

theorem latest_task (latest : register.latest? task = some own) :
    own ∈ register.submissions ∧ own.task = task := by
  simpa using List.mem_filter.mp (List.mem_of_getLast? latest)

theorem blank_sound : blank.Sound := by
  constructor <;> simp [blank]

theorem Sound.unknown_coming (sound : register.Sound) (task : TaskId) (extrinsic : Bytes) :
    ∀ entry ∈ register.entries, entry.submission ≠ register.coming task extrinsic := by
  intro entry inside same
  have numbered := List.mem_map_of_mem (f := Submitted.number) (sound.known entry inside)
  rw [sound.numbered, same] at numbered
  exact List.not_mem_range_self numbered

theorem Sound.submit (sound : register.Sound) (task : TaskId) (extrinsic : Bytes) :
    (register.submit task extrinsic).Sound := by
  have unknown := sound.unknown_coming task extrinsic
  refine ⟨?_, ?_, ?_⟩
  · simp [Register.submit, sound.numbered, List.range_succ, coming]
  · exact fun entry inside => List.mem_append_left _ (sound.known entry inside)
  · intro other own tracker found
    by_cases same : other = task
    · subst same
      obtain ⟨rfl, rfl⟩ : register.coming other extrinsic = own ∧ Tracker.start = tracker := by
        simpa [Register.submit] using found
      have nothing : (register.entries.filter fun entry =>
          entry.submission = register.coming other extrinsic) = [] :=
        List.filter_eq_nil_iff.mpr fun entry inside => by simpa using unknown entry inside
      have others : (register.entries.filter fun entry => entry.submission.task = other) =
          register.entries.filter fun entry => entry.submission.task = other ∧
            entry.submission ≠ register.coming other extrinsic :=
        List.filter_congr fun entry inside => by simp [unknown entry inside]
      refine ⟨?_, ⟨[], rfl⟩, ?_, ?_⟩
      · simp [latest?, Register.submit, coming]
      · exact congrArg (List.map Entry.status) nothing
      · rw [Register.submit, nothing, List.append_nil]
        exact others
    · have before : register.present other = some (own, tracker) := by
        simpa [Register.submit, same] using found
      obtain ⟨latest, fed, accepted, last⟩ := sound.present other own tracker before
      refine ⟨?_, fed, accepted, last⟩
      rw [← latest]
      simp [latest?, Register.submit, coming, Ne.symm same]

inductive Hears (register : Register) (task : TaskId) (status : Status) : Register → Prop where
  | astray (absent : register.present task = none) : Hears register task status register
  | ignored (own : Submitted) (tracker : Tracker)
      (present : register.present task = some (own, tracker))
      (applied : tracker.apply status = (tracker, .ignored)) :
      Hears register task status register
  | accepted (own : Submitted) (tracker : Tracker) (answer : Applied)
      (present : register.present task = some (own, tracker))
      (applied : tracker.apply status =
        (⟨some status, tracker.history ++ [status]⟩, answer))
      (told : answer ≠ .ignored) :
      Hears register task status { register with
        present := Function.update register.present task
          (some (own, ⟨some status, tracker.history ++ [status]⟩))
        entries := register.entries ++ [⟨own, status⟩] }

theorem hear_hears (register : Register) (task : TaskId) (status : Status) :
    register.Hears task status (register.hear task status) := by
  unfold hear
  split
  next absent => exact .astray absent
  next own tracker present =>
    have applies := tracker.apply_applies status
    generalize applied : tracker.apply status = step at applies
    cases applies with
    | accepted comes answer last told =>
        rw [if_neg told]
        exact .accepted own tracker answer present applied told
    | ignored unfit =>
        have unmoved : Function.update register.present task (some (own, tracker)) =
            register.present := by
          rw [← present, Function.update_eq_self]
        rw [unmoved, if_pos rfl, List.append_nil]
        exact .ignored own tracker present applied

theorem Sound.hear (sound : register.Sound) (task : TaskId) (status : Status) :
    (register.hear task status).Sound := by
  have hears := register.hear_hears task status
  generalize register.hear task status = after at hears
  cases hears with
  | astray absent => exact sound
  | ignored own tracker present applied => exact sound
  | accepted own tracker answer present applied told =>
      obtain ⟨latest, ⟨reports, fed⟩, accepted, last⟩ := sound.present task own tracker present
      obtain ⟨submitted, mine⟩ := latest_task latest
      refine ⟨sound.numbered, ?_, ?_⟩
      · intro entry inside
        rcases List.mem_append.mp inside with earlier | last
        · exact sound.known entry earlier
        · rw [List.mem_singleton.mp last]
          exact submitted
      · intro other another following found
        by_cases same : other = task
        · subst same
          obtain ⟨rfl, rfl⟩ :
              own = another ∧ ⟨some status, tracker.history ++ [status]⟩ = following := by
            simpa using found
          refine ⟨latest, ⟨reports ++ [status], ?_⟩, ?_, ?_⟩
          · rw [Tracker.feed_snoc, ← fed, applied]
          · simpa [acceptedOf] using accepted
          · simp [mine, last]
        · have before : register.present other = some (another, following) := by
            simpa [same] using found
          obtain ⟨latest, fed, accepted, last⟩ := sound.present other another following before
          -- The entry is of another call, so it is of another submission too.
          have different : own.task ≠ other := by
            rw [mine]
            exact Ne.symm same
          have apart : own ≠ another := by
            rintro rfl
            exact different (latest_task latest).2
          refine ⟨latest, fed, ?_, ?_⟩
          · simpa [acceptedOf, apart] using accepted
          · simpa [different, apart] using last

theorem Sound.note (sound : register.Sound) (task : TaskId) (sign : Sign) :
    (register.note task sign).Sound := by
  cases sign with
  | accepted extrinsic => exact sound.submit task extrinsic
  | report status => exact sound.hear task status
  | ended => exact sound

end Register

end LedgerCourier
