import LedgerCourier.Proofs.History.Room
import Mathlib.Data.List.Nodup

/-!
# A history as a roll of transactions

The table of a history and the order in which it gives up its transactions stand for one list, the
roll: the transactions that are held, oldest first, each with its statuses. A status is added where
its transaction stands; a transaction that is not on the roll is written at the end, and if the roll
is full its head is struck off before. The table and the order agree with the roll, and thereby with
each other, after any sequence of records and for every capacity.
-/

namespace LedgerCourier

set_option autoImplicit false

theorem Table.mem_of_find {Key Value : Type} [DecidableEq Key] {entries : List (Key × Value)}
    {key : Key} {value : Value} (found : find? key entries = some value) :
    (key, value) ∈ entries := by
  induction entries with
  | nil => cases found
  | cons entry entries induction =>
      obtain ⟨other, held⟩ := entry
      rw [find?] at found
      split at found
      next same =>
        obtain rfl : held = value := Option.some.inj found
        rw [same]
        exact List.mem_cons_self
      next => exact List.mem_cons_of_mem _ (induction found)

namespace History

/-- The transactions that are held, oldest first, with their statuses. -/
abbrev Roll := List (Hash × List Status)

namespace Roll

def grow (roll : Roll) (hash : Hash) (status : Status) : Roll :=
  roll.map fun entry => if entry.1 = hash then (entry.1, entry.2 ++ [status]) else entry

def makeRoom (capacity : Nat) (roll : Roll) : Roll :=
  if roll.length = capacity then roll.tail else roll

def enter (capacity : Nat) (roll : Roll) (hash : Hash) (status : Status) : Roll :=
  roll.makeRoom capacity ++ [(hash, [status])]

/-- The roll after one record. Nothing is ever written on a roll without room. -/
def note (capacity : Nat) (roll : Roll) (hash : Hash) (status : Status) : Roll :=
  if capacity = 0 then roll
  else if hash ∈ roll.map Prod.fst then roll.grow hash status
  else roll.enter capacity hash status

def ofRecords (capacity : Nat) (records : List (Hash × Status)) : Roll :=
  records.foldl (fun roll record => note capacity roll record.1 record.2) []

theorem of_records_snoc (capacity : Nat) (records : List (Hash × Status)) (hash : Hash)
    (status : Status) :
    ofRecords capacity (records ++ [(hash, status)]) =
      note capacity (ofRecords capacity records) hash status := by
  simp [ofRecords]

/-- No transaction stands twice on the roll or without a status, and there is room for all. -/
structure IsSound (capacity : Nat) (roll : Roll) : Prop where
  distinct : (roll.map Prod.fst).Nodup
  told : ∀ entry ∈ roll, entry.2 ≠ []
  within : roll.length ≤ capacity

theorem map_fst_grow (roll : Roll) (hash : Hash) (status : Status) :
    (roll.grow hash status).map Prod.fst = roll.map Prod.fst := by
  rw [grow, List.map_map]
  apply List.map_congr_left
  intro entry inside
  rw [Function.comp_apply]
  split <;> rfl

theorem IsSound.grow {capacity : Nat} {roll : Roll} (sound : roll.IsSound capacity) (hash : Hash)
    (status : Status) : (roll.grow hash status).IsSound capacity := by
  refine ⟨by rw [map_fst_grow]; exact sound.distinct, ?_, ?_⟩
  · intro entry inside
    obtain ⟨before, held, rfl⟩ := List.mem_map.mp inside
    split
    · simp
    · exact sound.told before held
  · rw [Roll.grow, List.length_map]
    exact sound.within

theorem make_room_sublist (capacity : Nat) (roll : Roll) :
    (roll.makeRoom capacity).Sublist roll := by
  unfold makeRoom
  split
  · exact roll.tail_sublist
  · exact List.Sublist.refl roll

theorem absent_of_make_room {roll : Roll} {hash : Hash} (absent : hash ∉ roll.map Prod.fst)
    (capacity : Nat) : hash ∉ (roll.makeRoom capacity).map Prod.fst :=
  fun inside => absent (((make_room_sublist capacity roll).map Prod.fst).subset inside)

theorem IsSound.enter {capacity : Nat} {roll : Roll} (sound : roll.IsSound capacity)
    (room : capacity ≠ 0) {hash : Hash} (absent : hash ∉ roll.map Prod.fst) (status : Status) :
    (roll.enter capacity hash status).IsSound capacity := by
  have kept := make_room_sublist capacity roll
  constructor
  · rw [Roll.enter, List.map_append]
    refine (sound.distinct.sublist (kept.map Prod.fst)).append (List.nodup_singleton hash) ?_
    intro other inside same
    obtain rfl : other = hash := by simpa using same
    exact absent_of_make_room absent capacity inside
  · intro entry inside
    rcases List.mem_append.mp inside with held | new
    · exact sound.told entry (kept.subset held)
    · obtain rfl : entry = (hash, [status]) := by simpa using new
      simp
  · have within := sound.within
    rw [Roll.enter, List.length_append, List.length_singleton, makeRoom]
    split
    · rw [List.length_tail]
      omega
    · omega

theorem IsSound.note {capacity : Nat} {roll : Roll} (sound : roll.IsSound capacity) (hash : Hash)
    (status : Status) : (roll.note capacity hash status).IsSound capacity := by
  unfold Roll.note
  split
  · exact sound
  next room =>
    split
    · exact sound.grow hash status
    next absent => exact sound.enter room absent status

theorem of_records_sound (capacity : Nat) (records : List (Hash × Status)) :
    (ofRecords capacity records).IsSound capacity := by
  induction records using List.reverseRecOn with
  | nil => exact ⟨List.nodup_nil, by simp [ofRecords], Nat.zero_le capacity⟩
  | append_singleton records record induction =>
      rw [of_records_snoc]
      exact induction.note record.1 record.2

def entries (roll : Roll) : List (String × List Status) :=
  roll.map fun entry => (key entry.1, entry.2)

def keys (roll : Roll) : List String := roll.map fun entry => key entry.1

theorem map_fst_entries (roll : Roll) : roll.entries.map Prod.fst = roll.keys := by
  simp [entries, keys]

theorem IsSound.distinct_keys {capacity : Nat} {roll : Roll} (sound : roll.IsSound capacity) :
    roll.keys.Nodup := by
  have hashes := sound.distinct.map fun left right => (key_eq_iff left right).mp
  rwa [List.map_map] at hashes

theorem find_entries (roll : Roll) (hash : Hash) :
    Table.find? (key hash) roll.entries = roll.lookup hash := by
  induction roll with
  | nil => rfl
  | cons entry roll induction =>
      obtain ⟨other, statuses⟩ := entry
      rw [entries, List.map_cons, Table.find?, List.lookup_cons, ← entries, induction]
      by_cases same : other = hash
      · simp [same]
      · have differ : (hash == other) = false := by simpa using Ne.symm same
        rw [if_neg (mt (key_eq_iff other hash).mp same), differ]

theorem lookup_eq_none_iff (roll : Roll) (hash : Hash) :
    roll.lookup hash = none ↔ hash ∉ roll.map Prod.fst := by
  rw [List.lookup_eq_none_iff]
  simp only [List.mem_map, not_exists, not_and, bne_iff_ne, ne_eq]
  exact ⟨fun each entry inside same => each entry inside same.symm,
    fun each entry inside same => each entry inside same.symm⟩

/-- Adding to the statuses under a key is adding to them on the roll, as the key stands there only
once. -/
theorem put_held {roll : Roll} (distinct : (roll.map Prod.fst).Nodup) {hash : Hash}
    {held : List Status} (present : roll.lookup hash = some held) (status : Status) :
    Table.put (key hash) (held ++ [status]) roll.entries = (roll.grow hash status).entries := by
  induction roll with
  | nil => cases present
  | cons entry roll induction =>
      obtain ⟨other, statuses⟩ := entry
      obtain ⟨first, rest⟩ := List.nodup_cons.mp distinct
      rw [List.lookup_cons] at present
      by_cases same : other = hash
      · subst same
        obtain rfl : statuses = held := by simpa using present
        have untouched : grow roll other status = roll := by
          refine (List.map_congr_left fun entry inside => ?_).trans roll.map_id
          exact if_neg fun same => first (List.mem_map.mpr ⟨entry, inside, same⟩)
        have grown : grow ((other, statuses) :: roll) other status =
            (other, statuses ++ [status]) :: roll := by
          rw [grow, List.map_cons, ← grow, untouched, if_pos rfl]
        rw [grown]
        simp [entries, Table.put]
      · have differ : (hash == other) = false := by simpa using Ne.symm same
        rw [differ] at present
        have later := induction rest present
        have grown : grow ((other, statuses) :: roll) hash status =
            (other, statuses) :: grow roll hash status := by
          rw [grow, List.map_cons, ← grow, if_neg same]
        rw [grown, entries, List.map_cons, Table.put,
          if_neg (mt (key_eq_iff other hash).mp same), ← entries, later]
        rfl

theorem put_absent {roll : Roll} {hash : Hash} (absent : hash ∉ roll.map Prod.fst)
    (statuses : List Status) :
    Table.put (key hash) statuses roll.entries = entries (roll ++ [(hash, statuses)]) := by
  induction roll with
  | nil => rfl
  | cons entry roll induction =>
      obtain ⟨first, rest⟩ : hash ≠ entry.1 ∧ hash ∉ roll.map Prod.fst := by
        simpa using absent
      rw [entries, List.map_cons, Table.put,
        if_neg (mt (key_eq_iff entry.1 hash).mp (Ne.symm first)), ← entries, induction rest]
      rfl

theorem filter_leaving {roll : Roll} (distinct : roll.keys.Nodup) (count : Nat) :
    roll.entries.filter (fun entry => !(roll.keys.take count).contains entry.1) =
      entries (roll.drop count) := by
  induction roll generalizing count with
  | nil => simp [entries]
  | cons entry roll induction =>
      obtain ⟨first, rest⟩ := List.nodup_cons.mp distinct
      cases count with
      | zero => simp
      | succ count =>
          have apart : ∀ other ∈ entries roll, other.1 ≠ key entry.1 := by
            intro other inside same
            have listed := List.mem_map_of_mem (f := Prod.fst) inside
            rw [map_fst_entries, same] at listed
            exact first listed
          have later := induction rest count
          have head : keys (entry :: roll) = key entry.1 :: keys roll := rfl
          rw [entries, List.map_cons, ← entries, head, List.take_succ_cons, List.drop_succ_cons,
            List.filter_cons_of_neg (by simp), ← later]
          apply List.filter_congr
          intro other inside
          simp [apart other inside]

end Roll

/-- A history whose parts both stand for the roll. -/
structure StandsFor (history : History) (roll : Roll) : Prop where
  entries : history.statuses.entries = roll.entries
  order : history.order = roll.keys

namespace StandsFor

variable {history : History} {roll : Roll}

theorem get (stands : history.StandsFor roll) (hash : Hash) :
    history.statuses.get? (key hash) = roll.lookup hash := by
  rw [Table.get?, stands.entries, Roll.find_entries]

theorem make_room (stands : history.StandsFor roll) (sound : roll.IsSound history.capacity) :
    history.makeRoom.StandsFor (roll.makeRoom history.capacity) := by
  have within := sound.within
  have length : history.order.length = roll.length := by
    rw [stands.order, Roll.keys, List.length_map]
  have surplus : roll.makeRoom history.capacity = roll.drop history.surplus := by
    rw [surplus, length, Roll.makeRoom]
    split
    next full =>
      rw [show roll.length + 1 - history.capacity = 1 by omega, List.drop_one]
    next spare =>
      rw [show roll.length + 1 - history.capacity = 0 by omega, List.drop_zero]
  rw [surplus]
  constructor
  · simp only [makeRoom, stands.entries, stands.order]
    exact Roll.filter_leaving sound.distinct_keys history.surplus
  · simp only [makeRoom, stands.order, Roll.keys, List.map_drop]

theorem record (stands : history.StandsFor roll) (sound : roll.IsSound history.capacity)
    (hash : Hash) (status : Status) :
    (history.record hash status).StandsFor (roll.note history.capacity hash status) := by
  unfold History.record Roll.note
  split
  · exact stands
  next room =>
    have found := stands.get hash
    cases known : roll.lookup hash with
    | some held =>
        have present : hash ∈ roll.map Prod.fst := by
          by_contra absent
          rw [(Roll.lookup_eq_none_iff roll hash).mpr absent] at known
          cases known
        rw [known] at found
        rw [found, if_pos present]
        constructor
        · exact (congrArg _ stands.entries).trans (Roll.put_held sound.distinct known status)
        · have same := congrArg (List.map key) (Roll.map_fst_grow roll hash status)
          rw [List.map_map, List.map_map] at same
          exact stands.order.trans same.symm
    | none =>
        have absent := (Roll.lookup_eq_none_iff roll hash).mp known
        rw [known] at found
        rw [found, if_neg absent]
        have roomy := stands.make_room sound
        have apart := Roll.absent_of_make_room absent history.capacity
        constructor
        · exact (congrArg _ roomy.entries).trans (Roll.put_absent apart [status])
        · exact (congrArg (· ++ [key hash]) roomy.order).trans (by simp [Roll.keys, Roll.enter])

end StandsFor

theorem record_all_stands (capacity : Nat) (records : List (Hash × Status)) :
    ((withCapacity capacity).recordAll records).StandsFor (Roll.ofRecords capacity records) := by
  induction records using List.reverseRecOn with
  | nil => exact ⟨rfl, rfl⟩
  | append_singleton records record induction =>
      have capacities := (withCapacity capacity).record_all_capacity records
      have next := induction.record (capacities ▸ Roll.of_records_sound capacity records)
        record.1 record.2
      rw [capacities] at next
      rw [record_all_snoc, Roll.of_records_snoc]
      exact next

/-- What a history answers if it holds what stands on the roll. -/
structure Shows (history : History) (roll : Roll) : Prop where
  statuses : ∀ hash, history.get? (key hash) = roll.lookup hash
  strange : ∀ text, (∀ hash, key hash ≠ text) → history.get? text = none
  told : ∀ text statuses, history.get? text = some statuses → statuses ≠ []
  size : history.size = roll.length
  empty : history.isEmpty = true ↔ roll = []
  sameKeys : history.statuses.entries.map Prod.fst = history.order
  order : history.order = roll.map fun entry => key entry.1
  distinct : history.order.Nodup

theorem StandsFor.shows {history : History} {roll : Roll} (stands : history.StandsFor roll)
    {capacity : Nat} (sound : roll.IsSound capacity) : history.Shows roll := by
  have member : ∀ text statuses, history.get? text = some statuses →
      ∃ entry ∈ roll, key entry.1 = text ∧ entry.2 = statuses := by
    intro text statuses found
    rw [get?, Table.get?, stands.entries] at found
    obtain ⟨entry, inside, same⟩ := List.mem_map.mp (Table.mem_of_find found)
    exact ⟨entry, inside, congrArg Prod.fst same, congrArg Prod.snd same⟩
  constructor
  · exact stands.get
  · intro text strange
    cases found : history.get? text with
    | none => rfl
    | some statuses =>
        obtain ⟨entry, -, same, -⟩ := member text statuses found
        exact absurd same (strange entry.1)
  · intro text statuses found
    obtain ⟨entry, inside, -, rfl⟩ := member text statuses found
    exact sound.told entry inside
  · rw [size, stands.order, Roll.keys, List.length_map]
  · rw [isEmpty, stands.order, Roll.keys, List.isEmpty_iff, List.map_eq_nil_iff]
  · rw [stands.entries, Roll.map_fst_entries, stands.order]
  · exact stands.order
  · rw [stands.order]
    exact sound.distinct_keys

/-- After any records a history shows what stands on the roll, and never more transactions than it
has room for. Transactions do not share keys, and one that is not held, be it new or given up
before, is written at the young end with nothing but its new status. -/
theorem history_shows_roll (capacity : Nat) (records : List (Hash × Status)) :
    ((withCapacity capacity).recordAll records).Shows (Roll.ofRecords capacity records) ∧
      (Roll.ofRecords capacity records).length ≤ capacity ∧
      (∀ left right, key left = key right → left = right) ∧
      ∀ hash status, capacity ≠ 0 →
        ((withCapacity capacity).recordAll records).get? (key hash) = none →
        let later := (withCapacity capacity).recordAll (records ++ [(hash, status)])
        later.order.getLast? = some (key hash) ∧ later.get? (key hash) = some [status] := by
  have sound := Roll.of_records_sound capacity records
  have shows := (record_all_stands capacity records).shows sound
  refine ⟨shows, sound.within, fun left right => (key_eq_iff left right).mp, ?_⟩
  intro hash status room unheld later
  have absent : hash ∉ (Roll.ofRecords capacity records).map Prod.fst :=
    (Roll.lookup_eq_none_iff _ hash).mp ((shows.statuses hash).symm.trans unheld)
  have entered : Roll.ofRecords capacity (records ++ [(hash, status)]) =
      (Roll.ofRecords capacity records).enter capacity hash status := by
    rw [Roll.of_records_snoc, Roll.note, if_neg room, if_neg absent]
  have after := (record_all_stands capacity (records ++ [(hash, status)])).shows
    (Roll.of_records_sound capacity _)
  rw [entered] at after
  have apart := Roll.absent_of_make_room absent capacity
  constructor
  · rw [after.order, Roll.enter, List.map_append]
    simp
  · rw [after.statuses, Roll.enter, List.lookup_append,
      (Roll.lookup_eq_none_iff _ hash).mpr apart]
    simp

end History

end LedgerCourier
