import LedgerCourier.History
import LedgerCourier.Proofs.Bytes.Hex
import Mathlib.Data.Finset.Card

/-!
# A history with room for every transaction

As long as no more transactions are recorded than a history has room for, none has to make room
for another one. What is held about a transaction is then all that was ever recorded about it, in
that order.
-/

namespace LedgerCourier

set_option autoImplicit false

theorem Hex.encode_marked_injective {left right : Bytes}
    (same : encodeMarked left = encodeMarked right) : left = right := by
  have digits : encodeChars left = encodeChars right := by
    have texts := congrArg String.toList same
    rw [encode_marked_chars, encode_marked_chars] at texts
    exact List.tail_eq_of_cons_eq (List.tail_eq_of_cons_eq texts)
  have read : ∀ bytes, decodeBytes (textBytes (encodeChars bytes)) = .ok bytes :=
    fun bytes => (decode_bytes_iff _ _).mpr (encode_chars_spell bytes)
  have decoded := read left
  rw [digits, read right] at decoded
  exact (Except.ok.inj decoded).symm

namespace History

theorem key_eq_iff (left right : Hash) : key left = key right ↔ left = right :=
  ⟨fun same => Bytes32.ext_bytes (Hex.encode_marked_injective same), congrArg key⟩

def recordAll (history : History) (records : List (Hash × Status)) : History :=
  records.foldl (fun history record => history.record record.1 record.2) history

theorem record_all_snoc (history : History) (records : List (Hash × Status)) (hash : Hash)
    (status : Status) :
    history.recordAll (records ++ [(hash, status)]) =
      (history.recordAll records).record hash status := by
  simp [recordAll]

def recorded (records : List (Hash × Status)) : Finset Hash := (records.map Prod.fst).toFinset

def statusesOf (hash : Hash) (records : List (Hash × Status)) : List Status :=
  (records.filter fun record => record.1 = hash).map Prod.snd

def found? (statuses : List Status) : Option (List Status) :=
  if statuses = [] then none else some statuses

theorem found_of_ne_nil {statuses : List Status} (known : statuses ≠ []) :
    found? statuses = some statuses :=
  if_neg known

theorem found_eq_some_iff (statuses held : List Status) :
    found? statuses = some held ↔ statuses = held ∧ held ≠ [] := by
  unfold found?
  split
  next empty => simp [empty, eq_comm]
  next known => grind

theorem found_eq_none_iff (statuses : List Status) : found? statuses = none ↔ statuses = [] := by
  simp [found?]

theorem recorded_snoc (records : List (Hash × Status)) (hash : Hash) (status : Status) :
    recorded (records ++ [(hash, status)]) = insert hash (recorded records) := by
  ext other
  simp [recorded]

theorem statuses_of_snoc (hash other : Hash) (status : Status)
    (records : List (Hash × Status)) :
    statusesOf hash (records ++ [(other, status)]) =
      statusesOf hash records ++ if other = hash then [status] else [] := by
  rw [statusesOf, List.filter_append, List.map_append]
  by_cases same : other = hash <;> simp [statusesOf, same]

theorem mem_recorded_iff (hash : Hash) (records : List (Hash × Status)) :
    hash ∈ recorded records ↔ statusesOf hash records ≠ [] := by
  simp [recorded, statusesOf]

structure Holds (history : History) (records : List (Hash × Status)) : Prop where
  statuses : ∀ hash, history.get? (key hash) = found? (statusesOf hash records)
  size : history.order.length = (recorded records).card

theorem make_room_of_spare {history : History} (spare : history.order.length < history.capacity) :
    history.makeRoom = history := by
  have none_leaves : history.surplus = 0 := Nat.sub_eq_zero_of_le spare
  simp [makeRoom, none_leaves]

theorem Holds.grown {history : History} {records : List (Hash × Status)}
    (holds : history.Holds records) (hash : Hash) (status : Status) (other : Hash) :
    (history.statuses.insert (key hash) (statusesOf hash records ++ [status])).get? (key other) =
      found? (statusesOf other (records ++ [(hash, status)])) := by
  rw [Table.get_insert, statuses_of_snoc]
  by_cases same : hash = other
  · subst same
    simp [found?]
  · rw [if_neg (mt (key_eq_iff hash other).mp same), if_neg same, List.append_nil]
    exact holds.statuses other

theorem Holds.record {history : History} {records : List (Hash × Status)}
    (holds : history.Holds records) (hash : Hash) (status : Status)
    (enough : (recorded (records ++ [(hash, status)])).card ≤ history.capacity) :
    (history.record hash status).Holds (records ++ [(hash, status)]) := by
  rw [recorded_snoc] at enough
  have room : history.capacity ≠ 0 := by
    have inhabited := Finset.card_pos.mpr (Finset.insert_nonempty hash (recorded records))
    omega
  have now := holds.statuses hash
  unfold History.record
  rw [if_neg room]
  split
  next held present =>
    obtain ⟨rfl, known⟩ := (found_eq_some_iff _ _).mp (now.symm.trans present)
    refine ⟨holds.grown hash status, ?_⟩
    rw [recorded_snoc, Finset.insert_eq_of_mem ((mem_recorded_iff hash records).mpr known)]
    exact holds.size
  next absent =>
    have unknown : statusesOf hash records = [] :=
      (found_eq_none_iff _).mp (now.symm.trans absent)
    have fresh : hash ∉ recorded records := by simp [mem_recorded_iff, unknown]
    rw [Finset.card_insert_of_notMem fresh, ← holds.size] at enough
    -- There is a free place, so making room for the new transaction moves nothing out.
    rw [make_room_of_spare enough]
    constructor
    · intro other
      rw [← holds.grown hash status other, unknown]
      rfl
    · rw [recorded_snoc, Finset.card_insert_of_notMem fresh, List.length_append, holds.size]
      rfl

theorem record_capacity (history : History) (hash : Hash) (status : Status) :
    (history.record hash status).capacity = history.capacity := by
  unfold record
  split
  · rfl
  · split <;> rfl

theorem record_all_capacity (history : History) (records : List (Hash × Status)) :
    (history.recordAll records).capacity = history.capacity := by
  induction records using List.reverseRecOn with
  | nil => rfl
  | append_singleton records record induction =>
      rw [record_all_snoc, record_capacity, induction]

/-- A history that has room for all transactions that are recorded holds everything. -/
theorem record_all_holds (capacity : Nat) (records : List (Hash × Status))
    (enough : (recorded records).card ≤ capacity) :
    ((withCapacity capacity).recordAll records).Holds records := by
  induction records using List.reverseRecOn with
  | nil => exact ⟨fun hash => rfl, rfl⟩
  | append_singleton records record induction =>
      obtain ⟨hash, status⟩ := record
      have fewer : recorded records ⊆ recorded (records ++ [(hash, status)]) := by
        rw [recorded_snoc]
        exact Finset.subset_insert hash (recorded records)
      have holds := induction (Nat.le_trans (Finset.card_le_card fewer) enough)
      rw [record_all_snoc]
      exact holds.record hash status (by rwa [record_all_capacity])

end History

end LedgerCourier
