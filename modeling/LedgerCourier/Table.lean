/-!
Finite maps as lists of entries.

A key has at most one value that can be looked up. Writing to a key that is present replaces
its value where it stands, and a new key goes to the end, so that a table also remembers
the order in which its keys first came.
-/

namespace LedgerCourier

set_option autoImplicit false

/-- Keys with their values, in the order in which the keys first came. -/
structure Table (Key Value : Type) where
  entries : List (Key × Value)

namespace Table

variable {Key Value : Type} [DecidableEq Key]

def empty : Table Key Value := ⟨[]⟩

def find? (key : Key) : List (Key × Value) → Option Value
  | [] => none
  | (other, value) :: rest => if other = key then some value else find? key rest

def put (key : Key) (value : Value) : List (Key × Value) → List (Key × Value)
  | [] => [(key, value)]
  | (other, held) :: rest =>
      if other = key then (key, value) :: rest else (other, held) :: put key value rest

def get? (table : Table Key Value) (key : Key) : Option Value := find? key table.entries

def insert (table : Table Key Value) (key : Key) (value : Value) : Table Key Value :=
  ⟨put key value table.entries⟩

theorem find_put (key other : Key) (value : Value) (entries : List (Key × Value)) :
    find? other (put key value entries) = if key = other then some value
      else find? other entries := by
  induction entries with
  | nil => simp [put, find?]
  | cons entry rest induction =>
      obtain ⟨held, old⟩ := entry
      by_cases same : held = key
      · subst same
        by_cases asked : held = other <;> simp [put, find?, asked]
      · by_cases asked : held = other
        · subst asked
          simp [put, find?, same, Ne.symm same]
        · simp [put, find?, same, asked, induction]

@[simp] theorem get_empty (key : Key) : (empty : Table Key Value).get? key = none := rfl

@[simp] theorem get_insert (table : Table Key Value) (key other : Key) (value : Value) :
    (table.insert key value).get? other = if key = other then some value
      else table.get? other :=
  find_put key other value table.entries

end Table

end LedgerCourier
