import LedgerCourier.Text.Blank
import Mathlib.Data.List.TakeWhile

/-!
# What cleaning the ends of a text leaves

A text is blanks, a core and blanks again, where the core neither begins nor ends with a blank.
There is one such core, and it is what trimming gives. Likewise a text is some marks and a rest
that does not begin with one, and both together leave one rest of any text.
-/

namespace LedgerCourier.Blank

set_option autoImplicit false

structure TrimsTo (text core : List Char) : Prop where
  surrounded : ∃ front back, text = front ++ core ++ back ∧
    (∀ character ∈ front, isBlank character) ∧ ∀ character ∈ back, isBlank character
  first : ∀ character, core.head? = some character → ¬isBlank character
  last : ∀ character, core.getLast? = some character → ¬isBlank character

theorem trim_start_skips {front rest : List Char}
    (blank : ∀ character ∈ front, isBlank character)
    (first : ∀ character, rest.head? = some character → ¬isBlank character) :
    trimStart (front ++ rest) = rest := by
  rw [trimStart, List.dropWhile_append_of_pos blank]
  cases rest with
  | nil => rfl
  | cons character rest => exact List.dropWhile_cons_of_neg (first character rfl)

theorem trim_end_eq (text : List Char) : trimEnd text = (trimStart text.reverse).reverse := rfl

theorem trims_to_trim (text : List Char) : TrimsTo text (trim text) := by
  have start : text.takeWhile isBlank ++ trimStart text = text := List.takeWhile_append_dropWhile
  have finish : trim text ++ ((trimStart text).reverse.takeWhile isBlank).reverse =
      trimStart text := by
    have halves := List.takeWhile_append_dropWhile (p := isBlank) (l := (trimStart text).reverse)
    rw [trim, trim_end_eq, trimStart, ← List.reverse_append, halves, List.reverse_reverse]
  constructor
  · refine ⟨text.takeWhile isBlank, ((trimStart text).reverse.takeWhile isBlank).reverse, ?_,
      fun character member => List.mem_takeWhile_imp member,
      fun character member => List.mem_takeWhile_imp (List.mem_reverse.mp member)⟩
    rw [List.append_assoc, finish, start]
  · intro character head
    have begins : (trimStart text).head? = some character := by
      rw [← finish, List.head?_append, head]
      rfl
    have kept := List.head?_dropWhile_not isBlank text
    rw [← trimStart, begins] at kept
    simpa using kept
  · intro character last
    rw [trim, trim_end_eq, List.getLast?_reverse] at last
    have kept := List.head?_dropWhile_not isBlank (trimStart text).reverse
    rw [← trimStart, last] at kept
    simpa using kept

theorem trim_iff (text core : List Char) : trim text = core ↔ TrimsTo text core := by
  constructor
  · rintro rfl
    exact trims_to_trim text
  · rintro ⟨⟨front, back, rfl, blankFront, blankBack⟩, first, last⟩
    rw [trim]
    cases core with
    | nil =>
        have all : ∀ character ∈ front ++ [] ++ back, isBlank character := by
          simpa [or_imp, forall_and] using ⟨blankFront, blankBack⟩
        have empty : trimStart (front ++ [] ++ back) = [] := List.dropWhile_eq_nil_iff.mpr all
        rw [empty]
        rfl
    | cons character rest =>
        rw [List.append_assoc, trim_start_skips blankFront (by simpa using first), trim_end_eq,
          List.reverse_append, trim_start_skips (by simpa using blankBack)
            (by simpa only [List.head?_reverse] using last), List.reverse_reverse]

theorem trims_to_self {text : List Char} (plain : ∀ character ∈ text, ¬isBlank character) :
    TrimsTo text text where
  surrounded := ⟨[], [], by simp, by simp, by simp⟩
  first := fun character head => plain character (List.mem_of_head? head)
  last := fun character last => plain character (List.mem_of_getLast? last)

theorem TrimsTo.surround {core front back : List Char} (self : TrimsTo core core)
    (blankFront : ∀ character ∈ front, isBlank character)
    (blankBack : ∀ character ∈ back, isBlank character) : TrimsTo (front ++ core ++ back) core :=
  ⟨⟨front, back, rfl, blankFront, blankBack⟩, self.first, self.last⟩

def marks : Nat → List Char
  | 0 => []
  | count + 1 => '0' :: 'x' :: marks count

theorem marks_plain (count : Nat) : ∀ character ∈ marks count, ¬isBlank character := by
  induction count with
  | zero => simp [marks]
  | succ count induction =>
      simp only [marks, List.forall_mem_cons]
      exact ⟨by decide, by decide, induction⟩

theorem drop_marks_split (text : List Char) : ∃ count, text = marks count ++ dropMarks text := by
  fun_induction dropMarks text with
  | case1 rest induction =>
      obtain ⟨count, same⟩ := induction
      exact ⟨count + 1, congrArg (fun rest => '0' :: 'x' :: rest) same⟩
  | case2 text unmarked => exact ⟨0, rfl⟩

theorem drop_marks_unmarked (text : List Char) : ¬['0', 'x'] <+: dropMarks text := by
  fun_induction dropMarks text with
  | case1 rest induction => exact induction
  | case2 text unmarked =>
      rintro ⟨rest, rfl⟩
      exact unmarked rest rfl

theorem drop_marks_append {rest : List Char} (unmarked : ¬['0', 'x'] <+: rest) (count : Nat) :
    dropMarks (marks count ++ rest) = rest := by
  induction count with
  | zero =>
      show dropMarks rest = rest
      unfold dropMarks
      split
      next behind => exact absurd ⟨behind, rfl⟩ unmarked
      next => rfl
  | succ count induction =>
      rw [marks, List.cons_append, List.cons_append, dropMarks]
      exact induction

/-- What is left of a text without the blanks around it and without any mark in front. -/
structure BaresTo (text rest : List Char) : Prop where
  stripped : ∃ count, TrimsTo text (marks count ++ rest)
  unmarked : ¬['0', 'x'] <+: rest

theorem bares_to_iff (text rest : List Char) :
    dropMarks (trim text) = rest ↔ BaresTo text rest := by
  constructor
  · rintro rfl
    obtain ⟨count, same⟩ := drop_marks_split (trim text)
    exact ⟨⟨count, same ▸ trims_to_trim text⟩, drop_marks_unmarked _⟩
  · rintro ⟨⟨count, trimmed⟩, unmarked⟩
    rw [(trim_iff _ _).mpr trimmed, drop_marks_append unmarked]

end LedgerCourier.Blank
