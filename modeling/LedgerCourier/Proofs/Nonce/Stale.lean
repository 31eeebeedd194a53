import LedgerCourier.Error
import LedgerCourier.Nonce.Stale

/-!
# Stale phrases in the messages of errors

The messages of a submission's errors put a sentence in front of the text of the cause. No
character with which a stale phrase begins occurs in these sentences, so a message is stale only
where the cause is.
-/

namespace LedgerCourier

set_option autoImplicit false

namespace Stale

theorem occurs_in_append (first : Char) (rest front back : List Char) (absent : first ∉ front) :
    occursIn (first :: rest) (front ++ back) = occursIn (first :: rest) back := by
  induction front with
  | nil => rfl
  | cons character front induction =>
      obtain ⟨different, absent⟩ := not_or.mp (mt List.mem_cons.mpr absent)
      rw [List.cons_append, occursIn, induction absent]
      simp [List.isPrefixOf, different]

def isPlain (text : String) : Bool :=
  text.toList.all fun character => character != 'P' && character != 'T' && character != 'S'

theorem plain_append {front back : String} (plainFront : isPlain front = true)
    (plainBack : isPlain back = true) : isPlain (front ++ back) = true := by
  unfold isPlain at *
  rw [String.toList_append, List.all_append, plainFront, plainBack]
  rfl

theorem plain_number (number : Nat) : isPlain (toString number) = true := by
  unfold isPlain
  rw [Nat.toString_eq_ofList_toDigits, String.toList_ofList, List.all_eq_true]
  intro character digit
  have isDigit := Nat.isDigit_of_mem_toDigits (by decide) (by decide) digit
  have differs : ∀ letter : Char, letter.isDigit = false → character ≠ letter := by
    rintro letter notDigit rfl
    rw [isDigit] at notDigit
    cases notDigit
  simp [differs 'P' (by decide), differs 'T' (by decide), differs 'S' (by decide)]

theorem is_stale_append {front : String} (plain : isPlain front = true) (back : String) :
    isStale (front ++ back) = isStale back := by
  have absent : 'P' ∉ front.toList ∧ 'T' ∉ front.toList ∧ 'S' ∉ front.toList := by
    unfold isPlain at plain
    rw [List.all_eq_true] at plain
    refine ⟨fun inside => ?_, fun inside => ?_, fun inside => ?_⟩ <;>
      simpa using plain _ inside
  obtain ⟨noP, noT, noS⟩ := absent
  simp only [isStale, markers, List.any_cons, List.any_nil, String.toList_append]
  rw [show "Priority is too low".toList = 'P' :: "riority is too low".toList from rfl,
    show "Transaction is outdated".toList = 'T' :: "ransaction is outdated".toList from rfl,
    show "Stale".toList = 'S' :: "tale".toList from rfl,
    occurs_in_append _ _ _ _ noP, occurs_in_append _ _ _ _ noT, occurs_in_append _ _ _ _ noS]

theorem occurs_iff (part text : List Char) : occursIn part text = true ↔ part <:+: text := by
  induction text with
  | nil => simp [occursIn]
  | cons character rest induction =>
      simp only [occursIn, Bool.or_eq_true, List.isPrefixOf_iff_prefix, induction,
        List.infix_cons_iff]

theorem is_stale_iff (text : String) :
    isStale text = true ↔ ∃ marker ∈ markers, marker.toList <:+: text.toList := by
  simp only [isStale, List.any_eq_true, occurs_iff]

end Stale

/-- The text of whoever refused to go on with a submission. -/
def Error.refusal? : Error → Option String
  | .sign _ message => some message
  | .build _ cause => some cause.text
  | .submit _ cause => some cause.text
  | _ => none

theorem Error.message_stale_iff {error : Error} {text : String}
    (refusal : error.refusal? = some text) :
    Stale.isStale error.message = Stale.isStale text := by
  have sentence : ∀ (front : String) (nonce : Nat), Stale.isPlain front = true →
      Stale.isStale (front ++ toString nonce ++ ": " ++ text) = Stale.isStale text :=
    fun front nonce plain => Stale.is_stale_append
      (Stale.plain_append (Stale.plain_append plain (Stale.plain_number nonce)) (by decide)) text
  unfold Error.refusal? at refusal
  split at refusal
  · cases refusal
    exact sentence "Error signing transaction with nonce " _ (by decide)
  · cases refusal
    exact sentence "Error building extrinsic with nonce " _ (by decide)
  · cases refusal
    exact sentence "Error submitting tx with nonce " _ (by decide)
  · cases refusal

end LedgerCourier
