import LedgerCourier.Keys.Source
import LedgerCourier.Proofs.Bytes.Spelling
import LedgerCourier.Proofs.Operation.Acceptance
import LedgerCourier.Proofs.Text.Blank
import LedgerCourier.Proofs.Text.Utf8

/-!
# Bytes in arguments and key files

The bytes of three operations and the seed in a key file are written as digits, with blanks around
them and any number of marks in front. What is left without blanks and marks decides alone what is
read, and against what is not read there is one objection. A seed has to have its size as well.
-/

namespace LedgerCourier

set_option autoImplicit false

theorem Secret.of_file_text (path : String) (text : List Char) :
    ofFile path (some (Hex.textBytes text)) = (seedOfText text).map ofSeed := by
  have read := (Utf8.decode_iff (Hex.textBytes text) text).mpr rfl
  simp only [ofFile, read]
  cases seedOfText text <;> rfl

theorem Secret.of_file_unreadable (path : String) {content : Bytes}
    (unreadable : ∀ text, content ≠ Hex.textBytes text) :
    ∃ flaw, ofFile path (some content) = .error (.keyFileRead path (.notText flaw)) := by
  cases read : Utf8.decode content with
  | ok text => exact absurd ((Utf8.decode_iff content text).mp read) (unreadable text)
  | error flaw => exact ⟨flaw, by simp only [ofFile, read]⟩

section Bared

variable {text : String} {digits : List Char} (bared : Blank.BaresTo text.toList digits)

include bared

theorem Arguments.bytes_refused_iff (field : String) (error : EncodeError) :
    readBytes field text = .error error ↔
      ∃ flaw, Hex.Objects digits flaw ∧ error = .invalidHex field flaw := by
  rw [readBytes, (Blank.bares_to_iff _ _).mpr bared]
  simp only [← Hex.decode_bytes_refused_iff]
  cases Hex.decodeBytes (Hex.textBytes digits) <;> simp [eq_comm]

theorem Secret.seed_read_iff (seed : Bytes) :
    seedOfText text.toList = .ok seed ↔ Hex.Spells digits seed ∧ seed.length = 32 := by
  rw [seedOfText, (Blank.bares_to_iff _ _).mpr bared, ← Hex.decode_bytes_iff]
  cases Hex.decodeBytes (Hex.textBytes digits) with
  | error flaw => simp
  | ok bytes =>
      simp only [Except.ok.injEq]
      constructor
      · intro read
        split at read
        next whole =>
          cases read
          exact ⟨rfl, whole⟩
        next => cases read
      · rintro ⟨rfl, whole⟩
        rw [if_pos whole]

theorem Secret.seed_refused_iff (error : Error) :
    seedOfText text.toList = .error error ↔
      (∃ flaw, Hex.Objects digits flaw ∧ error = .keyParse flaw) ∨
      ∃ seed, Hex.Spells digits seed ∧ seed.length ≠ 32 ∧
        error = .invalidKeyLength seed.length := by
  rw [seedOfText, (Blank.bares_to_iff _ _).mpr bared]
  simp only [← Hex.decode_bytes_refused_iff, ← Hex.decode_bytes_iff]
  cases Hex.decodeBytes (Hex.textBytes digits) with
  | error flaw => simp [eq_comm]
  | ok bytes =>
      simp only [reduceCtorEq, false_and, exists_false, false_or, Except.ok.injEq]
      constructor
      · intro refused
        split at refused
        next => cases refused
        next short =>
          cases refused
          exact ⟨bytes, rfl, short, rfl⟩
      · rintro ⟨_, rfl, short, rfl⟩
        rw [if_neg short]

theorem Secret.file_read_iff (path : String) (secret : Secret) :
    ofFile path (some (Hex.textBytes text.toList)) = .ok secret ↔
      ∃ seed, Hex.Spells digits seed ∧ seed.length = 32 ∧ secret = ofSeed seed := by
  rw [of_file_text]
  simp only [← and_assoc, ← seed_read_iff bared]
  cases seedOfText text.toList <;> simp [Except.map, eq_comm]

theorem Secret.file_refused_iff (path : String) (error : Error) :
    ofFile path (some (Hex.textBytes text.toList)) = .error error ↔
      (∃ flaw, Hex.Objects digits flaw ∧ error = .keyParse flaw) ∨
      ∃ seed, Hex.Spells digits seed ∧ seed.length ≠ 32 ∧
        error = .invalidKeyLength seed.length := by
  rw [of_file_text, ← seed_refused_iff bared]
  cases seedOfText text.toList <;> simp [Except.map]

end Bared

namespace Operation

/-- The kinds of operation that carry bytes, and the operation that is made of them. -/
def carriers : List (Kind × (Bytes → Operation)) :=
  [(.setTransferKey, .setTransferKey), (.setTreeKey, .setTreeKey), (.transact, .transact)]

theorem of_tag_carrier {args : Json} {text : String}
    (given : Arguments.Gives [("data", true)] args [some (.string text)]) {kind : Kind}
    {carry : Bytes → Operation} (member : (kind, carry) ∈ carriers) :
    ofTag kind.tag args = (Arguments.readBytes "data" text).map carry := by
  have read : Arguments.readField Arguments.dataForm "data" Arguments.readText args = .ok text :=
    (Arguments.read_field_iff _ _ rfl args text).mpr ⟨_, given, rfl⟩
  have known := (kind_of_tag_iff kind.tag kind).mpr rfl
  unfold ofTag
  rw [known]
  simp only [carriers, List.mem_cons, List.not_mem_nil, Prod.mk.injEq, or_false] at member
  rcases member with ⟨rfl, rfl⟩ | ⟨rfl, rfl⟩ | ⟨rfl, rfl⟩
  all_goals
    simp only [read, Arguments.under, bind, Except.bind]
    cases Arguments.readBytes "data" text <;> rfl

end Operation

theorem Hex.Spells.bares {written front back : List Char} {bytes : Bytes}
    (spelled : Hex.Spells written bytes) (count : Nat)
    (blankFront : ∀ character ∈ front, Blank.isBlank character)
    (blankBack : ∀ character ∈ back, Blank.isBlank character) :
    Blank.BaresTo (front ++ (Blank.marks count ++ written) ++ back) written := by
  have plain : ∀ character ∈ Blank.marks count ++ written, ¬Blank.isBlank character := by
    intro character member
    rcases List.mem_append.mp member with mark | digit
    · exact Blank.marks_plain count character mark
    · exact (Hex.digits_plain _ (spelled.digits _ digit)).2.2
  exact ⟨⟨count, (Blank.trims_to_self plain).surround blankFront blankBack⟩, spelled.unmarked⟩

namespace Hex

open Arguments Operation Secret

/-- What is left of a text without blanks and marks decides what is read from it, as an argument
and as a key file: the bytes it spells, or the one objection against it. A key is made of a seed
of 32 bytes and of no other. So bytes are read back however they are written, and a file that is
no text is refused as such. -/
theorem arguments_and_key_files_read_exactly :
    (∀ text : String, ∃! digits, Blank.BaresTo text.toList digits) ∧
    (∀ (text : String) (digits : List Char), Blank.BaresTo text.toList digits →
      ((∃ bytes, Spells digits bytes) ↔ digits.length % 2 = 0 ∧
        ∀ character ∈ digits, character ∈ lowerDigits ++ upperDigits) ∧
      (∀ field bytes, readBytes field text = .ok bytes ↔ Spells digits bytes) ∧
      (∀ field error, readBytes field text = .error error ↔
        ∃ flaw, Objects digits flaw ∧ error = .invalidHex field flaw) ∧
      (∀ args kind carry, Gives [("data", true)] args [some (.string text)] →
        (kind, carry) ∈ carriers → ofTag kind.tag args = (readBytes "data" text).map carry) ∧
      (∀ path secret, ofFile path (some (textBytes text.toList)) = .ok secret ↔
        ∃ seed, Spells digits seed ∧ seed.length = 32 ∧ secret = ofSeed seed) ∧
      ∀ path error, ofFile path (some (textBytes text.toList)) = .error error ↔
        (∃ flaw, Objects digits flaw ∧ error = .keyParse flaw) ∨
        ∃ seed, Spells digits seed ∧ seed.length ≠ 32 ∧
          error = .invalidKeyLength seed.length) ∧
    (∀ bytes written front back count, written.map Char.toLower = encodeChars bytes →
      (∀ character ∈ front, Blank.isBlank character) →
      (∀ character ∈ back, Blank.isBlank character) →
      ∀ text, text = String.ofList (front ++ (Blank.marks count ++ written) ++ back) →
        (∀ field, readBytes field text = .ok bytes) ∧
        ∀ path, ofFile path (some (textBytes text.toList)) =
          if bytes.length = 32 then .ok (ofSeed bytes)
          else .error (.invalidKeyLength bytes.length)) ∧
    ∀ path content, (∀ text, content ≠ textBytes text) →
      ∃ flaw, ofFile path (some content) = .error (.keyFileRead path (.notText flaw)) := by
  refine ⟨?_, ?_, ?_, fun path content => of_file_unreadable path⟩
  · intro text
    refine ⟨_, (Blank.bares_to_iff _ _).mp rfl, ?_⟩
    intro digits bared
    exact ((Blank.bares_to_iff _ _).mpr bared).symm
  · intro text digits bared
    exact ⟨spells_some_iff digits, bytes_read_iff bared, bytes_refused_iff bared,
      fun args kind carry given member => of_tag_carrier given member, file_read_iff bared,
      file_refused_iff bared⟩
  · rintro bytes written front back count same blankFront blankBack text rfl
    have spelled := (spells_iff_lower written bytes).mpr same
    have bared := spelled.bares count blankFront blankBack
    rw [← String.toList_ofList (l := front ++ (Blank.marks count ++ written) ++ back)] at bared
    refine ⟨fun field => (bytes_read_iff bared field bytes).mpr spelled, fun path => ?_⟩
    split
    next whole => exact (file_read_iff bared path _).mpr ⟨bytes, spelled, whole, rfl⟩
    next short =>
      exact (file_refused_iff bared path _).mpr (Or.inr ⟨bytes, spelled, short, rfl⟩)

/-- A seed in mixed case, behind two marks, with three kinds of blanks around it. -/
def paddedKey : String :=
  String.ofList (['\u2003', '\t'] ++
    (Blank.marks 2 ++ (List.replicate 16 ['a', 'F', 'A', 'f']).flatten) ++ ['\n'])

/-- Four bytes, the third of which begins a character that is no digit. -/
def accentedKey : String := String.ofList [' ', '0', 'x', '7', '7', 'é']

theorem padded_key_is_read :
    readBytes "data" paddedKey = .ok (List.replicate 32 0xaf) ∧
      ofFile "key" (some (textBytes paddedKey.toList)) = .ok (ofSeed (List.replicate 32 0xaf)) ∧
      Blank.BaresTo accentedKey.toList ['7', '7', 'é'] ∧
      readBytes "data" accentedKey = .error (.invalidHex "data" (.badDigit 0xc3 2)) ∧
      ofFile "key" (some (textBytes accentedKey.toList)) =
        .error (.keyParse (.badDigit 0xc3 2)) := by
  obtain ⟨-, decided, written, -⟩ := arguments_and_key_files_read_exactly
  have blankFront : ∀ character ∈ ['\u2003', '\t'], Blank.isBlank character :=
    List.forall_mem_cons.mpr ⟨by decide, List.forall_mem_singleton.mpr (by decide)⟩
  have blankBack : ∀ character ∈ ['\n'], Blank.isBlank character :=
    List.forall_mem_singleton.mpr (by decide)
  have padded := written (List.replicate 32 0xaf) _ ['\u2003', '\t'] ['\n'] 2 (by decide)
    blankFront blankBack paddedKey rfl
  have bared : Blank.BaresTo accentedKey.toList ['7', '7', 'é'] := by
    rw [accentedKey, String.toList_ofList]
    exact (Blank.bares_to_iff _ _).mp (by decide)
  have earlier : ∀ byte ∈ [0x37, 0x37], IsDigitByte byte :=
    List.forall_mem_cons.mpr ⟨by decide, List.forall_mem_singleton.mpr (by decide)⟩
  have objects : Objects ['7', '7', 'é'] (.badDigit 0xc3 2) :=
    .stranger (by decide) ⟨by decide, by decide, earlier⟩
  obtain ⟨-, -, refused, -, -, fileRefused⟩ := decided accentedKey _ bared
  exact ⟨padded.1 "data", padded.2 "key", bared, (refused "data" _).mpr ⟨_, objects, rfl⟩,
    (fileRefused "key" _).mpr (Or.inl ⟨_, objects, rfl⟩)⟩

end Hex

end LedgerCourier
