import LedgerCourier.Account.Address
import LedgerCourier.Proofs.Account.Base58
import LedgerCourier.Proofs.Bytes.Hex
import LedgerCourier.Proofs.Digest.Blake2b
import LedgerCourier.Proofs.Text.Blank

/-!
# The texts of an account

An account has its key in hexadecimal digits as a text, and an address for each network. Addresses
are canonical: whatever is read as an address is the address of that account on the network whose
number stands in front. The two notations cannot be mistaken for each other, as the alphabet of
addresses has no zero, and apart from blanks around it no other text is read as an account.
-/

namespace LedgerCourier.Address

set_option autoImplicit false

/-- How network numbers are written: in one byte below 64, or in two of which the first lies
between 64 and 127. -/
inductive IsNetwork : Bytes → Prop where
  | short (number : UInt8) (small : number < 64) : IsNetwork [number]
  | long (first second : UInt8) (large : 64 ≤ first) (bounded : first < 128) :
      IsNetwork [first, second]

/-- The texts of an account, without the blanks that may surround them. -/
inductive Denotes (account : AccountId) : List Char → Prop where
  | key (digits : List Char) (spelled : Hex.Spells digits account.bytes) :
      Denotes account ('0' :: 'x' :: digits)
  | address (network : Bytes) (known : IsNetwork network) :
      Denotes account (encodeWith network account)

theorem length_checksum (body : Bytes) : (checksum body).length = 2 := by
  have whole := Blake2b.length_digest (Nat.le_refl 64) (checksumContext ++ body)
  rw [checksum, List.length_take, Blake2b.digest512, whole]
  rfl

theorem is_network_iff (network : Bytes) :
    IsNetwork network ↔ ∃ first more, network = first :: more ∧
      networkLength? first = some network.length := by
  constructor
  · intro known
    cases known with
    | short number small => exact ⟨number, [], rfl, by simp [networkLength?, small]⟩
    | long first second large bounded =>
        have other : ¬first < 64 := UInt8.not_lt.mpr large
        exact ⟨first, [second], rfl, by simp [networkLength?, other, bounded]⟩
  · rintro ⟨first, more, rfl, told⟩
    unfold networkLength? at told
    split at told
    next small =>
      obtain rfl : more = [] := by simpa using told
      exact .short first small
    next large =>
      split at told
      next bounded =>
        obtain ⟨second, rfl⟩ : ∃ second, more = [second] := by
          apply List.length_eq_one_iff.mp
          simpa using told.symm
        exact .long first second (UInt8.not_lt.mp large) bounded
      next => cases told

theorem decode_encode_with {network : Bytes} (known : IsNetwork network) (account : AccountId) :
    decode (encodeWith network account) = some account := by
  obtain ⟨first, more, rfl, told⟩ := (is_network_iff network).mp known
  generalize size : (first :: more).length = length at told
  have body : (first :: more ++ account.bytes).length = length + 32 := by
    rw [List.length_append, size, account.length_eq]
  have whole : (first :: more ++ account.bytes ++
      checksum (first :: more ++ account.bytes)).length = length + 34 := by
    rw [List.length_append, body, length_checksum]
  have text : Base58.decode (encodeWith (first :: more) account) =
      some (first :: (more ++ account.bytes ++ checksum (first :: more ++ account.bytes))) :=
    Base58.decode_encode _
  simp only [decode, text, told]
  rw [← List.cons_append, ← List.cons_append, if_pos whole, List.take_left' body,
    List.drop_left' body, if_pos rfl, List.drop_left' size, Bytes32.of_bytes_self]

theorem encode_with_of_decode {text : List Char} {account : AccountId}
    (read : decode text = some account) :
    ∃ network, IsNetwork network ∧ text = encodeWith network account := by
  unfold decode at read
  split at read
  next => cases read
  next => cases read
  next first rest decoded =>
    split at read
    next => cases read
    next length told =>
      simp only [Option.ite_none_right_eq_some] at read
      obtain ⟨size, check, key⟩ := read
      have key := Bytes32.of_bytes_eq_some key
      obtain ⟨more, network⟩ : ∃ more, (first :: rest).take length = first :: more := by
        cases length with
        | zero => simp [networkLength?] at told; split at told <;> simp at told
        | succ length => exact ⟨rest.take length, rfl⟩
      have width : ((first :: rest).take length).length = length := by
        rw [List.length_take, size]
        omega
      have body : (first :: rest).take (length + 32) =
          (first :: rest).take length ++ account.bytes := by
        rw [key, List.drop_take, Nat.add_sub_cancel_left, ← List.take_add]
      refine ⟨(first :: rest).take length, ?_, ?_⟩
      · exact (is_network_iff _).mpr ⟨first, more, network, told.trans (congrArg some width.symm)⟩
      · have halves := List.take_append_drop (length + 32) (first :: rest)
        rw [encodeWith, ← body, ← check, halves]
        exact (Base58.decode_iff text _).mp decoded

theorem decode_iff (text : List Char) (account : AccountId) :
    decode text = some account ↔ ∃ network, IsNetwork network ∧ text = encodeWith network account :=
  ⟨encode_with_of_decode, fun ⟨_, known, written⟩ => written ▸ decode_encode_with known account⟩

theorem alphabet_plain : ∀ character ∈ Base58.alphabet,
    ¬Blank.isBlank character ∧ character ≠ '0' := by
  have each : Base58.alphabet.all fun character =>
      decide (¬Blank.isBlank character ∧ character ≠ '0') := by decide +kernel
  exact fun character member => of_decide_eq_true (List.all_eq_true.mp each character member)

theorem address_plain (network : Bytes) (account : AccountId) :
    ∀ character ∈ encodeWith network account, ¬Blank.isBlank character ∧ character ≠ '0' :=
  fun character member => alphabet_plain character (Base58.mem_alphabet_of_encode _ _ member)

theorem address_unmarked (network : Bytes) (account : AccountId) (rest : List Char) :
    encodeWith network account ≠ '0' :: rest := by
  intro marked
  exact (address_plain network account '0' (by simp [marked])).2 rfl

def readKey? (digits : List Char) : Option AccountId :=
  match Hex.decodeBytes (Hex.textBytes digits) with
  | .ok bytes => Bytes32.ofBytes? bytes
  | .error _ => none

def read? : List Char → Option AccountId
  | '0' :: 'x' :: digits => readKey? digits
  | other => decode other

theorem read_key_iff (digits : List Char) (account : AccountId) :
    readKey? digits = some account ↔ Hex.Spells digits account.bytes := by
  rw [← Hex.decode_bytes_iff, readKey?]
  constructor
  · intro read
    split at read
    next bytes decoded => rw [decoded, Bytes32.of_bytes_eq_some read]
    next => cases read
  · intro decoded
    simp only [decoded, Bytes32.of_bytes_self]

theorem parse_eq (text : String) :
    parse text = match read? (Blank.trim text.toList) with
      | some account => .ok account
      | none => .error (String.ofList (Blank.trim text.toList)) := rfl

theorem read_iff (core : List Char) (account : AccountId) :
    read? core = some account ↔ Denotes account core := by
  unfold read?
  split
  next digits =>
    rw [read_key_iff]
    constructor
    · exact .key digits
    · intro denotes
      generalize marked : '0' :: 'x' :: digits = core at denotes
      cases denotes with
      | key other spelled =>
          obtain rfl : digits = other := by simpa using marked
          exact spelled
      | address network known => exact absurd marked.symm (address_unmarked network account _)
  next other unmarked =>
    rw [decode_iff]
    constructor
    · rintro ⟨network, known, rfl⟩
      exact .address network known
    · intro denotes
      cases denotes with
      | key digits spelled => exact absurd rfl (unmarked digits)
      | address network known => exact ⟨network, known, rfl⟩

theorem parse_iff (text : String) (account : AccountId) :
    parse text = .ok account ↔ Denotes account (Blank.trim text.toList) := by
  rw [parse_eq, ← read_iff]
  cases read? (Blank.trim text.toList) <;> simp

/-- A text that denotes no account is given back without the blanks around it. -/
theorem refused_iff (text refused : String) :
    parse text = .error refused ↔
      (∀ account, ¬Denotes account (Blank.trim text.toList)) ∧
        refused = String.ofList (Blank.trim text.toList) := by
  simp only [parse_eq, ← read_iff, ← Option.eq_none_iff_forall_ne_some]
  cases read? (Blank.trim text.toList) <;> simp [eq_comm]

theorem Denotes.trims_to_self {account : AccountId} {core : List Char}
    (denotes : Denotes account core) : Blank.TrimsTo core core := by
  apply Blank.trims_to_self
  cases denotes with
  | address network known => exact fun character member => (address_plain _ _ _ member).1
  | key digits spelled =>
      intro character member
      rcases List.mem_cons.mp member with rfl | member
      · decide
      · rcases List.mem_cons.mp member with rfl | member
        · decide
        · exact (Hex.digits_plain _ (spelled.digits _ member)).2.2

theorem denotes_text (account : AccountId) : Denotes account account.text.toList := by
  rw [AccountId.text, String.toList_ofList]
  exact .address [42] (.short 42 (by decide))

theorem parse_text (account : AccountId) : parse account.text = .ok account := by
  have denotes := denotes_text account
  rwa [parse_iff, (Blank.trim_iff _ _).mpr denotes.trims_to_self]

theorem parse_marked (account : AccountId) :
    parse (Hex.encodeMarked account.bytes) = .ok account := by
  have denotes : Denotes account (Hex.encodeMarked account.bytes).toList := by
    rw [Hex.encode_marked_chars]
    exact .key _ (Hex.encode_chars_spell account.bytes)
  rwa [parse_iff, (Blank.trim_iff _ _).mpr denotes.trims_to_self]

/-- The texts of an account are read as this account whatever blanks surround them, and all other
texts are refused. The address that is printed for an account is one of its texts, and no address
on any network is marked like a key. -/
theorem reads_exactly_account_texts :
    (∀ text account, parse text = .ok account ↔ Denotes account (Blank.trim text.toList)) ∧
    (∀ text refused, parse text = .error refused ↔
      (∀ account, ¬Denotes account (Blank.trim text.toList)) ∧
        refused = String.ofList (Blank.trim text.toList)) ∧
    (∀ account core front back, Denotes account core →
      (∀ character ∈ front, Blank.isBlank character) →
        (∀ character ∈ back, Blank.isBlank character) →
          parse (String.ofList (front ++ core ++ back)) = .ok account) ∧
    (∀ account : AccountId, Denotes account account.text.toList) ∧
    ∀ network account rest, encodeWith network account ≠ '0' :: 'x' :: rest := by
  refine ⟨parse_iff, refused_iff, ?_, denotes_text,
    fun network account rest => address_unmarked network account _⟩
  intro account core front back denotes blankFront blankBack
  have plain := denotes.trims_to_self
  have trimmed : Blank.trim (front ++ core ++ back) = core :=
    (Blank.trim_iff _ _).mpr ⟨⟨front, back, rfl, blankFront, blankBack⟩, plain.first, plain.last⟩
  rwa [parse_iff, String.toList_ofList, trimmed]

end LedgerCourier.Address
