import LedgerCourier.Balance
import LedgerCourier.Proofs.Text.Decimal
import Mathlib.Tactic.Positivity
import Mathlib.Tactic.Ring

/-!
# Balances in a text

The whole units and the four decimals of a balance are computed apart, each with powers of ten
that may not fit. Together they are the amount in ten-thousandths of a unit, cut off below.
-/

namespace LedgerCourier.Balance

set_option autoImplicit false

/-- The text has a whole part without needless zeros, a point and four decimals, and taken
together they are the number of ten-thousandths. -/
def Shows (text : String) (tenThousandths : Nat) : Prop :=
  ∃ whole decimals : List Char, text.toList = whole ++ '.' :: decimals ∧
    Decimal.IsPlain whole ∧ decimals.length = 4 ∧
    (∀ character ∈ decimals, character.isDigit) ∧
    10000 * Nat.ofDigitChars 10 whole 0 + Nat.ofDigitChars 10 decimals 0 = tenThousandths

theorem Shows.unique {text : String} {one other : Nat} (shown : Shows text one)
    (also : Shows text other) : one = other := by
  obtain ⟨whole, decimals, split, -, four, -, rfl⟩ := shown
  obtain ⟨otherWhole, otherDecimals, otherSplit, -, otherFour, -, rfl⟩ := also
  have same : whole ++ '.' :: decimals = otherWhole ++ '.' :: otherDecimals :=
    split.symm.trans otherSplit
  obtain ⟨rfl, rest⟩ := List.append_inj' same (by simp [four, otherFour])
  obtain rfl : decimals = otherDecimals := by simpa using rest
  rfl

theorem shown_parts (whole : Nat) {fraction : Nat} (small : fraction < 10000) :
    Shows (String.ofList (Decimal.digits whole ++ '.' :: Decimal.padded 4 fraction))
      (10000 * whole + fraction) := by
  refine ⟨Decimal.digits whole, Decimal.padded 4 fraction, String.toList_ofList,
    Decimal.digits_plain whole, Decimal.padded_length (by decide) small,
    Decimal.padded_digits 4 fraction, ?_⟩
  rw [Decimal.padded_value, Decimal.digits, Nat.ofDigitChars_toDigits (by decide) (by decide)]

theorem shifted_eq {number : Nat} (fits : number < amountLimit) (exponent : Nat) :
    shifted? number exponent =
      if number * 10 ^ exponent < amountLimit then some (number * 10 ^ exponent) else none := by
  induction exponent generalizing number with
  | zero => simp [shifted?, fits]
  | succ exponent induction =>
      have power : number * 10 ^ (exponent + 1) = number * 10 * 10 ^ exponent := by ring
      have grows : number * 10 ≤ number * 10 * 10 ^ exponent :=
        Nat.le_mul_of_pos_right _ (by positivity)
      rw [shifted?, product?, power]
      by_cases next : number * 10 < amountLimit
      · rw [if_pos next]
        exact induction next
      · rw [if_neg next, if_neg (by omega)]

theorem small_power {exponent : Nat} (small : exponent ≤ 4) :
    shifted? 1 exponent = some (10 ^ exponent) := by
  have bounded : 10 ^ exponent ≤ 10 ^ 4 := Nat.pow_le_pow_right (by decide) small
  have fits : 10 ^ exponent < amountLimit := Nat.lt_of_le_of_lt bounded (by decide)
  rw [shifted_eq (by decide), Nat.one_mul, if_pos fits]

/-- The power that does not fit exceeds the amount, which it would leave nothing of. -/
theorem scaled_eq (amount : Amount) (exponent : Nat) :
    scaled? amount.units exponent = some (amount.units / 10 ^ exponent) := by
  have bounded := amount.bounded
  rw [scaled?, shifted_eq (by decide), Nat.one_mul]
  by_cases fits : 10 ^ exponent < amountLimit
  · rw [if_pos fits]
    exact if_neg (by positivity)
  · rw [if_neg fits, Nat.div_eq_of_lt (by omega)]

def tenThousandths (amount : Amount) (decimals : Nat) : Nat :=
  amount.units * 10 ^ 4 / 10 ^ decimals

theorem whole_eq (amount : Amount) (decimals : Nat) :
    scaled? amount.units decimals = some (tenThousandths amount decimals / 10000) := by
  have whole : tenThousandths amount decimals / 10000 = amount.units / 10 ^ decimals := by
    calc amount.units * 10 ^ 4 / 10 ^ decimals / 10000
        = amount.units * 10 ^ 4 / (10 ^ decimals * 10 ^ 4) := Nat.div_div_eq_div_mul _ _ _
      _ = amount.units / 10 ^ decimals := Nat.mul_div_mul_right _ _ (by decide)
  rw [whole, scaled_eq]

theorem fraction_eq (amount : Amount) (decimals : Nat) :
    fraction? amount decimals = some (tenThousandths amount decimals % 10000) := by
  rw [fraction?]
  by_cases many : 4 ≤ decimals
  · have power : 10 ^ decimals = 10 ^ (decimals - 4) * 10 ^ 4 := by
      rw [← pow_add, Nat.sub_add_cancel many]
    have known : amount.units / 10 ^ (decimals - 4) = tenThousandths amount decimals := by
      rw [tenThousandths, power, Nat.mul_div_mul_right _ _ (by decide)]
    rw [if_pos many, scaled_eq, known]
    rfl
  · -- With fewer than four decimals nothing is cut off, and the division leaves no remainder.
    have power : 10 ^ 4 = 10 ^ (4 - decimals) * 10 ^ decimals := by
      rw [← pow_add, Nat.sub_add_cancel (by omega)]
    have positive : 0 < 10 ^ decimals := by positivity
    have known : amount.units * 10 ^ (4 - decimals) = tenThousandths amount decimals := by
      rw [tenThousandths, power, ← Nat.mul_assoc, Nat.mul_div_cancel _ positive]
    have fraction : amount.units % 10 ^ decimals * 10 ^ (4 - decimals) =
        tenThousandths amount decimals % 10000 := by
      rw [← known, ← Nat.mul_mod_mul_right, Nat.mul_comm (10 ^ decimals), ← power]
      rfl
    have fits : tenThousandths amount decimals % 10000 < amountLimit :=
      Nat.lt_trans (Nat.mod_lt _ (by decide)) (by decide)
    rw [if_neg many, small_power (by omega), small_power (by omega)]
    simp only [Option.bind_eq_bind, Option.bind_some, remainder?, if_neg positive.ne', product?,
      fraction, if_pos fits]

theorem text_eq (amount : Amount) (decimals : Nat) :
    text? amount decimals = some (text amount decimals) ∧
      Shows (text amount decimals) (tenThousandths amount decimals) := by
  let number := tenThousandths amount decimals
  have shown : text? amount decimals = some (String.ofList
      (Decimal.digits (number / 10000) ++ '.' :: Decimal.padded 4 (number % 10000))) := by
    rw [text?, whole_eq, fraction_eq]
    rfl
  have parts := shown_parts (number / 10000) (Nat.mod_lt number (by decide))
  rw [Nat.div_add_mod] at parts
  rw [text, shown]
  exact ⟨rfl, parts⟩

/-- The computation never breaks down, and what it shows is the exact balance, cut off behind the
fourth decimal. A larger amount is never shown as a smaller number. -/
theorem balance_is_exact_to_four_decimals (decimals : Nat) :
    (∀ amount : Amount, text? amount decimals = some (text amount decimals) ∧
      Shows (text amount decimals) (amount.units * 10 ^ 4 / 10 ^ decimals)) ∧
    ∀ smaller larger : Amount, smaller.units ≤ larger.units →
      ∀ low high, Shows (text smaller decimals) low → Shows (text larger decimals) high →
        low ≤ high := by
  refine ⟨fun amount => text_eq amount decimals, ?_⟩
  intro smaller larger less low high shownLow shownHigh
  rw [shownLow.unique (text_eq smaller decimals).2, shownHigh.unique (text_eq larger decimals).2]
  exact Nat.div_le_div_right (Nat.mul_le_mul_right _ less)

/-- The largest amount with a unit that has more than 128 bits. -/
theorem largest_amount_keeps_its_decimals :
    let largest : Amount := ⟨amountLimit - 1, by decide⟩
    text largest 40 = "0.0340" ∧ Shows "0.0340" 340 ∧
      ∀ low, Shows (text Amount.zero 40) low → low ≤ 340 := by
  intro largest
  obtain ⟨shown, ordered⟩ := balance_is_exact_to_four_decimals 40
  have same : text largest 40 = "0.0340" := by decide
  have number : largest.units * 10 ^ 4 / 10 ^ 40 = 340 := by decide
  have exact : Shows "0.0340" 340 := same ▸ number ▸ (shown largest).2
  refine ⟨same, exact, fun low shownLow => ?_⟩
  exact ordered Amount.zero largest (Nat.zero_le _) low 340 shownLow (same ▸ exact)

end LedgerCourier.Balance
