import MeshLight.Text.Decimal
import Mathlib.Algebra.Group.Nat.Defs
import Mathlib.Data.List.Induction

/-!
What decimal text means, said without a reader: `decode_eq_some_iff` is the agreement of the reader with
this meaning.
-/

namespace MeshLight.Decimal

/-- A byte is the ASCII digit of a number below ten. -/
def IsDigitOf (byte : UInt8) (number : Nat) : Prop :=
  number < 10 ∧ byte.toNat = 0x30 + number

/-- A text of one or more digits stands for a number, most significant digit first. -/
inductive Denotes : List UInt8 → Nat → Prop
  | single {byte : UInt8} {number : Nat} (digit : IsDigitOf byte number) : Denotes [byte] number
  | snoc {text : List UInt8} {byte : UInt8} {number last : Nat}
      (front : Denotes text number)
      (digit : IsDigitOf byte last) :
      Denotes (text ++ [byte]) (10 * number + last)

theorem isDigit_iff {byte : UInt8} :
    isDigit byte = true ↔ IsDigitOf byte (byte.toNat - 0x30) := by
  simp only [isDigit, Bool.and_eq_true, decide_eq_true_eq, UInt8.le_iff_toNat_le,
    UInt8.reduceToNat, IsDigitOf]
  omega

theorem IsDigitOf.isDigit {byte : UInt8} {number : Nat} (digit : IsDigitOf byte number) :
    isDigit byte = true := by
  rw [isDigit_iff]
  simp only [IsDigitOf] at digit ⊢
  omega

theorem IsDigitOf.sub_eq {byte : UInt8} {number : Nat} (digit : IsDigitOf byte number) :
    byte.toNat - 0x30 = number := by
  simp only [IsDigitOf] at digit
  omega

namespace Denotes

theorem ne_nil {text : List UInt8} {number : Nat} (denotes : Denotes text number) : text ≠ [] := by
  cases denotes <;> simp

theorem all_isDigit {text : List UInt8} {number : Nat} (denotes : Denotes text number) :
    text.all isDigit = true := by
  induction denotes with
  | single digit =>
      simp [digit.isDigit]
  | snoc _ digit inductionHypothesis =>
      simp [inductionHypothesis, digit.isDigit]

theorem value_eq {text : List UInt8} {number : Nat} (denotes : Denotes text number) :
    value text = number := by
  induction denotes with
  | single digit =>
      simp [value, digit.sub_eq]
  | snoc _ digit inductionHypothesis =>
      rw [value_append_singleton, inductionHypothesis, digit.sub_eq]

theorem of_all_isDigit {text : List UInt8} (nonempty : text ≠ [])
    (digits : text.all isDigit = true) : Denotes text (value text) := by
  induction text using List.reverseRecOn with
  | nil =>
      exact absurd rfl nonempty
  | append_singleton front byte inductionHypothesis =>
      rw [List.all_append, Bool.and_eq_true] at digits
      have digit : IsDigitOf byte (byte.toNat - 0x30) := by
        apply isDigit_iff.1
        simpa using digits.2
      by_cases alone : front = []
      · subst alone
        simpa [value] using Denotes.single digit
      · rw [value_append_singleton]
        exact .snoc (inductionHypothesis alone digits.1) digit

end Denotes

theorem decode_eq_some_iff {text : List UInt8} {number : Nat} :
    decode text = some number ↔ Denotes text number := by
  constructor
  · intro read
    rw [decode] at read
    split at read
    case isTrue wellFormed =>
      cases read
      exact .of_all_isDigit wellFormed.1 wellFormed.2
    case isFalse =>
      cases read
  · intro denotes
    rw [decode, if_pos ⟨denotes.ne_nil, denotes.all_isDigit⟩, denotes.value_eq]

/-- Every digit that is written multiplies by ten what can be told apart. -/
theorem length_encode_le {number width : Nat} (small : number < 10 ^ (width + 1)) :
    (encode number).length ≤ width + 1 := by
  induction width generalizing number with
  | zero =>
      rw [encode, if_pos (by simpa using small)]
      simp
  | succ width inductionHypothesis =>
      rw [encode]
      split
      · simp
      · have front : number / 10 < 10 ^ (width + 1) := by
          apply Nat.div_lt_of_lt_mul
          rw [Nat.mul_comm, ← Nat.pow_succ]
          exact small
        have frontLength := inductionHypothesis front
        simp only [List.length_append, List.length_singleton]
        omega

end MeshLight.Decimal
