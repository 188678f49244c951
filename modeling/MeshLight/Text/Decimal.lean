/-!
Unsigned decimal text: one or more ASCII digits, leading zeros allowed. `decode_encode` says that a
number reads back from the digits it is written with.
-/

namespace MeshLight.Decimal

def isDigit (byte : UInt8) : Bool :=
  0x30 ≤ byte && byte ≤ 0x39

/-- The number that a run of digits denotes, most significant digit first. -/
def value (digits : List UInt8) : Nat :=
  digits.foldl (fun total digit => 10 * total + (digit.toNat - 0x30)) 0

/-- Reads a number. An empty text and a text with any other byte are refused. -/
def decode (text : List UInt8) : Option Nat :=
  if text ≠ [] ∧ text.all isDigit then some (value text) else none

def digit (number : Nat) : UInt8 :=
  UInt8.ofNat (0x30 + number)

/-- The shortest digits of a number. -/
def encode (number : Nat) : List UInt8 :=
  if number < 10 then [digit number]
  else encode (number / 10) ++ [digit (number % 10)]

theorem value_append_singleton (digits : List UInt8) (digit : UInt8) :
    value (digits ++ [digit]) = 10 * value digits + (digit.toNat - 0x30) := by
  simp [value]

theorem toNat_digit {number : Nat} (small : number < 10) :
    (digit number).toNat = 0x30 + number := by
  rw [digit, UInt8.toNat_ofNat_of_lt' (by simp [UInt8.size]; omega)]

theorem isDigit_digit {number : Nat} (small : number < 10) : isDigit (digit number) := by
  simp only [isDigit, Bool.and_eq_true, decide_eq_true_eq, UInt8.le_iff_toNat_le,
    toNat_digit small, UInt8.reduceToNat]
  omega

theorem encode_ne_nil (number : Nat) : encode number ≠ [] := by
  rw [encode]
  split <;> simp

theorem all_isDigit_encode (number : Nat) : (encode number).all isDigit := by
  induction number using encode.induct with
  | case1 number small =>
      rw [encode, if_pos small]
      simp [isDigit_digit small]
  | case2 number large inductionHypothesis =>
      rw [encode, if_neg large, List.all_append, inductionHypothesis]
      simp [isDigit_digit (Nat.mod_lt number (by decide))]

theorem value_encode (number : Nat) : value (encode number) = number := by
  induction number using encode.induct with
  | case1 number small =>
      rw [encode, if_pos small]
      simp [value, toNat_digit small]
  | case2 number large inductionHypothesis =>
      rw [encode, if_neg large, value_append_singleton, inductionHypothesis,
        toNat_digit (Nat.mod_lt number (by decide))]
      omega

theorem decode_encode (number : Nat) : decode (encode number) = some number := by
  rw [decode, if_pos ⟨encode_ne_nil number, all_isDigit_encode number⟩, value_encode]

end MeshLight.Decimal
