/-!
Hexadecimal text. `decode` reads pairs of digits of either case, `encode` writes lower-case pairs,
and `decode_encode` says that what is written reads back.
-/

namespace MeshLight.Hex

/-- The value of an ASCII hex digit of either case. -/
def digit? (byte : UInt8) : Option UInt8 :=
  if 0x30 ≤ byte ∧ byte ≤ 0x39 then some (byte - 0x30)
  else if 0x61 ≤ byte ∧ byte ≤ 0x66 then some (byte - 0x57)
  else if 0x41 ≤ byte ∧ byte ≤ 0x46 then some (byte - 0x37)
  else none

/-- The lower-case digit of a value below sixteen. -/
def digit (value : UInt8) : UInt8 :=
  if value < 10 then 0x30 + value else 0x57 + value

/-- The bytes whose digit pairs are given, high digit first. -/
def decode : List UInt8 → Option (List UInt8)
  | [] => some []
  | [_] => none
  | high :: low :: rest => do
      let high ← digit? high
      let low ← digit? low
      let bytes ← decode rest
      return (16 * high + low) :: bytes

/-- Two lower-case digits for each byte. -/
def encode (bytes : List UInt8) : List UInt8 :=
  bytes.flatMap fun byte => [digit (byte / 16), digit (byte % 16)]

/-- A number after `0x`, in lower case and without leading zeros. -/
def numeral (value : Nat) : String :=
  "0x" ++ String.ofList (Nat.toDigits 16 value)

/-- A byte after `0x`, always with two digits. -/
def byteNumeral (byte : UInt8) : String :=
  "0x" ++ String.ofList ((encode [byte]).map Char.ofUInt8)

theorem digit?_digit {value : UInt8} (small : value < 16) :
    digit? (digit value) = some value := by
  have table : ∀ number : Fin 16,
      digit? (digit (UInt8.ofNat number)) = some (UInt8.ofNat number) := by
    decide
  have := table ⟨value.toNat, by simpa [UInt8.lt_iff_toNat_lt] using small⟩
  simpa using this

theorem decode_encode (bytes : List UInt8) : decode (encode bytes) = some bytes := by
  induction bytes with
  | nil => rfl
  | cons byte rest inductionHypothesis =>
      have high : byte / 16 < 16 := by
        rw [UInt8.lt_iff_toNat_lt, UInt8.toNat_div]
        have := byte.toNat_lt
        simp only [UInt8.reduceToNat]
        omega
      have low : byte % 16 < 16 := UInt8.mod_lt byte (by decide)
      have joined : 16 * (byte / 16) + byte % 16 = byte := by
        apply UInt8.toNat_inj.1
        have := byte.toNat_lt
        simp only [UInt8.toNat_add, UInt8.toNat_mul, UInt8.toNat_div, UInt8.toNat_mod,
          UInt8.reduceToNat]
        omega
      simp only [encode] at inductionHypothesis
      simp [encode, decode, digit?_digit high, digit?_digit low, inductionHypothesis, joined]

end MeshLight.Hex
