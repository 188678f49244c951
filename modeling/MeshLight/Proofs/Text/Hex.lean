import MeshLight.Text.Hex

/-!
What hexadecimal text means, said without a reader: `decode_eq_some_iff` is the agreement of the reader
with this meaning.
-/

namespace MeshLight.Hex

/-- A byte is the ASCII digit of a number below sixteen, in either case. -/
def IsDigit (byte : UInt8) (number : Nat) : Prop :=
  number < 10 ∧ byte.toNat = 0x30 + number ∨
    10 ≤ number ∧ number < 16 ∧
      (byte.toNat = 0x61 + (number - 10) ∨ byte.toNat = 0x41 + (number - 10))

/-- A text gives each of some bytes by a pair of digits, the high one first. -/
inductive Denotes : List UInt8 → List UInt8 → Prop
  | nil : Denotes [] []
  | cons {high low byte : UInt8} {highNumber lowNumber : Nat} {text bytes : List UInt8}
      (highDigit : IsDigit high highNumber)
      (lowDigit : IsDigit low lowNumber)
      (value : byte.toNat = 16 * highNumber + lowNumber)
      (rest : Denotes text bytes) :
      Denotes (high :: low :: text) (byte :: bytes)

theorem digit?_eq_some_iff {byte value : UInt8} :
    digit? byte = some value ↔ IsDigit byte value.toNat := by
  have byteLt := byte.toNat_lt
  have valueLt := value.toNat_lt
  simp only [digit?, IsDigit, UInt8.le_iff_toNat_le, UInt8.reduceToNat]
  split
  case isTrue decimal =>
    simp only [Option.some.injEq, ← UInt8.toNat_inj, UInt8.toNat_sub, UInt8.reduceToNat]
    omega
  case isFalse notDecimal =>
    split
    case isTrue lower =>
      simp only [Option.some.injEq, ← UInt8.toNat_inj, UInt8.toNat_sub, UInt8.reduceToNat]
      omega
    case isFalse notLower =>
      split
      case isTrue upper =>
        simp only [Option.some.injEq, ← UInt8.toNat_inj, UInt8.toNat_sub, UInt8.reduceToNat]
        omega
      case isFalse notUpper =>
        simp only [reduceCtorEq, false_iff]
        omega

theorem IsDigit.lt {byte : UInt8} {number : Nat} (digit : IsDigit byte number) : number < 16 := by
  rcases digit with ⟨small, _⟩ | ⟨_, small, _⟩ <;> omega

theorem digit?_of_isDigit {byte : UInt8} {number : Nat} (digit : IsDigit byte number) :
    ∃ value, digit? byte = some value ∧ value.toNat = number := by
  have toNatEq : (UInt8.ofNat number).toNat = number :=
    UInt8.toNat_ofNat_of_lt' (Nat.lt_trans digit.lt (by decide))
  refine ⟨UInt8.ofNat number, ?_, toNatEq⟩
  rw [digit?_eq_some_iff, toNatEq]
  exact digit

theorem toNat_join {high low : UInt8} (highSmall : high.toNat < 16) (lowSmall : low.toNat < 16) :
    (16 * high + low).toNat = 16 * high.toNat + low.toNat := by
  simp only [UInt8.toNat_add, UInt8.toNat_mul, UInt8.reduceToNat]
  omega

namespace Denotes

theorem of_decode : ∀ {text bytes : List UInt8}, decode text = some bytes → Denotes text bytes
  | [], bytes, read => by
      cases read
      exact .nil
  | [_], bytes, read => by
      cases read
  | high :: low :: text, bytes, read => by
      simp only [decode, Option.bind_eq_bind, Option.bind_eq_some_iff, Option.pure_def,
        Option.some.injEq] at read
      obtain ⟨highValue, highRead, lowValue, lowRead, restBytes, restRead, rfl⟩ := read
      have highDigit := digit?_eq_some_iff.1 highRead
      have lowDigit := digit?_eq_some_iff.1 lowRead
      exact .cons highDigit lowDigit (toNat_join highDigit.lt lowDigit.lt) (of_decode restRead)

theorem decode_eq {text bytes : List UInt8} (denotes : Denotes text bytes) :
    decode text = some bytes := by
  induction denotes with
  | nil =>
      rfl
  | @cons high low byte highNumber lowNumber text bytes highDigit lowDigit value rest
      inductionHypothesis =>
      obtain ⟨highValue, highRead, highEq⟩ := digit?_of_isDigit highDigit
      obtain ⟨lowValue, lowRead, lowEq⟩ := digit?_of_isDigit lowDigit
      have joined : 16 * highValue + lowValue = byte := by
        apply UInt8.toNat_inj.1
        rw [toNat_join (highEq ▸ highDigit.lt) (lowEq ▸ lowDigit.lt), value, highEq, lowEq]
      simp [decode, highRead, lowRead, inductionHypothesis, joined]

/-- Two digits stand for each byte. -/
theorem length_eq {text bytes : List UInt8} (denotes : Denotes text bytes) :
    text.length = 2 * bytes.length := by
  induction denotes with
  | nil =>
      rfl
  | cons _ _ _ _ inductionHypothesis =>
      simp only [List.length_cons, inductionHypothesis]
      omega

theorem exists_isDigit {text bytes : List UInt8} (denotes : Denotes text bytes) :
    ∀ byte ∈ text, ∃ number, IsDigit byte number := by
  induction denotes with
  | nil =>
      simp
  | cons highDigit lowDigit _ _ inductionHypothesis =>
      intro byte member
      rcases List.mem_cons.1 member with rfl | later
      · exact ⟨_, highDigit⟩
      · rcases List.mem_cons.1 later with rfl | rest
        · exact ⟨_, lowDigit⟩
        · exact inductionHypothesis byte rest

/-- Pairs of digits always stand for bytes. -/
theorem exists_of_digits : ∀ {text : List UInt8}, text.length % 2 = 0 →
    (∀ byte ∈ text, ∃ number, IsDigit byte number) → ∃ bytes, Denotes text bytes
  | [], _, _ =>
      ⟨[], .nil⟩
  | [_], even, _ => by
      simp at even
  | high :: low :: text, even, digits => by
      obtain ⟨highNumber, highDigit⟩ := digits high List.mem_cons_self
      obtain ⟨lowNumber, lowDigit⟩ := digits low (by simp)
      have restEven : text.length % 2 = 0 := by
        simp only [List.length_cons] at even
        omega
      have restDigits : ∀ byte ∈ text, ∃ number, IsDigit byte number := by
        intro byte member
        exact digits byte (by simp [member])
      obtain ⟨bytes, rest⟩ := exists_of_digits restEven restDigits
      have small : 16 * highNumber + lowNumber < 256 := by
        have highLt := highDigit.lt
        have lowLt := lowDigit.lt
        omega
      exact ⟨_, .cons highDigit lowDigit (UInt8.toNat_ofNat_of_lt' small) rest⟩

end Denotes

theorem decode_eq_some_iff {text bytes : List UInt8} :
    decode text = some bytes ↔ Denotes text bytes :=
  ⟨Denotes.of_decode, Denotes.decode_eq⟩

end MeshLight.Hex
