import MeshLight.Command.Printer
import MeshLight.Proofs.Command.Grammar

/-!
Printed commands. What is printed for a command is written by the grammar and fits a message, so that
every command that leaves the other group dark is the reading of some text.
-/

namespace MeshLight

/-! ## Plain text -/

/-- ASCII characters are encoded by themselves. -/
theorem utf8_ofList_map {bytes : List UInt8} (ascii : ∀ byte ∈ bytes, byte.toNat < 128) :
    (String.ofList (bytes.map Char.ofUInt8)).toUTF8.data.toList = bytes := by
  rw [String.toUTF8_eq_toByteArray, String.toByteArray_ofList]
  induction bytes with
  | nil =>
      rfl
  | cons byte rest inductionHypothesis =>
      have plain := ascii byte List.mem_cons_self
      have value : (Char.ofUInt8 byte).val = byte.toUInt32 := rfl
      have single : (Char.ofUInt8 byte).utf8Size = 1 := by
        rw [Char.utf8Size_eq_one_iff, value, UInt32.le_iff_toNat_le, UInt8.toNat_toUInt32]
        simp only [UInt32.reduceToNat]
        omega
      have later := inductionHypothesis fun other member =>
        ascii other (List.mem_cons_of_mem byte member)
      rw [List.map_cons, List.utf8Encode_cons, List.utf8Encode_singleton,
        String.utf8EncodeChar_eq_singleton single, value]
      simp [later]

namespace Hex

theorem Denotes.of_encode (bytes : List UInt8) : Denotes (encode bytes) bytes :=
  decode_eq_some_iff.1 (decode_encode bytes)

theorem IsDigit.lt_128 {byte : UInt8} {number : Nat} (digit : IsDigit byte number) :
    byte.toNat < 128 := by
  rcases digit with ⟨small, value⟩ | ⟨_, small, value⟩ <;> omega

end Hex

namespace Decimal

theorem Denotes.of_encode (number : Nat) : Denotes (encode number) number :=
  decode_eq_some_iff.1 (decode_encode number)

theorem IsDigitOf.lt_128 {byte : UInt8} {number : Nat} (digit : IsDigitOf byte number) :
    byte.toNat < 128 := by
  obtain ⟨small, value⟩ := digit
  omega

end Decimal

namespace Command

/-- Every level of the command leaves the other group dark. -/
def IsDarkOutside (group : Group) : Command → Prop
  | limit _ level => level.IsDarkOutside group
  | play transition =>
      transition.start.IsDarkOutside group ∧ transition.stop.IsDarkOutside group

theorem Writes.isDarkOutside {group : Group} {bytes : List UInt8} {command : Command}
    (writes : Writes group bytes command) : command.IsDarkOutside group := by
  cases writes with
  | limit _ levelWritten =>
      exact levelWritten.dark
  | play _ startWritten stopWritten _ =>
      exact ⟨startWritten.dark, stopWritten.dark⟩

theorem Writes.head?_eq {group : Group} {bytes : List UInt8} {command : Command}
    (writes : Writes group bytes command) : bytes.head? = some command.code.byte := by
  cases writes with
  | limit announced _ =>
      rw [List.head?_cons, Command.code, limit_byte_iff.2 announced]
  | play announced _ _ _ =>
      rw [List.head?_cons, Command.code, play_byte_iff.2 announced]

/-! ## Bytes of a command -/

theorem WritesLevel.of_levelField {group : Group} {level : Level}
    (dark : level.IsDarkOutside group) : WritesLevel group (levelField group level) level where
  digits := .of_encode _
  dark := dark

theorem Writes.of_bytes {group : Group} {command : Command}
    (dark : command.IsDarkOutside group) : Writes group (command.bytes group) command := by
  cases command with
  | limit source level =>
      rw [bytes, writtenFields, List.intercalate_singleton]
      exact .limit (limit_byte_iff.1 rfl) (.of_levelField dark)
  | play transition =>
      rw [bytes, writtenFields, intercalate_three]
      exact .play (play_byte_iff.1 rfl) (.of_levelField dark.1) (.of_levelField dark.2)
        (.of_encode _)

theorem levelWidth_le (group : Group) : levelWidth group ≤ 6 := by
  cases group <;> decide

theorem length_levelField (group : Group) (level : Level) :
    (levelField group level).length ≤ 6 := by
  have digits := (Hex.Denotes.of_encode (level.components group)).length_eq
  rw [Level.components, List.length_map] at digits
  exact digits ▸ levelWidth_le group

theorem length_bytes_lt (group : Group) (command : Command) :
    (command.bytes group).length < Payload.capacity := by
  cases command with
  | limit source level =>
      have width := length_levelField group level
      rw [bytes, writtenFields, List.intercalate_singleton]
      simp only [List.length_cons, Payload.capacity]
      omega
  | play transition =>
      have startWidth := length_levelField group transition.start
      have stopWidth := length_levelField group transition.stop
      have durationWidth : (Decimal.encode transition.durationMs.toNat).length ≤ 9 + 1 :=
        Decimal.length_encode_le (Nat.lt_trans transition.durationMs.toNat_lt (by decide))
      rw [bytes, writtenFields, intercalate_three]
      simp only [List.length_cons, List.length_append, Payload.capacity]
      omega

theorem WritesLevel.ascii {group : Group} {field : List UInt8} {level : Level}
    (writes : WritesLevel group field level) : ∀ byte ∈ field, byte.toNat < 128 := by
  intro byte member
  obtain ⟨number, digit⟩ := writes.digits.exists_isDigit byte member
  exact digit.lt_128

theorem ascii_of_denotes {field : List UInt8} {number : Nat}
    (denotes : Decimal.Denotes field number) : ∀ byte ∈ field, byte.toNat < 128 := by
  intro byte member
  have digit := List.all_eq_true.1 denotes.all_isDigit byte member
  exact (Decimal.isDigit_iff.1 digit).lt_128

theorem byte_lt_128 (code : Code) : code.byte.toNat < 128 := by
  rcases code with source | looping
  · cases source <;> decide
  · cases looping <;> decide

theorem comma_lt_128 : comma.toNat < 128 := by
  decide

theorem Writes.ascii {group : Group} {bytes : List UInt8} {command : Command}
    (writes : Writes group bytes command) : ∀ byte ∈ bytes, byte.toNat < 128 := by
  cases writes with
  | @limit _ source _ _ announced levelWritten =>
      have digitAscii := byte_lt_128 (.limit source)
      rw [limit_byte_iff.2 announced] at digitAscii
      simp only [List.forall_mem_cons]
      exact ⟨digitAscii, comma_lt_128, levelWritten.ascii⟩
  | @play _ _ _ _ transition announced startWritten stopWritten durationWritten =>
      have digitAscii := byte_lt_128 (.play transition.looping)
      rw [play_byte_iff.2 announced] at digitAscii
      have durationAscii := ascii_of_denotes durationWritten
      simp only [List.forall_mem_cons, List.forall_mem_append]
      exact ⟨digitAscii, comma_lt_128, startWritten.ascii, comma_lt_128, stopWritten.ascii,
        comma_lt_128, durationAscii⟩

/-! ## Texts -/

theorem parse_print {group : Group} {command : Command} (dark : command.IsDarkOutside group) :
    parse group (print group command) = .ok command := by
  have writes := Writes.of_bytes dark
  rw [parse, print, utf8_ofList_map writes.ascii]
  exact writes.parseBytes_eq (length_bytes_lt group command)

theorem length_utf8 (text : String) : text.toUTF8.data.toList.length = text.utf8ByteSize := by
  rw [Array.length_toList, String.toUTF8_eq_toByteArray, ← String.size_toByteArray]
  rfl

theorem parse_eq_ok_iff {group : Group} {text : String} {command : Command} :
    parse group text = .ok command ↔
      text.utf8ByteSize < Payload.capacity ∧ Writes group text.toUTF8.data.toList command := by
  rw [parse, parseBytes_eq_ok_iff, length_utf8]

/-! ## Both groups -/

theorem Writes.exists_firstField {group : Group} {bytes : List UInt8} {command : Command}
    (writes : Writes group bytes command) :
    ∃ field, ((bytes.drop 2).splitOn comma).head? = some field ∧
      field.length = levelWidth group := by
  cases writes with
  | @limit _ _ field _ _ levelWritten =>
      refine ⟨field, ?_, levelWritten.length_eq⟩
      simp [List.splitOn_eq_singleton levelWritten.comma_notMem]
  | @play _ start _ _ _ _ startWritten _ _ =>
      refine ⟨start, ?_, startWritten.length_eq⟩
      simp [List.splitOn_append_cons_self_of_not_mem startWritten.comma_notMem]

/-- The groups disagree about how wide the first level is. -/
theorem not_writes_both {bytes : List UInt8} {first second : Command}
    (color : Writes .color bytes first) : ¬ Writes .white bytes second := by
  intro white
  obtain ⟨colorField, colorHead, colorWidth⟩ := color.exists_firstField
  obtain ⟨whiteField, whiteHead, whiteWidth⟩ := white.exists_firstField
  rw [colorHead, Option.some.injEq] at whiteHead
  rw [← whiteHead, colorWidth] at whiteWidth
  exact absurd whiteWidth (by decide)

/-- A text is read as a command exactly when it is shorter than fifty bytes and the grammar writes the
command with it. The first byte announces the command, every command that leaves the other group dark
has a text, and no text means something to both groups. -/
theorem texts_read_as_written :
    (∀ group text command,
      parse group text = .ok command ↔
        text.utf8ByteSize < 50 ∧ Writes group text.toUTF8.data.toList command) ∧
    (∀ group text command,
      parse group text = .ok command →
        text.toUTF8.data.toList.head? = some command.code.byte) ∧
    (∀ group command,
      (∃ text, parse group text = .ok command) ↔ command.IsDarkOutside group) ∧
    ∀ text first second,
      ¬ (parse .color text = .ok first ∧ parse .white text = .ok second) := by
  refine ⟨?_, ?_, ?_, ?_⟩
  · intro group text command
    exact parse_eq_ok_iff
  · intro group text command read
    exact (parse_eq_ok_iff.1 read).2.head?_eq
  · intro group command
    constructor
    · rintro ⟨text, read⟩
      exact (parse_eq_ok_iff.1 read).2.isDarkOutside
    · intro dark
      exact ⟨print group command, parse_print dark⟩
  · rintro text first second ⟨color, white⟩
    exact not_writes_both (parse_eq_ok_iff.1 color).2 (parse_eq_ok_iff.1 white).2

example : parse .white "3,0A,ff,0070" =
    .ok (.play { start := .ofWhite 10, stop := .ofWhite 255, durationMs := 70, looping := true }) := by
  decide

end Command

end MeshLight
