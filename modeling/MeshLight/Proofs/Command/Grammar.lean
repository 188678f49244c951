import MeshLight.Command.Parser
import MeshLight.Proofs.Text.Decimal
import MeshLight.Proofs.Text.Hex

/-!
The grammar of commands, said without a reader: which bytes write which command for a group. The reader
accepts exactly what the grammar writes, provided that it is short enough for a message.
-/

namespace MeshLight

namespace Level

/-- No channel outside the group is lit. -/
def IsDarkOutside (level : Level) (group : Group) : Prop :=
  ∀ channel : Channel, channel.group ≠ group → level.component channel = 0

theorem isDarkOutside_iff {level : Level} {group : Group} :
    level.IsDarkOutside group ↔ off.withGroup group level = level := by
  constructor
  · intro dark
    ext channel
    rw [component_withGroup]
    split
    · rfl
    case isFalse outside =>
      rw [component_off, dark channel outside]
  · intro same channel outside
    rw [← same, component_withGroup, if_neg outside, component_off]

theorem isDarkOutside_ofComponents (group : Group) (brightness : List UInt8) :
    (ofComponents group brightness).IsDarkOutside group := by
  intro channel outside
  unfold ofComponents
  split <;> cases channel <;> first | rfl | exact absurd rfl outside

theorem components_ofComponents {group : Group} {brightness : List UInt8}
    (complete : brightness.length = group.channels.length) :
    (ofComponents group brightness).components group = brightness := by
  match group, brightness, complete with
  | .color, [_, _, _], _ => rfl
  | .white, [_], _ => rfl

end Level

namespace Command

/-! ## What is written -/

/-- Two digits for each channel of the group. The field says nothing of the other channels. -/
structure WritesLevel (group : Group) (field : List UInt8) (level : Level) : Prop where
  digits : Hex.Denotes field (level.components group)
  dark : level.IsDarkOutside group

/-- The bytes write the command for the group. -/
inductive Writes (group : Group) : List UInt8 → Command → Prop
  | limit {digit : UInt8} {source : Source} {field : List UInt8} {level : Level}
      (code : digit = 0x30 ∧ source = .external ∨ digit = 0x31 ∧ source = .button)
      (levelWritten : WritesLevel group field level) :
      Writes group (digit :: comma :: field) (.limit source level)
  | play {digit : UInt8} {start stop duration : List UInt8} {transition : Transition}
      (code : digit = 0x32 ∧ transition.looping = false ∨
        digit = 0x33 ∧ transition.looping = true)
      (startWritten : WritesLevel group start transition.start)
      (stopWritten : WritesLevel group stop transition.stop)
      (durationWritten : Decimal.Denotes duration transition.durationMs.toNat) :
      Writes group (digit :: comma :: (start ++ comma :: (stop ++ comma :: duration)))
        (.play transition)

/-! ## Single fields -/

theorem WritesLevel.length_eq {group : Group} {field : List UInt8} {level : Level}
    (writes : WritesLevel group field level) : field.length = levelWidth group := by
  rw [writes.digits.length_eq, Level.components, List.length_map, levelWidth]

theorem parseLevel_eq_ok_iff {group : Group} {field : List UInt8} {level : Level} :
    parseLevel group field = .ok level ↔ WritesLevel group field level := by
  constructor
  · intro read
    rw [parseLevel] at read
    split at read
    · cases read
    case isFalse width =>
      split at read
      case h_1 components decoded =>
        cases read
        have digits := Hex.decode_eq_some_iff.1 decoded
        have complete : components.length = group.channels.length := by
          have double := digits.length_eq
          rw [not_not.1 width, levelWidth] at double
          omega
        refine ⟨?_, Level.isDarkOutside_ofComponents group components⟩
        rw [Level.components_ofComponents complete]
        exact digits
      · cases read
  · intro writes
    rw [parseLevel, if_neg (not_not.2 writes.length_eq), writes.digits.decode_eq]
    simp only [Level.ofComponents_components, Level.isDarkOutside_iff.1 writes.dark]

theorem parseDuration_eq_ok_iff {field : List UInt8} {durationMs : UInt32} :
    parseDuration field = .ok durationMs ↔ Decimal.Denotes field durationMs.toNat := by
  constructor
  · intro read
    rw [parseDuration] at read
    split at read
    case h_1 number decoded =>
      split at read
      case isTrue fits =>
        cases read
        rw [UInt32.toNat_ofNat_of_lt' fits]
        exact Decimal.decode_eq_some_iff.1 decoded
      · cases read
    · cases read
  · intro denotes
    rw [parseDuration, Decimal.decode_eq_some_iff.2 denotes]
    simp only [UInt32.toNat_lt_size, if_pos, UInt32.ofNat_toNat]

theorem WritesLevel.comma_notMem {group : Group} {field : List UInt8} {level : Level}
    (writes : WritesLevel group field level) : comma ∉ field := by
  intro member
  obtain ⟨number, digit⟩ := writes.digits.exists_isDigit comma member
  rcases digit with ⟨small, value⟩ | ⟨large, small, value⟩
  all_goals
    rw [show comma.toNat = 0x2c from rfl] at value
    omega

theorem comma_notMem_of_denotes {field : List UInt8} {number : Nat}
    (denotes : Decimal.Denotes field number) : comma ∉ field := by
  intro member
  have digit := List.all_eq_true.1 denotes.all_isDigit comma member
  exact absurd digit (by decide)

/-! ## Fields between commas -/

theorem fields_comma_cons {parts : List (List UInt8)}
    (plain : ∀ part ∈ parts, comma ∉ part)
    (nonempty : [comma].intercalate parts ≠ []) :
    fields (comma :: [comma].intercalate parts) = parts := by
  have partsNe : parts ≠ [] := by
    rintro rfl
    exact nonempty rfl
  obtain ⟨first, rest, split⟩ := List.exists_cons_of_ne_nil nonempty
  rw [split, fields, ← split, List.splitOn_intercalate comma plain partsNe]

theorem intercalate_three (first second third : List UInt8) :
    [comma].intercalate [first, second, third] =
      first ++ comma :: (second ++ comma :: third) := by
  simp [List.intercalate_cons_cons]

/-- Where there are fields, they follow a byte whose place is the separator's. -/
theorem exists_of_fields_ne_nil {rest : List UInt8} (nonempty : fields rest ≠ []) :
    ∃ separator, rest = separator :: [comma].intercalate (fields rest) ∧ 1 < rest.length := by
  match rest, nonempty with
  | [], nonempty => exact absurd rfl nonempty
  | [_], nonempty => exact absurd rfl nonempty
  | separator :: first :: rest, _ =>
      refine ⟨separator, ?_, ?_⟩
      · rw [fields, List.intercalate_splitOn]
      · simp

theorem bind_eq_ok_iff {α β : Type} {result : Except ParseError α}
    {next : α → Except ParseError β} {value : β} :
    (result >>= next) = .ok value ↔ ∃ first, result = .ok first ∧ next first = .ok value := by
  cases result with
  | error reason =>
      constructor
      · intro impossible
        cases impossible
      · rintro ⟨first, impossible, _⟩
        cases impossible
  | ok first =>
      constructor
      · intro rest
        exact ⟨first, rfl, rest⟩
      · rintro ⟨_, same, rest⟩
        cases same
        exact rest

theorem parseFields_limit_eq_ok_iff {group : Group} {source : Source}
    {parts : List (List UInt8)} {command : Command} :
    parseFields group (.limit source) parts = .ok command ↔
      ∃ field level, parts = [field] ∧ command = .limit source level ∧
        WritesLevel group field level := by
  constructor
  · intro read
    match parts, read with
    | [field], read =>
        rw [parseFields, bind_eq_ok_iff] at read
        obtain ⟨level, levelRead, written⟩ := read
        cases written
        exact ⟨field, level, rfl, rfl, parseLevel_eq_ok_iff.1 levelRead⟩
  · rintro ⟨field, level, rfl, rfl, written⟩
    rw [parseFields, parseLevel_eq_ok_iff.2 written]
    rfl

theorem parseFields_play_eq_ok_iff {group : Group} {looping : Bool}
    {parts : List (List UInt8)} {command : Command} :
    parseFields group (.play looping) parts = .ok command ↔
      ∃ start stop duration transition, parts = [start, stop, duration] ∧
        command = .play transition ∧ transition.looping = looping ∧
          WritesLevel group start transition.start ∧
            WritesLevel group stop transition.stop ∧
              Decimal.Denotes duration transition.durationMs.toNat := by
  constructor
  · intro read
    match parts, read with
    | [start, stop, duration], read =>
        rw [parseFields, bind_eq_ok_iff] at read
        obtain ⟨startLevel, startRead, read⟩ := read
        obtain ⟨stopLevel, stopRead, read⟩ := bind_eq_ok_iff.1 read
        obtain ⟨durationMs, durationRead, read⟩ := bind_eq_ok_iff.1 read
        cases read
        exact ⟨start, stop, duration, _, rfl, rfl, rfl, parseLevel_eq_ok_iff.1 startRead,
          parseLevel_eq_ok_iff.1 stopRead, parseDuration_eq_ok_iff.1 durationRead⟩
  · rintro ⟨start, stop, duration, transition, rfl, rfl, rfl, startWritten, stopWritten,
      durationWritten⟩
    rw [parseFields, parseLevel_eq_ok_iff.2 startWritten, parseLevel_eq_ok_iff.2 stopWritten,
      parseDuration_eq_ok_iff.2 durationWritten]
    rfl

theorem length_le_of_parseFields {group : Group} {code : Code} {parts : List (List UInt8)}
    {command : Command} (read : parseFields group code parts = .ok command) :
    parts ≠ [] ∧ parts.length ≤ maxFieldCount := by
  cases code with
  | limit source =>
      obtain ⟨field, level, rfl, _⟩ := parseFields_limit_eq_ok_iff.1 read
      simp [maxFieldCount]
  | play looping =>
      obtain ⟨start, stop, duration, transition, rfl, _⟩ := parseFields_play_eq_ok_iff.1 read
      simp [maxFieldCount]

/-! ## Whole commands -/

theorem limit_byte_iff {source : Source} {digit : UInt8} :
    (Code.limit source).byte = digit ↔
      digit = 0x30 ∧ source = .external ∨ digit = 0x31 ∧ source = .button := by
  cases source <;> simp [Code.byte, eq_comm]

theorem play_byte_iff {looping : Bool} {digit : UInt8} :
    (Code.play looping).byte = digit ↔
      digit = 0x32 ∧ looping = false ∨ digit = 0x33 ∧ looping = true := by
  cases looping <;> simp [Code.byte, eq_comm]

theorem parseBytes_cons_eq_ok_iff {group : Group} {digit : UInt8} {rest : List UInt8}
    {command : Command} :
    parseBytes group (digit :: rest) = .ok command ↔
      rest.length + 1 < Payload.capacity ∧
        (2 < rest.length + 1 → rest.head? = some comma) ∧
          ∃ code, code.byte = digit ∧ parseFields group code (fields rest) = .ok command := by
  simp only [parseBytes]
  by_cases long : Payload.capacity ≤ rest.length + 1
  · simp [long, Nat.not_lt_of_le long]
  · have short := Nat.lt_of_not_le long
    by_cases unseparated : 2 < rest.length + 1 ∧ rest.head? ≠ some comma
    · simp [long, unseparated]
    · have separated : 2 < rest.length + 1 → rest.head? = some comma := by
        intro more
        exact Decidable.byContradiction fun other => unseparated ⟨more, other⟩
      rw [if_neg long, if_neg unseparated]
      constructor
      · intro read
        refine ⟨short, separated, ?_⟩
        split at read
        · cases read
        case h_2 code announced =>
          split at read
          · cases read
          · exact ⟨code, Code.byte_of_ofByte? announced, read⟩
      · rintro ⟨_, _, code, rfl, read⟩
        have few := (length_le_of_parseFields read).2
        simp only [Code.ofByte?_byte, if_neg (Nat.not_lt_of_le few)]
        exact read

/-- The checks on the whole text leave a code byte, a comma and the fields of the code. -/
theorem exists_of_parseBytes {group : Group} {bytes : List UInt8} {command : Command}
    (read : parseBytes group bytes = .ok command) :
    bytes.length < Payload.capacity ∧
      ∃ code parts, parseFields group code parts = .ok command ∧
        bytes = code.byte :: comma :: [comma].intercalate parts := by
  match bytes, read with
  | digit :: rest, read =>
      obtain ⟨short, separated, code, announced, fieldsRead⟩ := parseBytes_cons_eq_ok_iff.1 read
      refine ⟨short, code, fields rest, fieldsRead, ?_⟩
      obtain ⟨separator, split, long⟩ :=
        exists_of_fields_ne_nil (length_le_of_parseFields fieldsRead).1
      have isComma := separated (Nat.succ_lt_succ long)
      rw [split, List.head?_cons, Option.some.injEq] at isComma
      rw [isComma] at split
      rw [announced, ← split]

theorem parseBytes_of_parseFields {group : Group} {code : Code} {parts : List (List UInt8)}
    {command : Command}
    (read : parseFields group code parts = .ok command)
    (plain : ∀ part ∈ parts, comma ∉ part)
    (nonempty : [comma].intercalate parts ≠ [])
    (short : ([comma].intercalate parts).length + 2 < Payload.capacity) :
    parseBytes group (code.byte :: comma :: [comma].intercalate parts) = .ok command := by
  rw [parseBytes_cons_eq_ok_iff, fields_comma_cons plain nonempty]
  exact ⟨short, fun _ => rfl, code, rfl, read⟩

theorem Writes.of_parseBytes {group : Group} {bytes : List UInt8} {command : Command}
    (read : parseBytes group bytes = .ok command) : Writes group bytes command := by
  obtain ⟨_, code, parts, fieldsRead, rfl⟩ := exists_of_parseBytes read
  cases code with
  | limit source =>
      obtain ⟨field, level, rfl, rfl, written⟩ := parseFields_limit_eq_ok_iff.1 fieldsRead
      rw [List.intercalate_singleton]
      exact .limit (limit_byte_iff.1 rfl) written
  | play looping =>
      obtain ⟨start, stop, duration, transition, rfl, rfl, rfl, startWritten, stopWritten,
        durationWritten⟩ := parseFields_play_eq_ok_iff.1 fieldsRead
      rw [intercalate_three]
      exact .play (play_byte_iff.1 rfl) startWritten stopWritten durationWritten

theorem WritesLevel.ne_nil {group : Group} {field : List UInt8} {level : Level}
    (writes : WritesLevel group field level) : field ≠ [] := by
  rintro rfl
  have width := writes.length_eq
  cases group <;> cases width

theorem Writes.parseBytes_eq {group : Group} {bytes : List UInt8} {command : Command}
    (writes : Writes group bytes command) (short : bytes.length < Payload.capacity) :
    parseBytes group bytes = .ok command := by
  cases writes with
  | @limit digit source field level code written =>
      have read : parseFields group (.limit source) [field] = .ok (.limit source level) :=
        parseFields_limit_eq_ok_iff.2 ⟨field, level, rfl, rfl, written⟩
      have joined : [comma].intercalate [field] = field := List.intercalate_singleton
      rw [← limit_byte_iff.2 code]
      rw [← joined] at short ⊢
      refine parseBytes_of_parseFields read ?_ ?_ short
      · simpa using written.comma_notMem
      · simpa using written.ne_nil
  | @play digit start stop duration transition code startWritten stopWritten durationWritten =>
      have read : parseFields group (.play transition.looping) [start, stop, duration] =
          .ok (.play transition) :=
        parseFields_play_eq_ok_iff.2 ⟨start, stop, duration, transition, rfl, rfl, rfl,
          startWritten, stopWritten, durationWritten⟩
      rw [← play_byte_iff.2 code]
      rw [← intercalate_three] at short ⊢
      refine parseBytes_of_parseFields read ?_ ?_ short
      · simp [startWritten.comma_notMem, stopWritten.comma_notMem,
          comma_notMem_of_denotes durationWritten]
      · simp

theorem parseBytes_eq_ok_iff {group : Group} {bytes : List UInt8} {command : Command} :
    parseBytes group bytes = .ok command ↔
      bytes.length < Payload.capacity ∧ Writes group bytes command := by
  constructor
  · intro read
    exact ⟨(exists_of_parseBytes read).1, .of_parseBytes read⟩
  · rintro ⟨short, writes⟩
    exact writes.parseBytes_eq short

end Command

end MeshLight
