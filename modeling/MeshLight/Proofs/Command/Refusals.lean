import MeshLight.Command.Reading
import MeshLight.Proofs.Command.Printing

/-!
What is said of a text that is no command. Everything that can be wrong with a text is a check that
can be made by itself; the checks have an order, and the reader reports the first one that fails.
-/

namespace MeshLight

namespace Code

theorem ofByte?_eq_none_iff {byte : UInt8} :
    ofByte? byte = none ↔ byte < 0x30 ∨ 0x33 < byte := by
  have unknown : ofByte? byte = none ↔
      0x30 ≠ byte.toNat ∧ 0x31 ≠ byte.toNat ∧ 0x32 ≠ byte.toNat ∧ 0x33 ≠ byte.toNat := by
    rw [ofByte?, List.find?_eq_none]
    simp [all, Code.byte, ← UInt8.toNat_inj]
  rw [unknown, UInt8.lt_iff_toNat_lt, UInt8.lt_iff_toNat_lt]
  simp only [UInt8.reduceToNat]
  omega

end Code

namespace Command

/-- A condition under which a text is refused, and what is reported then. -/
structure Check where
  fails : Prop
  error : ParseError

/-- The error belongs to the first of some checks that fails. -/
inductive FirstFailing : List Check → ParseError → Prop
  | here {check : Check} {rest : List Check} (fails : check.fails) :
      FirstFailing (check :: rest) check.error
  | later {check : Check} {rest : List Check} {error : ParseError} (passes : ¬ check.fails)
      (next : FirstFailing rest error) : FirstFailing (check :: rest) error

theorem not_firstFailing_nil {error : ParseError} : ¬ FirstFailing [] error := by
  intro impossible
  cases impossible

theorem firstFailing_cons_iff {check : Check} {rest : List Check} {error : ParseError} :
    FirstFailing (check :: rest) error ↔
      check.fails ∧ check.error = error ∨ ¬ check.fails ∧ FirstFailing rest error := by
  constructor
  · intro first
    cases first with
    | here fails =>
        exact Or.inl ⟨fails, rfl⟩
    | later passes next =>
        exact Or.inr ⟨passes, next⟩
  · rintro (⟨fails, rfl⟩ | ⟨passes, next⟩)
    · exact .here fails
    · exact .later passes next

theorem firstFailing_append_iff {first second : List Check} {error : ParseError} :
    FirstFailing (first ++ second) error ↔
      FirstFailing first error ∨
        (∀ check ∈ first, ¬ check.fails) ∧ FirstFailing second error := by
  induction first with
  | nil =>
      simp [not_firstFailing_nil]
  | cons check rest inductionHypothesis =>
      rw [List.cons_append, firstFailing_cons_iff, firstFailing_cons_iff, inductionHypothesis]
      by_cases fails : check.fails <;> simp [fails]

/-- Where a check fails there is a first one that does. -/
theorem exists_firstFailing_iff {checks : List Check} :
    (∃ error, FirstFailing checks error) ↔ ∃ check ∈ checks, check.fails := by
  induction checks with
  | nil =>
      simp [not_firstFailing_nil]
  | cons check rest inductionHypothesis =>
      simp only [firstFailing_cons_iff, List.mem_cons, exists_eq_or_imp]
      by_cases fails : check.fails <;> simp [fails, inductionHypothesis]

/-! ## The checks -/

/-- How many digits stand for a level. -/
def digitCount : Group → Nat
  | .color => 6
  | .white => 2

def levelChecks (group : Group) (field : List UInt8) : List Check :=
  [{ fails := field.length ≠ digitCount group
     error := .levelLength (digitCount group) field.length },
    { fails := ∃ byte ∈ field, ¬ ∃ number, Hex.IsDigit byte number
      error := .badHex }]

def durationCheck (field : List UInt8) : Check where
  fails := field = [] ∨ (∃ byte ∈ field, ¬ ∃ number, Decimal.IsDigitOf byte number) ∨
    ∃ number, Decimal.Denotes field number ∧ 2 ^ 32 - 1 < number
  error := .badDuration

/-- The fields between the commas after the second byte. Two bytes leave no room for a field. -/
def parts (bytes : List UInt8) : List (List UInt8) :=
  if bytes.length ≤ 2 then [] else (bytes.drop 2).splitOn comma

/-- Limits have one field, a level; transitions have three, of which two are levels. -/
def partCount (digit : UInt8) : Nat :=
  if digit ≤ 0x31 then 1 else 3

def partChecks (group : Group) (expected : Nat) (parts : List (List UInt8)) : List Check :=
  { fails := parts.length ≠ expected
    error := .fieldCount expected parts.length } ::
  ((parts.take 2).flatMap (levelChecks group) ++ (parts.drop 2).map durationCheck)

/-- Everything that can be wrong with a text. -/
def checks (group : Group) (bytes : List UInt8) : List Check :=
  let digit := bytes.headD 0
  let parts := parts bytes
  [{ fails := bytes.length = 0, error := .empty },
    { fails := 50 ≤ bytes.length, error := .tooLong bytes.length },
    { fails := 2 < bytes.length ∧ bytes[1]? ≠ some comma, error := .badSeparator },
    { fails := digit < 0x30 ∨ 0x33 < digit, error := .unknownCode digit },
    { fails := 4 < parts.length, error := .fieldCount 4 parts.length }] ++
  partChecks group (partCount digit) parts

/-! ## Results of checks -/

/-- A result is an error exactly if some check fails, and then the error of the first that does. -/
def Reports {α : Type} (checks : List Check) (result : Except ParseError α) : Prop :=
  ∀ error, result = .error error ↔ FirstFailing checks error

section Reports

variable {α β : Type} {check : Check} {checks later : List Check} {result : Except ParseError α}

theorem reports_ok (value : α) : Reports [] (.ok value : Except ParseError α) := by
  intro error
  refine iff_of_false ?_ not_firstFailing_nil
  intro impossible
  cases impossible

theorem reports_of_fails (fails : check.fails) :
    Reports (check :: checks) (.error check.error : Except ParseError α) := by
  intro error
  simp [firstFailing_cons_iff, fails]

theorem Reports.of_passes (reports : Reports checks result) (passes : ¬ check.fails) :
    Reports (check :: checks) result := by
  intro error
  simp [firstFailing_cons_iff, passes, reports error]

/-- A result is a success exactly if every check passes. -/
theorem Reports.exists_ok_iff (reports : Reports checks result) :
    (∃ value, result = .ok value) ↔ ∀ check ∈ checks, ¬ check.fails := by
  have refused : (∃ error, result = .error error) ↔ ∃ check ∈ checks, check.fails := by
    simp only [reports _, exists_firstFailing_iff]
  cases result with
  | error reason =>
      have failing := refused.1 ⟨reason, rfl⟩
      simpa using failing
  | ok value =>
      have passing := mt refused.2 (by simp)
      simpa using passing

/-- The checks of a second part are looked at if the first part has passed all of its own. -/
theorem Reports.bind {next : α → Except ParseError β} (reports : Reports checks result)
    (reportsNext : ∀ value, result = .ok value → Reports later (next value)) :
    Reports (checks ++ later) (result >>= next) := by
  intro error
  have passing := reports.exists_ok_iff
  rw [firstFailing_append_iff, ← passing, ← reports error]
  cases result with
  | error reason =>
      simp [Bind.bind, Except.bind]
  | ok value =>
      change next value = .error error ↔ _
      simpa using reportsNext value rfl error

end Reports

/-! ## Reading and checking -/

theorem levelWidth_eq (group : Group) : levelWidth group = digitCount group := by
  cases group <;> rfl

theorem reports_parseLevel (group : Group) (field : List UInt8) :
    Reports (levelChecks group field) (parseLevel group field) := by
  rw [parseLevel, levelWidth_eq, levelChecks]
  by_cases wrongWidth : field.length ≠ digitCount group
  · rw [if_pos wrongWidth]
    exact reports_of_fails wrongWidth
  · rw [if_neg wrongWidth]
    refine Reports.of_passes ?_ wrongWidth
    by_cases wrongDigit : ∃ byte ∈ field, ¬ ∃ number, Hex.IsDigit byte number
    · have undecoded : Hex.decode field = none := by
        rw [Option.eq_none_iff_forall_ne_some]
        intro bytes decoded
        obtain ⟨byte, member, noDigit⟩ := wrongDigit
        exact noDigit ((Hex.decode_eq_some_iff.1 decoded).exists_isDigit byte member)
      rw [undecoded]
      exact reports_of_fails wrongDigit
    · have digits : ∀ byte ∈ field, ∃ number, Hex.IsDigit byte number := by
        simpa using wrongDigit
      have even : field.length % 2 = 0 := by
        rw [not_not.1 wrongWidth]
        cases group <;> rfl
      obtain ⟨bytes, denotes⟩ := Hex.Denotes.exists_of_digits even digits
      rw [denotes.decode_eq]
      exact (reports_ok _).of_passes wrongDigit

theorem reports_parseDuration (field : List UInt8) :
    Reports [durationCheck field] (parseDuration field) := by
  cases decoded : Decimal.decode field with
  | none =>
      have malformed : field = [] ∨ ∃ byte ∈ field, ¬ ∃ number, Decimal.IsDigitOf byte number := by
        by_cases empty : field = []
        · exact Or.inl empty
        · right
          have notAll : ¬ ∀ byte ∈ field, Decimal.isDigit byte = true := by
            rw [← List.all_eq_true]
            intro allDigits
            rw [Decimal.decode, if_pos ⟨empty, allDigits⟩] at decoded
            cases decoded
          simp only [not_forall] at notAll
          obtain ⟨byte, member, noDigit⟩ := notAll
          refine ⟨byte, member, ?_⟩
          rintro ⟨number, digit⟩
          exact noDigit digit.isDigit
      rw [parseDuration, decoded]
      refine reports_of_fails ?_
      exact malformed.imp_right Or.inl
  | some number =>
      have denotes := Decimal.decode_eq_some_iff.1 decoded
      simp only [parseDuration, decoded]
      by_cases fits : number < UInt32.size
      · rw [if_pos fits]
        refine (reports_ok _).of_passes ?_
        rintro (empty | ⟨byte, member, noDigit⟩ | ⟨other, same, large⟩)
        · exact denotes.ne_nil empty
        · have digit := List.all_eq_true.1 denotes.all_isDigit byte member
          exact noDigit ⟨_, Decimal.isDigit_iff.1 digit⟩
        · have equal : other = number := same.value_eq.symm.trans denotes.value_eq
          simp only [UInt32.size] at fits
          omega
      · rw [if_neg fits]
        refine reports_of_fails ?_
        refine Or.inr (Or.inr ⟨number, denotes, ?_⟩)
        simp only [UInt32.size] at fits
        omega

theorem parts_cons (digit : UInt8) (rest : List UInt8) : parts (digit :: rest) = fields rest := by
  match rest with
  | [] => rfl
  | [_] => rfl
  | separator :: first :: rest =>
      rw [parts, if_neg (by simp), fields]
      rfl

theorem reports_parseFields (group : Group) (code : Code) (parts : List (List UInt8)) :
    Reports (partChecks group (partCount code.byte) parts) (parseFields group code parts) := by
  cases code with
  | limit source =>
      have one : partCount (Code.limit source).byte = 1 := by
        cases source <;> rfl
      rw [one]
      match parts with
      | [] =>
          exact reports_of_fails (by simp)
      | [level] =>
          refine Reports.of_passes ?_ (by simp)
          exact (reports_parseLevel group level).bind fun read _ => reports_ok _
      | first :: second :: rest =>
          exact reports_of_fails (by simp)
  | play looping =>
      have three : partCount (Code.play looping).byte = 3 := by
        cases looping <;> rfl
      rw [three]
      match parts with
      | [] | [_] | [_, _] | _ :: _ :: _ :: _ :: _ =>
          exact reports_of_fails (by simp)
      | [start, stop, duration] =>
          refine Reports.of_passes ?_ (by simp)
          have inTurn : ([start, stop, duration].take 2).flatMap (levelChecks group) ++
                ([start, stop, duration].drop 2).map durationCheck =
              levelChecks group start ++
                (levelChecks group stop ++ ([durationCheck duration] ++ [])) := by
            simp
          rw [inTurn]
          refine (reports_parseLevel group start).bind fun startRead _ => ?_
          refine (reports_parseLevel group stop).bind fun stopRead _ => ?_
          exact (reports_parseDuration duration).bind fun read _ => reports_ok _

/-- The reader makes the checks in their order. -/
theorem reports_parseBytes (group : Group) (bytes : List UInt8) :
    Reports (checks group bytes) (parseBytes group bytes) := by
  cases bytes with
  | nil =>
      exact reports_of_fails rfl
  | cons digit rest =>
      have second : rest.head? = (digit :: rest)[1]? := by
        rw [List.getElem?_cons_succ, List.head?_eq_getElem?]
      simp only [parseBytes, checks, parts_cons, List.headD_cons, second]
      refine Reports.of_passes ?_ (by simp)
      by_cases long : Payload.capacity ≤ rest.length + 1
      · rw [if_pos long]
        exact reports_of_fails long
      · rw [if_neg long]
        refine Reports.of_passes ?_ long
        by_cases unseparated : 2 < rest.length + 1 ∧ (digit :: rest)[1]? ≠ some comma
        · rw [if_pos unseparated]
          exact reports_of_fails unseparated
        · rw [if_neg unseparated]
          refine Reports.of_passes ?_ unseparated
          cases announced : Code.ofByte? digit with
          | none =>
              exact reports_of_fails (Code.ofByte?_eq_none_iff.1 announced)
          | some code =>
              have known : ¬ (digit < 0x30 ∨ 0x33 < digit) := by
                rw [← Code.ofByte?_eq_none_iff, announced]
                simp
              refine Reports.of_passes ?_ known
              by_cases many : maxFieldCount < (fields rest).length
              · simp only [if_pos many]
                exact reports_of_fails many
              · simp only [if_neg many]
                refine Reports.of_passes ?_ many
                rw [← Code.byte_of_ofByte? announced]
                exact reports_parseFields group code (fields rest)

/-! ## Reading texts -/

/-- A byte of ASCII stands for a character by itself. -/
theorem utf8EncodeChar_eq_of_mem {character : Char} {byte : UInt8}
    (member : byte ∈ String.utf8EncodeChar character) (ascii : byte.toNat < 128) :
    String.utf8EncodeChar character = [byte] := by
  rw [String.utf8EncodeChar] at member ⊢
  split_ifs at member ⊢
  · rw [List.mem_singleton.1 member]
  -- Every byte of a longer encoding has its highest bit set.
  all_goals
    simp only [List.mem_cons, List.not_mem_nil, or_false] at member
    have high : 128 ≤ byte.toNat := by
      rcases member with rfl | rfl | rfl | rfl <;> simp only [UInt8.toNat_ofNat'] <;> omega
    omega

theorem utf8_ofList_cons (character : Char) (rest : List Char) :
    (String.ofList (character :: rest)).toUTF8.data.toList =
      String.utf8EncodeChar character ++ (String.ofList rest).toUTF8.data.toList := by
  simp only [String.toUTF8_eq_toByteArray, String.toByteArray_ofList]
  rw [List.utf8Encode_cons, List.utf8Encode_singleton]
  simp

theorem reports_parse (group : Group) (text : String) :
    Reports (checks group text.toUTF8.data.toList) (parse group text) :=
  reports_parseBytes group text.toUTF8.data.toList

theorem read_value (group : Group) (text : String) :
    (read group text).value = (parse group text).toOption := by
  rw [read]
  cases parse group text <;> rfl

/-- A separator in the second place is a character of its own, and so is the byte before it: the
text can be cut behind it. -/
theorem exists_cut_of_separated {text : String}
    (separated : text.toUTF8.data.toList[1]? = some comma) :
    ∃ front back : String, text = front ++ back ∧ front.utf8ByteSize = 2 ∧
      back.toUTF8.data.toList = text.toUTF8.data.toList.drop 2 := by
  obtain ⟨characters, rfl⟩ : ∃ characters, text = String.ofList characters :=
    ⟨text.toList, String.ofList_toList.symm⟩
  cases characters with
  | nil =>
      cases separated
  | cons first rest =>
      rw [utf8_ofList_cons] at separated
      have plain : (String.utf8EncodeChar first).length = 1 := by
        have nonempty := first.utf8Size_pos
        rw [← String.length_utf8EncodeChar] at nonempty
        by_contra wide
        rw [List.getElem?_append_left (by omega)] at separated
        have whole := utf8EncodeChar_eq_of_mem (List.mem_of_getElem? separated) comma_lt_128
        exact wide (by rw [whole]; rfl)
      rw [List.getElem?_append_right (by omega), plain] at separated
      cases rest with
      | nil =>
          cases separated
      | cons second rest =>
          have nonempty := second.utf8Size_pos
          rw [← String.length_utf8EncodeChar] at nonempty
          rw [utf8_ofList_cons, List.getElem?_append_left nonempty] at separated
          have whole := utf8EncodeChar_eq_of_mem (List.mem_of_getElem? separated) comma_lt_128
          refine ⟨String.ofList [first, second], String.ofList rest, ?_, ?_, ?_⟩
          · rw [← String.ofList_append]
            rfl
          · rw [← length_utf8, utf8_ofList_cons, utf8_ofList_cons, whole, List.length_append, plain]
            rfl
          · rw [utf8_ofList_cons, utf8_ofList_cons, whole, ← List.append_assoc]
            exact (List.drop_left' (by rw [List.length_append, plain]; rfl)).symm

/-- Every text is either a command or refused. It is refused with the error of the first check that
fails, and if no check fails it is a command. A text that is read for its command alone is no
command exactly if some check fails, and the same command otherwise. The checks are on bytes, but
the fields are cut out of the text between characters. -/
theorem refused_by_first_failing_check (group : Group) (text : String) :
    let bytes := text.toUTF8.data.toList
    let checks := checks group bytes
    (∀ error, parse group text = .error error ↔ FirstFailing checks error) ∧
      ((∃ command, parse group text = .ok command) ↔ ∀ check ∈ checks, ¬ check.fails) ∧
      ((read group text).value = none ↔ ∃ check ∈ checks, check.fails) ∧
      (∀ command, (read group text).value = some command ↔ parse group text = .ok command) ∧
      (bytes[1]? = some comma →
        ∃ front back : String, text = front ++ back ∧ front.utf8ByteSize = 2 ∧
          back.toUTF8.data.toList = bytes.drop 2) := by
  intro bytes checks
  have reports : Reports checks (parse group text) := reports_parse group text
  refine ⟨reports, reports.exists_ok_iff, ?_, ?_, exists_cut_of_separated⟩
  · rw [read_value, ← exists_firstFailing_iff]
    simp only [← reports _]
    cases parse group text <;> simp [Except.toOption]
  · intro command
    rw [read_value]
    cases parse group text <;> simp [Except.toOption]

example : parse .white "2,é,123,x" = .error .badHex := by
  decide

end Command

end MeshLight
