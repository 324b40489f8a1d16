import PageMarks.Content.Lexeme

/-!
Operand values. Reading a value consumes at least one byte, and says so in its result; that is why
nested arrays and dictionaries come to an end.
-/

namespace PageMarks.Content

structure Read (α : Type) (s : Bytes) where
  value : α
  rest : Bytes
  shorter : rest.length < s.length

namespace Read

variable {α β : Type} {s t : Bytes}

def map (f : α → β) (r : Read α s) : Read β s := ⟨f r.value, r.rest, r.shorter⟩

def within (h : s.length ≤ t.length) (r : Read α s) : Read α t :=
  ⟨r.value, r.rest, Nat.lt_of_lt_of_le r.shorter h⟩

end Read

theorem le_cons (b : UInt8) (rest : Bytes) : rest.length ≤ (b :: rest).length :=
  Nat.le_succ rest.length

def readLiteral (b : UInt8) (rest : Bytes) : Except Stop (Read Object (b :: rest)) :=
  match h : literal ⟨0, .plain⟩ rest with
  | none => .error ⟨.unterminated .literalString, rest.length + 1⟩
  | some (bytes, after) =>
    .ok ⟨.string bytes .literal, after, Nat.lt_succ_of_lt (literal_length h)⟩

def readHex (b : UInt8) (rest : Bytes) : Except Stop (Read Object (b :: rest)) :=
  match h : hexDigits (rest.length + 1) rest with
  | .error stop => .error stop
  | .ok (digits, after) =>
    .ok ⟨.string (pairDigits digits) .hexadecimal, after, Nat.lt_succ_of_lt (hexDigits_length h)⟩

def readName (b : UInt8) (rest : Bytes) : Read Bytes (b :: rest) :=
  ⟨(name rest).1, (name rest).2, Nat.lt_succ_of_le (dropWhile_length _ _)⟩

def readKeyword (b : UInt8) (rest : Bytes) : Read String (b :: rest) :=
  ⟨(keyword b rest).1, (keyword b rest).2, Nat.lt_succ_of_le (dropWhile_length _ _)⟩

def startsNumber (b : UInt8) : Bool := isDigit b || isSign b || b == 46

theorem numberToken_length {b : UInt8} (h : startsNumber b = true) (rest : Bytes) :
    (numberToken b rest).2.length < (b :: rest).length := by
  unfold numberToken
  split
  · exact Nat.lt_succ_of_le (decimalRun_length true rest)
  · next notSign =>
    have digitOrPoint : isDigit b = true ∨ (b == 46) = true := by
      simpa [startsNumber, notSign] using h
    simp only [decimalRun]
    split
    · exact Nat.lt_succ_of_le (decimalRun_length true rest)
    · next notDigit =>
      have point : (b == 46) = true := by simpa [notDigit] using digitOrPoint
      simp only [point, Bool.and_self, if_true]
      exact Nat.lt_succ_of_le (decimalRun_length false rest)

def readNumber (b : UInt8) (rest : Bytes) (h : startsNumber b = true) :
    Except Stop (Read Object (b :: rest)) :=
  let read := numberToken b rest
  match numberValue? read.1 with
  | none => .error ⟨.invalidNumber (Text.Utf8.decode read.1), rest.length + 1⟩
  | some value => .ok ⟨value, read.2, numberToken_length h rest⟩

/-- A bare word inside an operand: a constant, or else a name. -/
def wordValue (word : String) : Object :=
  if word = "true" then .boolean true
  else if word = "false" then .boolean false
  else if word = "null" then .null
  else .name (Text.Utf8.encode word)

mutual

def readValue (part : Part) (s : Bytes) : Except Stop (Read Object s) :=
  match s with
  | [] => .error ⟨.unterminated part, 0⟩
  | b :: rest =>
    if b == 40 then readLiteral b rest
    else if b == 60 then
      match rest with
      | 60 :: inner =>
        match readEntries (inner.length + 2) inner with
        | .error stop => .error stop
        | .ok r =>
          .ok ((r.map fun es => Object.dictionary (Dictionary.ofList es)).within
            (Nat.le_trans (le_cons 60 inner) (le_cons b (60 :: inner))))
      | other => readHex b other
    else if b == 91 then
      match readItems (rest.length + 1) rest with
      | .error stop => .error stop
      | .ok r => .ok ((r.map Object.array).within (le_cons b rest))
    else if b == 47 then .ok ((readName b rest).map Object.name)
    else if h : startsNumber b then readNumber b rest h
    else if isRegular b then .ok ((readKeyword b rest).map wordValue)
    else .error ⟨.unexpectedByte b part, rest.length + 1⟩
termination_by 2 * s.length

def readItems (start : Nat) (s : Bytes) : Except Stop (Read (List Object) s) :=
  match h : skipBlanks s with
  | [] => .error ⟨.unterminated .array, start⟩
  | b :: rest =>
    have le := length_of_skipBlanks h
    if b == 93 then .ok ⟨[], rest, Nat.lt_of_lt_of_le (Nat.lt_succ_self _) le⟩
    else
      match readValue .array (b :: rest) with
      | .error stop => .error stop
      | .ok item =>
        have shorter : item.rest.length < s.length := Nat.lt_of_lt_of_le item.shorter le
        match readItems start item.rest with
        | .error stop => .error stop
        | .ok r =>
          .ok ((r.map (item.value :: ·)).within (Nat.le_of_lt shorter))
termination_by 2 * s.length + 1

def readEntries (start : Nat) (s : Bytes) : Except Stop (Read (List (Bytes × Object)) s) :=
  match h : skipBlanks s with
  | [] => .error ⟨.unterminated .dictionary, start⟩
  | b :: rest =>
    have le := length_of_skipBlanks h
    if b == 62 && rest.head? == some 62 then
      .ok ⟨[], rest.drop 1, by simp only [List.length_drop]; omega⟩
    else if b == 47 then
      let key := readName b rest
      have keyShorter : (skipBlanks (readName b rest).rest).length < s.length :=
        Nat.lt_of_le_of_lt (skipBlanks_length key.rest) (Nat.lt_of_lt_of_le key.shorter le)
      match readValue .dictionary (skipBlanks key.rest) with
      | .error stop => .error stop
      | .ok item =>
        have shorter := Nat.lt_trans item.shorter keyShorter
        match readEntries start item.rest with
        | .error stop => .error stop
        | .ok r => .ok ((r.map ((key.value, item.value) :: ·)).within (Nat.le_of_lt shorter))
    else .error ⟨.unexpectedByte b .dictionaryKey, rest.length + 1⟩
termination_by 2 * s.length + 1

end

end PageMarks.Content
