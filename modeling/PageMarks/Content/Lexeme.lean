import PageMarks.Content.Error
import PageMarks.Object

/-!
The lexemes of a content stream. Each scanner takes the bytes not yet read and returns what it
recognised with the bytes after it; none of them knows its position in the input.
-/

namespace PageMarks.Content

def isSpace (b : UInt8) : Bool :=
  b == 32 || b == 9 || b == 13 || b == 10 || b == 12 || b == 0

def isDelimiter (b : UInt8) : Bool :=
  b == 40 || b == 41 || b == 60 || b == 62 || b == 91 || b == 93 || b == 123 || b == 125 ||
    b == 47 || b == 37

def isRegular (b : UInt8) : Bool := !isSpace b && !isDelimiter b

def isDigit (b : UInt8) : Bool := 48 ≤ b && b ≤ 57

def isOctalDigit (b : UInt8) : Bool := 48 ≤ b && b ≤ 55

def hexValue? (b : UInt8) : Option Nat :=
  if isDigit b then some (b.toNat - 48)
  else if 97 ≤ b && b ≤ 102 then some (b.toNat - 87)
  else if 65 ≤ b && b ≤ 70 then some (b.toNat - 55)
  else none

/-- The first byte, if any, cannot continue a run of regular bytes. -/
def endsRun : Bytes → Bool
  | [] => true
  | b :: _ => !isRegular b

/-- Drop spaces and comments, from inside or outside a comment. A comment lasts to the end of its
line. -/
def blanksFrom (inComment : Bool) : Bytes → Bytes
  | [] => []
  | b :: rest =>
    if inComment then blanksFrom (b != 10 && b != 13) rest
    else if isSpace b then blanksFrom false rest
    else if b == 37 then blanksFrom true rest
    else b :: rest

def skipBlanks (s : Bytes) : Bytes := blanksFrom false s

theorem blanksFrom_length (inComment : Bool) (s : Bytes) :
    (blanksFrom inComment s).length ≤ s.length := by
  induction s generalizing inComment with
  | nil => simp [blanksFrom]
  | cons b rest ih =>
    have h := fun c => Nat.le_succ_of_le (ih c)
    simp only [blanksFrom, List.length_cons]
    split
    · exact h _
    · split
      · exact h _
      · split
        · exact h _
        · exact Nat.le_refl _

theorem skipBlanks_length (s : Bytes) : (skipBlanks s).length ≤ s.length :=
  blanksFrom_length false s

theorem length_of_skipBlanks {s rest : Bytes} {b : UInt8} (h : skipBlanks s = b :: rest) :
    rest.length + 1 ≤ s.length := by
  have le := skipBlanks_length s
  rwa [h] at le

def keyword (b : UInt8) (rest : Bytes) : String × Bytes :=
  (Text.Utf8.decode (b :: rest.takeWhile isRegular), rest.dropWhile isRegular)

theorem dropWhile_length (p : UInt8 → Bool) (s : Bytes) : (s.dropWhile p).length ≤ s.length :=
  (List.dropWhile_sublist p).length_le

/-- A number sign with two hexadecimal digits stands for a byte, any other for itself. -/
def decodeName : Bytes → Bytes
  | b :: high :: low :: rest =>
    match b == 35, hexValue? high, hexValue? low with
    | true, some h, some l => UInt8.ofNat (h * 16 + l) :: decodeName rest
    | _, _, _ => b :: decodeName (high :: low :: rest)
  | short => short

def name (s : Bytes) : Bytes × Bytes := (decodeName (s.takeWhile isRegular), s.dropWhile isRegular)

inductive Escape
  | plain
  | started
  | continued
  /-- In an octal escape with room for more digits. -/
  | octal (room value : Nat)

structure LiteralState where
  /-- Parentheses inside the string that are open. Fewer than `2 ^ 32` are meant. -/
  depth : Nat
  escape : Escape

/-- One byte outside an escape: what it adds, and the state after it unless it closes the string. -/
def LiteralState.plainByte (depth : Nat) (b : UInt8) : Bytes × Option LiteralState :=
  if b == 40 then ([b], some ⟨depth + 1, .plain⟩)
  else if b == 41 then
    match depth with
    | 0 => ([], none)
    | outer + 1 => ([b], some ⟨outer, .plain⟩)
  else if b == 92 then ([], some ⟨depth, .started⟩)
  else ([b], some ⟨depth, .plain⟩)

def LiteralState.escapedByte (depth : Nat) (b : UInt8) : Bytes × Option LiteralState :=
  let plain (out : Bytes) := (out, some (LiteralState.mk depth .plain))
  if b == 110 then plain [10]
  else if b == 114 then plain [13]
  else if b == 116 then plain [9]
  else if b == 98 then plain [8]
  else if b == 102 then plain [12]
  else if b == 13 then ([], some ⟨depth, .continued⟩)
  else if b == 10 then plain []
  else if isOctalDigit b then ([], some ⟨depth, .octal 2 (b.toNat - 48)⟩)
  else plain [b]

def LiteralState.step (s : LiteralState) (b : UInt8) : Bytes × Option LiteralState :=
  match s.escape with
  | .plain => plainByte s.depth b
  | .started => escapedByte s.depth b
  | .continued => if b == 10 then ([], some ⟨s.depth, .plain⟩) else plainByte s.depth b
  | .octal room value =>
    if 0 < room && isOctalDigit b then
      ([], some ⟨s.depth, .octal (room - 1) (value * 8 + (b.toNat - 48))⟩)
    else
      let (out, next) := plainByte s.depth b
      (UInt8.ofNat (value % 256) :: out, next)

/-- The bytes of a literal string up to its closing parenthesis, and what follows that. -/
def literal (s : LiteralState) : Bytes → Option (Bytes × Bytes)
  | [] => none
  | b :: rest =>
    match s.step b with
    | (out, none) => some (out, rest)
    | (out, some next) => (literal next rest).map fun (bytes, after) => (out ++ bytes, after)

theorem literal_length {s : LiteralState} {input bytes after : Bytes}
    (h : literal s input = some (bytes, after)) : after.length < input.length := by
  induction input generalizing s bytes after with
  | nil => simp [literal] at h
  | cons b rest ih =>
    simp only [literal] at h
    split at h
    · obtain ⟨-, rfl⟩ := Prod.mk.inj (Option.some.inj h)
      simp
    · obtain ⟨⟨inner, tail⟩, found, same⟩ := Option.map_eq_some_iff.1 h
      obtain ⟨-, rfl⟩ := Prod.mk.inj same
      exact Nat.lt_succ_of_lt (ih found)

def hexDigits (start : Nat) : Bytes → Except Stop (List Nat × Bytes)
  | [] => .error ⟨.unterminated .hexString, start⟩
  | b :: rest =>
    if b == 62 then .ok ([], rest)
    else if isSpace b then hexDigits start rest
    else
      match hexValue? b with
      | none => .error ⟨.invalidHexDigit b, rest.length + 1⟩
      | some digit => (hexDigits start rest).map fun (digits, after) => (digit :: digits, after)

theorem hexDigits_length {start : Nat} {input after : Bytes} {digits : List Nat}
    (h : hexDigits start input = .ok (digits, after)) : after.length < input.length := by
  induction input generalizing digits after with
  | nil => simp [hexDigits] at h
  | cons b rest ih =>
    simp only [hexDigits] at h
    split at h
    · obtain ⟨-, rfl⟩ := Prod.mk.inj (Except.ok.inj h)
      simp
    · split at h
      · exact Nat.lt_succ_of_lt (ih h)
      · split at h
        · simp at h
        · cases found : hexDigits start rest with
          | error stop => simp [found, Except.map] at h
          | ok read =>
            obtain ⟨inner, tail⟩ := read
            rw [found] at h
            obtain ⟨-, rfl⟩ := Prod.mk.inj (Except.ok.inj h)
            exact Nat.lt_succ_of_lt (ih found)

/-- Two digits a byte; an odd last digit is followed by zero. -/
def pairDigits : List Nat → Bytes
  | [] => []
  | [high] => [UInt8.ofNat (high * 16)]
  | high :: low :: rest => UInt8.ofNat (high * 16 + low) :: pairDigits rest

def decimalRun (pointAllowed : Bool) : Bytes → Bytes × Bytes
  | [] => ([], [])
  | b :: rest =>
    if isDigit b then
      let (run, after) := decimalRun pointAllowed rest
      (b :: run, after)
    else if b == 46 && pointAllowed then
      let (run, after) := decimalRun false rest
      (b :: run, after)
    else ([], b :: rest)

theorem decimalRun_length (pointAllowed : Bool) (s : Bytes) :
    (decimalRun pointAllowed s).2.length ≤ s.length := by
  induction s generalizing pointAllowed with
  | nil => simp [decimalRun]
  | cons b rest ih =>
    simp only [decimalRun, List.length_cons]
    split
    · exact Nat.le_succ_of_le (ih _)
    · split
      · exact Nat.le_succ_of_le (ih _)
      · simp

def isSign (b : UInt8) : Bool := b == 43 || b == 45

def numberToken (b : UInt8) (rest : Bytes) : Bytes × Bytes :=
  if isSign b then
    let (run, after) := decimalRun true rest
    (b :: run, after)
  else decimalRun true (b :: rest)

def digitsValue (digits : Bytes) : Nat := digits.foldl (fun n b => n * 10 + (b.toNat - 48)) 0

/-- A number is a real when it has a point, with or without digits on either side of it. Without
one it is an integer of 64 bits. -/
def numberValue? (token : Bytes) : Option Object :=
  let negative := token.head? == some 45
  let run := token.dropWhile isSign
  let whole := run.takeWhile isDigit
  match run.dropWhile isDigit with
  | [] =>
    let n : Int := digitsValue whole
    let value := if negative then -n else n
    if whole.isEmpty || value < -Bound.long || Bound.long ≤ value then none else some (.integer value)
  | _ :: fraction =>
    let x := Float.ofScientific (digitsValue (whole ++ fraction)) true fraction.length
    some (.real (if negative then -x else x).toFloat32)

def endsImage : Bytes → Bool
  | 69 :: 73 :: rest => endsRun rest
  | _ => false

/-- Everything before an `EI` that stands at the start or after a space, and what follows it. -/
def imageData (boundary : Bool) : Bytes → Option (Bytes × Bytes)
  | [] => none
  | b :: rest =>
    if boundary && endsImage (b :: rest) then some ([], rest.drop 1)
    else (imageData (isSpace b) rest).map fun (data, after) => (b :: data, after)

theorem imageData_length {boundary : Bool} {input data after : Bytes}
    (h : imageData boundary input = some (data, after)) : after.length < input.length := by
  induction input generalizing boundary data after with
  | nil => simp [imageData] at h
  | cons b rest ih =>
    simp only [imageData] at h
    split at h
    · obtain ⟨-, rfl⟩ := Prod.mk.inj (Option.some.inj h)
      simp only [List.length_drop, List.length_cons]
      omega
    · obtain ⟨⟨inner, tail⟩, found, same⟩ := Option.map_eq_some_iff.1 h
      obtain ⟨-, rfl⟩ := Prod.mk.inj same
      exact Nat.lt_succ_of_lt (ih found)

end PageMarks.Content
