import PageMarks.Content.Value
import PageMarks.Operation

/-!
Content streams. The bytes are read into items — operands, operators and inline images — and
operands are then gathered before the operator they belong to. An inline image becomes one
operation with its entries and its data as operands.
-/

namespace PageMarks.Content

inductive Item
  | operand (value : Object)
  | operator (token : String)
  | image (entries : Dictionary) (data : Bytes)

def beginsData : Bytes → Bool
  | 73 :: 68 :: rest => endsRun rest
  | _ => false

def dataStart (s : Bytes) : Bytes :=
  match s.drop 2 with
  | [] => []
  | b :: rest => if isSpace b then rest else b :: rest

theorem dataStart_length {s : Bytes} (h : beginsData s = true) :
    (dataStart s).length < s.length := by
  unfold beginsData at h
  split at h
  · next rest =>
    cases rest with
    | nil => simp [dataStart]
    | cons b rest =>
      simp only [dataStart, List.drop_succ_cons, List.drop_zero]
      split <;> simp only [List.length_cons] <;> omega
  · contradiction

def readImageEntries (start : Nat) (s : Bytes) : Except Stop (Read (List (Bytes × Object)) s) :=
  match h : skipBlanks s with
  | [] => .error ⟨.unterminated .imageDictionary, start⟩
  | b :: rest =>
    have le := length_of_skipBlanks h
    if found : beginsData (b :: rest) then
      .ok ⟨[], dataStart (b :: rest), Nat.lt_of_lt_of_le (dataStart_length found) le⟩
    else if b == 47 then
      let key := readName b rest
      have keyShorter : (skipBlanks (readName b rest).rest).length < s.length :=
        Nat.lt_of_le_of_lt (skipBlanks_length key.rest) (Nat.lt_of_lt_of_le key.shorter le)
      match readValue .imageDictionary (skipBlanks key.rest) with
      | .error stop => .error stop
      | .ok item =>
        have shorter := Nat.lt_trans item.shorter keyShorter
        match readImageEntries start item.rest with
        | .error stop => .error stop
        | .ok r => .ok ((r.map ((key.value, item.value) :: ·)).within (Nat.le_of_lt shorter))
    else .error ⟨.unexpectedByte b .imageDictionary, rest.length + 1⟩
termination_by s.length

/-- An inline image whose opening `BI` was just read. The space before the closing `EI` is not
part of the data. -/
def readImage (s : Bytes) : Except Stop (Read Item s) :=
  match readImageEntries s.length s with
  | .error stop => .error stop
  | .ok r =>
    match h : imageData true r.rest with
    | none => .error ⟨.unterminated .imageData, r.rest.length⟩
    | some (data, after) =>
      .ok ⟨.image (Dictionary.ofList r.value) data.dropLast, after,
        Nat.lt_trans (imageData_length h) r.shorter⟩

def startsOperator (b : UInt8) : Bool :=
  (97 ≤ b && b ≤ 122) || (65 ≤ b && b ≤ 90) || b == 42 || b == 39 || b == 34

/-- Closing delimiters without an opening one, other than a bracket, are passed over. -/
def isStray (b : UInt8) : Bool := b == 41 || b == 62 || b == 123 || b == 125

def readWord (b : UInt8) (rest : Bytes) : Except Stop (Read Item (b :: rest)) :=
  let word := readKeyword b rest
  if word.value = "BI" then
    match readImage word.rest with
    | .error stop => .error stop
    | .ok r => .ok (r.within (Nat.le_of_lt word.shorter))
  else if word.value = "true" ∨ word.value = "false" ∨ word.value = "null" then
    .ok (word.map fun word => .operand (wordValue word))
  else .ok (word.map .operator)

def readItem (b : UInt8) (rest : Bytes) : Except Stop (Read (Option Item) (b :: rest)) :=
  if b == 93 then .error ⟨.unexpectedByte b .stream, rest.length + 1⟩
  else if isStray b then .ok ⟨none, rest, Nat.lt_succ_self _⟩
  else if startsOperator b then (readWord b rest).map (Read.map some)
  else (readValue .stream (b :: rest)).map (Read.map fun value => some (.operand value))

def readStream (s : Bytes) : Except Stop (List Item) :=
  match h : skipBlanks s with
  | [] => .ok []
  | b :: rest =>
    have le := length_of_skipBlanks h
    match readItem b rest with
    | .error stop => .error stop
    | .ok item =>
      have : item.rest.length < s.length := Nat.lt_of_lt_of_le item.shorter le
      match readStream item.rest with
      | .error stop => .error stop
      | .ok items => .ok (item.value.toList ++ items)
termination_by s.length

/-- Operands wait for their operator; an inline image drops the ones that wait. -/
def gather (waiting : List Object) : List Item → List Operation × List Object
  | [] => ([], waiting)
  | .operand value :: rest => gather (waiting ++ [value]) rest
  | .operator token :: rest =>
    let (operations, left) := gather [] rest
    (⟨token, waiting⟩ :: operations, left)
  | .image entries data :: rest =>
    let (operations, left) := gather [] rest
    (⟨"BI", [.dictionary entries, .string data .literal]⟩ :: operations, left)

/-- The operations of a content stream. Operands after the last operator belong to none. -/
def operations (bytes : Bytes) : Except Error (List Operation) :=
  match readStream bytes with
  | .error stop => .error (stop.inInput bytes.length)
  | .ok items => .ok (gather [] items).1

end PageMarks.Content
