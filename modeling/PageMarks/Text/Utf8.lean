/-!
Byte strings and the text they stand for. Ill-formed input is read to the end: each maximal prefix
of a sequence that breaks off is replaced by one U+FFFD.
-/

namespace PageMarks

abbrev Bytes := List UInt8

namespace Text.Utf8

/-- What is still owed after the first bytes of a sequence: how many bytes, the range of the next
one, and the bits read so far. -/
structure Owed where
  count : Nat
  low : Nat
  high : Nat
  bits : Nat

inductive Lead
  | whole (c : Char)
  | begins (owed : Owed)
  | stray

def lead (b : Nat) : Lead :=
  if b < 0x80 then .whole (Char.ofNat b)
  else if b < 0xC2 then .stray
  else if b < 0xE0 then .begins ⟨1, 0x80, 0xBF, b - 0xC0⟩
  else if b = 0xE0 then .begins ⟨2, 0xA0, 0xBF, 0⟩
  else if b = 0xED then .begins ⟨2, 0x80, 0x9F, 0xD⟩
  else if b < 0xF0 then .begins ⟨2, 0x80, 0xBF, b - 0xE0⟩
  else if b = 0xF0 then .begins ⟨3, 0x90, 0xBF, 0⟩
  else if b < 0xF4 then .begins ⟨3, 0x80, 0xBF, b - 0xF0⟩
  else if b = 0xF4 then .begins ⟨3, 0x80, 0x8F, 4⟩
  else .stray

def replacement : Char := Char.ofNat 0xFFFD

def begin (b : Nat) : List Char × Option Owed :=
  match lead b with
  | .whole c => ([c], none)
  | .begins owed => ([], some owed)
  | .stray => ([replacement], none)

/-- The characters one more byte completes, and what is owed after it. -/
def step (b : Nat) : Option Owed → List Char × Option Owed
  | none => begin b
  | some owed =>
    if owed.low ≤ b ∧ b ≤ owed.high then
      let bits := owed.bits * 64 + (b - 0x80)
      if owed.count ≤ 1 then ([Char.ofNat bits], none)
      else ([], some ⟨owed.count - 1, 0x80, 0xBF, bits⟩)
    else
      let (chars, owed) := begin b
      (replacement :: chars, owed)

def decodeFrom : Option Owed → Bytes → List Char
  | none, [] => []
  | some _, [] => [replacement]
  | owed, b :: rest =>
    let (chars, owed) := step b.toNat owed
    chars ++ decodeFrom owed rest

def decode (bytes : Bytes) : String := String.ofList (decodeFrom none bytes)

def encode (text : String) : Bytes := text.toList.flatMap String.utf8EncodeChar

end Text.Utf8
end PageMarks
