import PageMarks.Text.Utf8

/-! What can be wrong with the bytes of a content stream, and where. -/

namespace PageMarks.Content

inductive Part
  | stream
  | array
  | dictionary
  | dictionaryKey
  | literalString
  | hexString
  | imageDictionary
  | imageData
  deriving DecidableEq, Repr

def Part.text : Part → String
  | stream => "content stream"
  | array => "array"
  | dictionary => "dictionary"
  | dictionaryKey => "dictionary key"
  | literalString => "literal string"
  | hexString => "hex string"
  | imageDictionary => "inline image dictionary"
  | imageData => "inline image data"

inductive Fault
  | unterminated (part : Part)
  | unexpectedByte (byte : UInt8) (part : Part)
  | invalidNumber (token : String)
  | invalidHexDigit (byte : UInt8)
  deriving DecidableEq, Repr

structure Stop where
  fault : Fault
  left : Nat
  deriving DecidableEq, Repr

structure Error where
  fault : Fault
  offset : Nat
  deriving DecidableEq, Repr

def Stop.inInput (size : Nat) (s : Stop) : Error := ⟨s.fault, size - s.left⟩

def hexDigit (n : Nat) : Char :=
  if n < 10 then Char.ofNat ('0'.toNat + n) else Char.ofNat ('A'.toNat + (n - 10))

def byteText (b : UInt8) : String :=
  "0x" ++ String.ofList [hexDigit (b.toNat / 16), hexDigit (b.toNat % 16)]

def Error.message (e : Error) : String :=
  let place := "offset " ++ toString e.offset
  match e.fault with
  | .unterminated part => "unterminated " ++ part.text ++ " starting at " ++ place
  | .unexpectedByte byte part =>
    "unexpected byte " ++ byteText byte ++ " in " ++ part.text ++ " at " ++ place
  | .invalidNumber token => "invalid number '" ++ token ++ "' at " ++ place
  | .invalidHexDigit byte => "invalid hex digit " ++ byteText byte ++ " at " ++ place

end PageMarks.Content
