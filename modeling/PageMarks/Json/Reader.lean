import PageMarks.Json
import PageMarks.Text.Utf8

/-!
Reading the data format. A number with a point or an exponent is a float, and so is minus zero; any
other is an integer. Fields come out in order of their names.
-/

namespace PageMarks.Json

def isBlank (c : Char) : Bool := c = ' ' || c = '\t' || c = '\n' || c = '\r'

def skipBlanks (text : List Char) : List Char := text.dropWhile isBlank

def digitsValue (digits : List Char) : Nat :=
  digits.foldl (fun n c => n * 10 + (c.toNat - '0'.toNat)) 0

def hexDigit? (c : Char) : Option Nat :=
  if c.isDigit then some (c.toNat - '0'.toNat)
  else if 'a' ≤ c && c ≤ 'f' then some (c.toNat - 'a'.toNat + 10)
  else if 'A' ≤ c && c ≤ 'F' then some (c.toNat - 'A'.toNat + 10)
  else none

def hexNumber? (digits : List Char) : Option Nat :=
  digits.foldlM (fun n c => (hexDigit? c).map (n * 16 + ·)) 0

def escaped? : Char → Option Nat
  | '"' => some '"'.toNat
  | '\\' => some '\\'.toNat
  | '/' => some '/'.toNat
  | 'n' => some '\n'.toNat
  | 'r' => some '\r'.toNat
  | 't' => some '\t'.toNat
  | 'b' => some 8
  | 'f' => some 12
  | _ => none

def readCodes : List Char → Option (List Nat × List Char)
  | [] => none
  | '"' :: rest => some ([], rest)
  | '\\' :: 'u' :: a :: b :: c :: d :: rest => do
    let code ← hexNumber? [a, b, c, d]
    let (codes, rest) ← readCodes rest
    return (code :: codes, rest)
  | '\\' :: c :: rest => do
    let code ← escaped? c
    let (codes, rest) ← readCodes rest
    return (code :: codes, rest)
  | c :: rest => (readCodes rest).map fun (codes, rest) => (c.toNat :: codes, rest)

def isHighHalf (code : Nat) : Bool := 0xD800 ≤ code && code < 0xDC00

def isLowHalf (code : Nat) : Bool := 0xDC00 ≤ code && code < 0xE000

def charOfCode (code : Nat) : Char :=
  if isHighHalf code || isLowHalf code then Text.Utf8.replacement else Char.ofNat code

/-- Two halves make a character, a lone one none. -/
def joinHalves : List Nat → List Char
  | high :: low :: rest =>
    if isHighHalf high && isLowHalf low then
      Char.ofNat (0x10000 + (high - 0xD800) * 0x400 + (low - 0xDC00)) :: joinHalves rest
    else charOfCode high :: joinHalves (low :: rest)
  | [code] => [charOfCode code]
  | [] => []

def readString (text : List Char) : Option (String × List Char) :=
  (readCodes text).map fun (codes, rest) => (String.ofList (joinHalves codes), rest)

def readSign : List Char → Bool × List Char
  | '-' :: rest => (true, rest)
  | '+' :: rest => (false, rest)
  | text => (false, text)

def readFraction : List Char → Option (List Char) × List Char
  | '.' :: rest => (some (rest.takeWhile Char.isDigit), rest.dropWhile Char.isDigit)
  | text => (none, text)

def readExponent : List Char → Option Int × List Char
  | 'e' :: rest | 'E' :: rest =>
    let (negative, rest) := readSign rest
    let n : Int := digitsValue (rest.takeWhile Char.isDigit)
    (some (if negative then -n else n), rest.dropWhile Char.isDigit)
  | text => (none, text)

def scaled (negative : Bool) (digits : Nat) (exponent : Int) : Float :=
  let x := Float.ofScientific digits (exponent < 0) exponent.natAbs
  if negative then -x else x

def readNumber (text : List Char) : Option (Json × List Char) :=
  let (negative, text) := readSign text
  let whole := text.takeWhile Char.isDigit
  let (fraction, text) := readFraction (text.dropWhile Char.isDigit)
  let (exponent, text) := readExponent text
  let n := digitsValue whole
  if whole.isEmpty then none
  else if fraction.isNone && exponent.isNone && !(negative && n = 0) then
    some (integer (if negative then -n else n), text)
  else
    let places := fraction.getD []
    let value := scaled negative (digitsValue (whole ++ places)) (exponent.getD 0 - places.length)
    some (number value, text)

def readWord (word : List Char) (value : Json) (text : List Char) : Option (Json × List Char) :=
  if word.isPrefixOf text then some (value, text.drop word.length) else none

def readLeaf (text : List Char) : Option (Json × List Char) :=
  match text with
  | 'n' :: _ => readWord ['n', 'u', 'l', 'l'] null text
  | 't' :: _ => readWord ['t', 'r', 'u', 'e'] (boolean true) text
  | 'f' :: _ => readWord ['f', 'a', 'l', 's', 'e'] (boolean false) text
  | '"' :: rest => (readString rest).map fun (value, rest) => (string value, rest)
  | _ => readNumber text

def afterColon (text : List Char) : Option (List Char) :=
  match skipBlanks text with
  | ':' :: rest => some rest
  | _ => none

mutual

def readValue : Nat → List Char → Option (Json × List Char)
  | 0, _ => none
  | room + 1, text =>
    match skipBlanks text with
    | '[' :: rest =>
      match skipBlanks rest with
      | ']' :: rest => some (array [], rest)
      | rest => (readItems room rest).map fun (items, rest) => (array items, rest)
    | '\x7b' :: rest =>
      match skipBlanks rest with
      | '\x7d' :: rest => some (object [], rest)
      | rest => (readFields room rest).map fun (fields, rest) => (ofFields fields, rest)
    | text => readLeaf text

def readItems : Nat → List Char → Option (List Json × List Char)
  | 0, _ => none
  | room + 1, text =>
    match readValue room text with
    | none => none
    | some (item, rest) =>
      match skipBlanks rest with
      | ']' :: rest => some ([item], rest)
      | ',' :: rest => (readItems room rest).map fun (items, rest) => (item :: items, rest)
      | _ => none

def readFields : Nat → List Char → Option (List (String × Json) × List Char)
  | 0, _ => none
  | room + 1, text =>
    match skipBlanks text with
    | '"' :: text =>
      match (readString text).bind fun (name, rest) => (afterColon rest).map (name, ·) with
      | none => none
      | some (name, rest) =>
        match readValue room rest with
        | none => none
        | some (value, rest) =>
          match skipBlanks rest with
          | '\x7d' :: rest => some ([(name, value)], rest)
          | ',' :: rest =>
            (readFields room rest).map fun (fields, rest) => ((name, value) :: fields, rest)
          | _ => none
    | _ => none

end

def ofText? (text : String) : Option Json :=
  match readValue (2 * text.length + 2) text.toList with
  | some (value, rest) => if (skipBlanks rest).isEmpty then some value else none
  | none => none

end PageMarks.Json
