import PageMarks.Decimal.Text

/-! Values of the data format that reports are written in, and their text. -/

namespace PageMarks

inductive Json
  | null
  | boolean (value : Bool)
  | integer (value : Int)
  | number (value : Float)
  | string (value : String)
  | array (items : List Json)
  | object (fields : List (String × Json))

namespace Json

def ofFloat (x : Float) : Json := if x.isFinite then number x else null

def real (x : Float) : Json :=
  if x.isNaN then string "NaN"
  else if x.isInf then string (if x < 0 then "-inf" else "inf")
  else number x

def ofNat (n : Nat) : Json := integer n

def optional {α : Type} (f : α → Json) : Option α → Json
  | none => null
  | some value => f value

def insertField (name : String) (value : Json) : List (String × Json) → List (String × Json)
  | [] => [(name, value)]
  | (other, old) :: rest =>
    if name < other then (name, value) :: (other, old) :: rest
    else if name = other then (name, value) :: rest
    else (other, old) :: insertField name value rest

def ofFields (fields : List (String × Json)) : Json :=
  object (fields.foldl (fun sorted (name, value) => insertField name value sorted) [])

def field? (name : String) : Json → Option Json
  | object fields => fields.lookup name
  | _ => none

def items? : Json → Option (List Json)
  | array items => some items
  | _ => none

def string? : Json → Option String
  | string value => some value
  | _ => none

def integer? : Json → Option Int
  | integer value => some value
  | _ => none

def real? : Json → Option Float
  | number value => some value
  | integer value => some (Float.ofInt value)
  | string "NaN" => some (0 / 0)
  | string "inf" => some (1 / 0)
  | string "-inf" => some (-1 / 0)
  | _ => none

def hexCode (n : Nat) : List Char :=
  let digits := Nat.toDigits 16 n
  List.replicate (4 - digits.length) '0' ++ digits

def escapeChar (c : Char) : List Char :=
  if c = '"' then ['\\', '"']
  else if c = '\\' then ['\\', '\\']
  else if c = '\n' then ['\\', 'n']
  else if c = '\r' then ['\\', 'r']
  else if c = '\t' then ['\\', 't']
  else if c.toNat = 8 then ['\\', 'b']
  else if c.toNat = 12 then ['\\', 'f']
  else if c.toNat < 32 then ['\\', 'u'] ++ hexCode c.toNat
  else [c]

def quote (text : String) : String :=
  String.ofList ('"' :: text.toList.flatMap escapeChar ++ ['"'])

def braced (text : String) : String := "\x7b" ++ text ++ "\x7d"

mutual

def render : Json → String
  | null => "null"
  | boolean value => if value then "true" else "false"
  | integer value => toString value
  | number value => (Decimal.exponentText? value).getD "null"
  | string value => quote value
  | array items => "[" ++ ",".intercalate (renderItems items) ++ "]"
  | object fields => braced (",".intercalate (renderFields fields))

def renderItems : List Json → List String
  | [] => []
  | item :: rest => item.render :: renderItems rest

def renderFields : List (String × Json) → List String
  | [] => []
  | (name, value) :: rest => (quote name ++ ":" ++ value.render) :: renderFields rest

end

end Json
end PageMarks
