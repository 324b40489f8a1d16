import PageMarks.Content.Stream

/-!
How operations are written down. A value has one spelling as a list of tokens, but for the case of
hexadecimal letters; between two tokens stand spaces and comments, at least one of them.
-/

namespace PageMarks.Content

section Tokens

variable (capitals : Bool)

def hexByte (n : Nat) : UInt8 :=
  UInt8.ofNat (n + if n < 10 then 48 else if capitals then 55 else 87)

def hexPair (b : UInt8) : Bytes :=
  [hexByte capitals (b.toNat / 16), hexByte capitals (b.toNat % 16)]

def nameByte (b : UInt8) : Bytes :=
  if b == 35 || !isRegular b then 35 :: hexPair capitals b else [b]

def nameToken (bytes : Bytes) : Bytes := 47 :: bytes.flatMap (nameByte capitals)

def literalByte (b : UInt8) : Bytes := if b == 40 || b == 41 || b == 92 then [92, b] else [b]

def stringToken (bytes : Bytes) : StringForm → Bytes
  | .literal => 40 :: (bytes.flatMap literalByte ++ [41])
  | .hexadecimal => 60 :: (bytes.flatMap (hexPair capitals) ++ [62])

def decimal (n : Nat) : Bytes :=
  if n < 10 then [UInt8.ofNat (n + 48)] else decimal (n / 10) ++ [UInt8.ofNat (n % 10 + 48)]

def integerToken : Int → Bytes
  | .ofNat n => decimal n
  | .negSucc n => 45 :: decimal (n + 1)

def wordToken (word : String) : Bytes := Text.Utf8.encode word

mutual

def spell : Object → List Bytes
  | .null => [wordToken "null"]
  | .boolean true => [wordToken "true"]
  | .boolean false => [wordToken "false"]
  | .integer n => [integerToken n]
  | .name bytes => [nameToken capitals bytes]
  | .string bytes form => [stringToken capitals bytes form]
  | .array items => [91] :: (spellItems items ++ [[93]])
  | .dictionary entries => [60, 60] :: (spellEntries entries ++ [[62, 62]])
  | .real _ | .stream .. | .reference _ => []

def spellItems : List Object → List Bytes
  | [] => []
  | item :: rest => spell item ++ spellItems rest

def spellEntries : List (Bytes × Object) → List Bytes
  | [] => []
  | (key, value) :: rest => nameToken capitals key :: (spell value ++ spellEntries rest)

end

def spellOperation (op : Operation) : List Bytes :=
  spellItems capitals op.operands ++ [wordToken op.operator]

end Tokens

inductive Writable : Object → Prop
  | null : Writable .null
  | boolean (value : Bool) : Writable (.boolean value)
  | integer (n : Int) (low : -Bound.long ≤ n) (high : n < Bound.long) : Writable (.integer n)
  | name (bytes : Bytes) : Writable (.name bytes)
  | string (bytes : Bytes) (form : StringForm) : Writable (.string bytes form)
  | array (items : List Object) (each : ∀ item ∈ items, Writable item) : Writable (.array items)
  | dictionary (entries : List (Bytes × Object)) (distinct : (entries.map (·.1)).Nodup)
      (each : ∀ entry ∈ entries, Writable entry.2) : Writable (.dictionary entries)

structure IsWord (word : String) : Prop where
  ascii : ∀ c ∈ word.toList, c.toNat < 128
  regular : ∀ b ∈ wordToken word, isRegular b = true
  starts : (wordToken word).head?.any startsOperator = true

/-- Words that stand for an operator. The four others are constants, or begin an image. -/
structure IsOperator (word : String) : Prop extends IsWord word where
  free : word ∉ ["true", "false", "null", "BI"]

structure WritableOperation (op : Operation) : Prop where
  operator : IsOperator op.operator
  operands : ∀ value ∈ op.operands, Writable value

inductive Blanks : Bytes → Prop
  | nil : Blanks []
  | space {b : UInt8} {rest : Bytes} : isSpace b = true → Blanks rest → Blanks (b :: rest)
  | comment {text rest : Bytes} {eol : UInt8} : (∀ b ∈ text, b ≠ 10 ∧ b ≠ 13) →
      eol = 10 ∨ eol = 13 → Blanks rest → Blanks (37 :: (text ++ eol :: rest))

/-- The tokens in order, apart from each other. If `apart`, the first is apart from what stands
before it. -/
inductive Written : Bool → List Bytes → Bytes → Prop
  | done {apart : Bool} {gap : Bytes} : Blanks gap → Written apart [] gap
  | token {apart : Bool} {gap token rest : Bytes} {tokens : List Bytes} : Blanks gap →
      (apart = true → gap ≠ []) → Written true tokens rest →
      Written apart (token :: tokens) (gap ++ (token ++ rest))

end PageMarks.Content
