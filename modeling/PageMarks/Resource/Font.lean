import PageMarks.Resource

/-! Fonts from their dictionaries: names and widths. -/

namespace PageMarks.Resource

open Scalar (ofInt zero)

variable {K : Type} [Scalar K]

def followed? (doc : Document) (entries : Dictionary) (key : String) :
    Except ResolveError (Option Object) :=
  match entries.entry? key with
  | none => .ok none
  | some value =>
    match doc.resolve value with
    | .error e => .error (.document e)
    | .ok value => .ok (some value)

def numberAt? (doc : Document) (value : Object) : Option K :=
  (doc.resolve? value).bind Object.number?

def arrayAt? (doc : Document) (value : Object) : Option (List Object) :=
  (doc.resolve? value).bind Object.array?

/-- Glyph units of fonts with a matrix of their own, brought to thousandths. -/
def rescale (entries : Dictionary) (widths : List K) : List K :=
  match ((entries.array? "FontMatrix").bind List.head?).bind Object.number? with
  | none => widths
  | some scale => widths.map fun width => width * (scale * ofInt 1000)

def simpleFont (doc : Document) (name : String) (entries : Dictionary) :
    Except ResolveError (Font K) := do
  let widths := match ← followed? doc entries "Widths" with
    | some (.array items) => items.map fun item => (numberAt? doc item).getD zero
    | _ => []
  let missing := match ← followed? doc entries "FontDescriptor" with
    | some (.dictionary descriptor) => (Dictionary.number? descriptor "MissingWidth").getD zero
    | _ => zero
  return .simple name ((entries.word? "FirstChar").getD 0) (rescale entries widths) missing

/-- One range per width of a group that counts up from `code`. Entries that are no numbers keep
their place. At a code that is no 32-bit number the program stops. -/
def groupRanges (doc : Document) (code : Nat) : List Object → Option (List (WidthRange K))
  | [] => some []
  | item :: rest =>
    match numberAt? doc item with
    | none => groupRanges doc (code + 1) rest
    | some width =>
      if code < Bound.word then (groupRanges doc (code + 1) rest).map (⟨code, code, width⟩ :: ·)
      else none

def codeAt? (doc : Document) (value : Object) : Option Nat :=
  (doc.resolve? value).bind Object.word?

/-- Groups `c [w₁ … wₙ]` and `first last w` in any order. A value that cannot start a group is
passed over. -/
def widthRanges (doc : Document) : List Object → Option (List (WidthRange K))
  | [] => some []
  | value :: rest =>
    match codeAt? doc value, rest with
    | none, rest => widthRanges doc rest
    | some _, [] => some []
    | some first, next :: rest =>
      match arrayAt? doc next, rest with
      | some widths, rest => do
        let group ← groupRanges doc first widths
        return group ++ (← widthRanges doc rest)
      | none, [] => some []
      | none, width :: rest =>
        match codeAt? doc next, numberAt? doc width with
        | some last, some width => (widthRanges doc rest).map (⟨first, last, width⟩ :: ·)
        | _, _ => widthRanges doc rest

def descendant (doc : Document) (entries : Dictionary) :
    Except ResolveError (Option Dictionary) := do
  match ← followed? doc entries "DescendantFonts" with
  | some (.array (first :: _)) =>
    match doc.resolve first with
    | .error e => throw (.document e)
    | .ok value => return value.dictionary?
  | _ => return none

/-- Nothing where the program stops at one of the widths. -/
def compositeFont (doc : Document) (name : String) (entries : Dictionary) :
    Except ResolveError (Option (Font K)) := do
  match ← descendant doc entries with
  | none => return some (.ofRanges name (ofInt 1000) [])
  | some inner =>
    let default := (inner.number? "DW").getD (ofInt 1000)
    match ← followed? doc inner "W" with
    | some (.array items) => return (widthRanges doc items).map (.ofRanges name default)
    | _ => return some (.ofRanges name default [])

/-- A font without a base name goes by its resource name. -/
def font (doc : Document) (name : String) (entries : Dictionary) : Except ResolveError (Font K) := do
  let baseName := (entries.name? "BaseFont").getD name
  if entries.name? "Subtype" = some "Type0" then
    match ← compositeFont doc baseName entries with
    | none => throw (.unanswered .overflow)
    | some font => return font
  else simpleFont doc baseName entries

end PageMarks.Resource
