import PageMarks.Bound
import PageMarks.Text.Blank

/-!
Page selections such as `1,3-5`: parts between commas, blank ones ignored, each a page or a first
and a last page around a hyphen.
-/

namespace PageMarks.PageRange

inductive Error
  | invalidNumber (text : String)
  | zero
  | beyond (page count : Nat)
  | descending (part : String)
  | nothing (input : String)
  deriving DecidableEq, Repr

def Error.message : Error → String
  | invalidNumber text => "invalid page number: '" ++ text ++ "'"
  | zero => "page 0 is invalid (pages start at 1)"
  | beyond page count =>
    "page " ++ toString page ++ " exceeds document page count (" ++ toString count ++ ")"
  | descending part => "descending range: '" ++ part ++ "'"
  | nothing input => "no pages selected by '" ++ input ++ "'"

def digitsValue (digits : List Char) : Nat :=
  digits.foldl (fun n c => n * 10 + (c.toNat - '0'.toNat)) 0

def number? (bound : Nat) (text : List Char) : Option Nat :=
  let digits := match text with
    | '+' :: rest => rest
    | _ => text
  if !digits.isEmpty && digits.all Char.isDigit && digitsValue digits < bound then
    some (digitsValue digits)
  else none

def page (count : Nat) (text : List Char) : Except Error Nat :=
  let text := Text.trim text
  match number? Bound.word text with
  | none => .error (.invalidNumber (String.ofList text))
  | some 0 => .error .zero
  | some page => if count < page then .error (.beyond page count) else .ok page

def splitAt (separator : Char) : List Char → List (List Char)
  | [] => [[]]
  | c :: rest =>
    match splitAt separator rest with
    | [] => [[c]]
    | piece :: pieces => if c = separator then [] :: piece :: pieces else (c :: piece) :: pieces

def hyphen? (part : List Char) : Option (List Char × List Char) :=
  match part.dropWhile (· != '-') with
  | [] => none
  | _ :: after => some (part.takeWhile (· != '-'), after)

structure Interval where
  first : Nat
  last : Nat

def Interval.pages (i : Interval) : List Nat := List.range' i.first (i.last + 1 - i.first)

def interval (count : Nat) (part : List Char) : Except Error Interval :=
  match hyphen? part with
  | none => (page count part).map fun page => ⟨page, page⟩
  | some (first, last) => do
    let first ← page count first
    let last ← page count last
    if last < first then .error (.descending (String.ofList part)) else .ok ⟨first, last⟩

def parts (input : String) : List (List Char) :=
  ((splitAt ',' input.toList).map Text.trim).filter (!·.isEmpty)

def dropRepeats : List Nat → List Nat
  | a :: b :: rest => if a = b then dropRepeats (b :: rest) else a :: dropRepeats (b :: rest)
  | short => short

/-- The selected pages, ascending and without repetition. -/
def select (input : String) (count : Nat) : Except Error (List Nat) := do
  let intervals ← (parts input).mapM (interval count)
  match intervals.flatMap Interval.pages with
  | [] => .error (.nothing input)
  | pages => .ok (dropRepeats (pages.mergeSort (· ≤ ·)))

end PageMarks.PageRange
