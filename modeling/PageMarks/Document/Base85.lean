import PageMarks.Document.Decoder

/-! The decoder for streams in base-85 text, and for no others. -/

namespace PageMarks.Base85

inductive Fault
  | overflow
  | misplaced

def Fault.text : Fault → String
  | overflow => "multiplication overflow"
  | misplaced => "z character is not allowed in the middle of a group"

def isBlank (b : UInt8) : Bool := b == 32 || b == 9 || b == 10 || b == 12 || b == 13

def pushDigit (group digit : Nat) : Except Fault Nat :=
  let next := group * 85 + digit
  if next < Bound.word then .ok next else .error .overflow

def wordBytes (n : Nat) : Bytes :=
  [UInt8.ofNat (n / 0x1000000), UInt8.ofNat (n / 0x10000 % 256), UInt8.ofNat (n / 0x100 % 256),
    UInt8.ofNat (n % 256)]

def padGroup (group : Nat) : Nat → Except Fault Nat
  | 0 => .ok group
  | n + 1 =>
    match pushDigit group 84 with
    | .error e => .error e
    | .ok group => padGroup group n

/-- A group of `count < 5` digits at the end gives one byte fewer. -/
def lastGroup (group count : Nat) : Except Fault Bytes :=
  if count = 0 then .ok []
  else (padGroup group (5 - count)).map fun group => (wordBytes group).take (count - 1)

def decodeFrom (group count : Nat) : Bytes → Except Fault Bytes
  | [] => lastGroup group count
  | b :: rest =>
    if b == 122 then
      if count = 0 then (decodeFrom group count rest).map ([0, 0, 0, 0] ++ ·)
      else .error .misplaced
    else if isBlank b then decodeFrom group count rest
    else if b < 33 || 117 < b then lastGroup group count
    else
      match pushDigit group (b.toNat - 33) with
      | .error e => .error e
      | .ok group =>
        if count = 4 then (decodeFrom 0 0 rest).map (wordBytes group ++ ·)
        else decodeFrom group (count + 1) rest

def dropMark (data : Bytes) : Bytes :=
  match data.reverse with
  | 62 :: 126 :: rest => rest.reverse
  | _ => data

def decode (data : Bytes) : Except Fault Bytes := decodeFrom 0 0 (dropMark data)

def filterName : Bytes := Text.Utf8.encode "ASCII85Decode"

abbrev decoder : Decoder := .ofFilters fun filter data =>
  if filter = filterName then (decode data).mapError fun fault => .undecoded fault.text
  else .error (.undecoded "unknown filter")

theorem decoder_local : @Decoder.Local decoder := by
  refine @Decoder.Local.mk decoder fun same data => ?_
  have filters := same "Filter" List.mem_cons_self
  dsimp only [Decoder.undo]
  rw [filters]

end PageMarks.Base85
