import Mathlib.Data.Fintype.Basic
import Mathlib.Tactic.FinCases
import PageMarks.Proofs.Balance
import PageMarks.Proofs.Content.Resumption

/-!
The spellings of a string or a name. A string may be written in many ways, and so may a name; the
statements below list them, and say of each what bytes it stands for. The main statement is that
every spelling is read as what it stands for, and the reading goes on right behind it.
-/

namespace PageMarks.Content

inductive Control
  | lineFeed
  | carriageReturn
  | tab
  | backspace
  | formFeed
  deriving DecidableEq, Repr

instance : Fintype Control where
  elems := {.lineFeed, .carriageReturn, .tab, .backspace, .formFeed}
  complete c := by cases c <;> decide

def Control.letter : Control → UInt8
  | lineFeed => 110
  | carriageReturn => 114
  | tab => 116
  | backspace => 98
  | formFeed => 102

def Control.byte : Control → UInt8
  | lineFeed => 10
  | carriageReturn => 13
  | tab => 9
  | backspace => 8
  | formFeed => 12

inductive LineEnd
  | carriageReturn
  | lineFeed
  | both
  deriving DecidableEq, Repr

def LineEnd.bytes : LineEnd → Bytes
  | carriageReturn => [13]
  | lineFeed => [10]
  | both => [13, 10]

def octalByte (digit : Fin 8) : UInt8 := UInt8.ofNat (digit + 48)

def octalValue (value : Nat) (digits : List (Fin 8)) : Nat :=
  digits.foldl (fun value digit => value * 8 + digit.val) value

inductive Piece
  | plain (b : UInt8)
  | opening
  | closing
  | control (c : Control)
  | itself (b : UInt8)
  | lineEnd (e : LineEnd)
  | octal (digits : List (Fin 8))

namespace Piece

def text : Piece → Bytes
  | plain b => [b]
  | opening => [40]
  | closing => [41]
  | control c => [92, c.letter]
  | itself b => [92, b]
  | lineEnd e => 92 :: e.bytes
  | octal digits => 92 :: digits.map octalByte

def bytes : Piece → Bytes
  | plain b | itself b => [b]
  | opening => [40]
  | closing => [41]
  | control c => [c.byte]
  | lineEnd _ => []
  | octal digits => [UInt8.ofNat (octalValue 0 digits % 256)]

def turn : Piece → Step
  | opening => .up
  | closing => .down
  | plain _ | control _ | itself _ | lineEnd _ | octal _ => .level

/-- The piece is what it looks like in front of `next`: a short octal escape ends before the next
octal digit, and an escaped carriage return takes a line feed with it. -/
def Fits (next : Bytes) : Piece → Prop
  | plain b => b ≠ 40 ∧ b ≠ 41 ∧ b ≠ 92
  | opening | closing | control _ | lineEnd .lineFeed | lineEnd .both => True
  | itself b => (∀ c : Control, b ≠ c.letter) ∧ b ≠ 10 ∧ b ≠ 13 ∧ isOctalDigit b = false
  | lineEnd .carriageReturn => next.head? ≠ some 10
  | octal digits => digits ≠ [] ∧ digits.length ≤ 3 ∧
      (digits.length < 3 → next.head?.any isOctalDigit = false)

instance Fits.decidable (next : Bytes) : DecidablePred (Fits next)
  | plain b => inferInstanceAs (Decidable (b ≠ 40 ∧ b ≠ 41 ∧ b ≠ 92))
  | opening | closing | control _ | lineEnd .lineFeed | lineEnd .both => .isTrue trivial
  | itself b => inferInstanceAs
      (Decidable ((∀ c : Control, b ≠ c.letter) ∧ b ≠ 10 ∧ b ≠ 13 ∧ isOctalDigit b = false))
  | lineEnd .carriageReturn => inferInstanceAs (Decidable (next.head? ≠ some 10))
  | octal digits => inferInstanceAs (Decidable (digits ≠ [] ∧ digits.length ≤ 3 ∧
      (digits.length < 3 → next.head?.any isOctalDigit = false)))

end Piece

def Fitting : List Piece → Prop
  | [] => True
  | piece :: rest => piece.Fits (rest.flatMap Piece.text) ∧ Fitting rest

instance Fitting.decidable : DecidablePred Fitting
  | [] => .isTrue trivial
  | piece :: rest =>
    have : Decidable (Fitting rest) := Fitting.decidable rest
    inferInstanceAs (Decidable (piece.Fits (rest.flatMap Piece.text) ∧ Fitting rest))

theorem Piece.Fits.before {next rest : Bytes} {piece : Piece} (fits : piece.Fits next) :
    piece.Fits (next ++ 41 :: rest) := by
  cases next with
  | nil =>
    cases piece with
    | plain | itself => exact fits
    | opening | closing | control => trivial
    | lineEnd e => cases e <;> simp [Fits]
    | octal digits =>
      exact ⟨fits.1, fits.2.1, fun _ => rfl⟩
  | cons c next => cases piece <;> exact fits

theorem Piece.Fits.of_before {next rest : Bytes} {piece : Piece} (fits : piece.Fits (next ++ rest)) :
    piece.Fits next := by
  cases next with
  | nil =>
    cases piece with
    | plain | itself => exact fits
    | opening | closing | control => trivial
    | lineEnd e => cases e <;> simp [Fits]
    | octal digits => exact ⟨fits.1, fits.2.1, fun _ => rfl⟩
  | cons c next => cases piece <;> exact fits

theorem octalByte_digit (digit : Fin 8) : isOctalDigit (octalByte digit) = true := by
  revert digit
  decide

theorem octalByte_value (digit : Fin 8) : (octalByte digit).toNat - 48 = digit := by
  revert digit
  decide

theorem octalByte_of_digit {b : UInt8} (digit : isOctalDigit b = true) :
    ∃ d : Fin 8, b = octalByte d := by
  have bounds : 48 ≤ b.toNat ∧ b.toNat ≤ 55 := by
    simpa [isOctalDigit, UInt8.le_iff_toNat_le] using digit
  refine ⟨⟨b.toNat - 48, by omega⟩, ?_⟩
  rw [octalByte, Nat.sub_add_cancel bounds.1, UInt8.ofNat_toNat]

theorem octal_run (room : Nat) (s : Bytes) :
    ∃ (digits : List (Fin 8)) (rest : Bytes), s = digits.map octalByte ++ rest ∧
      digits.length ≤ room ∧
      (digits.length < room → rest.head?.any isOctalDigit = false) := by
  induction room generalizing s with
  | zero => exact ⟨[], s, rfl, Nat.le_refl 0, fun below => absurd below (Nat.lt_irrefl 0)⟩
  | succ room ih =>
    cases s with
    | nil => exact ⟨[], [], rfl, Nat.zero_le _, fun _ => rfl⟩
    | cons b s =>
      cases digit : isOctalDigit b with
      | false => exact ⟨[], b :: s, rfl, Nat.zero_le _, fun _ => digit⟩
      | true =>
        obtain ⟨d, rfl⟩ := octalByte_of_digit digit
        obtain ⟨digits, rest, rfl, short, stops⟩ := ih s
        exact ⟨d :: digits, rest, rfl, Nat.succ_le_succ short,
          fun below => stops (Nat.lt_of_succ_lt_succ below)⟩

theorem exists_piece (b : UInt8) (s : Bytes) :
    (b = 92 ∧ s = []) ∨ ∃ piece rest, b :: s = Piece.text piece ++ rest ∧ piece.Fits rest := by
  by_cases opening : b = 40
  · exact .inr ⟨.opening, s, by rw [opening]; rfl, trivial⟩
  by_cases closing : b = 41
  · exact .inr ⟨.closing, s, by rw [closing]; rfl, trivial⟩
  by_cases backslash : b = 92
  · subst backslash
    cases s with
    | nil => exact .inl ⟨rfl, rfl⟩
    | cons c s =>
      right
      -- One case for each thing that a backslash may stand before.
      by_cases control : ∃ k : Control, c = k.letter
      · obtain ⟨k, rfl⟩ := control
        exact ⟨.control k, s, rfl, trivial⟩
      by_cases feed : c = 10
      · exact ⟨.lineEnd .lineFeed, s, by rw [feed]; rfl, trivial⟩
      by_cases carriage : c = 13
      · subst carriage
        by_cases both : s.head? = some 10
        · obtain ⟨rest, rfl⟩ := List.head?_eq_some_iff.mp both
          exact ⟨.lineEnd .both, rest, rfl, trivial⟩
        · exact ⟨.lineEnd .carriageReturn, s, rfl, both⟩
      cases digit : isOctalDigit c with
      | false =>
        exact ⟨.itself c, s, rfl, fun k same => control ⟨k, same⟩, feed, carriage, digit⟩
      | true =>
        obtain ⟨digits, rest, split, short, stops⟩ := octal_run 3 (c :: s)
        have nonempty : digits ≠ [] := by
          rintro rfl
          have front : isOctalDigit c = false := by
            rw [← show c :: s = rest from split] at stops
            exact stops (Nat.succ_pos 2)
          rw [digit] at front
          cases front
        exact ⟨.octal digits, rest, congrArg (92 :: ·) split, nonempty, short, stops⟩
  · exact .inr ⟨.plain b, s, rfl, opening, closing, backslash⟩

def ahead (front : Bytes) : Option (Bytes × Bytes) → Option (Bytes × Bytes) :=
  Option.map fun (bytes, after) => (front ++ bytes, after)

theorem ahead_ahead (first second : Bytes) (read : Option (Bytes × Bytes)) :
    ahead first (ahead second read) = ahead (first ++ second) read := by
  cases read <;> simp [ahead]

theorem ahead_nil (read : Option (Bytes × Bytes)) : ahead [] read = read := by
  cases read <;> rfl

theorem literal_step {state next : LiteralState} {b : UInt8} {out : Bytes}
    (steps : state.step b = (out, some next)) (s : Bytes) :
    literal state (b :: s) = ahead out (literal next s) := by
  simp only [literal, steps]
  rfl

theorem literal_octal {room : Nat} {digits : List (Fin 8)} {s : Bytes} (short : digits.length ≤ room)
    (stops : digits.length < room → s.head?.any isOctalDigit = false)
    (depth value : Nat) :
    literal ⟨depth, .octal room value⟩ (digits.map octalByte ++ s) =
      ahead [UInt8.ofNat (octalValue value digits % 256)] (literal ⟨depth, .plain⟩ s) := by
  induction digits generalizing room value with
  | nil =>
    cases s with
    | nil => rfl
    | cons b s =>
      -- The byte that ends the escape is read as if there had been none.
      have ended : (0 < room && isOctalDigit b) = false := by
        cases room with
        | zero => rfl
        | succ room => simpa using stops (Nat.succ_pos room)
      cases steps : LiteralState.plainByte depth b with
      | mk out next =>
        cases next with
        | none => simp [literal, LiteralState.step, ended, steps, ahead, octalValue]
        | some next =>
          have here : LiteralState.step ⟨depth, .plain⟩ b = (out, some next) := steps
          have there : LiteralState.step ⟨depth, .octal room value⟩ b =
              (UInt8.ofNat (value % 256) :: out, some next) := by
            simp [LiteralState.step, ended, steps]
          rw [List.map_nil, List.nil_append, literal_step here, literal_step there, ahead_ahead]
          rfl
  | cons d digits ih =>
    cases room with
    | zero => exact absurd short (Nat.not_succ_le_zero _)
    | succ room =>
      have steps : LiteralState.step ⟨depth, .octal (room + 1) value⟩ (octalByte d) =
          ([], some ⟨depth, .octal room (value * 8 + d)⟩) := by
        simp [LiteralState.step, octalByte_digit, octalByte_value]
      rw [List.map_cons, List.cons_append, literal_step steps, ahead_nil,
        ih (Nat.le_of_succ_le_succ short) fun below => stops (Nat.succ_lt_succ below)]
      rfl

theorem literal_continued {s : Bytes} (other : s.head? ≠ some 10) (depth : Nat) :
    literal ⟨depth, .continued⟩ s = literal ⟨depth, .plain⟩ s := by
  cases s with
  | nil => rfl
  | cons b s =>
    have notFeed : b ≠ 10 := by simpa using other
    have steps : LiteralState.step ⟨depth, .continued⟩ b = LiteralState.step ⟨depth, .plain⟩ b := by
      simp [LiteralState.step, notFeed]
    simp only [literal, steps]

theorem literal_escape (depth : Nat) (s : Bytes) :
    literal ⟨depth, .plain⟩ (92 :: s) = literal ⟨depth, .started⟩ s := by
  have steps : LiteralState.step ⟨depth, .plain⟩ 92 = ([], some ⟨depth, .started⟩) := rfl
  rw [literal_step steps, ahead_nil]

theorem literal_piece {piece : Piece} {s : Bytes} (fits : piece.Fits s) {depth next : Nat}
    (reaches : height Piece.turn depth [piece] = some next) :
    literal ⟨depth, .plain⟩ (piece.text ++ s) = ahead piece.bytes (literal ⟨next, .plain⟩ s) := by
  have level (flat : piece.turn = .level) : depth = next := by
    rw [height_level flat] at reaches
    cases reaches
    rfl
  cases piece with
  | opening =>
    cases reaches
    exact literal_step rfl s
  | closing =>
    cases depth with
    | zero => cases reaches
    | succ depth =>
      cases reaches
      exact literal_step rfl s
  | plain b =>
    obtain rfl := level rfl
    obtain ⟨opening, closing, backslash⟩ := fits
    have steps : LiteralState.step ⟨depth, .plain⟩ b = ([b], some ⟨depth, .plain⟩) := by
      simp [LiteralState.step, LiteralState.plainByte, opening, closing, backslash]
    exact literal_step steps s
  | control c =>
    obtain rfl := level rfl
    have steps : LiteralState.step ⟨depth, .started⟩ c.letter = ([c.byte], some ⟨depth, .plain⟩) := by
      cases c <;> rfl
    exact (literal_escape depth _).trans (literal_step steps s)
  | itself b =>
    obtain rfl := level rfl
    obtain ⟨controls, feed, carriage, digit⟩ := fits
    have letters : b ≠ 110 ∧ b ≠ 114 ∧ b ≠ 116 ∧ b ≠ 98 ∧ b ≠ 102 :=
      ⟨controls .lineFeed, controls .carriageReturn, controls .tab, controls .backspace,
        controls .formFeed⟩
    have steps : LiteralState.step ⟨depth, .started⟩ b = ([b], some ⟨depth, .plain⟩) := by
      simp [LiteralState.step, LiteralState.escapedByte, letters, feed, carriage, digit]
    exact (literal_escape depth _).trans (literal_step steps s)
  | lineEnd e =>
    obtain rfl := level rfl
    have carriage : LiteralState.step ⟨depth, .started⟩ 13 = ([], some ⟨depth, .continued⟩) := rfl
    have feed : LiteralState.step ⟨depth, .started⟩ 10 = ([], some ⟨depth, .plain⟩) := rfl
    have pair : LiteralState.step ⟨depth, .continued⟩ 10 = ([], some ⟨depth, .plain⟩) := rfl
    rw [Piece.text, List.cons_append, literal_escape, Piece.bytes, ahead_nil]
    cases e with
    | carriageReturn =>
      rw [LineEnd.bytes, List.singleton_append, literal_step carriage, ahead_nil,
        literal_continued fits]
    | lineFeed => rw [LineEnd.bytes, List.singleton_append, literal_step feed, ahead_nil]
    | both =>
      rw [LineEnd.bytes, List.cons_append, List.singleton_append, literal_step carriage, ahead_nil,
        literal_step pair, ahead_nil]
  | octal digits =>
    obtain rfl := level rfl
    obtain ⟨nonempty, short, stops⟩ := fits
    obtain ⟨d, digits, rfl⟩ := List.exists_cons_of_ne_nil nonempty
    have steps : LiteralState.step ⟨depth, .started⟩ (octalByte d) =
        ([], some ⟨depth, .octal 2 d⟩) := by
      fin_cases d <;> rfl
    rw [Piece.text, List.cons_append, literal_escape, List.map_cons, List.cons_append,
      literal_step steps, ahead_nil,
      literal_octal (Nat.le_of_succ_le_succ short) fun below => stops (Nat.succ_lt_succ below)]
    simp [Piece.bytes, octalValue]

/-- By induction on the pieces: the depth that they are read at is the height of the ones before. -/
theorem literal_pieces {pieces : List Piece} (fits : Fitting pieces) {depth : Nat}
    (closes : height Piece.turn depth pieces = some 0) (rest : Bytes) :
    literal ⟨depth, .plain⟩ (pieces.flatMap Piece.text ++ 41 :: rest) =
      some (pieces.flatMap Piece.bytes, rest) := by
  induction pieces generalizing depth with
  | nil =>
    cases closes
    rfl
  | cons piece pieces ih =>
    obtain ⟨first, others⟩ := fits
    obtain ⟨next, one, inner⟩ :=
      Option.bind_eq_some_iff.mp ((height_append depth [piece] pieces).symm.trans closes)
    rw [List.flatMap_cons, List.append_assoc, literal_piece first.before one, ih others inner]
    rfl

theorem Piece.text_pos (piece : Piece) : 0 < piece.text.length := by
  cases piece <;> exact Nat.succ_pos _

theorem Piece.leads (piece : Piece) (depth : Nat) :
    (piece = .closing ∧ depth = 0) ∨ ∃ next, height Piece.turn depth [piece] = some next := by
  cases piece with
  | closing =>
    cases depth with
    | zero => exact .inl ⟨rfl, rfl⟩
    | succ depth => exact .inr ⟨depth, rfl⟩
  | opening => exact .inr ⟨depth + 1, rfl⟩
  | plain | control | itself | lineEnd | octal => exact .inr ⟨depth, rfl⟩

theorem exists_pieces {n depth : Nat} {s bytes after : Bytes} (short : s.length < n)
    (read : literal ⟨depth, .plain⟩ s = some (bytes, after)) :
    ∃ pieces, Fitting pieces ∧ height Piece.turn depth pieces = some 0 ∧
      s = pieces.flatMap Piece.text ++ 41 :: after ∧ bytes = pieces.flatMap Piece.bytes := by
  induction n generalizing depth s bytes with
  | zero => exact absurd short (Nat.not_lt_zero _)
  | succ n ih =>
    cases s with
    | nil => cases read
    | cons b s =>
      rcases exists_piece b s with ⟨rfl, rfl⟩ | ⟨piece, rest, split, fits⟩
      · cases read
      rw [split] at read short ⊢
      rcases piece.leads depth with ⟨rfl, rfl⟩ | ⟨next, reaches⟩
      · cases read
        exact ⟨[], trivial, rfl, rfl, rfl⟩
      rw [literal_piece fits reaches] at read
      obtain ⟨⟨inner, tail⟩, found, same⟩ := Option.map_eq_some_iff.mp read
      cases same
      have shorter : rest.length < n := by
        have nonempty := piece.text_pos
        rw [List.length_append] at short
        omega
      obtain ⟨pieces, others, closes, rfl, rfl⟩ := ih shorter found
      refine ⟨piece :: pieces, ⟨fits.of_before, others⟩, ?_, ?_, rfl⟩
      · calc height Piece.turn depth (piece :: pieces)
            = (height Piece.turn depth [piece]).bind fun m => height Piece.turn m pieces :=
              height_append depth [piece] pieces
          _ = some 0 := by rw [reaches, Option.bind_some, closes]
      · rw [List.flatMap_cons, List.append_assoc]

/-- The bytes that are read as a literal string are pieces that fit and close what they open. -/
theorem literal_iff {s bytes after : Bytes} :
    literal ⟨0, .plain⟩ s = some (bytes, after) ↔
      ∃ pieces, Fitting pieces ∧ Balanced Piece.turn pieces ∧
        s = pieces.flatMap Piece.text ++ 41 :: after ∧ bytes = pieces.flatMap Piece.bytes := by
  constructor
  · intro read
    obtain ⟨pieces, fits, closes, split, same⟩ := exists_pieces (Nat.lt_succ_self _) read
    exact ⟨pieces, fits, (balanced_iff pieces).mpr closes, split, same⟩
  · rintro ⟨pieces, fits, balanced, rfl, rfl⟩
    exact literal_pieces fits ((balanced_iff pieces).mp balanced) after

end PageMarks.Content
