import PageMarks.Proofs.Content.Escapes

/-!
What strings and names stand for. A string or a name may be spelled in many ways; the main statement
lists them, and has each read as what it stands for, with the reading going on right behind it.
-/

namespace PageMarks.Content

theorem hexByte_of_value {b : UInt8} {n : Nat} (value : hexValue? b = some n) :
    n < 16 ∧ ∃ capitals, b = hexByte capitals n := by
  -- Each range is a shift of its digits' values, by 48, 87 or 55.
  have byte {m k : Nat} (sum : m + k = b.toNat) : b = UInt8.ofNat (m + k) := by
    rw [sum, UInt8.ofNat_toNat]
  simp only [hexValue?, isDigit, Bool.and_eq_true, decide_eq_true_eq, UInt8.le_iff_toNat_le,
    UInt8.reduceToNat] at value
  split_ifs at value with decimal small capital
  · cases value
    refine ⟨by omega, false, ?_⟩
    rw [hexByte, if_pos (by omega)]
    exact byte (by omega)
  · cases value
    refine ⟨by omega, false, ?_⟩
    rw [hexByte, if_neg (by omega), if_neg Bool.false_ne_true]
    exact byte (by omega)
  · cases value
    refine ⟨by omega, true, ?_⟩
    rw [hexByte, if_neg (by omega), if_pos rfl]
    exact byte (by omega)

/-- Digits, each with letters of either case, and spaces anywhere. -/
inductive HexText : List Nat → Bytes → Prop
  | nil : HexText [] []
  | space {digits : List Nat} {text : Bytes} {b : UInt8} : isSpace b = true → HexText digits text →
      HexText digits (b :: text)
  | digit {digits : List Nat} {text : Bytes} {n : Nat} (capitals : Bool) : n < 16 →
      HexText digits text → HexText (n :: digits) (hexByte capitals n :: text)

def nibbles (bytes : Bytes) : List Nat := bytes.flatMap fun b => [b.toNat / 16, b.toNat % 16]

theorem hexDigits_space {b : UInt8} (space : isSpace b = true) (start : Nat) (s : Bytes) :
    hexDigits start (b :: s) = hexDigits start s := by
  have inside : (b == 62) = false := by
    rw [beq_eq_false_iff_ne]
    rintro rfl
    cases space
  simp only [hexDigits, inside, space, Bool.false_eq_true, if_true, if_false]

theorem HexText.digits {digits : List Nat} {text : Bytes} (spelled : HexText digits text)
    (start : Nat) (rest : Bytes) : hexDigits start (text ++ 62 :: rest) = .ok (digits, rest) := by
  induction spelled with
  | nil => rfl
  | space isBlank _ ih => rw [List.cons_append, hexDigits_space isBlank, ih]
  | digit capitals small _ ih =>
    rw [List.cons_append, hexDigits_digit capitals small, ih]
    rfl

theorem HexText.front {digits : List Nat} {text : Bytes} (spelled : HexText digits text)
    (rest : Bytes) : (text ++ 62 :: rest).head? ≠ some 60 := by
  cases spelled with
  | nil => simp
  | @space _ _ b isBlank =>
    rintro found
    cases found
    cases isBlank
  | @digit _ _ n capitals small =>
    have regular := hexByte_regular capitals small
    intro found
    rw [List.cons_append, List.head?_cons, Option.some.injEq] at found
    rw [found] at regular
    cases regular

theorem pairDigits_nibbles (bytes : Bytes) (digits : List Nat) :
    pairDigits (nibbles bytes ++ digits) = bytes ++ pairDigits digits := by
  induction bytes with
  | nil => rfl
  | cons b bytes ih =>
    calc pairDigits (nibbles (b :: bytes) ++ digits)
        = UInt8.ofNat (b.toNat / 16 * 16 + b.toNat % 16) :: pairDigits (nibbles bytes ++ digits) := rfl
      _ = b :: (bytes ++ pairDigits digits) := by rw [byte_of_digits, ih]

def BeginsHex (s : Bytes) : Prop :=
  ∃ (first second : Bool) (b : UInt8) (rest : Bytes),
    s = hexByte first (b.toNat / 16) :: hexByte second (b.toNat % 16) :: rest

/-- What a name stands for: a number sign with two digits behind it for a byte, any other sign and any
other byte for itself. -/
inductive NameText : Bytes → Bytes → Prop
  | nil : NameText [] []
  | plain {b : UInt8} {s bytes : Bytes} : b ≠ 35 → NameText s bytes → NameText (b :: s) (b :: bytes)
  | escape {b : UInt8} {s bytes : Bytes} (first second : Bool) : NameText s bytes →
      NameText (35 :: hexByte first (b.toNat / 16) :: hexByte second (b.toNat % 16) :: s) (b :: bytes)
  | sign {s bytes : Bytes} : ¬BeginsHex s → NameText s bytes → NameText (35 :: s) (35 :: bytes)

theorem beginsHex_of_values {high low : UInt8} {h l : Nat} (first : hexValue? high = some h)
    (second : hexValue? low = some l) (rest : Bytes) : BeginsHex (high :: low :: rest) := by
  obtain ⟨highSmall, big, rfl⟩ := hexByte_of_value first
  obtain ⟨lowSmall, bigToo, rfl⟩ := hexByte_of_value second
  have value : (UInt8.ofNat (h * 16 + l)).toNat = h * 16 + l := by
    rw [UInt8.toNat_ofNat']
    omega
  refine ⟨big, bigToo, UInt8.ofNat (h * 16 + l), rest, ?_⟩
  rw [value, show (h * 16 + l) / 16 = h by omega, show (h * 16 + l) % 16 = l by omega]

theorem decodeName_sign {s : Bytes} (other : ¬BeginsHex s) :
    decodeName (35 :: s) = 35 :: decodeName s := by
  match s with
  | [] | [_] => rfl
  | high :: low :: rest =>
    cases first : hexValue? high with
    | none => simp [decodeName, first]
    | some h =>
      cases second : hexValue? low with
      | none => simp [decodeName, second]
      | some l => exact absurd (beginsHex_of_values first second rest) other

theorem NameText.decode {s bytes : Bytes} (spelled : NameText s bytes) : decodeName s = bytes := by
  induction spelled with
  | nil => rfl
  | plain other _ ih => rw [decodeName_plain other, ih]
  | escape first second _ ih => rw [decodeName_escape, ih]
  | sign other _ ih => rw [decodeName_sign other, ih]

theorem nameText_decode {n : Nat} {s : Bytes} (short : s.length ≤ n) : NameText s (decodeName s) := by
  induction n generalizing s with
  | zero =>
    rw [List.eq_nil_of_length_eq_zero (Nat.le_zero.mp short)]
    exact .nil
  | succ n ih =>
    cases s with
    | nil => exact .nil
    | cons b s =>
      have tail : s.length ≤ n := Nat.le_of_succ_le_succ short
      by_cases sign : b = 35
      · subst sign
        by_cases begins : BeginsHex s
        · obtain ⟨first, second, b, rest, rfl⟩ := begins
          have inner : rest.length ≤ n := Nat.le_of_succ_le (Nat.le_of_succ_le tail)
          rw [decodeName_escape]
          exact .escape first second (ih inner)
        · rw [decodeName_sign begins]
          exact .sign begins (ih tail)
      · rw [decodeName_plain sign]
        exact .plain sign (ih tail)

theorem decodeName_iff {s bytes : Bytes} : decodeName s = bytes ↔ NameText s bytes :=
  ⟨fun same => same ▸ nameText_decode (Nat.le_refl _), NameText.decode⟩

/-- In front of `rest` the token is read as the value, which then joins the operands that wait. -/
structure ReadsAs (token : Bytes) (value : Object) (rest : Bytes) : Prop where
  yields : ∀ part, Yields (readValue part (token ++ rest)) value rest
  operand : ∀ waiting, resumed waiting (token ++ rest) =
    behind token.length [] (resumed (waiting ++ [value]) rest)

theorem ValueAt.readsAs {b : UInt8} {token rest : Bytes} {value : Object}
    (rule : ValueAt (b :: (token ++ rest)) value rest) (solid : isSpace b = false) (other : b ≠ 37)
    (bare : startsOperator b = false) : ReadsAs (b :: token) value rest where
  yields part := rule.yields part
  operand waiting := by
    have item : Yields (readItem b (token ++ rest)) (some (.operand value)) rest :=
      (ItemAt.value bare rule).yields
    have read : readStream ((b :: token) ++ rest) = (readStream rest).map ([.operand value] ++ ·) :=
      readStream_step (skipBlanks_solid solid other _) item
    exact resumed_append waiting read

section Spelled

variable (rest : Bytes)

theorem pieces_readsAs {pieces : List Piece} (fits : Fitting pieces)
    (balanced : Balanced Piece.turn pieces) :
    ReadsAs (40 :: (pieces.flatMap Piece.text ++ [41]))
      (.string (pieces.flatMap Piece.bytes) .literal) rest := by
  have read := literal_pieces fits ((balanced_iff pieces).mp balanced) rest
  apply ValueAt.readsAs (.literal _) rfl (by decide) rfl
  rwa [List.append_assoc, List.singleton_append]

theorem HexText.readsAs {digits : List Nat} {text : Bytes} (spelled : HexText digits text) :
    ReadsAs (60 :: (text ++ [62])) (.string (pairDigits digits) .hexadecimal) rest := by
  have rule : ValueAt (60 :: (text ++ 62 :: rest)) (.string (pairDigits digits) .hexadecimal) rest :=
    .hexadecimal (spelled.front rest) (spelled.digits 0 rest)
  apply ValueAt.readsAs _ rfl (by decide) rfl
  rwa [List.append_assoc, List.singleton_append]

theorem name_readsAs {run bytes : Bytes} (regular : ∀ b ∈ run, isRegular b = true)
    (ends : endsRun rest = true) : ReadsAs (47 :: run) (.name bytes) rest ↔ NameText run bytes := by
  have read : name (run ++ rest) = (decodeName run, rest) := by
    rw [name, takeWhile_run regular ends, dropWhile_run regular ends]
  rw [← decodeName_iff]
  constructor
  · intro reads
    have yields : Yields (readValue .stream (47 :: (run ++ rest))) (.name bytes) rest :=
      reads.yields .stream
    rw [readValue_slash] at yields
    obtain ⟨r, found, value, -⟩ := yields
    cases found
    have same : Object.name (name (run ++ rest)).1 = .name bytes := value
    rwa [read, Object.name.injEq] at same
  · rintro rfl
    have rule : ValueAt (47 :: (run ++ rest)) _ _ := .name
    rw [read] at rule
    exact rule.readsAs rfl (by decide) rfl

end Spelled

/-- Strings and names are read as what they stand for: a literal string as the bytes of its pieces, a
hexadecimal string as the bytes whose digits it has, an odd last digit with a zero behind it, and a
name as its one reading. -/
theorem spellings_read (rest : Bytes) :
    (∀ pieces, Fitting pieces → Balanced Piece.turn pieces →
      ReadsAs (40 :: (pieces.flatMap Piece.text ++ [41]))
        (.string (pieces.flatMap Piece.bytes) .literal) rest) ∧
    (∀ bytes text, HexText (nibbles bytes) text →
      ReadsAs (60 :: (text ++ [62])) (.string bytes .hexadecimal) rest) ∧
    (∀ bytes digit text, HexText (nibbles bytes ++ [digit]) text →
      ReadsAs (60 :: (text ++ [62])) (.string (bytes ++ [UInt8.ofNat (digit * 16)]) .hexadecimal)
        rest) ∧
    ∀ run, (∀ b ∈ run, isRegular b = true) → endsRun rest = true →
      (∃ bytes, NameText run bytes) ∧
      ∀ bytes, NameText run bytes ↔ ReadsAs (47 :: run) (.name bytes) rest := by
  refine ⟨?_, ?_, ?_, ?_⟩
  · intro pieces fits balanced
    exact pieces_readsAs rest fits balanced
  · intro bytes text spelled
    have digits := pairDigits_nibbles bytes []
    have reads := spelled.readsAs rest
    rw [List.append_nil] at digits
    rwa [digits, pairDigits, List.append_nil] at reads
  · intro bytes digit text spelled
    have reads := spelled.readsAs rest
    rwa [pairDigits_nibbles] at reads
  · intro run regular ends
    exact ⟨⟨decodeName run, nameText_decode (Nat.le_refl _)⟩,
      fun bytes => (name_readsAs rest regular ends).symm⟩

def mixedPieces : List Piece :=
  [.plain 97, .opening, .octal [7, 7, 7], .closing, .lineEnd .both, .octal [0], .plain 56, .itself 41]

/-- The digits `4A0 f` and `4a`, a line feed and `7`, and the name `#4g#41#4`, each in front of a `Tj`. -/
theorem spellings_read_mixed :
    Fitting mixedPieces ∧ Balanced Piece.turn mixedPieces ∧
    HexText (nibbles [74, 15]) [52, 65, 48, 32, 102] ∧
    HexText (nibbles [74] ++ [7]) [52, 97, 10, 55] ∧
    NameText [35, 52, 103, 35, 52, 49, 35, 52] [35, 52, 103, 65, 35, 52] ∧
    resumed [] ([40, 97, 40, 92, 55, 55, 55, 41, 92, 13, 10, 92, 48, 56, 92, 41, 41] ++ [32, 84, 106]) =
      .ok ([⟨"Tj", [.string [97, 40, 255, 41, 0, 56, 41] .literal]⟩], []) ∧
    resumed [] ([60, 52, 65, 48, 32, 102, 62] ++ [32, 84, 106]) =
      .ok ([⟨"Tj", [.string [74, 15] .hexadecimal]⟩], []) ∧
    resumed [] ([60, 52, 97, 10, 55, 62] ++ [32, 84, 106]) =
      .ok ([⟨"Tj", [.string [74, 112] .hexadecimal]⟩], []) ∧
    resumed [] ([47, 35, 52, 103, 35, 52, 49, 35, 52] ++ [32, 84, 106]) =
      .ok ([⟨"Tj", [.name [35, 52, 103, 65, 35, 52]]⟩], []) := by
  obtain ⟨literals, even, odd, names⟩ := spellings_read [32, 84, 106]
  have fits : Fitting mixedPieces := by decide
  have balanced : Balanced Piece.turn mixedPieces := (balanced_iff mixedPieces).mpr rfl
  have pairs : HexText (nibbles [74, 15]) [52, 65, 48, 32, 102] := by
    have digits : HexText [4, 10, 0, 15]
        [hexByte true 4, hexByte true 10, hexByte true 0, 32, hexByte false 15] :=
      .digit true (by decide) (.digit true (by decide) (.digit true (by decide)
        (.space rfl (.digit false (by decide) .nil))))
    exact digits
  have single : HexText (nibbles [74] ++ [7]) [52, 97, 10, 55] := by
    have digits : HexText [4, 10, 7] [hexByte false 4, hexByte false 10, 10, hexByte false 7] :=
      .digit false (by decide) (.digit false (by decide) (.space rfl (.digit false (by decide) .nil)))
    exact digits
  have named : NameText [35, 52, 103, 35, 52, 49, 35, 52] [35, 52, 103, 65, 35, 52] :=
    decodeName_iff.mp rfl
  have regular : ∀ b ∈ ([35, 52, 103, 35, 52, 49, 35, 52] : Bytes), isRegular b = true :=
    List.all_eq_true.mp rfl
  have shown (value : Object) : resumed ([] ++ [value]) [32, 84, 106] = .ok ([⟨"Tj", [value]⟩], []) := by
    rw [resumed, readStream_last rfl rfl rfl (by decide)]
    rfl
  refine ⟨fits, balanced, pairs, single, named, ?_, ?_, ?_, ?_⟩
  · exact ((literals _ fits balanced).operand []).trans (by rw [shown]; rfl)
  · exact ((even _ _ pairs).operand []).trans (by rw [shown]; rfl)
  · exact ((odd _ _ _ single).operand []).trans (by rw [shown]; rfl)
  · have name := ((names _ regular rfl).2 _).mp named
    exact (name.operand []).trans (by rw [shown]; rfl)

end PageMarks.Content
