import Mathlib.Data.List.TakeWhile
import PageMarks.Proofs.Content.Spelling

/-!
Each lexeme is read back from its token. Strings end by themselves; a name, a word or a number ends
where a byte follows that cannot continue it.
-/

namespace PageMarks.Content

theorem skipBlanks_solid {b : UInt8} (solid : isSpace b = false) (other : b ≠ 37) (s : Bytes) :
    skipBlanks (b :: s) = b :: s := by
  simp [skipBlanks, blanksFrom, solid, other]

theorem blanksFrom_comment {text : Bytes} {eol : UInt8} (inside : ∀ b ∈ text, b ≠ 10 ∧ b ≠ 13)
    (ends : eol = 10 ∨ eol = 13) (s : Bytes) :
    blanksFrom true (text ++ eol :: s) = skipBlanks s := by
  induction text with
  | nil => rcases ends with rfl | rfl <;> rfl
  | cons b text ih =>
    obtain ⟨notFeed, notReturn⟩ := inside b List.mem_cons_self
    have rest := ih fun b member => inside b (List.mem_cons_of_mem _ member)
    have stays : (b != 10 && b != 13) = true := by simp [notFeed, notReturn]
    rw [List.cons_append, blanksFrom, if_pos rfl, stays]
    exact rest

theorem Blanks.skip {gap : Bytes} (blanks : Blanks gap) (s : Bytes) :
    skipBlanks (gap ++ s) = skipBlanks s := by
  induction blanks with
  | nil => rfl
  | space isBlank _ ih => simpa [skipBlanks, blanksFrom, isBlank] using ih
  | @comment text rest eol inside ends _ ih =>
    calc skipBlanks (37 :: (text ++ eol :: rest) ++ s)
        = blanksFrom true (text ++ eol :: (rest ++ s)) := by
          simp [skipBlanks, blanksFrom, isSpace]
      _ = skipBlanks (rest ++ s) := blanksFrom_comment inside ends _
      _ = skipBlanks s := ih

theorem Blanks.endsRun {gap : Bytes} (blanks : Blanks gap) (nonempty : gap ≠ []) (s : Bytes) :
    endsRun (gap ++ s) = true := by
  cases blanks with
  | nil => exact absurd rfl nonempty
  | space isBlank => simp [Content.endsRun, isRegular, isBlank]
  | comment => simp [Content.endsRun, isRegular, isDelimiter]

theorem Written.endsRun {tokens : List Bytes} {s : Bytes} (written : Written true tokens s) :
    endsRun s = true := by
  cases written with
  | done blanks =>
    by_cases empty : s = []
    · rw [empty]
      rfl
    · simpa using blanks.endsRun empty []
  | token blanks apart => exact blanks.endsRun (apart rfl) _

section Run

variable {run rest : Bytes} (regular : ∀ b ∈ run, isRegular b = true) (ends : endsRun rest = true)

include regular ends

theorem takeWhile_run : (run ++ rest).takeWhile isRegular = run := by
  rw [List.takeWhile_append_of_pos regular]
  cases rest with
  | nil => simp
  | cons b rest =>
    have stops : isRegular b = false := by simpa [endsRun] using ends
    simp [stops]

theorem dropWhile_run : (run ++ rest).dropWhile isRegular = rest := by
  rw [List.dropWhile_append_of_pos regular]
  cases rest with
  | nil => rfl
  | cons b rest =>
    have stops : isRegular b = false := by simpa [endsRun] using ends
    simp [stops]

end Run

theorem hexByte_value (capitals : Bool) {n : Nat} (h : n < 16) :
    hexValue? (hexByte capitals n) = some n := by
  revert n capitals
  decide

theorem hexByte_regular (capitals : Bool) {n : Nat} (h : n < 16) :
    isRegular (hexByte capitals n) = true := by
  revert n capitals
  decide

theorem high_digit (b : UInt8) : b.toNat / 16 < 16 := by
  have := b.toNat_lt
  omega

theorem low_digit (b : UInt8) : b.toNat % 16 < 16 := Nat.mod_lt _ (by decide)

theorem byte_of_digits (b : UInt8) : UInt8.ofNat (b.toNat / 16 * 16 + b.toNat % 16) = b := by
  rw [Nat.div_add_mod', UInt8.ofNat_toNat]

theorem decodeName_plain {b : UInt8} (h : b ≠ 35) (s : Bytes) :
    decodeName (b :: s) = b :: decodeName s := by
  match s with
  | [] | [_] => rfl
  | _ :: _ :: _ => simp [decodeName, h]

theorem decodeName_escape (first second : Bool) (b : UInt8) (s : Bytes) :
    decodeName (35 :: hexByte first (b.toNat / 16) :: hexByte second (b.toNat % 16) :: s) =
      b :: decodeName s := by
  simp only [decodeName, beq_self_eq_true, hexByte_value first (high_digit b),
    hexByte_value second (low_digit b), byte_of_digits]

theorem decodeName_byte (capitals : Bool) (b : UInt8) (s : Bytes) :
    decodeName (nameByte capitals b ++ s) = b :: decodeName s := by
  unfold nameByte
  split
  · exact decodeName_escape capitals capitals b s
  · next plain =>
    have other : b ≠ 35 := by
      rintro rfl
      contradiction
    exact decodeName_plain other s

theorem decodeName_spelled (capitals : Bool) (bytes : Bytes) :
    decodeName (bytes.flatMap (nameByte capitals)) = bytes := by
  induction bytes with
  | nil => rfl
  | cons b bytes ih => rw [List.flatMap_cons, decodeName_byte, ih]

theorem nameByte_regular (capitals : Bool) (b : UInt8) :
    ∀ c ∈ nameByte capitals b, isRegular c = true := by
  intro c member
  unfold nameByte at member
  split at member
  · simp only [hexPair, List.mem_cons, List.not_mem_nil, or_false] at member
    rcases member with rfl | rfl | rfl
    · decide
    · exact hexByte_regular capitals (high_digit b)
    · exact hexByte_regular capitals (low_digit b)
  · next plain =>
    obtain rfl := List.mem_singleton.1 member
    simp only [Bool.or_eq_true, Bool.not_eq_true', not_or, Bool.not_eq_false] at plain
    exact plain.2

theorem name_spelled (capitals : Bool) (bytes : Bytes) {rest : Bytes} (ends : endsRun rest = true) :
    name (bytes.flatMap (nameByte capitals) ++ rest) = (bytes, rest) := by
  have regular : ∀ c ∈ bytes.flatMap (nameByte capitals), isRegular c = true := by
    intro c member
    obtain ⟨b, -, inside⟩ := List.mem_flatMap.1 member
    exact nameByte_regular capitals b c inside
  unfold name
  rw [takeWhile_run regular ends, dropWhile_run regular ends, decodeName_spelled]

theorem literal_byte (b : UInt8) (s : Bytes) :
    literal ⟨0, .plain⟩ (literalByte b ++ s) =
      (literal ⟨0, .plain⟩ s).map fun (bytes, after) => (b :: bytes, after) := by
  unfold literalByte
  split
  · next escaped =>
    have backslash : LiteralState.step ⟨0, .plain⟩ 92 = ([], some ⟨0, .started⟩) := rfl
    have itself : LiteralState.step ⟨0, .started⟩ b = ([b], some ⟨0, .plain⟩) := by
      simp only [Bool.or_eq_true, beq_iff_eq] at escaped
      rcases escaped with (rfl | rfl) | rfl <;> rfl
    simp only [List.cons_append, List.nil_append, literal, backslash, itself]
    cases literal ⟨0, .plain⟩ s <;> rfl
  · next bare =>
    have itself : LiteralState.step ⟨0, .plain⟩ b = ([b], some ⟨0, .plain⟩) := by
      simp only [Bool.or_eq_true, beq_iff_eq, not_or] at bare
      simp [LiteralState.step, LiteralState.plainByte, bare]
    simp only [List.cons_append, List.nil_append, literal, itself]

theorem literal_spelled (bytes rest : Bytes) :
    literal ⟨0, .plain⟩ (bytes.flatMap literalByte ++ 41 :: rest) = some (bytes, rest) := by
  induction bytes with
  | nil => rfl
  | cons b bytes ih =>
    rw [List.flatMap_cons, List.append_assoc, literal_byte, ih]
    rfl

theorem hexDigits_digit (capitals : Bool) {n : Nat} (h : n < 16) (start : Nat) (s : Bytes) :
    hexDigits start (hexByte capitals n :: s) =
      (hexDigits start s).map fun (digits, after) => (n :: digits, after) := by
  have regular := hexByte_regular capitals h
  have solid : isSpace (hexByte capitals n) = false := by
    cases space : isSpace (hexByte capitals n)
    · rfl
    · simp [isRegular, space] at regular
  have inside : (hexByte capitals n == 62) = false := by
    cases close : hexByte capitals n == 62
    · rfl
    · rw [beq_iff_eq.1 close] at regular
      contradiction
  simp only [hexDigits, inside, solid, hexByte_value capitals h, Bool.false_eq_true, if_false]

theorem hexDigits_spelled (capitals : Bool) (start : Nat) (bytes rest : Bytes) :
    ∃ digits, hexDigits start (bytes.flatMap (hexPair capitals) ++ 62 :: rest) = .ok (digits, rest) ∧
      pairDigits digits = bytes := by
  induction bytes with
  | nil => exact ⟨[], rfl, rfl⟩
  | cons b bytes ih =>
    obtain ⟨digits, read, same⟩ := ih
    refine ⟨b.toNat / 16 :: b.toNat % 16 :: digits, ?_, ?_⟩
    · rw [List.flatMap_cons, List.append_assoc, hexPair, List.cons_append, List.singleton_append,
        hexDigits_digit capitals (high_digit b), hexDigits_digit capitals (low_digit b), read]
      rfl
    · rw [pairDigits, byte_of_digits, same]

theorem hexString_front (capitals : Bool) (bytes rest : Bytes) :
    (bytes.flatMap (hexPair capitals) ++ 62 :: rest).head? ≠ some 60 := by
  cases bytes with
  | nil => simp
  | cons b bytes =>
    have regular := hexByte_regular capitals (high_digit b)
    intro found
    simp only [List.flatMap_cons, hexPair, List.cons_append, List.head?_cons,
      Option.some.injEq] at found
    rw [found] at regular
    contradiction

theorem decimal_digit {n : Nat} (h : n < 10) : isDigit (UInt8.ofNat (n + 48)) = true := by
  revert n
  decide

theorem decimal_digits (n : Nat) : ∀ b ∈ decimal n, isDigit b = true := by
  intro b member
  induction n using decimal.induct with
  | case1 n small =>
    rw [decimal, if_pos small, List.mem_singleton] at member
    exact member ▸ decimal_digit small
  | case2 n large ih =>
    rw [decimal, if_neg large, List.mem_append, List.mem_singleton] at member
    rcases member with front | rfl
    · exact ih front
    · exact decimal_digit (Nat.mod_lt n (by decide))

theorem decimal_ne_nil (n : Nat) : decimal n ≠ [] := by
  rw [decimal]
  split <;> simp

theorem digitsValue_snoc (digits : Bytes) {n : Nat} (h : n < 10) :
    digitsValue (digits ++ [UInt8.ofNat (n + 48)]) = digitsValue digits * 10 + n := by
  have value : (n + 48) % 256 - 48 = n := by omega
  simp [digitsValue, value]

theorem digitsValue_decimal (n : Nat) : digitsValue (decimal n) = n := by
  induction n using decimal.induct with
  | case1 n small =>
    rw [decimal, if_pos small]
    simpa [digitsValue] using digitsValue_snoc [] small
  | case2 n large ih =>
    rw [decimal, if_neg large, digitsValue_snoc _ (Nat.mod_lt n (by decide)), ih]
    exact Nat.div_add_mod' n 10

theorem number_stops {b : UInt8} (h : isRegular b = false) : startsNumber b = false := by
  have each : ∀ c ∈ [32, 9, 13, 10, 12, 0, 40, 41, 60, 62, 91, 93, 123, 125, 47, 37],
      startsNumber c = false := by simp [startsNumber, isDigit, isSign]
  apply each
  simp only [isRegular, isSpace, isDelimiter, Bool.and_eq_false_iff, Bool.not_eq_false',
    Bool.or_eq_true, beq_iff_eq, or_assoc] at h
  simpa only [List.mem_cons, List.not_mem_nil, or_false] using h

theorem number_regular {b : UInt8} (h : startsNumber b = true) : isRegular b = true := by
  by_contra stops
  simp [number_stops (by simpa using stops)] at h

theorem decimalRun_digits_append {digits : Bytes} (all : ∀ b ∈ digits, isDigit b = true)
    (pointAllowed : Bool) (s : Bytes) :
    decimalRun pointAllowed (digits ++ s) =
      (digits ++ (decimalRun pointAllowed s).1, (decimalRun pointAllowed s).2) := by
  induction digits with
  | nil => rfl
  | cons b digits ih =>
    have digit := all b List.mem_cons_self
    have tail := ih fun b member => all b (List.mem_cons_of_mem _ member)
    simp [decimalRun, digit, tail]

theorem decimalRun_stops {pointAllowed : Bool} {s : Bytes}
    (stops : ∀ b ∈ s.head?, isDigit b = false ∧ (pointAllowed = true → b ≠ 46)) :
    decimalRun pointAllowed s = ([], s) := by
  cases s with
  | nil => rfl
  | cons b rest =>
    obtain ⟨other, noPoint⟩ := stops b rfl
    have outside : (b == 46 && pointAllowed) = false := by
      cases pointAllowed with
      | false => exact Bool.and_false _
      | true => simp [noPoint]
    simp [decimalRun, other, outside]

theorem decimalRun_digits {digits rest : Bytes} (all : ∀ b ∈ digits, isDigit b = true)
    (ends : endsRun rest = true) (pointAllowed : Bool) :
    decimalRun pointAllowed (digits ++ rest) = (digits, rest) := by
  have stops : decimalRun pointAllowed rest = ([], rest) := by
    refine decimalRun_stops fun b first => ?_
    obtain ⟨tail, rfl⟩ := List.head?_eq_some_iff.mp first
    have outside := number_stops (b := b) (by simpa [endsRun] using ends)
    simp only [startsNumber, Bool.or_eq_false_iff, beq_eq_false_iff_ne] at outside
    exact ⟨outside.1.1, fun _ => outside.2⟩
  rw [decimalRun_digits_append all, stops, List.append_nil]

theorem decimal_head (n : Nat) : ∃ b rest, decimal n = b :: rest ∧ isDigit b = true := by
  obtain ⟨b, rest, shape⟩ := List.exists_cons_of_ne_nil (decimal_ne_nil n)
  exact ⟨b, rest, shape, decimal_digits n b (shape ▸ List.mem_cons_self)⟩

theorem digit_not_sign {b : UInt8} (h : isDigit b = true) : isSign b = false := by
  have each : ∀ c ∈ [43, 45], isDigit c = false := by simp [isDigit]
  cases sign : isSign b
  · rfl
  · simp only [isSign, Bool.or_eq_true, beq_iff_eq] at sign
    simp [each b (by simpa using sign)] at h

theorem numberToken_integer (n : Int) {rest : Bytes} (ends : endsRun rest = true) :
    ∃ b tail, integerToken n = b :: tail ∧ startsNumber b = true ∧
      numberToken b (tail ++ rest) = (integerToken n, rest) := by
  cases n with
  | ofNat n =>
    obtain ⟨b, tail, shape, digit⟩ := decimal_head n
    refine ⟨b, tail, shape, by simp [startsNumber, digit], ?_⟩
    have run := decimalRun_digits (decimal_digits n) ends true
    rw [shape] at run
    simpa [numberToken, digit_not_sign digit, integerToken, shape] using run
  | negSucc n =>
    refine ⟨45, decimal (n + 1), rfl, by decide, ?_⟩
    have run := decimalRun_digits (decimal_digits (n + 1)) ends true
    simp [numberToken, isSign, run, integerToken]

theorem numberValue_digits {token : Bytes} {n : Nat} {value : Int}
    (digits : token.dropWhile isSign = decimal n)
    (signed : (if token.head? == some 45 then -(n : Int) else n) = value)
    (low : -Bound.long ≤ value) (high : value < Bound.long) :
    numberValue? token = some (.integer value) := by
  have whole : (decimal n).takeWhile isDigit = decimal n :=
    List.takeWhile_eq_self_iff.2 (decimal_digits n)
  have past : (decimal n).dropWhile isDigit = [] := List.dropWhile_eq_nil_iff.2 (decimal_digits n)
  have nonempty : (decimal n).isEmpty = false := by simpa using decimal_ne_nil n
  have inRange : ¬(value < -Bound.long ∨ Bound.long ≤ value) := by omega
  simp only [numberValue?, digits, whole, past, digitsValue_decimal, signed]
  simpa [nonempty] using inRange

theorem numberValue_integer {n : Int} (low : -Bound.long ≤ n) (high : n < Bound.long) :
    numberValue? (integerToken n) = some (.integer n) := by
  cases n with
  | ofNat n =>
    obtain ⟨b, tail, shape, digit⟩ := decimal_head n
    have unsigned := digit_not_sign digit
    have other : b ≠ 45 := by
      rintro rfl
      exact absurd digit (by decide)
    have bare : (integerToken (.ofNat n)).dropWhile isSign = decimal n := by
      simp [integerToken, shape, unsigned]
    refine numberValue_digits bare ?_ low high
    simp [integerToken, shape, other]
  | negSucc n =>
    obtain ⟨b, tail, shape, digit⟩ := decimal_head (n + 1)
    have unsigned := digit_not_sign digit
    have bare : (integerToken (.negSucc n)).dropWhile isSign = decimal (n + 1) := by
      simp [integerToken, shape, unsigned, show isSign 45 = true from rfl]
    refine numberValue_digits bare ?_ low high
    simp [integerToken, Int.negSucc_eq]

theorem encode_ascii {c : Char} (ascii : c.toNat < 128) :
    String.utf8EncodeChar c = [UInt8.ofNat c.toNat] := by
  have small : c.val.toNat ≤ 127 := Nat.le_of_lt_succ ascii
  rw [String.utf8EncodeChar, if_pos small]
  rfl

theorem decode_ascii {c : Char} (ascii : c.toNat < 128) (s : Bytes) :
    Text.Utf8.decodeFrom none (String.utf8EncodeChar c ++ s) =
      c :: Text.Utf8.decodeFrom none s := by
  have value : (UInt8.ofNat c.toNat).toNat = c.toNat := by
    rw [UInt8.toNat_ofNat']
    omega
  simp [encode_ascii ascii, Text.Utf8.decodeFrom, Text.Utf8.step, Text.Utf8.begin, Text.Utf8.lead,
    value, ascii]

theorem decode_chars {text : List Char} (ascii : ∀ c ∈ text, c.toNat < 128) :
    Text.Utf8.decodeFrom none (text.flatMap String.utf8EncodeChar) = text := by
  induction text with
  | nil => rfl
  | cons c text ih =>
    obtain ⟨first, others⟩ := List.forall_mem_cons.1 ascii
    rw [List.flatMap_cons, decode_ascii first, ih others]

theorem decode_word {word : String} (ascii : ∀ c ∈ word.toList, c.toNat < 128) :
    Text.Utf8.decode (wordToken word) = word := by
  rw [wordToken, Text.Utf8.encode, Text.Utf8.decode, decode_chars ascii, String.ofList_toList]

theorem isWord_constant {word : String} (h : word ∈ ["true", "false", "null"]) : IsWord word := by
  simp only [List.mem_cons, List.not_mem_nil, or_false] at h
  rcases h with rfl | rfl | rfl
  all_goals exact ⟨by simp, List.all_eq_true.1 rfl, rfl⟩

theorem IsWord.front {word : String} (h : IsWord word) :
    ∃ b tail, wordToken word = b :: tail ∧ startsOperator b = true ∧ isRegular b = true := by
  have starts := h.starts
  have regular := h.regular
  cases shape : wordToken word with
  | nil => simp [shape] at starts
  | cons b tail =>
    rw [shape] at starts regular
    exact ⟨b, tail, rfl, by simpa using starts, regular b List.mem_cons_self⟩

theorem IsWord.read {word : String} (h : IsWord word) {b : UInt8} {tail rest : Bytes}
    (shape : wordToken word = b :: tail) (ends : endsRun rest = true) :
    keyword b (tail ++ rest) = (word, rest) := by
  have regular := h.regular
  rw [shape] at regular
  have inner : ∀ c ∈ tail, isRegular c = true := fun c member =>
    regular c (List.mem_cons_of_mem _ member)
  rw [keyword, takeWhile_run inner ends, dropWhile_run inner ends, ← shape, decode_word h.ascii]

end PageMarks.Content
