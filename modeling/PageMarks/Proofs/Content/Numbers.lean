import Mathlib.Data.Nat.Digits.Defs
import PageMarks.Proofs.Content.Grammar

/-!
Numbers. What is taken for one is the longest numeral that the bytes begin with, and the main
statement says of every numeral which number it is read as, if it is one. A point makes a number of
it even without a digit.
-/

namespace PageMarks.Content

/-- A sign, digits, and further digits behind a point. Each of them may be missing. -/
structure Numeral where
  sign : Option UInt8
  whole : Bytes
  places : Option Bytes
  signed : ∀ b ∈ sign, isSign b = true
  wholeDigits : ∀ b ∈ whole, isDigit b = true
  placeDigits : ∀ digits ∈ places, ∀ b ∈ digits, isDigit b = true

def decimalValue (digits : Bytes) : Nat :=
  Nat.ofDigits 10 (digits.reverse.map fun b => b.toNat - 48)

theorem digitsValue_eq (digits : Bytes) : digitsValue digits = decimalValue digits := by
  rw [digitsValue, decimalValue, Nat.ofDigits_eq_foldr, List.foldr_map, List.foldr_reverse]
  congr
  funext n b
  simp [Nat.add_comm, Nat.mul_comm]

namespace Numeral

def point (n : Numeral) : Bytes :=
  match n.places with
  | none => []
  | some digits => 46 :: digits

def text (n : Numeral) : Bytes := n.sign.toList ++ (n.whole ++ n.point)

def isNegative (n : Numeral) : Bool := n.sign == some 45

def value (n : Numeral) : Int :=
  if n.isNegative then -(decimalValue n.whole : Int) else decimalValue n.whole

def real (n : Numeral) : Float32 :=
  let digits := n.places.getD []
  let x := Float.ofScientific (decimalValue (n.whole ++ digits)) true digits.length
  (if n.isNegative then -x else x).toFloat32

inductive Reads (n : Numeral) : Object → Prop
  | integer : n.places = none → n.whole ≠ [] → -Bound.long ≤ n.value → n.value < Bound.long →
    Reads n (.integer n.value)
  | real {digits} : n.places = some digits → Reads n (.real n.real)

/-- The bytes begin with the numeral, and with no longer one. -/
structure LongestIn (s : Bytes) (n : Numeral) : Prop where
  begins : n.text <+: s
  longest : ∀ m : Numeral, m.text <+: s → m.text.length ≤ n.text.length

theorem exists_longest (s : Bytes) : ∃ n : Numeral, n.LongestIn s := by
  let nothing : Numeral := ⟨none, [], none, by simp, by simp, by simp⟩
  obtain ⟨n, begins, least⟩ := WellFounded.has_min
    (measure fun n : Numeral => s.length - n.text.length).wf {n | n.text <+: s}
    ⟨nothing, List.nil_prefix⟩
  refine ⟨n, begins, fun m also => ?_⟩
  have fewer : ¬s.length - m.text.length < s.length - n.text.length := least m also
  have := also.length_le
  have := begins.length_le
  omega

variable {n : Numeral} {b : UInt8} {rest after : Bytes}

theorem LongestIn.unextended (longest : n.LongestIn (n.text ++ b :: after)) (m : Numeral) :
    m.text ≠ n.text ++ [b] := by
  intro same
  have more : m.text <+: n.text ++ b :: after := by
    rw [same, List.append_cons n.text b after]
    exact List.prefix_append _ _
  have := longest.longest m more
  rw [same] at this
  simp at this

theorem LongestIn.digit (longest : n.LongestIn (n.text ++ b :: after)) : isDigit b = false := by
  by_contra digit
  rw [Bool.not_eq_false] at digit
  obtain ⟨sign, whole, places, signed, wholeDigits, placeDigits⟩ := n
  cases places with
  | none =>
    refine longest.unextended ⟨sign, whole ++ [b], none, signed, ?_, by simp⟩
      (by simp [text, point])
    simpa [or_imp, forall_and, digit] using wholeDigits
  | some digits =>
    refine longest.unextended ⟨sign, whole, some (digits ++ [b]), signed, wholeDigits, ?_⟩
      (by simp [text, point])
    simpa [or_imp, forall_and, digit] using placeDigits

theorem LongestIn.noPoint (longest : n.LongestIn (n.text ++ b :: after))
    (without : n.places = none) : b ≠ 46 := by
  rintro rfl
  refine longest.unextended ⟨n.sign, n.whole, some [], n.signed, n.wholeDigits, by simp⟩ ?_
  simp [text, point, without]

theorem LongestIn.nonempty (starts : startsNumber b = true) (longest : n.LongestIn (b :: rest)) :
    n.text ≠ [] := by
  intro empty
  have begun (m : Numeral) : m.text ≠ [b] := by
    have here : n.LongestIn (n.text ++ b :: rest) := by rwa [empty]
    simpa [empty] using here.unextended m
  simp only [startsNumber, Bool.or_eq_true, beq_iff_eq] at starts
  rcases starts with (digit | sign) | rfl
  · exact begun ⟨none, [b], none, by simp, by simpa using digit, by simp⟩ rfl
  · exact begun ⟨some b, [], none, by simpa using sign, by simp, by simp⟩ rfl
  · exact begun ⟨none, [], some [], by simp, by simp, by simp⟩ rfl

theorem LongestIn.run (longest : n.LongestIn (n.text ++ after)) :
    decimalRun true (n.whole ++ (n.point ++ after)) = (n.whole ++ n.point, after) := by
  -- Behind a point a further one ends the run, so what stops it depends on the places.
  have stops : decimalRun n.places.isNone after = ([], after) := by
    refine decimalRun_stops fun b first => ?_
    obtain ⟨tail, rfl⟩ := List.head?_eq_some_iff.mp first
    exact ⟨longest.digit, fun without => longest.noPoint (by simpa using without)⟩
  rw [decimalRun_digits_append n.wholeDigits]
  cases places : n.places with
  | none =>
    rw [places, Option.isNone_none] at stops
    simp [point, places, stops]
  | some digits =>
    rw [places, Option.isNone_some] at stops
    have behind : decimalRun false (digits ++ after) = (digits, after) := by
      rw [decimalRun_digits_append (n.placeDigits digits places), stops, List.append_nil]
    have noDigit : isDigit 46 = false := rfl
    simp [point, places, decimalRun, noDigit, behind]

theorem body_unsigned (n : Numeral) : ∀ b ∈ (n.whole ++ n.point).head?, isSign b = false := by
  intro b first
  cases whole : n.whole with
  | cons c rest =>
    rw [whole] at first
    cases first
    exact digit_not_sign (n.wholeDigits b (whole ▸ List.mem_cons_self))
  | nil =>
    cases places : n.places with
    | none => simp [whole, point, places] at first
    | some digits =>
      rw [whole, point, places] at first
      cases first
      rfl

theorem LongestIn.token (starts : startsNumber b = true) (longest : n.LongestIn (b :: rest))
    (split : b :: rest = n.text ++ after) : numberToken b rest = (n.text, after) := by
  have here := longest
  rw [split] at here
  have run := here.run
  cases sign : n.sign with
  | some c =>
    simp only [text, sign, Option.toList_some, List.cons_append, List.nil_append,
      List.append_assoc, List.cons.injEq] at split
    obtain ⟨rfl, rfl⟩ := split
    rw [numberToken, if_pos (n.signed b sign), run]
    simp [text, sign]
  | none =>
    have body : n.text = n.whole ++ n.point := by simp [text, sign]
    have unsigned : isSign b = false := by
      refine n.body_unsigned b ?_
      have nonempty := longest.nonempty starts
      rw [← body]
      obtain ⟨c, others, shape⟩ := List.exists_cons_of_ne_nil nonempty
      rw [shape, List.cons_append, List.cons.injEq] at split
      rw [shape, split.1]
      rfl
    rw [numberToken, unsigned, split, body, List.append_assoc, run]
    rfl

theorem dropSign (n : Numeral) : n.text.dropWhile isSign = n.whole ++ n.point := by
  have body : (n.whole ++ n.point).dropWhile isSign = n.whole ++ n.point := by
    cases shape : n.whole ++ n.point with
    | nil => rfl
    | cons c others =>
      have unsigned := n.body_unsigned c (by rw [shape]; rfl)
      simp [unsigned]
  cases sign : n.sign with
  | none => simpa [text, sign] using body
  | some c => simpa [text, sign, n.signed c sign] using body

theorem point_outside (n : Numeral) : n.point.takeWhile isDigit = [] ∧
    n.point.dropWhile isDigit = n.point := by
  cases places : n.places with
  | none => simp [point, places]
  | some digits => simp [point, places, isDigit]

theorem negative_head (n : Numeral) : (n.text.head? == some 45) = n.isNegative := by
  cases sign : n.sign with
  | some c => simp [text, isNegative, sign]
  | none =>
    have body : n.text = n.whole ++ n.point := by simp [text, sign]
    have other : n.text.head? ≠ some 45 := by
      intro first
      have unsigned := n.body_unsigned 45 (body ▸ first)
      cases unsigned
    simp [isNegative, sign, other]

theorem numberValue_iff (n : Numeral) {value : Object} :
    numberValue? n.text = some value ↔ n.Reads value := by
  have front : (n.whole ++ n.point).takeWhile isDigit = n.whole := by
    rw [List.takeWhile_append_of_pos n.wholeDigits, n.point_outside.1, List.append_nil]
  have behind : (n.whole ++ n.point).dropWhile isDigit = n.point := by
    rw [List.dropWhile_append_of_pos n.wholeDigits, n.point_outside.2]
  simp only [numberValue?, negative_head, dropSign, front, behind, digitsValue_eq]
  cases places : n.places with
  | none =>
    have noPoint : n.point = [] := by rw [point, places]
    simp only [noPoint]
    change (if (n.whole.isEmpty || n.value < -Bound.long || Bound.long ≤ n.value : Bool) then none
      else some (.integer n.value)) = some value ↔ _
    constructor
    · intro read
      split_ifs at read with outside
      cases read
      simp only [Bool.or_eq_true, List.isEmpty_iff, decide_eq_true_eq, not_or, Int.not_lt,
        Int.not_le] at outside
      exact .integer places outside.1.1 outside.1.2 outside.2
    · rintro (⟨-, digit, low, high⟩ | given)
      · simp [digit, low, high]
      · simp [places] at given
  | some digits =>
    have withPoint : n.point = 46 :: digits := by rw [point, places]
    have real : (.real n.real : Object) = .real (if n.isNegative then
        -Float.ofScientific (decimalValue (n.whole ++ digits)) true digits.length else
        Float.ofScientific (decimalValue (n.whole ++ digits)) true digits.length).toFloat32 := by
      rw [Numeral.real, places, Option.getD_some]
    simp only [withPoint, ← real, Option.some.injEq]
    constructor
    · rintro rfl
      exact .real places
    · rintro (⟨without⟩ | given)
      · simp [places] at without
      · rfl

end Numeral

/-- A number is read just when the longest numeral that the bytes begin with has a point, or has a
digit and comes to a signed 64-bit integer; it is read as a real if it has a point and as that
integer if not, and all of it is consumed, and no more. Otherwise it is refused where it begins, and
named. -/
theorem numbers_read {b : UInt8} (starts : startsNumber b = true) (part : Part) (rest : Bytes) :
    (∃ n : Numeral, n.LongestIn (b :: rest)) ∧
    ∀ n : Numeral, n.LongestIn (b :: rest) →
      (∀ value after, Yields (readValue part (b :: rest)) value after ↔
        n.Reads value ∧ b :: rest = n.text ++ after) ∧
      ((∀ value, ¬n.Reads value) → readValue part (b :: rest) =
        .error ⟨.invalidNumber (Text.Utf8.decode n.text), (b :: rest).length⟩) := by
  refine ⟨Numeral.exists_longest _, fun n longest => ?_⟩
  obtain ⟨after, split⟩ := longest.begins
  have token := longest.token starts split.symm
  rw [readValue_number starts]
  refine ⟨fun value left => ⟨fun yields => ?_, fun ⟨reads, consumed⟩ => ?_⟩, fun unread => ?_⟩
  · obtain ⟨counts, rfl⟩ := number_read yields
    rw [token] at counts ⊢
    exact ⟨n.numberValue_iff.mp counts, split.symm⟩
  · obtain rfl : after = left := List.append_cancel_left (split.trans consumed)
    exact readNumber_yields token (n.numberValue_iff.mpr reads)
  · have nothing : numberValue? n.text = none := by
      rw [Option.eq_none_iff_forall_ne_some]
      exact fun value counts => unread value (n.numberValue_iff.mp counts)
    simp only [readNumber, token, nothing]
    rfl

def leastLast : Bytes := "9223372036854775808]".toList.map fun c => UInt8.ofNat c.toNat

theorem numbers_read_least : ∃ n : Numeral, n.LongestIn (45 :: leastLast) ∧
    n.Reads (.integer (-Bound.long)) ∧
      Yields (readValue .array (45 :: leastLast)) (.integer (-Bound.long)) [93] := by
  obtain ⟨⟨n, longest⟩, each⟩ := numbers_read (b := 45) rfl .array leastLast
  obtain ⟨after, split⟩ := longest.begins
  have token := longest.token rfl split.symm
  have text : n.text = (numberToken 45 leastLast).1 := congrArg Prod.fst token.symm
  have left : after = [93] := congrArg Prod.snd token.symm
  have reads : n.Reads (.integer (-Bound.long)) := by
    rw [← n.numberValue_iff, text]
    rfl
  exact ⟨n, longest, reads, ((each n longest).1 _ _).mpr ⟨reads, by rw [← left, split]⟩⟩

/-- A point alone is no error, though it is a number without a digit. -/
theorem point_alone_read :
    ∃ (n : Numeral) (x : Float32), n.LongestIn [46, 32, 119] ∧ n.text = [46] ∧
      Yields (readValue .array [46, 32, 119]) (.real x) [32, 119] := by
  obtain ⟨n, longest⟩ := Numeral.exists_longest [46, 32, 119]
  obtain ⟨after, split⟩ := longest.begins
  have token : ([46], [32, 119]) = (n.text, after) := longest.token rfl split.symm
  have yields : Yields (readValue .array [46, 32, 119])
      (.real (Float.ofScientific 0 true 0).toFloat32) [32, 119] := by
    rw [readValue_number rfl]
    exact readNumber_yields rfl rfl
  exact ⟨n, _, longest, (congrArg Prod.fst token).symm, yields⟩

end PageMarks.Content
