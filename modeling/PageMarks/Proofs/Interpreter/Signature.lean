import PageMarks.Proofs.Interpreter.Asking
import PageMarks.Proofs.Interpreter.Transcript

/-!
What operators want of their operands. An operator has a signature, by position, and its operands
are checked against it before any name is looked up. Operators that set colors by components have
none: they take the numbers that they find. The main statement is that operands of other types than
wanted are warned about once and that nothing else is done about them, except by those operators.
-/

namespace PageMarks

def Object.isNumber : Object → Bool
  | integer _ | real _ => true
  | _ => false

/-- What an operator wants of an operand. -/
inductive Want
  | number
  | whole
  | name
  | string
  | numbers
  | texts
  | dictionary
  | properties

def Want.admits : Want → Object → Bool
  | number, value => value.isNumber
  | whole, value => (Operation.integer? value).isSome
  | name, .name _ => true
  | string, .string .. => true
  | numbers, .array items => items.all Object.isNumber
  | texts, .array items => items.all fun item => item.string?.isSome || item.isNumber
  | dictionary, .dictionary _ => true
  | properties, .name _ | properties, .dictionary _ => true
  | _, _ => false

namespace Operator

def signature : Operator → List Want
  | setLineWidth | setMiterLimit | setFlatness | setCharSpacing | setWordSpacing
  | setHorizontalScaling | setLeading | setRise | setStrokeGray | setFillGray => [.number]
  | moveTo | lineTo | moveText | moveTextSetLeading | setGlyphWidth => List.replicate 2 .number
  | setStrokeRGB | setFillRGB => List.replicate 3 .number
  | curveFromCurrent | curveIntoEnd | rectangle | setStrokeCMYK | setFillCMYK =>
    List.replicate 4 .number
  | concat | curveTo | setTextMatrix | setGlyphWidthAndBounds => List.replicate 6 .number
  | setLineCap | setLineJoin | setRenderMode => [.whole]
  | setDash => [.numbers, .number]
  | setRenderingIntent | setParameters | setStrokeColorSpace | setFillColorSpace | paintShading
  | paintXObject | markPoint | beginMarked => [.name]
  | setFont => [.name, .number]
  | showText | nextLineShowText => [.string]
  | showTextAdjusted => [.texts]
  | spacedNextLineShowText => [.number, .number, .string]
  | inlineImage => [.dictionary, .string]
  | markPointWithProperties | beginMarkedWithProperties => [.name, .properties]
  | _ => []

def colors : List Operator :=
  [.setStrokeColor, .setFillColor, .setStrokeColorOrPattern, .setFillColorOrPattern]

end Operator

namespace Operation

variable (op : Operation)

def chosen {α : Type} (choose : Int → Option α) : Option α :=
  ((op.operands[0]?).bind integer?).bind choose

def Has (want : Want) (i : Nat) : Prop := (op.operands[i]?).any want.admits

def Fits : Nat → List Want → Prop
  | _, [] => True
  | i, want :: rest => op.Has want i ∧ Fits (i + 1) rest

instance (want : Want) (i : Nat) : Decidable (op.Has want i) :=
  inferInstanceAs (Decidable (_ = true))

instance decidableFits : (i : Nat) → (wants : List Want) → Decidable (op.Fits i wants)
  | _, [] => .isTrue trivial
  | i, want :: rest =>
    have := decidableFits (i + 1) rest
    inferInstanceAs (Decidable (op.Has want i ∧ _))

/-- The operands are what the operator is for: as in its signature, or for a color one number at
least, with a name behind the numbers if it may be a pattern. -/
def WellTyped : Operator → Prop
  | .setStrokeColor | .setFillColor => op.operands ≠ [] ∧ op.operands.all Object.isNumber
  | .setStrokeColorOrPattern | .setFillColorOrPattern =>
    op.operands ≠ [] ∧ (op.operands.all Object.isNumber ∨
      op.operands.dropLast.all Object.isNumber ∧ op.lastName?.isSome)
  | operator => op.Fits 0 operator.signature

theorem fits_replicate (want : Want) (i n : Nat) :
    op.Fits i (List.replicate n want) ↔ ∀ j < n, op.Has want (i + j) := by
  induction n generalizing i with
  | zero => exact ⟨fun _ j below => absurd below (Nat.not_lt_zero j), fun _ => trivial⟩
  | succ n ih =>
    rw [List.replicate_succ, Fits, ih, Nat.forall_lt_succ_left]
    simp only [Nat.add_zero, Nat.add_assoc, Nat.add_comm 1]

end Operation

namespace Interpreter

/-- A computation on operands that yields something if they are fit and complains if they are not.
What else it may end in comes after they have been found fit. -/
inductive Checked (Fit : Prop) (Later : Signal → Prop) {β : Type} : Except Signal β → Prop
  | ok {b} : Fit → Checked Fit Later (.ok b)
  | malformed {warning} : ¬ Fit → warning.code = .malformedOperands →
    Checked Fit Later (.error (.warning warning))
  | later {signal} : Fit → Later signal → Checked Fit Later (.error signal)

abbrev Reads (Fit : Prop) {β : Type} (x : Except Signal β) : Prop := Checked Fit (fun _ => False) x

section

variable {Fit Other : Prop} {Later : Signal → Prop} {α β : Type} {x : Except Signal α}
  {f : α → Except Signal β}

theorem Checked.congr (checked : Checked Fit Later x) (same : Fit ↔ Other) :
    Checked Other Later x := by
  rwa [← propext same]

theorem Checked.refuses (checked : Checked Fit Later x) (unfit : ¬ Fit) :
    ∃ warning : Warning, x = .error (.warning warning) ∧ warning.code = .malformedOperands := by
  cases checked with
  | ok fit | later fit => exact absurd fit unfit
  | malformed _ code => exact ⟨_, rfl, code⟩

theorem Reads.checked (reads : Reads Fit x) : Checked Fit Later x := by
  cases reads with
  | ok fit => exact .ok fit
  | malformed unfit code => exact .malformed unfit code
  | later _ never => exact never.elim

theorem Reads.bind (first : Reads Fit x) (each : ∀ a, x = .ok a → Checked Other Later (f a)) :
    Checked (Fit ∧ Other) Later (x >>= f) := by
  cases first with
  | @ok a fit => exact (each a rfl).congr ⟨fun other => ⟨fit, other⟩, And.right⟩
  | malformed unfit code => exact .malformed (fun both => unfit both.1) code
  | later _ never => exact never.elim

theorem Checked.bind (first : Checked Fit Later x) (each : ∀ a, Checked True Later (f a)) :
    Checked Fit Later (x >>= f) := by
  cases first with
  | @ok a fit => exact (each a).congr ⟨fun _ => fit, fun _ => trivial⟩
  | malformed unfit code => exact .malformed unfit code
  | later fit later => exact .later fit later

end

section

variable {K α β : Type} [Scalar K] (op : Operation)

theorem require_reads (wanted : String) (value : Option α) :
    Reads value.isSome (op.require wanted value) := by
  cases value with
  | none => exact .malformed (by simp) rfl
  | some value => exact .ok rfl

theorem operand_reads {want : Want} {wanted : String} {read : Object → Option α}
    (same : ∀ value, (read value).isSome = want.admits value) (i : Nat) :
    Reads (op.Has want i) (op.operand wanted read i) := by
  refine (require_reads op _ _).congr ?_
  rw [Operation.Has]
  cases op.operands[i]? with
  | none => rfl
  | some value => exact iff_of_eq (congrArg (· = true) (same value))

theorem number_isSome (value : Object) : (value.number? : Option K).isSome = value.isNumber := by
  cases value <;> rfl

theorem single_isSome (value : Object) : value.single?.isSome = value.isNumber := by
  rw [Object.single?, Option.isSome_map, number_isSome]

theorem number_reads (i : Nat) : Reads (op.Has .number i) (op.number i : Except Signal K) :=
  operand_reads op number_isSome i

theorem name_reads (i : Nat) : Reads (op.Has .name i) (op.name i) :=
  operand_reads op (fun value => by cases value <;> rfl) i

theorem string_reads (i : Nat) : Reads (op.Has .string i) (op.string i) :=
  operand_reads op (fun value => by cases value <;> rfl) i

theorem mapM_numbers {read : Object → Option α}
    (same : ∀ value, (read value).isSome = value.isNumber) (values : List Object) :
    (¬ values.all Object.isNumber ∧ values.mapM read = none) ∨
      (values.all Object.isNumber ∧
        ∃ found, values.mapM read = some found ∧ found.length = values.length) := by
  induction values with
  | nil => exact .inr ⟨rfl, [], rfl, rfl⟩
  | cons value rest ih =>
    rw [List.mapM_cons, List.all_cons, ← same]
    cases read value with
    | none => exact .inl ⟨by simp, rfl⟩
    | some a =>
      rcases ih with ⟨some_not, unread⟩ | ⟨all, found, is, length⟩
      · exact .inl ⟨by simpa using some_not, by rw [unread]; rfl⟩
      · exact .inr ⟨by simpa using all, a :: found, by rw [is]; rfl, congrArg (· + 1) length⟩

section

variable {op} {read : Object → Option α} (same : ∀ value, (read value).isSome = value.isNumber)
include same

theorem leading?_numbers (n : Nat) :
    (¬ op.Fits 0 (List.replicate n .number) ∧ op.leading? read n = none) ∨
      (op.Fits 0 (List.replicate n .number) ∧
        ∃ found, op.leading? read n = some found ∧ found.length = n) := by
  have fits : op.Fits 0 (List.replicate n .number) ↔
      n ≤ op.operands.length ∧ (op.operands.take n).all Object.isNumber := by
    rw [Operation.fits_replicate, List.all_eq_true]
    simp only [Nat.zero_add, Operation.Has]
    constructor
    · intro each
      have enough : n ≤ op.operands.length := Nat.le_of_not_lt fun few => by
        have last := each op.operands.length few
        rw [List.getElem?_eq_none (Nat.le_refl _)] at last
        cases last
      refine ⟨enough, fun value member => ?_⟩
      obtain ⟨j, below, rfl⟩ := List.mem_take_iff_getElem.mp member
      have admitted := each j (by omega)
      rwa [List.getElem?_eq_getElem (by omega), Option.any_some] at admitted
    · rintro ⟨enough, all⟩ j below
      rw [List.getElem?_eq_getElem (by omega), Option.any_some]
      exact all _ (List.mem_take_iff_getElem.mpr ⟨j, by omega, rfl⟩)
  rw [fits, Operation.leading?]
  by_cases enough : n ≤ op.operands.length
  · rw [if_pos enough]
    rcases mapM_numbers same (op.operands.take n) with ⟨some_not, unread⟩ | ⟨all, found, is, length⟩
    · exact .inl ⟨fun both => some_not both.2, unread⟩
    · exact .inr ⟨⟨enough, all⟩, found, is, by rw [length, List.length_take]; omega⟩
  · exact .inl ⟨fun both => enough both.1, if_neg enough⟩

theorem leading_reads {n : Nat} {wanted : String} {made : Option β}
    (few : op.leading? read n = none → made = none)
    (enough : ∀ found : Fin n → α, op.leading? read n = some (List.ofFn found) → made.isSome) :
    Reads (op.Fits 0 (List.replicate n .number)) (op.require wanted made) := by
  refine (require_reads op _ _).congr ?_
  rcases leading?_numbers same n with ⟨unfit, unread⟩ | ⟨fit, found, is, length⟩
  · rw [few unread]
    exact iff_of_false Bool.false_ne_true unfit
  · subst length
    exact iff_of_true (enough found.get (is.trans (congrArg some (List.ofFn_getElem ..).symm))) fit

theorem one_reads (f : α → β) : Reads (op.Fits 0 [.number]) (op.one read f) :=
  leading_reads (n := 1) same (fun few => by rw [few]) fun _ enough => by rw [enough]; rfl

theorem two_reads (f : α → α → β) : Reads (op.Fits 0 (List.replicate 2 .number)) (op.two read f) :=
  leading_reads same (fun few => by rw [few]) fun _ enough => by rw [enough]; rfl

theorem three_reads (f : α → α → α → β) :
    Reads (op.Fits 0 (List.replicate 3 .number)) (op.three read f) :=
  leading_reads same (fun few => by rw [few]) fun _ enough => by rw [enough]; rfl

theorem four_reads (f : α → α → α → α → β) :
    Reads (op.Fits 0 (List.replicate 4 .number)) (op.four read f) :=
  leading_reads same (fun few => by rw [few]) fun _ enough => by rw [enough]; rfl

theorem six_reads (f : α → α → α → α → α → α → β) :
    Reads (op.Fits 0 (List.replicate 6 .number)) (op.six read f) :=
  leading_reads same (fun few => by rw [few]) fun _ enough => by rw [enough]; rfl

end

end

section

variable {K α β : Type} (op : Operation) {Other : Prop} {Later : Signal → Prop}

theorem mapM_reads {admits : Object → Bool} {read : Object → Except Signal α}
    (item : ∀ value, Reads (admits value) (read value)) (values : List Object) :
    Reads (values.all admits) (values.mapM read) := by
  induction values with
  | nil => exact .ok rfl
  | cons value rest ih =>
    rw [List.mapM_cons, List.all_cons, Bool.and_eq_true]
    exact (item value).bind fun _ _ => Checked.bind ih fun _ => .ok trivial

theorem items_checked {want : Want} {admits : Object → Bool} {read : Object → Except Signal α}
    (arrays : ∀ value, want.admits value = value.array?.any (·.all admits))
    (item : ∀ value, Reads (admits value) (read value)) (i : Nat) {next : List α → Except Signal β}
    (each : ∀ found, Checked Other Later (next found)) :
    Checked (op.Has want i ∧ Other) Later
      (op.array i >>= fun items => items.mapM read >>= next) := by
  rw [Operation.Has, Operation.array, Operation.operand]
  cases op.operands[i]? with
  | none => exact .malformed (by simp) rfl
  | some value =>
    rw [Option.any_some, Option.bind_some, arrays]
    cases value.array? with
    | none => exact .malformed (by simp) rfl
    | some items => exact (mapM_reads item items).bind fun found _ => each found

theorem numbered_reads (what : String) (choose : Int → Option α) :
    Reads (op.chosen choose).isSome (numbered op what choose) := by
  rw [numbered, Operation.integer, Operation.operand, Operation.chosen]
  cases (op.operands[0]?).bind Operation.integer? with
  | none => exact .malformed (by simp) rfl
  | some n =>
    dsimp only [Operation.require, Option.bind_some, bind, Except.bind]
    cases choose n with
    | none => exact .malformed (by simp) rfl
    | some choice => exact .ok rfl

theorem chosen_fits {choose : Int → Option α} (found : (op.chosen choose).isSome) :
    op.Fits 0 [.whole] := by
  have whole : ((op.operands[0]?).bind Operation.integer?).isSome :=
    Option.isSome_of_isSome_bind found
  refine ⟨?_, trivial⟩
  rw [Operation.Has]
  cases first : op.operands[0]? with
  | none => rw [first] at whole; cases whole
  | some value => rwa [first] at whole

variable [Scalar K]

theorem dashLength_reads (value : Object) :
    Reads value.isNumber (dashLength op value : Except Signal K) := by
  rw [dashLength, ← number_isSome (K := K)]
  cases (value.number? : Option K) with
  | none => exact .malformed (by simp) rfl
  | some length => exact .ok rfl

theorem textItem_reads (value : Object) :
    Reads (value.string?.isSome || value.isNumber)
      (textItem op value : Except Signal (TextItem K)) := by
  cases value
  case integer | real | string => exact .ok rfl
  all_goals exact .malformed nofun rfl

theorem dash_reads : Reads (op.Fits 0 [.numbers, .number]) (dash op : Except Signal (Dash K)) :=
  items_checked op (fun value => by cases value <;> rfl) (dashLength_reads op) 0 fun _ =>
    (number_reads op 1).bind fun _ _ => .ok trivial

end

variable (K : Type) {R : Type} [Scalar K]

/-- What may keep an operation from its callbacks when its operands are fit. -/
inductive Hindered (resolver : Resolver K R) (features : Features) (frame : Frame R)
    (op : Operation) : Signal → Prop
  | missing {kind name} : Asks K op kind name → features kind = true → kind ≠ .font →
    resolver.find frame.scope kind name = .ok none →
    Hindered resolver features frame op (.warning (missing kind name))
  | failed {kind name source} : Asks K op kind name → features kind = true →
    resolver.find frame.scope kind name = .error source →
    Hindered resolver features frame op (.fatal (.resolve kind name source))
  | unbalanced : op.kind? = some .endCompatibility → frame.sections = 0 →
    Hindered resolver features frame op
      (.warn .unbalancedCompatibility "'EX' without a matching 'BX'")

inductive Searched (features : Features) (kind : ResourceKind) (name : String) {α : Type} :
    Lookup α → Except Signal (Found α) → Prop
  | declined {answer} : features kind = false → Searched features kind name answer (.ok .declined)
  | failed {source} : features kind = true →
    Searched features kind name (.error source) (.error (.fatal (.resolve kind name source)))
  | missing : features kind = true → Searched features kind name (.ok none) (.ok .missing)
  | present {value} : features kind = true →
    Searched features kind name (.ok (some value)) (.ok (.present value))

variable {K} (resolver : Resolver K R) (features : Features) (frame : Frame R) {op : Operation}

omit [Scalar K] in
theorem search_searched {α : Type} (kind : ResourceKind) (name : String)
    (lookup : String → Lookup α) :
    Searched features kind name (lookup name) (search features kind name lookup) := by
  rw [search]
  cases wanted : features kind with
  | false => exact .declined wanted
  | true =>
    rw [if_pos rfl]
    cases lookup name with
    | error source => exact .failed wanted
    | ok found =>
      cases found with
      | none => exact .missing wanted
      | some value => exact .present wanted

section

variable {kind : ResourceKind} {name : String} (asks : Asks K op kind name)
include asks

theorem search_checked : Checked True (Hindered K resolver features frame op)
    (search features kind name (resolver.find frame.scope kind)) := by
  have searched := search_searched features kind name (resolver.find frame.scope kind)
  generalize answer : resolver.find frame.scope kind name = found at searched
  generalize search features kind name (resolver.find frame.scope kind) = outcome at searched ⊢
  cases searched with
  | failed wanted => exact .later trivial (.failed asks wanted answer)
  | declined | missing | present => exact .ok trivial

theorem resource_checked (other : kind ≠ .font) :
    Checked True (Hindered K resolver features frame op)
      (resource features kind name (resolver.find frame.scope kind)) := by
  have searched := search_searched features kind name (resolver.find frame.scope kind)
  rw [resource]
  generalize answer : resolver.find frame.scope kind name = found at searched
  generalize search features kind name (resolver.find frame.scope kind) = outcome at searched ⊢
  cases searched with
  | failed wanted => exact .later trivial (.failed asks wanted answer)
  | missing wanted => exact .later trivial (.missing asks wanted other answer)
  | declined | present => exact .ok trivial

end

theorem spaceNamed_checked {name : String}
    (asks : ColorSpace.ofDeviceName? name = none → Asks K op .colorSpace name) :
    Checked True (Hindered K resolver features frame op)
      (spaceNamed resolver features frame name) := by
  rw [spaceNamed]
  cases family : ColorSpace.ofDeviceName? name with
  | some space => exact .ok trivial
  | none => exact resource_checked resolver features frame (asks family) (by decide)

theorem selectSpace_checked (side : Side)
    (is : op.kind? = some .setStrokeColorSpace ∨ op.kind? = some .setFillColorSpace) :
    Checked (op.Fits 0 [.name]) (Hindered K resolver features frame op)
      (selectSpace resolver features frame op side) := by
  refine (name_reads op 0).bind fun name named => Checked.bind ?_ fun _ => .ok trivial
  exact spaceNamed_checked resolver features frame (.space is named)

theorem colorOrPattern_checked (side : Side)
    (is : op.kind? = some .setStrokeColorOrPattern ∨ op.kind? = some .setFillColorOrPattern) :
    Checked True (Hindered K resolver features frame op)
      (colorOrPattern resolver features frame op side) := by
  rw [colorOrPattern]
  cases named : op.lastName? with
  | none => exact .ok trivial
  | some name =>
    exact (resource_checked resolver features frame (.pattern is named) (by decide)).bind
      fun _ => .ok trivial

omit [Scalar K] in
theorem has_properties (i : Nat) :
    op.Has .properties i ↔ (op.dictionary? i).isSome ∨ op.Has .name i := by
  rw [Operation.Has, Operation.Has, Operation.dictionary?]
  cases op.operands[i]? with
  | none => simp
  | some value => cases value <;> simp [Want.admits, Object.dictionary?]

theorem propertyList_checked {tag : String} (tagged : op.name 0 = .ok tag)
    (is : op.kind? = some .markPointWithProperties ∨ op.kind? = some .beginMarkedWithProperties) :
    Checked (op.Fits 1 [.properties]) (Hindered K resolver features frame op)
      (propertyList resolver features frame op) := by
  rw [propertyList, Operation.Fits, has_properties]
  cases inPlace : op.dictionary? 1 with
  | some entries => exact .ok ⟨.inl rfl, trivial⟩
  | none =>
    refine Checked.congr (?_ : Checked (op.Has .name 1 ∧ True) _ _) (by simp [Operation.Fits])
    refine (name_reads op 1).bind fun name named => Checked.bind ?_ fun _ => .ok trivial
    exact resource_checked resolver features frame (.properties is tagged inPlace named) (by decide)

theorem inlineImage_checked (is : op.kind? = some .inlineImage) :
    Checked (∃ image : InlineImage K, InlineImage.ofContent op.operands = .ok image)
      (Hindered K resolver features frame op)
      (inlineImage resolver features frame op) := by
  rw [inlineImage]
  cases read : (InlineImage.ofContent op.operands : Except ResolveError (InlineImage K)) with
  | error => exact .malformed (by simp) rfl
  | ok image =>
    refine Checked.congr (?_ : Checked True _ _) (iff_of_true trivial ⟨image, rfl⟩)
    dsimp only
    split
    · rename_i name unresolved named
      refine Checked.bind ?_ fun _ => .ok trivial
      exact spaceNamed_checked resolver features frame (.inlineSpace is read unresolved named)
    · exact .ok trivial

def Accepts (K : Type) [Scalar K] (op : Operation) (operator : Operator) : Prop :=
  op.Fits 0 operator.signature ∧
    match operator with
    | .setLineCap => (op.chosen LineCap.ofInt?).isSome
    | .setLineJoin => (op.chosen LineJoin.ofInt?).isSome
    | .setRenderMode => (op.chosen RenderMode.ofInt?).isSome
    | .inlineImage => ∃ image : InlineImage K, InlineImage.ofContent op.operands = .ok image
    | _ => True

theorem image_fits {image : InlineImage K}
    (read : InlineImage.ofContent op.operands = .ok image) : op.Fits 0 [.dictionary, .string] := by
  rw [Operation.Fits, Operation.Fits, Operation.Has, Operation.Has]
  unfold InlineImage.ofContent InlineImage.ofOperands at read
  split at read
  · rename_i entries data form rest operands
    rw [operands]
    exact ⟨rfl, rfl, trivial⟩
  · cases read

theorem callback_checked {operator : Operator} (is : op.kind? = some operator)
    (one : operator ∉ several) :
    Checked (Accepts K op operator) (Hindered K resolver features frame op)
      (callback resolver features frame op operator) := by
  have numbers := number_isSome (K := K)
  cases operator
  case setFont | nextLineShowText | spacedNextLineShowText | inlineImageData | endInlineImage
    | paintXObject | beginCompatibility | endCompatibility => exact absurd (by decide) one
  case setLineCap | setLineJoin | setRenderMode =>
    refine Checked.congr ?_ ((and_iff_right_of_imp (chosen_fits op)).symm)
    exact Checked.bind (numbered_reads op _ _).checked fun _ => .ok trivial
  case inlineImage =>
    refine Checked.congr (inlineImage_checked resolver features frame is) ?_
    refine (and_iff_right_of_imp fun image => ?_).symm
    obtain ⟨_, read⟩ := image
    exact image_fits read
  all_goals refine Checked.congr (?_ : Checked (op.Fits 0 _) _ _) (iff_of_eq (and_true _).symm)
  case setLineWidth | setMiterLimit | setFlatness | setCharSpacing | setWordSpacing
    | setHorizontalScaling | setLeading | setRise =>
    exact (number_reads op 0).bind fun _ _ => .ok trivial
  case setRenderingIntent | markPoint | beginMarked =>
    exact (name_reads op 0).bind fun _ _ => .ok trivial
  case showText => exact (string_reads op 0).bind fun _ _ => .ok trivial
  case setDash => exact Checked.bind (dash_reads op).checked fun _ => .ok trivial
  case showTextAdjusted =>
    exact items_checked op (fun value => by cases value <;> rfl) (textItem_reads op) 0
      fun _ => .ok trivial
  case moveTo | lineTo | moveText | moveTextSetLeading | setGlyphWidth =>
    exact (two_reads numbers _).checked
  case curveFromCurrent | curveIntoEnd | rectangle => exact (four_reads numbers _).checked
  case concat | curveTo | setTextMatrix | setGlyphWidthAndBounds =>
    exact (six_reads numbers _).checked
  case setStrokeGray | setFillGray => exact (one_reads single_isSome _).checked
  case setStrokeRGB | setFillRGB => exact (three_reads single_isSome _).checked
  case setStrokeCMYK | setFillCMYK => exact (four_reads single_isSome _).checked
  case setParameters =>
    exact (name_reads op 0).bind fun name named =>
      (resource_checked resolver features frame (.parameters is named) (by decide)).bind
        fun _ => .ok trivial
  case paintShading =>
    exact (name_reads op 0).bind fun name named =>
      (resource_checked resolver features frame (.shading is named) (by decide)).bind
        fun _ => .ok trivial
  case markPointWithProperties =>
    exact (name_reads op 0).bind fun tag tagged =>
      (propertyList_checked resolver features frame tagged (.inl is)).bind fun _ => .ok trivial
  case beginMarkedWithProperties =>
    exact (name_reads op 0).bind fun tag tagged =>
      (propertyList_checked resolver features frame tagged (.inr is)).bind fun _ => .ok trivial
  case setStrokeColorSpace => exact selectSpace_checked resolver features frame _ (.inl is)
  case setFillColorSpace => exact selectSpace_checked resolver features frame _ (.inr is)
  case setStrokeColorOrPattern => exact colorOrPattern_checked resolver features frame _ (.inl is)
  case setFillColorOrPattern => exact colorOrPattern_checked resolver features frame _ (.inr is)
  all_goals exact .ok trivial

def Accepted (K : Type) [Scalar K] (op : Operation) : Prop :=
  ∀ operator, op.kind? = some operator → Accepts K op operator

theorem accepted_accepts {operator : Operator} (is : op.kind? = some operator) :
    Accepted K op ↔ Accepts K op operator := by
  refine ⟨fun accepted => accepted operator is, fun accepts other same => ?_⟩
  cases is.symm.trans same
  exact accepts

/-- Every operation checks its operands first, and looks a name up only if they are fit. -/
theorem plan_checked : Checked (Accepted K op) (Hindered K resolver features frame op)
    (plan resolver features frame op) := by
  unfold plan
  split <;> rename_i is
  case h_1 =>
    refine .ok fun operator same => ?_
    cases is.symm.trans same
  all_goals rw [accepted_accepts is]
  case h_10 =>
    rename_i operator _ _ _ _ _ _ _ _
    have one : operator ∉ several := by
      simp only [several, List.mem_cons, List.not_mem_nil, or_false, not_or]
      and_intros <;> assumption
    exact (callback_checked resolver features frame is one).bind fun _ => .ok trivial
  all_goals refine Checked.congr (?_ : Checked (op.Fits 0 _) _ _) (iff_of_eq (and_true _).symm)
  case h_2 =>
    refine (name_reads op 0).bind fun name named => (number_reads op 1).bind fun size sized => ?_
    exact (search_checked resolver features frame (.font is named sized)).bind fun found => by
      cases found <;> exact .ok trivial
  case h_3 => exact (string_reads op 0).bind fun _ _ => .ok trivial
  case h_4 =>
    have same : op.Fits 0 (List.replicate 2 .number) ∧ op.Fits 2 [.string] ↔
        op.Fits 0 [.number, .number, .string] := by
      simp only [Operation.Fits, List.replicate, and_true, and_assoc]
    exact ((two_reads number_isSome Prod.mk).bind fun _ _ =>
      (string_reads op 2).bind fun _ _ => .ok trivial).congr same
  case h_7 =>
    refine (name_reads op 0).bind fun name named => ?_
    have found := resource_checked resolver features frame (.xobject is named) (by decide)
    refine found.bind fun _ => ?_
    split <;> exact .ok trivial
  case h_9 =>
    unfold endCompatibility
    split
    · exact .later trivial (.unbalanced is ‹_›)
    · exact .ok trivial
  all_goals exact .ok trivial

variable {ω : Type} (host : Host K R ω) (forms : FormRunner K R (ω × Log K R)) (site : Site)
  {operator : Operator} (w : ω) (log : Log K R)

omit [Scalar K] in
theorem attach_code (warning : Warning) (operator : String) (index : Nat) :
    (warning.attach operator index).code = warning.code := by
  rw [Warning.attach]
  split <;> rfl

theorem rejected_warned (rejected : ¬ Accepted K op) :
    ∃ warning : Warning, warning.code = .malformedOperands ∧
      operate host.logged resolver forms frame site op (w, log) =
        (.ok (), frame.sections, host.warn warning w, log ++ [.warning warning]) := by
  obtain ⟨warning, refused, code⟩ :=
    (plan_checked resolver (host.logged.features (w, log)) frame).refuses rejected
  refine ⟨warning.attach site.operator site.index, (attach_code ..).trans code, ?_⟩
  rw [operate, refused]
  rfl

def Plain (op : Operation) : Operator → Prop
  | .setStrokeColor | .setFillColor => True
  | .setStrokeColorOrPattern | .setFillColorOrPattern => op.lastName? = none
  | _ => False

omit [Scalar K] in
theorem colorOrPattern_plain (unnamed : op.lastName? = none) (side : Side) :
    colorOrPattern resolver features frame op side =
      .ok (.color side (Operation.components op.operands)) := by
  rw [colorOrPattern, unnamed]
  rfl

theorem plain_plan (is : op.kind? = some operator) (plain : Plain op operator) :
    ∃ side, plan resolver features frame op =
      .ok (calls frame [.color side (Operation.components op.operands)]) := by
  have made {c : Except Signal (Callback K R)} {side : Side}
      (sets : c = .ok (.color side (Operation.components op.operands))) :
      (c >>= fun call => .ok (calls frame [call])) =
        .ok (calls frame [.color side (Operation.components op.operands)]) := by
    rw [sets]
    rfl
  rw [plan, is]
  cases operator
  case setStrokeColor => exact ⟨.stroke, rfl⟩
  case setFillColor => exact ⟨.fill, rfl⟩
  case setStrokeColorOrPattern =>
    exact ⟨.stroke, made (colorOrPattern_plain resolver features frame plain .stroke)⟩
  case setFillColorOrPattern =>
    exact ⟨.fill, made (colorOrPattern_plain resolver features frame plain .fill)⟩
  all_goals exact plain.elim

/-- Operands of other types than an operator wants are warned about, once, and there is no callback.
But operators that set a color by its components take the numbers before the first operand that is
none, even if there are no numbers there. -/
theorem mistyped_skipped (resolver : Resolver K R) (frame : Frame R) (is : op.kind? = some operator)
    (mistyped : ¬ op.WellTyped operator) :
    (operator ∉ Operator.colors → ∃ warning : Warning, warning.code = .malformedOperands ∧
      operate host.logged resolver forms frame site op (w, log) =
        (.ok (), frame.sections, host.warn warning w, log ++ [.warning warning])) ∧
    (Plain op operator → ∃ side, plan resolver (host.features w) frame op =
      .ok (calls frame [.color side (Operation.components op.operands)])) := by
  constructor
  · intro other
    refine rejected_warned resolver frame host forms site w log fun accepted => mistyped ?_
    have fits := (accepted operator is).1
    cases operator
    case setStrokeColor | setFillColor | setStrokeColorOrPattern | setFillColorOrPattern =>
      exact absurd (by decide) other
    all_goals exact fits
  · exact plain_plan resolver (host.features w) frame is

def silently : Host Float Unit (Unit × Unit) :=
  .of (.silent Float Unit) (.strict Unit) fun _ => false

theorem mistyped_skipped_move :
    let op : Operation := ⟨"m", [.integer 1]⟩
    op.kind? = some .moveTo ∧ ¬ op.WellTyped .moveTo ∧
      ∃ warning : Warning, warning.code = .malformedOperands ∧
        operate silently.logged (.none Float Unit) (tooDeep 0) ⟨(), none, none, none, 0⟩ ⟨"m", 0⟩ op
          (((), ()), []) = (.ok (), 0, ((), ()), [.warning warning]) := by
  intro op
  have one : ¬ op.WellTyped .moveTo := by
    unfold Operation.WellTyped
    decide
  have is : op.kind? = some .moveTo := rfl
  have skipped := mistyped_skipped silently (tooDeep 0) ⟨"m", 0⟩ ((), ()) [] (.none Float Unit)
    ⟨(), none, none, none, 0⟩ is one
  exact ⟨is, one, skipped.1 (by decide)⟩

theorem no_components_set :
    let op : Operation := ⟨"SC", []⟩
    op.kind? = some .setStrokeColor ∧ ¬ op.WellTyped .setStrokeColor ∧
      history silently (.none Float Unit) 10 () [op] ((), ()) =
        [.note (.dispatch "SC" 0), .call (.color .stroke []) (.ok ())] :=
  ⟨rfl, fun typed => typed.1 rfl, rfl⟩

end Interpreter
end PageMarks
