import Mathlib.Data.List.Perm.Basic
import PageMarks.Proofs.Decimal.WholeNumbers
import PageMarks.Proofs.Engine.ShowOperators
import PageMarks.Proofs.Interpreter.Signature
import PageMarks.Resource.Scope

/-!
Sets of parameters against the operators that set parameters one by one. Entries of a set are read
apart from operands and applied apart from callbacks. Those of the right types still come to what
the operators of these parameters do, in whatever order these stand; what a set does besides is to
set alphas and the font size, and to leave a record of itself.
-/

namespace PageMarks

variable {K R : Type}

inductive Setting (K : Type)
  | lineWidth (width : K)
  | lineCap (cap : LineCap)
  | lineJoin (join : LineJoin)
  | miterLimit (limit : K)
  | dash (dash : Dash K)
  | renderingIntent (intent : String)
  | flatness (flatness : K)

namespace Setting

def operator : Setting K → Operator
  | lineWidth _ => .setLineWidth
  | lineCap _ => .setLineCap
  | lineJoin _ => .setLineJoin
  | miterLimit _ => .setMiterLimit
  | dash _ => .setDash
  | renderingIntent _ => .setRenderingIntent
  | flatness _ => .setFlatness

def callback : Setting K → Callback K R
  | .lineWidth value => .lineWidth value
  | .lineCap value => .lineCap value
  | .lineJoin value => .lineJoin value
  | .miterLimit value => .miterLimit value
  | .dash value => .dash value
  | .renderingIntent value => .renderingIntent value
  | .flatness value => .flatness value

def apply (s : GraphicsState K) : Setting K → GraphicsState K
  | .lineWidth value => { s with lineWidth := value }
  | .lineCap value => { s with lineCap := value }
  | .lineJoin value => { s with lineJoin := value }
  | .miterLimit value => { s with miterLimit := value }
  | .dash value => { s with dash := value }
  | .renderingIntent value => { s with renderingIntent := some value }
  | .flatness value => { s with flatness := value }

theorem apply_comm {first second : Setting K} (apart : first.operator ≠ second.operator)
    (s : GraphicsState K) : second.apply (first.apply s) = first.apply (second.apply s) := by
  cases first <;> cases second
  all_goals first | exact absurd rfl apart | rfl

end Setting

def settingKeys : List (String × Operator) :=
  [("LW", .setLineWidth), ("LC", .setLineCap), ("LJ", .setLineJoin), ("ML", .setMiterLimit),
   ("D", .setDash), ("RI", .setRenderingIntent), ("FL", .setFlatness)]

namespace Parameters

def setting? (p : Parameters K) : Operator → Option (Setting K)
  | .setLineWidth => p.lineWidth.map .lineWidth
  | .setLineCap => p.lineCap.map .lineCap
  | .setLineJoin => p.lineJoin.map .lineJoin
  | .setMiterLimit => p.miterLimit.map .miterLimit
  | .setDash => p.dash.map .dash
  | .setRenderingIntent => p.renderingIntent.map .renderingIntent
  | .setFlatness => p.flatness.map .flatness
  | _ => none

def settings (p : Parameters K) : List (Setting K) :=
  settingKeys.filterMap fun entry => p.setting? entry.2

theorem setting?_operator {p : Parameters K} {operator : Operator} {setting : Setting K}
    (given : p.setting? operator = some setting) : setting.operator = operator := by
  unfold setting? at given
  split at given
  case h_8 => cases given
  all_goals
    obtain ⟨value, -, rfl⟩ := Option.map_eq_some_iff.mp given
    rfl

theorem settings_comm {p : Parameters K} {first second : Setting K} (one : first ∈ p.settings)
    (other : second ∈ p.settings) (s : GraphicsState K) :
    second.apply (first.apply s) = first.apply (second.apply s) := by
  obtain ⟨_, -, here⟩ := List.mem_filterMap.mp one
  obtain ⟨_, -, there⟩ := List.mem_filterMap.mp other
  -- A set has one value for a parameter, so two settings of the same are one.
  by_cases same : first.operator = second.operator
  · rw [setting?_operator here, setting?_operator there] at same
    rw [same, there] at here
    rw [Option.some.inj here]
  · exact Setting.apply_comm same s

def applyOne (p : Parameters K) (s : GraphicsState K) (operator : Operator) : GraphicsState K :=
  match p.setting? operator with
  | some setting => setting.apply s
  | none => s

theorem foldl_settings (p : Parameters K) (s : GraphicsState K) :
    p.settings.foldl Setting.apply s = (settingKeys.map (·.2)).foldl p.applyOne s := by
  rw [settings, List.foldl_filterMap, List.foldl_map]
  refine congrArg (List.foldl · s settingKeys) (funext₂ fun s entry => ?_)
  rw [applyOne]
  cases p.setting? entry.2 <;> rfl

theorem applyOne_eq (p : Parameters K) (s : GraphicsState K) (operator : Operator) :
    p.applyOne s operator =
      match operator with
      | .setLineWidth => { s with lineWidth := p.lineWidth.getD s.lineWidth }
      | .setLineCap => { s with lineCap := p.lineCap.getD s.lineCap }
      | .setLineJoin => { s with lineJoin := p.lineJoin.getD s.lineJoin }
      | .setMiterLimit => { s with miterLimit := p.miterLimit.getD s.miterLimit }
      | .setDash => { s with dash := p.dash.getD s.dash }
      | .setRenderingIntent =>
        { s with renderingIntent := p.renderingIntent.or s.renderingIntent }
      | .setFlatness => { s with flatness := p.flatness.getD s.flatness }
      | _ => s := by
  unfold applyOne
  cases operator
  case setLineWidth => cases given : p.lineWidth <;> simp [setting?, given, Setting.apply]
  case setLineCap => cases given : p.lineCap <;> simp [setting?, given, Setting.apply]
  case setLineJoin => cases given : p.lineJoin <;> simp [setting?, given, Setting.apply]
  case setMiterLimit => cases given : p.miterLimit <;> simp [setting?, given, Setting.apply]
  case setDash => cases given : p.dash <;> simp [setting?, given, Setting.apply]
  case setRenderingIntent =>
    cases given : p.renderingIntent <;> simp [setting?, given, Setting.apply]
  case setFlatness => cases given : p.flatness <;> simp [setting?, given, Setting.apply]
  all_goals rfl

variable [Scalar K]

theorem applyParameters_settings (p : Parameters K) (s : GraphicsState K) :
    s.applyParameters p =
      { p.settings.foldl Setting.apply s with
        strokeAlpha := p.strokeAlpha.getD s.strokeAlpha
        fillAlpha := p.fillAlpha.getD s.fillAlpha
        parameters := some p
        text := p.fontSize.elim s.text fun size => s.text.setSize size } := by
  rw [foldl_settings, GraphicsState.applyParameters]
  simp only [settingKeys, List.map_cons, List.map_nil, List.foldl_cons, List.foldl_nil, applyOne_eq]
  cases p.fontSize <;> rfl

end Parameters

def operandsOf : Object → List Object
  | .array items => items
  | value => [value]

def settingOp (operator : Operator) (value : Object) : Operation :=
  ⟨operator.token, operandsOf value⟩

def settingOps (entries : Dictionary) : List Operation :=
  settingKeys.filterMap fun entry => (entries.entry? entry.1).map (settingOp entry.2)

/-- Entries that have operators are given in the set itself, and are what the operators take. -/
structure WellTyped (entries : Dictionary) : Prop where
  number : ∀ key ∈ ["LW", "ML", "FL"], ∀ value, entries.entry? key = some value → value.isNumber
  style : ∀ key ∈ ["LC", "LJ"], ∀ value, entries.entry? key = some value →
    ∃ n, Operation.integer? value = some n ∧ 0 ≤ n ∧ n ≤ 2
  intent : ∀ value, entries.entry? "RI" = some value → ∃ bytes, value = .name bytes
  dash : ∀ value, entries.entry? "D" = some value → ∃ lengths phase,
    value = .array [.array lengths, phase] ∧ (∀ length ∈ lengths, length.isNumber) ∧ phase.isNumber

namespace Engine

open Interpreter

variable [Scalar K] {resolver : Resolver K R} {frame : Frame R}

theorem number_ok {op : Operation} {i : Nat} {value : Object} {x : K}
    (given : op.operands[i]? = some value) (is : value.number? = some x) : op.number i = .ok x := by
  rw [Operation.number, Operation.operand, given, Option.bind_some, is]
  rfl

theorem exists_number {value : Object} (is : value.isNumber) :
    ∃ x : K, value.number? = some x :=
  Option.isSome_iff_exists.mp ((number_isSome value).trans is)

theorem long?_integer {value : Object} {n : Int} (is : Operation.integer? value = some n)
    (low : 0 ≤ n) (high : n ≤ 2) : value.long? = some n := by
  cases value with
  | integer m =>
    cases is
    -- An operand is taken as it is, an entry by way of a float.
    obtain ⟨k, rfl⟩ := Int.eq_ofNat_of_zero_le low
    have cut : (Decimal.Binary.ofFloat (Float.ofNat k)).truncate (-Bound.long) (Bound.long - 1) =
        k := Decimal.truncate_ofNat (by omega) (by unfold Bound.long; omega)
          (by unfold Bound.long; omega)
    exact congrArg some cut
  | real x =>
    rw [Operation.integer?] at is
    split at is
    · exact is
    · cases is
  | _ => cases is

theorem mapM_dashLength {op : Operation} {lengths : List Object}
    (numbers : ∀ length ∈ lengths, length.isNumber) :
    lengths.mapM (dashLength op) = (.ok (Object.numbersOf lengths) : Except Signal (List K)) := by
  induction lengths with
  | nil => rfl
  | cons length rest ih =>
    obtain ⟨x, is⟩ := exists_number (K := K) (numbers length List.mem_cons_self)
    have read : (dashLength op length : Except Signal K) = .ok x := by rw [dashLength, is]
    have more := ih fun other member => numbers other (List.mem_cons_of_mem _ member)
    have numbers : Object.numbersOf (length :: rest) = x :: Object.numbersOf rest :=
      List.filterMap_cons_some is
    rw [List.mapM_cons, read, more, numbers]
    rfl

/-- An operation asks for a setting and nothing else. -/
def Sets (resolver : Resolver K R) (frame : Frame R) (op : Operation) (setting : Setting K) :
    Prop :=
  Asks resolver frame op [setting.callback]

section

variable {value : Object}

theorem settingOp_operand (operator : Operator) (value : Object)
    (single : ∀ items, value ≠ .array items) :
    (settingOp operator value).operands[0]? = some value := by
  cases value with
  | array items => exact absurd rfl (single items)
  | _ => rfl

theorem sets_number {operator : Operator} {make : K → Setting K} {x : K}
    (is : value.number? = some x) (kind : (settingOp operator value).kind? = some operator)
    (one : operator ∉ several)
    (called : callback resolver (fun _ => true) frame (settingOp operator value) operator =
      ((settingOp operator value).number 0 >>= fun x => .ok (make x).callback)) :
    Sets resolver frame (settingOp operator value) (make x) := by
  have given := settingOp_operand operator value (by rintro items rfl; cases is)
  refine asks_callback kind one (called.trans ?_)
  rw [number_ok given is]
  rfl

theorem sets_style {α : Type} {operator : Operator} {make : α → Setting K} {what : String}
    {choose : Int → Option α} {n : Int} {choice : α} (is : Operation.integer? value = some n)
    (chosen : choose n = some choice) (kind : (settingOp operator value).kind? = some operator)
    (one : operator ∉ several)
    (called : callback resolver (fun _ => true) frame (settingOp operator value) operator =
      (numbered (settingOp operator value) what choose >>= fun x => .ok (make x).callback)) :
    Sets resolver frame (settingOp operator value) (make choice) := by
  have given := settingOp_operand operator value (by rintro items rfl; cases is)
  have read : numbered (settingOp operator value) what choose = .ok choice := by
    rw [numbered, Operation.integer, Operation.operand, given, Option.bind_some, is]
    dsimp only [Operation.require, bind, Except.bind]
    rw [chosen]
    rfl
  refine asks_callback kind one (called.trans ?_)
  rw [read]
  rfl

theorem sets_intent (bytes : Bytes) :
    Sets resolver frame (settingOp .setRenderingIntent (.name bytes))
      (.renderingIntent (Text.Utf8.decode bytes)) :=
  asks_callback rfl (by decide) rfl

theorem sets_dash {lengths : List Object} {phase : Object} {x : K}
    (numbers : ∀ length ∈ lengths, length.isNumber) (is : phase.number? = some x) :
    Sets resolver frame (settingOp .setDash (.array [.array lengths, phase]))
      (.dash ⟨Object.numbersOf lengths, x⟩) := by
  let op := settingOp .setDash (.array [.array lengths, phase])
  have read : (dash op : Except Signal (Dash K)) = .ok ⟨Object.numbersOf lengths, x⟩ := by
    have array : op.array 0 = .ok lengths := rfl
    have number : (op.number 1 : Except Signal K) = .ok x := number_ok rfl is
    rw [dash, array]
    dsimp only [bind, Except.bind]
    rw [mapM_dashLength numbers, number]
    rfl
  exact asks_callback rfl (by decide) (called_of read .dash)

end

section

variable {entries : Dictionary} (typed : WellTyped entries) {key : String} {operator : Operator}
  (token : Operator.ofToken? operator.token = some operator) (one : operator ∉ several)
include typed token one

theorem related_number {make : K → Setting K} (member : key ∈ ["LW", "ML", "FL"])
    (called : ∀ op, callback resolver (fun _ => true) frame op operator =
      (op.number 0 >>= fun x => .ok (make x).callback)) :
    Option.Rel (fun value => Sets resolver frame (settingOp operator value)) (entries.entry? key)
      ((entries.number? key).map make) := by
  rw [Dictionary.number?]
  cases found : entries.entry? key with
  | none => exact .none
  | some value =>
    obtain ⟨x, is⟩ := exists_number (K := K) (typed.number key member value found)
    rw [Option.bind_some, is]
    exact .some (sets_number is token one (called _))

theorem related_style {α : Type} {make : α → Setting K} {what : String} {choose : Int → Option α}
    (member : key ∈ ["LC", "LJ"]) (known : ∀ n, 0 ≤ n → n ≤ 2 → ∃ choice, choose n = some choice)
    (called : ∀ op, callback resolver (fun _ => true) frame op operator =
      (numbered op what choose >>= fun x => .ok (make x).callback)) :
    Option.Rel (fun value => Sets resolver frame (settingOp operator value)) (entries.entry? key)
      (((entries.long? key).bind choose).map make) := by
  rw [Dictionary.long?]
  cases found : entries.entry? key with
  | none => exact .none
  | some value =>
    obtain ⟨n, is, low, high⟩ := typed.style key member value found
    obtain ⟨choice, chosen⟩ := known n low high
    rw [Option.bind_some, long?_integer is low high, Option.bind_some, chosen]
    exact .some (sets_style is chosen token one (called _))

end

section

variable {entries : Dictionary} (typed : WellTyped entries)
include typed

theorem related_intent :
    Option.Rel (fun value => Sets (K := K) resolver frame (settingOp .setRenderingIntent value))
      (entries.entry? "RI") ((entries.name? "RI").map .renderingIntent) := by
  rw [Dictionary.name?]
  cases found : entries.entry? "RI" with
  | none => exact .none
  | some value =>
    obtain ⟨bytes, rfl⟩ := typed.intent value found
    exact .some (sets_intent bytes)

theorem related_dash (doc : Document) :
    ∃ dash : Option (Dash K), Resource.dash? doc entries = .ok dash ∧
      Option.Rel (fun value => Sets resolver frame (settingOp .setDash value)) (entries.entry? "D")
        (dash.map .dash) := by
  unfold Resource.dash? Resource.followed?
  cases found : entries.entry? "D" with
  | none => exact ⟨none, rfl, .none⟩
  | some value =>
    obtain ⟨lengths, phase, rfl, numbers, number⟩ := typed.dash value found
    obtain ⟨x, is⟩ := exists_number (K := K) number
    refine ⟨some ⟨Object.numbersOf lengths, x⟩, ?_, .some (sets_dash numbers is)⟩
    have phase : phase.number?.getD Scalar.zero = x := by rw [is, Option.getD_some]
    rw [← phase]
    rfl

end

structure ReadFrom (entries : Dictionary) (p : Parameters K) : Prop where
  strokeAlpha : p.strokeAlpha = entries.number? "CA"
  fillAlpha : p.fillAlpha = entries.number? "ca"
  blendMode : p.blendMode = Resource.blendMode? entries
  strokeAdjustment : p.strokeAdjustment = match entries.entry? "SA" with
    | some (.boolean value) => some value
    | _ => none
  fontSize : p.fontSize = ((entries.array? "Font").bind (·[1]?)).bind Object.number?

theorem parameters_typed {entries : Dictionary} (typed : WellTyped entries) (doc : Document) :
    ∃ p : Parameters K, Resource.parameters doc entries = .ok p ∧ ReadFrom entries p ∧
      ∀ entry ∈ settingKeys, Option.Rel (fun value => Sets resolver frame (settingOp entry.2 value))
        (entries.entry? entry.1) (p.setting? entry.2) := by
  obtain ⟨dash, read, dashes⟩ : ∃ dash : Option (Dash K), Resource.dash? doc entries = .ok dash ∧
      Option.Rel (fun value => Sets resolver frame (settingOp .setDash value)) (entries.entry? "D")
        (dash.map .dash) := related_dash typed doc
  have styles {α : Type} {choose : Int → Option α} (known : ∀ n ∈ [0, 1, 2], (choose n).isSome)
      (n : Int) (low : 0 ≤ n) (high : n ≤ 2) : ∃ choice, choose n = some choice := by
    have member : n ∈ [0, 1, 2] := by
      simp only [List.mem_cons, List.not_mem_nil, or_false]
      omega
    exact Option.isSome_iff_exists.mp (known n member)
  unfold Resource.parameters
  rw [read]
  refine ⟨_, rfl, ⟨rfl, rfl, rfl, rfl, rfl⟩, fun entry member => ?_⟩
  simp only [settingKeys, List.mem_cons, List.not_mem_nil, or_false] at member
  rcases member with rfl | rfl | rfl | rfl | rfl | rfl | rfl
  · exact related_number typed rfl (by decide) (by decide) fun _ => rfl
  · exact related_style typed rfl (by decide) (by decide) (styles (by decide)) fun _ => rfl
  · exact related_style typed rfl (by decide) (by decide) (styles (by decide)) fun _ => rfl
  · exact related_number typed rfl (by decide) (by decide) fun _ => rfl
  · exact dashes
  · exact related_intent typed
  · exact related_number typed rfl (by decide) (by decide) fun _ => rfl

section

variable {σ η : Type} {surface : Surface K σ} {hints : Bool} {handler : Handler η}
  {forms : FormRunner K R (Engine K σ × η)}

theorem call_setting (setting : Setting K) (e : Engine K σ) :
    call surface hints (setting.callback : Callback K R) e =
      (.ok (), e.modify fun s => setting.apply s) := by
  cases setting <;> rfl

theorem completes_settings (settings : List (Setting K)) (e : Engine K σ) :
    Completes surface hints
      (settings.map fun setting => [(setting.callback : Callback K R)]).flatten e
      (e.modify fun s => settings.foldl Setting.apply s) := by
  induction settings generalizing e with
  | nil => exact rfl
  | cons setting rest ih => exact ⟨_, call_setting setting e, ih _⟩

theorem execute_settings {ops : List Operation} {settings : List (Setting K)}
    (asks : List.Forall₂ (Sets resolver frame) ops settings) (index : Nat) (e : Engine K σ)
    (h : η) :
    execute (driving surface hints handler fun _ => false) resolver forms frame index ops (e, h) =
      (.ok .finished, e.modify fun s => settings.foldl Setting.apply s, h) :=
  execute_completes (List.forall₂_map_right_iff.mpr asks) (completes_settings settings e)

theorem settings_asked {entries : Dictionary} {p : Parameters K}
    (related : ∀ entry ∈ settingKeys,
      Option.Rel (fun value => Sets resolver frame (settingOp entry.2 value))
        (entries.entry? entry.1) (p.setting? entry.2)) :
    List.Forall₂ (Sets resolver frame) (settingOps entries) p.settings := by
  have keys : List.Forall₂ (fun entry other => entry = other ∧ entry ∈ settingKeys) settingKeys
      settingKeys := List.forall₂_same.mpr fun entry member => ⟨rfl, member⟩
  refine List.rel_filterMap ?_ keys
  rintro entry _ ⟨rfl, member⟩
  have pair := related entry member
  change Option.Rel _ ((entries.entry? entry.1).map (settingOp entry.2)) (p.setting? entry.2)
  generalize entries.entry? entry.1 = value at pair ⊢
  generalize p.setting? entry.2 = setting at pair ⊢
  cases pair with
  | none => exact .none
  | some sets => exact .some sets

end

end Engine

/-- A parameter before and after a set, with the entry for it and the value that is recorded:
without an entry it stays and nothing is recorded. -/
inductive Recorded {α : Type} : Option Object → Option α → α → α → Prop
  | absent {before} : Recorded none none before before
  | present {value before after} : Recorded (some value) (some after) before after

theorem recorded_getD {α : Type} {entry : Option Object} {given : Option α}
    (same : given.isSome = entry.isSome) (before : α) :
    Recorded entry given before (given.getD before) := by
  cases entry <;> cases given
  case none.none => exact .absent
  case some.some => exact .present
  all_goals cases same

structure SetBy (entries : Dictionary) (p : Parameters K) (before after : GraphicsState K) :
    Prop where
  lineWidth : Recorded (entries.entry? "LW") p.lineWidth before.lineWidth after.lineWidth
  lineCap : Recorded (entries.entry? "LC") p.lineCap before.lineCap after.lineCap
  lineJoin : Recorded (entries.entry? "LJ") p.lineJoin before.lineJoin after.lineJoin
  miterLimit : Recorded (entries.entry? "ML") p.miterLimit before.miterLimit after.miterLimit
  dash : Recorded (entries.entry? "D") p.dash before.dash after.dash
  renderingIntent : Recorded (entries.entry? "RI") (p.renderingIntent.map some)
    before.renderingIntent after.renderingIntent
  flatness : Recorded (entries.entry? "FL") p.flatness before.flatness after.flatness
  others : after =
    { before with
      lineWidth := after.lineWidth
      lineCap := after.lineCap
      lineJoin := after.lineJoin
      miterLimit := after.miterLimit
      dash := after.dash
      renderingIntent := after.renderingIntent
      flatness := after.flatness }

theorem setBy_settings {entries : Dictionary} {p : Parameters K}
    (same : ∀ entry ∈ settingKeys, (p.setting? entry.2).isSome = (entries.entry? entry.1).isSome)
    (s : GraphicsState K) : SetBy entries p s (p.settings.foldl Setting.apply s) := by
  rw [p.foldl_settings]
  simp only [settingKeys, List.map_cons, List.map_nil, List.foldl_cons, List.foldl_nil,
    p.applyOne_eq]
  have given {α : Type} {value : Option α} {make : α → Setting K} (key : String)
      (operator : Operator) (member : (key, operator) ∈ settingKeys)
      (is : p.setting? operator = value.map make) :
      value.isSome = (entries.entry? key).isSome := by
    rw [← same _ member, is, Option.isSome_map]
  constructor
  case lineWidth => exact recorded_getD (given "LW" .setLineWidth (by decide) rfl) _
  case lineCap => exact recorded_getD (given "LC" .setLineCap (by decide) rfl) _
  case lineJoin => exact recorded_getD (given "LJ" .setLineJoin (by decide) rfl) _
  case miterLimit => exact recorded_getD (given "ML" .setMiterLimit (by decide) rfl) _
  case dash => exact recorded_getD (given "D" .setDash (by decide) rfl) _
  case renderingIntent =>
    have intent : (p.renderingIntent.map some).isSome = (entries.entry? "RI").isSome := by
      rw [Option.isSome_map]
      exact given "RI" .setRenderingIntent (by decide) rfl
    have chosen : (p.renderingIntent.map some).getD s.renderingIntent =
        p.renderingIntent.or s.renderingIntent := by cases p.renderingIntent <;> rfl
    exact chosen ▸ recorded_getD intent s.renderingIntent
  case flatness => exact recorded_getD (given "FL" .setFlatness (by decide) rfl) _
  case others => rfl

namespace Engine

open Interpreter Resource

variable [Scalar K] {σ η : Type}

theorem asks_parameters [Decoder] {frame : Frame Scope} {name : String} {entries : Dictionary}
    {p : Parameters K}
    (found : frame.scope.find? "ExtGState" name = .ok (some (.dictionary entries)))
    (read : parameters frame.scope.document entries = .ok p) {op : Operation}
    (kind : op.kind? = some .setParameters) (named : op.name 0 = .ok name) :
    Asks Scope.resolver frame op [.parameters name (some p)] := by
  have looked : (Scope.resolver : Resolver K Scope).parameters frame.scope name = .ok (some p) := by
    change frame.scope.lookup "ExtGState" name _ = _
    rw [Scope.lookup, found]
    change (parameters frame.scope.document entries).map some = _
    rw [read]
    rfl
  refine asks_callback kind (by decide) ?_
  change (op.name 0 >>= fun name => _) = _
  rw [named]
  change (resource _ _ name _ >>= fun parameters => _) = _
  rw [resource, search, if_pos rfl, looked]
  rfl

/-- A set that is well typed is applied as the operators of its entries are, in any order:
parameters without an entry stay, and those with one are given the same value. Alphas and the font
size are set from entries of their own, the set is recorded, and nothing else is changed. -/
theorem set_as_operators [Decoder] (surface : Surface K σ) (hints : Bool) (handler : Handler η)
    (forms : FormRunner K Scope (Engine K σ × η)) (frame : Frame Scope) (index : Nat)
    (e : Engine K σ) (h : η) {name : String} {entries : Dictionary}
    (found : frame.scope.find? "ExtGState" name = .ok (some (.dictionary entries)))
    (typed : WellTyped entries) {op : Operation} (kind : op.kind? = some .setParameters)
    (named : op.name 0 = .ok name) :
    let run := fun ops =>
      execute (driving surface hints handler fun _ => false) Scope.resolver forms frame index ops
        (e, h)
    ∃ (p : Parameters K) (s : GraphicsState K), SetBy entries p e.state s ∧ ReadFrom entries p ∧
      (∀ ops, ops.Perm (settingOps entries) → run ops = (.ok .finished, e.modify fun _ => s, h)) ∧
      run [op] = (.ok .finished, e.modify fun _ =>
        { s with
          strokeAlpha := p.strokeAlpha.getD e.state.strokeAlpha
          fillAlpha := p.fillAlpha.getD e.state.fillAlpha
          parameters := some p
          text := p.fontSize.elim e.state.text fun size => e.state.text.setSize size }, h) := by
  intro run
  obtain ⟨p, read, rest, related⟩ : ∃ p : Parameters K,
      parameters frame.scope.document entries = .ok p ∧ ReadFrom entries p ∧
        ∀ entry ∈ settingKeys,
          Option.Rel (fun value => Sets Scope.resolver frame (settingOp entry.2 value))
            (entries.entry? entry.1) (p.setting? entry.2) :=
    parameters_typed typed frame.scope.document
  have present : ∀ entry ∈ settingKeys,
      (p.setting? entry.2).isSome = (entries.entry? entry.1).isSome := by
    intro entry member
    have pair := related entry member
    generalize entries.entry? entry.1 = value at pair ⊢
    generalize p.setting? entry.2 = setting at pair ⊢
    cases pair <;> rfl
  refine ⟨p, p.settings.foldl Setting.apply e.state, setBy_settings present e.state, rest, ?_, ?_⟩
  · intro ops perm
    obtain ⟨settings, asks, same⟩ := List.perm_comp_forall₂ perm (settings_asked related)
    have agree : settings.foldl Setting.apply e.state = p.settings.foldl Setting.apply e.state :=
      (same.symm.foldl_eq' (fun _ one _ other s => p.settings_comm one other s) e.state).symm
    rw [← agree]
    exact execute_settings asks index e h
  · have applied : call surface hints (.parameters name (some p) : Callback K Scope) e =
        (.ok (), e.modify (.applyParameters p)) := rfl
    have done : run [op] = (.ok .finished, e.modify (.applyParameters p), h) :=
      execute_completes (.cons (asks_parameters found read kind named) .nil) (completes_one applied)
    rw [done]
    exact congrArg (fun s => (Except.ok Completion.finished, e.modify fun _ => s, h))
      (p.applyParameters_settings e.state)

def mixedSet : Dictionary :=
  [(Text.Utf8.encode "Type", .name (Text.Utf8.encode "ExtGState")),
   (Text.Utf8.encode "LC", .integer 1),
   (Text.Utf8.encode "D", .array [.array [.integer 3, .real 1], .integer 0]),
   (Text.Utf8.encode "CA", .real 0),
   (Text.Utf8.encode "LW", .real 2),
   (Text.Utf8.encode "Font", .array [.null, .integer 9])]

def mixedScope : Scope where
  document := .empty
  entries := [(Text.Utf8.encode "ExtGState",
    .dictionary [(Text.Utf8.encode "S", .dictionary mixedSet)])]

theorem mixedSet_typed : WellTyped mixedSet where
  number key member value found := by
    simp only [List.mem_cons, List.not_mem_nil, or_false] at member
    rcases member with rfl | rfl | rfl <;> cases found
    rfl
  style key member value found := by
    simp only [List.mem_cons, List.not_mem_nil, or_false] at member
    rcases member with rfl | rfl <;> cases found
    exact ⟨1, rfl, by decide⟩
  intent value found := by cases found
  dash value found := by
    cases found
    exact ⟨[.integer 3, .real 1], .integer 0, rfl, by simp [Object.isNumber], rfl⟩

theorem set_as_operators_mixed : letI := Decoder.none
    let frame : Frame Scope := ⟨mixedScope, none, none, none, 0⟩
    let e : Engine Float Unit := start (.initial ⟨1, 0, 0, 1, 0, 0⟩) 1 ()
    let run := fun ops =>
      execute (driving (.silent Float) false (.strict Unit) fun _ => false) Scope.resolver
        (tooDeep 10) frame 0 ops (e, ())
    ∃ p s, SetBy mixedSet p e.state s ∧ ReadFrom mixedSet p ∧
      run [⟨"d", [.array [.integer 3, .real 1], .integer 0]⟩, ⟨"w", [.real 2]⟩,
        ⟨"J", [.integer 1]⟩] = (.ok .finished, e.modify fun _ => s, ()) ∧
      run [⟨"gs", [.name [83]]⟩] = (.ok .finished, e.modify fun _ =>
        { s with
          strokeAlpha := p.strokeAlpha.getD e.state.strokeAlpha
          fillAlpha := p.fillAlpha.getD e.state.fillAlpha
          parameters := some p
          text := p.fontSize.elim e.state.text fun size => e.state.text.setSize size }, ()) := by
  intro frame e run
  let := Decoder.none
  have found : frame.scope.find? "ExtGState" "S" = .ok (some (.dictionary mixedSet)) := rfl
  have named : Operation.name ⟨"gs", [.name [83]]⟩ 0 = .ok "S" := rfl
  obtain ⟨p, s, set, read, orders, applied⟩ := set_as_operators (.silent Float) false (.strict Unit)
    (tooDeep 10) frame 0 e () found mixedSet_typed rfl named
  refine ⟨p, s, set, read, orders _ ?_, applied⟩
  let width : Operation := ⟨"w", [.real 2]⟩
  let cap : Operation := ⟨"J", [.integer 1]⟩
  let dash : Operation := ⟨"d", [.array [.integer 3, .real 1], .integer 0]⟩
  change ([dash] ++ [width, cap]).Perm ([width, cap] ++ [dash])
  exact List.perm_append_comm

end Engine
end PageMarks
