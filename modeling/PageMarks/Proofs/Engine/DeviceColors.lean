import PageMarks.Proofs.Engine.Refusal
import PageMarks.Proofs.Engine.Restore
import PageMarks.Proofs.Engine.ShowOperators
import PageMarks.Proofs.Interpreter.ImageSpaces
import PageMarks.Proofs.Interpreter.Signature

/-!
Colors of device families. An operator that sets one by its numbers alone is short for two others:
one selects the family by its full name, one sets the components. Either way the default space of the
frame stands in for the family, and nothing is left of the color that a selection begins with.
-/

namespace PageMarks

def DeviceColor.operator : Side → DeviceColor → Operator
  | .stroke, gray _ => .setStrokeGray
  | .fill, gray _ => .setFillGray
  | .stroke, rgb .. => .setStrokeRGB
  | .fill, rgb .. => .setFillRGB
  | .stroke, cmyk .. => .setStrokeCMYK
  | .fill, cmyk .. => .setFillCMYK

def Side.sets : Side → Operator
  | .stroke => .setStrokeColor
  | .fill => .setFillColor

theorem DeviceColor.ofDeviceName (color : DeviceColor) :
    ColorSpace.ofDeviceName? color.space.family = some color.space := by
  cases color <;> rfl

theorem DeviceColor.ofNumbers {values : List Object} (numbers : values.all Object.isNumber)
    (count : values.length ∈ [1, 3, 4]) :
    ∃ color : DeviceColor, values.mapM Object.single? = some color.components := by
  obtain ⟨unnumbered, _⟩ | ⟨_, found, read, length⟩ := Interpreter.mapM_numbers
    Interpreter.single_isSome values
  · exact absurd numbers unnumbered
  · rw [read]
    rw [← length] at count
    match found, count with
    | [g], _ => exact ⟨.gray g, rfl⟩
    | [r, g, b], _ => exact ⟨.rgb r g b, rfl⟩
    | [c, m, y, k], _ => exact ⟨.cmyk c m y k, rfl⟩

namespace Operation

theorem components_read {values : List Object} {found : List Float32}
    (read : values.mapM Object.single? = some found) : components values = found := by
  induction values generalizing found with
  | nil =>
    cases read
    rfl
  | cons value rest ih =>
    rw [List.mapM_cons] at read
    obtain ⟨x, single, read⟩ := Option.bind_eq_some_iff.mp read
    obtain ⟨others, readOthers, is⟩ := Option.bind_eq_some_iff.mp read
    cases is
    rw [components, single]
    exact congrArg (x :: ·) (ih readOthers)

theorem leading?_all {op : Operation} {found : List Float32}
    (all : op.operands.mapM Object.single? = some found) :
    op.leading? Object.single? found.length = some found := by
  obtain ⟨_, unread⟩ | ⟨_, values, read, length⟩ := Interpreter.mapM_numbers
    Interpreter.single_isSome op.operands
  · rw [unread] at all
    cases all
  · rw [read] at all
    cases all
    rw [leading?, length, if_pos (Nat.le_refl _), List.take_length, read]

end Operation

namespace Engine

open Interpreter

variable {K R σ η : Type} [Scalar K] {surface : Surface K σ} {hints : Bool} {handler : Handler η}
  {resolver : Resolver K R} {frame : Frame R} {e : Engine K σ} {h : η} {op : Operation}
  {side : Side} {color : DeviceColor}

/-- What a color of a device family looks like in a frame, by whichever way it is set. -/
def deviceInk (frame : Frame R) (color : DeviceColor) : Ink :=
  ⟨(frame.default? color.space).getD color.space, .ofComponents color.components⟩

theorem deviceColor_completes (side : Side) (color : DeviceColor) :
    Completes surface hints [(.deviceColor side color (frame.default? color.space) : Callback K R)] e
      (e.modifyInk side fun _ => deviceInk frame color) :=
  completes_one rfl

theorem selection_completes (side : Side) (color : DeviceColor) :
    Completes surface hints
      [(.colorSpace side color.space.family (some ((frame.default? color.space).getD color.space)) :
        Callback K R), .color side color.components] e
      (e.modifyInk side fun _ => deviceInk frame color) := by
  refine ⟨_, rfl, completes_one ?_⟩
  cases side <;> rfl

theorem asks_deviceColor (kind : op.kind? = some (color.operator side))
    (read : op.operands.mapM Object.single? = some color.components) :
    Asks resolver frame op [(.deviceColor side color (frame.default? color.space) : Callback K R)] := by
  have leading := Operation.leading?_all read
  have single : color.operator side ∉ several := by
    cases color <;> cases side <;> simp [DeviceColor.operator, several]
  apply asks_callback kind single
  cases color with
  | gray g =>
    have one {β : Type} (f : Float32 → β) : op.one Object.single? f = .ok (f g) := by
      rw [Operation.one, show op.leading? Object.single? 1 = some [g] from leading]
      rfl
    cases side <;> exact one _
  | rgb r g b =>
    have three {β : Type} (f : Float32 → Float32 → Float32 → β) :
        op.three Object.single? f = .ok (f r g b) := by
      rw [Operation.three, show op.leading? Object.single? 3 = some [r, g, b] from leading]
      rfl
    cases side <;> exact three _
  | cmyk c m y k =>
    have four {β : Type} (f : Float32 → Float32 → Float32 → Float32 → β) :
        op.four Object.single? f = .ok (f c m y k) := by
      rw [Operation.four, show op.leading? Object.single? 4 = some [c, m, y, k] from leading]
      rfl
    cases side <;> exact four _

theorem asks_selection (selects : Selects op side color.space.family) :
    Asks resolver frame op
      [(.colorSpace side color.space.family (some ((frame.default? color.space).getD color.space)) :
        Callback K R)] := by
  rw [Asks, selects_plan selects, spaceNamed_family color.ofDeviceName]
  rfl

theorem asks_components (kind : op.kind? = some side.sets)
    (read : op.operands.mapM Object.single? = some color.components) :
    Asks resolver frame op [(.color side color.components : Callback K R)] := by
  rw [← Operation.components_read read]
  cases side <;> exact asks_callback kind (by decide) rfl

/-- An operation that sets a color of a device family by its numbers alone, and the two that it is short
for. -/
structure SpelledOut (side : Side) (color : DeviceColor) (operands : List Object)
    (bare select set : Operation) : Prop where
  bare : bare.kind? = some (color.operator side) ∧ bare.operands = operands
  select : Selects select side color.space.family
  set : set.kind? = some side.sets ∧ set.operands = operands

/-- Numbers set a color of a device family in one operation as they do in two, in any frame and in any
scope, whatever default spaces are found there. -/
theorem device_color_spelled_out (surface : Surface K σ) (hints : Bool) (handler : Handler η)
    (resolver : Resolver K R) (e : Engine K σ) (h : η) (side : Side) (operands : List Object)
    (numbers : operands.all Object.isNumber) (count : operands.length ∈ [1, 3, 4]) :
    let host := driving surface hints handler fun _ => false
    ∃ color : DeviceColor, operands.mapM Object.single? = some color.components ∧
      ∀ bare select set, SpelledOut side color operands bare select set →
        (∀ forms frame index,
          let after := e.modifyInk side fun _ => deviceInk frame color
          execute host resolver forms frame index [bare] (e, h) = (.ok .finished, after, h) ∧
          execute host resolver forms frame index [select, set] (e, h) =
            (.ok .finished, after, h)) ∧
        ∀ limit scope,
          let opened := openFrame host resolver scope (e, h)
          let after := e.modifyInk side fun _ => deviceInk opened.1 color
          process host resolver limit scope [bare] (e, h) = (.ok .finished, after, opened.2.2) ∧
          process host resolver limit scope [select, set] (e, h) =
            (.ok .finished, after, opened.2.2) := by
  intro host
  obtain ⟨color, read⟩ := DeviceColor.ofNumbers numbers count
  refine ⟨color, read, fun bare select set spelled => ?_⟩
  have bareRead := read
  have setRead := read
  rw [← spelled.bare.2] at bareRead
  rw [← spelled.set.2] at setRead
  have same {forms : FormRunner K R (Engine K σ × η)} {frame : Frame R} {index : Nat} {h : η} :
      let after := e.modifyInk side fun _ => deviceInk frame color
      execute host resolver forms frame index [bare] (e, h) = (.ok .finished, after, h) ∧
      execute host resolver forms frame index [select, set] (e, h) = (.ok .finished, after, h) :=
    ⟨execute_completes (.cons (asks_deviceColor spelled.bare.1 bareRead) .nil)
        (deviceColor_completes side color),
      execute_completes (.cons (asks_selection spelled.select)
        (.cons (asks_components spelled.set.1 setRead) .nil)) (selection_completes side color)⟩
  refine ⟨fun _ _ _ => same, fun limit scope => ?_⟩
  have still : (openFrame host resolver scope (e, h)).2.1 = e := openFrame_engine scope (e, h)
  dsimp only
  rw [process, process, run_eq, run_eq]
  rcases opening : openFrame host resolver scope (e, h) with ⟨frame, x, g⟩
  rw [opening] at still
  cases still
  exact same

def calibrated : Resolver Float Unit :=
  { Resolver.none Float Unit with
    colorSpace := fun _ name =>
      .ok (if name = "DefaultGray" ∨ name = "DefaultRGB" then some .calRGB else none) }

def selectGray : Operation := ⟨"cs", [.name [68, 101, 118, 105, 99, 101, 71, 114, 97, 121]]⟩

def selectRGB : Operation := ⟨"CS", [.name [68, 101, 118, 105, 99, 101, 82, 71, 66]]⟩

theorem device_color_spelled_out_calibrated :
    let ends := fun content => process
      (driving (.silent Float) false (Records.handler true) fun _ => false) calibrated 10 ()
      content (blank, .empty)
    (ends [⟨"g", [.integer 1]⟩] = ends [selectGray, ⟨"sc", [.integer 1]⟩] ∧
      (ends [⟨"g", [.integer 1]⟩]).2.1.state.fill.space = .deviceGray) ∧
    ends [⟨"RG", [.integer 1, .integer 0, .integer 0]⟩] =
      ends [selectRGB, ⟨"SC", [.integer 1, .integer 0, .integer 0]⟩] ∧
    (ends [⟨"RG", [.integer 1, .integer 0, .integer 0]⟩]).2.1.state.stroke.space = .calRGB := by
  intro ends
  obtain ⟨gray, readGray, grays⟩ := device_color_spelled_out (.silent Float) false
    (Records.handler true) calibrated blank .empty .fill [.integer 1] rfl (by decide)
  obtain ⟨rgb, readRGB, rgbs⟩ := device_color_spelled_out (.silent Float) false
    (Records.handler true) calibrated blank .empty .stroke [.integer 1, .integer 0, .integer 0] rfl
    (by decide)
  constructor
  · cases gray with
    | gray g =>
      obtain ⟨bare, pair⟩ := (grays ⟨"g", [.integer 1]⟩ selectGray ⟨"sc", [.integer 1]⟩
        ⟨⟨rfl, rfl⟩, ⟨rfl, rfl⟩, ⟨rfl, rfl⟩⟩).2 10 ()
      exact ⟨bare.trans pair.symm, congrArg (fun result => result.2.1.state.fill.space) bare⟩
    | rgb | cmyk => cases readGray
  · cases rgb with
    | rgb r g b =>
      obtain ⟨bare, pair⟩ := (rgbs ⟨"RG", [.integer 1, .integer 0, .integer 0]⟩ selectRGB
        ⟨"SC", [.integer 1, .integer 0, .integer 0]⟩ ⟨⟨rfl, rfl⟩, ⟨rfl, rfl⟩, ⟨rfl, rfl⟩⟩).2 10 ()
      exact ⟨bare.trans pair.symm, congrArg (fun result => result.2.1.state.stroke.space) bare⟩
    | gray | cmyk => cases readRGB

end Engine
end PageMarks
