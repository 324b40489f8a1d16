import PageMarks.Interpreter.Plan

/-!
Which callbacks an operation can ask for. A callback has operators of its own, and an operation asks
only for callbacks that have its operator; forms are entered by one operator alone.
-/

namespace PageMarks

/-- The operators that ask for a callback; a token that is no operator has a callback of its own. -/
def Callback.operators {K R : Type} : Callback K R → List Operator
  | save => [.save]
  | restore => [.restore]
  | concat _ => [.concat]
  | lineWidth _ => [.setLineWidth]
  | lineCap _ => [.setLineCap]
  | lineJoin _ => [.setLineJoin]
  | miterLimit _ => [.setMiterLimit]
  | dash _ => [.setDash]
  | renderingIntent _ => [.setRenderingIntent]
  | flatness _ => [.setFlatness]
  | parameters .. => [.setParameters]
  | moveTo .. => [.moveTo]
  | lineTo .. => [.lineTo]
  | curveTo .. => [.curveTo]
  | curveFromCurrent .. => [.curveFromCurrent]
  | curveIntoEnd .. => [.curveIntoEnd]
  | rectangle .. => [.rectangle]
  | closePath => [.closePath]
  | stroke _ => [.stroke, .closeStroke]
  | fill _ => [.fill, .fillOld, .fillEvenOdd]
  | fillStroke .. => [.fillStroke, .fillStrokeEvenOdd, .closeFillStroke, .closeFillStrokeEvenOdd]
  | endPath => [.endPath]
  | clip _ => [.clip, .clipEvenOdd]
  | colorSpace .. => [.setStrokeColorSpace, .setFillColorSpace]
  | color .. =>
    [.setStrokeColor, .setFillColor, .setStrokeColorOrPattern, .setFillColorOrPattern]
  | pattern .. => [.setStrokeColorOrPattern, .setFillColorOrPattern]
  | deviceColor .. =>
    [.setStrokeGray, .setFillGray, .setStrokeRGB, .setFillRGB, .setStrokeCMYK, .setFillCMYK]
  | beginText => [.beginText]
  | endText => [.endText]
  | moveText .. => [.moveText]
  | moveTextSetLeading .. => [.moveTextSetLeading]
  | textMatrix _ => [.setTextMatrix]
  | nextLine => [.nextLine, .nextLineShowText, .spacedNextLineShowText]
  | charSpacing _ => [.setCharSpacing, .spacedNextLineShowText]
  | wordSpacing _ => [.setWordSpacing, .spacedNextLineShowText]
  | horizontalScaling _ => [.setHorizontalScaling]
  | leading _ => [.setLeading]
  | font .. => [.setFont]
  | renderMode _ => [.setRenderMode]
  | rise _ => [.setRise]
  | showText _ => [.showText, .nextLineShowText, .spacedNextLineShowText]
  | showTextAdjusted _ => [.showTextAdjusted]
  | glyphWidth .. => [.setGlyphWidth]
  | glyphWidthAndBounds .. => [.setGlyphWidthAndBounds]
  | markPoint _ => [.markPoint]
  | markPointWith .. => [.markPointWithProperties]
  | beginMarked _ => [.beginMarked]
  | beginMarkedWith .. => [.beginMarkedWithProperties]
  | endMarked => [.endMarked]
  | drawXObject .. => [.paintXObject]
  | drawShading .. => [.paintShading]
  | drawInlineImage .. => [.inlineImage]
  | beginCompatibility => [.beginCompatibility]
  | endCompatibility => [.endCompatibility]
  | unknown _ => []

namespace Interpreter

def Own {K R : Type} (op : Operation) (c : Callback K R) : Prop :=
  match op.kind? with
  | none => c = .unknown op
  | some operator => operator ∈ c.operators

section

variable {ε α β : Type}

/-- What a computation yields, if it yields anything, has a property. -/
def Yields (P : β → Prop) (x : Except ε β) : Prop := ∀ b, x = .ok b → P b

theorem bind_ok {x : Except ε α} {f : α → Except ε β} {b : β} (ok : x >>= f = .ok b) :
    ∃ a, x = .ok a ∧ f a = .ok b := by
  cases x with
  | error => cases ok
  | ok a => exact ⟨a, rfl, ok⟩

variable {P : β → Prop}

theorem yields_ok {b : β} (holds : P b) : Yields P (.ok b : Except ε β) := by
  rintro _ ⟨⟩
  exact holds

theorem yields_error (e : ε) : Yields P (.error e) := nofun

theorem yields_bind_of {x : Except ε α} {f : α → Except ε β}
    (each : ∀ a, x = .ok a → Yields P (f a)) : Yields P (x >>= f) := by
  intro b ok
  obtain ⟨a, found, ok⟩ := bind_ok ok
  exact each a found b ok

theorem yields_bind {x : Except ε α} {f : α → Except ε β} (each : ∀ a, Yields P (f a)) :
    Yields P (x >>= f) :=
  yields_bind_of fun a _ => each a

theorem yields_require {op : Operation} {wanted : String} {x : Option β}
    (each : ∀ b, x = some b → P b) : Yields P (op.require wanted x) := by
  cases x with
  | none => exact yields_error _
  | some b => exact yields_ok (each b rfl)

variable {op : Operation} {read : Object → Option α}

theorem yields_one {f : α → β} (each : ∀ x, P (f x)) : Yields P (op.one read f) :=
  yields_require fun b found => by
    split at found <;> cases found
    exact each _

theorem yields_two {f : α → α → β} (each : ∀ x y, P (f x y)) : Yields P (op.two read f) :=
  yields_require fun b found => by
    split at found <;> cases found
    exact each _ _

theorem yields_three {f : α → α → α → β} (each : ∀ x y z, P (f x y z)) :
    Yields P (op.three read f) :=
  yields_require fun b found => by
    split at found <;> cases found
    exact each _ _ _

theorem yields_four {f : α → α → α → α → β} (each : ∀ x₁ x₂ x₃ x₄, P (f x₁ x₂ x₃ x₄)) :
    Yields P (op.four read f) :=
  yields_require fun b found => by
    split at found <;> cases found
    exact each _ _ _ _

theorem yields_six {f : α → α → α → α → α → α → β}
    (each : ∀ x₁ x₂ x₃ x₄ x₅ x₆, P (f x₁ x₂ x₃ x₄ x₅ x₆)) : Yields P (op.six read f) :=
  yields_require fun b found => by
    split at found <;> cases found
    exact each _ _ _ _ _ _

end

section

variable {K R : Type} (resolver : Resolver K R) (features : Features) (frame : Frame R)
  (op : Operation)

theorem selectSpace_yields {side : Side} {P : Callback K R → Prop}
    (each : ∀ name space, P (.colorSpace side name space)) :
    Yields P (selectSpace resolver features frame op side) :=
  yields_bind fun name => yields_bind fun space => yields_ok (each name space)

theorem colorOrPattern_yields {side : Side} {P : Callback K R → Prop}
    (color : ∀ components, P (.color side components))
    (pattern : ∀ components name pattern, P (.pattern side components name pattern)) :
    Yields P (colorOrPattern resolver features frame op side) := by
  unfold colorOrPattern
  dsimp only
  split
  · exact yields_ok (color _)
  · exact yields_bind fun _ => yields_ok (pattern _ _ _)

variable [Scalar K]

theorem inlineImage_yields {P : Callback K R → Prop}
    (each : ∀ image space, P (.drawInlineImage image space)) :
    Yields P (inlineImage resolver features frame op) := by
  unfold inlineImage
  split
  · exact yields_error _
  · split
    · exact yields_bind fun _ => yields_ok (each _ _)
    · exact yields_ok (each _ _)

/-- Operators that ask for no callback or for several, or open something. -/
def several : List Operator :=
  [.setFont, .nextLineShowText, .spacedNextLineShowText, .inlineImageData, .endInlineImage,
    .paintXObject, .beginCompatibility, .endCompatibility]

theorem callback_operators {operator : Operator} (one : operator ∉ several) :
    Yields (fun c => operator ∈ c.operators) (callback resolver features frame op operator) := by
  cases operator
  case setLineWidth | setLineCap | setLineJoin | setMiterLimit | setDash | setRenderingIntent
    | setFlatness | setCharSpacing | setWordSpacing | setHorizontalScaling | setLeading
    | setRenderMode | setRise | showText | markPoint | beginMarked =>
    exact yields_bind fun _ => yields_ok (by simp [Callback.operators])
  case setParameters | showTextAdjusted | paintShading | markPointWithProperties
    | beginMarkedWithProperties =>
    exact yields_bind fun _ => yields_bind fun _ => yields_ok (by simp [Callback.operators])
  case setStrokeGray | setFillGray => exact yields_one fun _ => by simp [Callback.operators]
  case moveTo | lineTo | moveText | moveTextSetLeading | setGlyphWidth =>
    exact yields_two fun _ _ => by simp [Callback.operators]
  case setStrokeRGB | setFillRGB => exact yields_three fun _ _ _ => by simp [Callback.operators]
  case curveFromCurrent | curveIntoEnd | rectangle | setStrokeCMYK | setFillCMYK =>
    exact yields_four fun _ _ _ _ => by simp [Callback.operators]
  case concat | curveTo | setTextMatrix | setGlyphWidthAndBounds =>
    exact yields_six fun _ _ _ _ _ _ => by simp [Callback.operators]
  case setStrokeColorSpace | setFillColorSpace =>
    exact selectSpace_yields _ _ _ _ fun _ _ => by simp [Callback.operators]
  case setStrokeColorOrPattern | setFillColorOrPattern =>
    exact colorOrPattern_yields _ _ _ _ (fun _ => by simp [Callback.operators])
      fun _ _ _ => by simp [Callback.operators]
  case inlineImage =>
    exact inlineImage_yields _ _ _ _ fun _ _ => by simp [Callback.operators]
  case setFont | nextLineShowText | spacedNextLineShowText | inlineImageData | endInlineImage
    | paintXObject | beginCompatibility | endCompatibility => simp [several] at one
  all_goals exact yields_ok (by simp [Callback.operators])

theorem plan_own :
    Yields (fun p : Plan K R => ∀ c ∈ p.calls, Own op c) (plan resolver features frame op) := by
  unfold plan
  split <;> rename_i kind
  · exact yields_ok (by simp [calls, Own, kind])
  · unfold selectFont
    refine yields_bind fun _ => yields_bind fun _ => yields_bind fun found => ?_
    cases found <;> exact yields_ok (by simp [calls, Own, kind, Callback.operators])
  · exact yields_bind fun _ => yields_ok (by simp [calls, Own, kind, Callback.operators])
  · exact yields_bind fun _ => yields_bind fun _ =>
      yields_ok (by simp [calls, Own, kind, Callback.operators])
  · exact yields_ok (by simp [calls])
  · exact yields_ok (by simp [calls])
  · unfold paintXObject
    refine yields_bind fun _ => yields_bind fun _ => ?_
    split <;> exact yields_ok (by simp [calls, Own, kind, Callback.operators])
  · exact yields_ok (by simp [Own, kind, Callback.operators])
  · unfold endCompatibility
    split
    · exact yields_error _
    · exact yields_ok (by simp [Own, kind, Callback.operators])
  · rename_i operator _ _ _ _ _ _ _ _
    have one : operator ∉ several := by simp_all [several]
    intro p ok
    obtain ⟨c, made, ok⟩ := bind_ok ok
    cases ok
    simpa [calls, Own, kind] using callback_operators resolver features frame op one c made

theorem plan_callback {operator : Operator} (kind : op.kind? = some operator)
    (one : operator ∉ several) :
    plan resolver features frame op =
      (callback resolver features frame op operator >>= fun c => .ok (calls frame [c])) := by
  unfold plan
  rw [kind]
  cases operator
  case setFont | nextLineShowText | spacedNextLineShowText | inlineImageData | endInlineImage
    | paintXObject | beginCompatibility | endCompatibility => simp [several] at one
  all_goals rfl

structure Enters (frame : Frame R) (op : Operation) (p : Plan K R) (name : String)
    (form : Form K R) : Prop where
  kind : op.kind? = some .paintXObject
  named : op.name 0 = .ok name
  found : resolver.xobject frame.scope name = .ok (some (.form form))
  calls : p.calls = [.drawXObject name (some (.form form))]
  sections : p.sections = frame.sections

theorem resource_some {α : Type} {kind : ResourceKind} {name : String} {lookup : String → Lookup α}
    {value : α} (ok : resource features kind name lookup = .ok (some value)) :
    lookup name = .ok (some value) := by
  obtain ⟨found, searched, ok⟩ := bind_ok ok
  unfold search at searched
  split at searched
  · split at searched <;> cases searched <;> cases ok
    assumption
  · cases searched; cases ok

theorem plan_enters :
    Yields (fun p : Plan K R => ∀ name form, p.sequel = .enter name form →
      Enters resolver frame op p name form) (plan resolver features frame op) := by
  unfold plan
  split <;> rename_i kind
  case h_2 =>
    unfold selectFont
    refine yields_bind fun _ => yields_bind fun _ => yields_bind fun found => ?_
    cases found <;> exact yields_ok (by rintro _ _ ⟨⟩)
  case h_3 => exact yields_bind fun _ => yields_ok (by rintro _ _ ⟨⟩)
  case h_4 => exact yields_bind fun _ => yields_bind fun _ => yields_ok (by rintro _ _ ⟨⟩)
  case h_7 =>
    unfold paintXObject
    refine yields_bind_of fun name named => yields_bind_of fun xobject found => ?_
    split
    · refine yields_ok ?_
      rintro _ _ ⟨⟩
      exact ⟨kind, named, resource_some features found, rfl, rfl⟩
    · exact yields_ok (by rintro _ _ ⟨⟩)
  case h_9 =>
    unfold endCompatibility
    split
    · exact yields_error _
    · exact yields_ok (by rintro _ _ ⟨⟩)
  case h_10 => exact yields_bind fun _ => yields_ok (by rintro _ _ ⟨⟩)
  all_goals exact yields_ok (by rintro _ _ ⟨⟩)

def sectionsAfter (sections : Nat) (op : Operation) : Nat :=
  match op.kind? with
  | some .beginCompatibility => sections + 1
  | some .endCompatibility => sections - 1
  | _ => sections

variable {resolver features frame op}

theorem plan_sections :
    Yields (fun p : Plan K R => p.sections = sectionsAfter frame.sections op)
      (plan resolver features frame op) := by
  unfold plan sectionsAfter
  cases op.kind? with
  | none => exact yields_ok rfl
  | some operator =>
    cases operator
    case setFont =>
      refine yields_bind fun _ => yields_bind fun _ => yields_bind fun found => ?_
      cases found <;> exact yields_ok rfl
    case spacedNextLineShowText => exact yields_bind fun _ => yields_bind fun _ => yields_ok rfl
    case inlineImageData | endInlineImage | beginCompatibility => exact yields_ok rfl
    case paintXObject =>
      refine yields_bind fun _ => yields_bind fun xobject => ?_
      rcases xobject with _ | _ | _ | _ <;> exact yields_ok rfl
    case endCompatibility =>
      change Yields (fun p : Plan K R => p.sections = frame.sections - 1) (endCompatibility frame)
      unfold endCompatibility
      cases frame.sections with
      | zero => exact yields_error _
      | succ sections => exact yields_ok rfl
    all_goals exact yields_bind fun _ => yields_ok rfl

end
end Interpreter
end PageMarks
