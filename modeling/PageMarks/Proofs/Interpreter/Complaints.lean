import PageMarks.Proofs.Interpreter.Dispatch

/-!
What is complained of before a callback is made. Operands that are unfit, names that stand for nothing
and ends without a beginning are warned about where it is not yet known which operation is the one, so
these warnings have none attached. None of them is about a default space.
-/

namespace PageMarks.Interpreter

def Warns (Such : Warning → Prop) {β : Type} (x : Except Signal β) : Prop :=
  ∀ warning, x = .error (.warning warning) → Such warning

/-- A warning of the interpreter's own about an operation. -/
structure Complaint (warning : Warning) : Prop where
  unattached : warning.operator = none
  elsewhere : warning.code ≠ .defaultColorSpace

theorem plain_complaint {code : WarningCode} (other : code ≠ .defaultColorSpace)
    (description : String) : Complaint (.plain code description) := ⟨rfl, other⟩

theorem missing_complaint (kind : ResourceKind) (name : String) : Complaint (missing kind name) :=
  ⟨rfl, nofun⟩

namespace Warns

variable {Such Other : Warning → Prop} {α β : Type}

theorem ok (b : β) : Warns Such (.ok b) := nofun

theorem fatal (failure : Failure) : Warns Such (.error (.fatal failure) : Except Signal β) := nofun

theorem warning {warning : Warning} (such : Such warning) :
    Warns Such (.error (.warning warning) : Except Signal β) := by
  rintro _ ⟨⟩
  exact such

theorem mono {x : Except Signal β} (warns : Warns Such x)
    (each : ∀ warning, Such warning → Other warning) : Warns Other x :=
  fun warning is => each warning (warns warning is)

theorem passed {x : Except Signal α} {signal : Signal} (warns : Warns Such x)
    (ended : x = .error signal) : Warns Such (.error signal : Except Signal β) := by
  rintro warning ⟨⟩
  exact warns warning ended

theorem bind {x : Except Signal α} {f : α → Except Signal β} (first : Warns Such x)
    (each : ∀ a, Warns Such (f a)) : Warns Such (x >>= f) := by
  cases x with
  | ok a => exact each a
  | error signal =>
    intro warning is
    cases is
    exact first warning rfl

theorem mapM {f : α → Except Signal β} (each : ∀ a, Warns Such (f a)) (values : List α) :
    Warns Such (values.mapM f) := by
  induction values with
  | nil => exact ok _
  | cons value rest ih =>
    rw [List.mapM_cons]
    exact bind (each value) fun _ => bind ih fun _ => ok _

end Warns

section

variable {α β : Type} {op : Operation}

theorem complain_complains (detail : String) :
    Warns Complaint (complain op detail : Except Signal β) :=
  .warning (plain_complaint (by decide) _)

theorem require_complains {wanted : String} {value : Option β} :
    Warns Complaint (op.require wanted value) := by
  cases value with
  | none => exact .warning (plain_complaint (by decide) _)
  | some value => exact .ok value

theorem numbered_complains (what : String) (choose : Int → Option α) :
    Warns Complaint (numbered op what choose) := by
  refine require_complains.bind fun value => ?_
  split
  · exact .ok _
  · exact complain_complains _

variable {K : Type} [Scalar K]

theorem textItem_complains (value : Object) :
    Warns Complaint (textItem op value : Except Signal (TextItem K)) := by
  unfold textItem
  split
  · exact .ok _
  · split
    · exact .ok _
    · exact complain_complains _

theorem dash_complains : Warns Complaint (dash op : Except Signal (Dash K)) := by
  have length (value : Object) : Warns Complaint (dashLength op value : Except Signal K) := by
    unfold dashLength
    split
    · exact .ok _
    · exact complain_complains _
  exact require_complains.bind fun values =>
    (Warns.mapM length values).bind fun _ => require_complains.bind fun _ => .ok _

end

section

variable {α : Type} {features : Features} {kind : ResourceKind} {name : String}
  {lookup : String → Lookup α}

theorem search_complains : Warns Complaint (search features kind name lookup) := by
  have searched := search_searched features kind name lookup
  generalize lookup name = answer at searched
  generalize search features kind name lookup = outcome at searched ⊢
  cases searched with
  | failed => exact .fatal _
  | declined | missing | present => exact .ok _

theorem resource_complains : Warns Complaint (resource features kind name lookup) := by
  refine search_complains.bind fun found => ?_
  cases found with
  | missing => exact .warning (missing_complaint kind name)
  | present | declined => exact .ok _

end

variable {K R : Type} {resolver : Resolver K R} {features : Features} {frame : Frame R}
  {op : Operation}

theorem spaceNamed_complains {name : String} :
    Warns Complaint (spaceNamed resolver features frame name) := by
  unfold spaceNamed
  split
  · exact .ok _
  · exact resource_complains

theorem propertyList_complains : Warns Complaint (propertyList resolver features frame op) := by
  unfold propertyList
  split
  · exact .ok _
  · exact require_complains.bind fun _ => resource_complains.bind fun _ => .ok _

theorem colorOrPattern_complains {side : Side} :
    Warns Complaint (colorOrPattern resolver features frame op side) := by
  unfold colorOrPattern
  dsimp only
  split
  · exact .ok _
  · exact resource_complains.bind fun _ => .ok _

variable [Scalar K]

theorem inlineImage_complains : Warns Complaint (inlineImage resolver features frame op) := by
  unfold inlineImage
  split
  · exact complain_complains _
  · split
    · exact spaceNamed_complains.bind fun _ => .ok _
    · exact .ok _

theorem callback_complains {operator : Operator} :
    Warns Complaint (callback resolver features frame op operator) := by
  cases operator
  case setLineWidth | setMiterLimit | setRenderingIntent | setFlatness | setCharSpacing
    | setWordSpacing | setHorizontalScaling | setLeading | setRise | showText | markPoint
    | beginMarked =>
    exact require_complains.bind fun _ => .ok _
  case setLineCap | setLineJoin | setRenderMode =>
    exact (numbered_complains _ _).bind fun _ => .ok _
  case setDash => exact dash_complains.bind fun _ => .ok _
  case setParameters | paintShading =>
    exact require_complains.bind fun _ => resource_complains.bind fun _ => .ok _
  case showTextAdjusted =>
    exact require_complains.bind fun values =>
      (Warns.mapM textItem_complains values).bind fun _ => .ok _
  case markPointWithProperties | beginMarkedWithProperties =>
    exact require_complains.bind fun _ => propertyList_complains.bind fun _ => .ok _
  case setStrokeColorSpace | setFillColorSpace =>
    exact require_complains.bind fun _ => spaceNamed_complains.bind fun _ => .ok _
  case setStrokeColorOrPattern | setFillColorOrPattern => exact colorOrPattern_complains
  case inlineImage => exact inlineImage_complains
  case setStrokeGray | setFillGray | setStrokeRGB | setFillRGB | setStrokeCMYK | setFillCMYK
    | moveTo | lineTo | moveText | moveTextSetLeading | setGlyphWidth | curveFromCurrent
    | curveIntoEnd | rectangle | concat | curveTo | setTextMatrix | setGlyphWidthAndBounds =>
    exact require_complains
  all_goals exact .ok _

theorem plan_complains : Warns Complaint (plan resolver features frame op) := by
  unfold plan
  split
  case h_2 =>
    refine require_complains.bind fun _ => require_complains.bind fun _ => ?_
    refine search_complains.bind fun found => ?_
    cases found <;> exact .ok _
  case h_3 => exact require_complains.bind fun _ => .ok _
  case h_4 => exact require_complains.bind fun _ => require_complains.bind fun _ => .ok _
  case h_7 =>
    refine require_complains.bind fun _ => resource_complains.bind fun _ => ?_
    split <;> exact .ok _
  case h_9 =>
    unfold endCompatibility
    split
    · exact .warning (plain_complaint (by decide) _)
    · exact .ok _
  case h_10 => exact callback_complains.bind fun _ => .ok _
  all_goals exact .ok _

theorem report_complains : Yields (fun p : Plan K R => ∀ warning, p.sequel = .report warning →
    Complaint warning) (plan resolver features frame op) := by
  intro p planned warning reports
  have font := plan_reports p planned warning reports
  rw [plan, font] at planned
  obtain ⟨name, _, planned⟩ := bind_ok planned
  obtain ⟨size, _, planned⟩ := bind_ok planned
  obtain ⟨found, _, planned⟩ := bind_ok planned
  cases found with
  | missing =>
    cases planned
    cases reports
    exact missing_complaint .font name
  | present | declined =>
    cases planned
    cases reports

end PageMarks.Interpreter
