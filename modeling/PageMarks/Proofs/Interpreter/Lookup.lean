import PageMarks.Interpreter

/-!
Where the fatal conditions of a plan come from. An operation that looks up a name that cannot be
resolved ends in what the resolver says about it; any other is what it would be if the resolver never
failed.
-/

namespace PageMarks

inductive Resolver.Fails {K R : Type} (resolver : Resolver K R) (scope : R) : Failure → Prop
  | colorSpace {name source} : resolver.colorSpace scope name = .error source →
    Fails resolver scope (.resolve .colorSpace name source)
  | font {name source} : resolver.font scope name = .error source →
    Fails resolver scope (.resolve .font name source)
  | pattern {name source} : resolver.pattern scope name = .error source →
    Fails resolver scope (.resolve .pattern name source)
  | shading {name source} : resolver.shading scope name = .error source →
    Fails resolver scope (.resolve .shading name source)
  | parameters {name source} : resolver.parameters scope name = .error source →
    Fails resolver scope (.resolve .parameters name source)
  | properties {name source} : resolver.properties scope name = .error source →
    Fails resolver scope (.resolve .properties name source)
  | xobject {name source} : resolver.xobject scope name = .error source →
    Fails resolver scope (.resolve .xobject name source)

/-- `better` answers as `resolver` does wherever that does not fail. -/
structure Resolver.Improves {K R : Type} (better resolver : Resolver K R) : Prop where
  colorSpace {scope name found} : resolver.colorSpace scope name = .ok found →
    better.colorSpace scope name = .ok found
  font {scope name found} : resolver.font scope name = .ok found →
    better.font scope name = .ok found
  pattern {scope name found} : resolver.pattern scope name = .ok found →
    better.pattern scope name = .ok found
  shading {scope name found} : resolver.shading scope name = .ok found →
    better.shading scope name = .ok found
  parameters {scope name found} : resolver.parameters scope name = .ok found →
    better.parameters scope name = .ok found
  properties {scope name found} : resolver.properties scope name = .ok found →
    better.properties scope name = .ok found
  xobject {scope name found} : resolver.xobject scope name = .ok found →
    better.xobject scope name = .ok found

theorem Resolver.Improves.refl {K R : Type} (resolver : Resolver K R) :
    resolver.Improves resolver := ⟨id, id, id, id, id, id, id⟩

namespace Interpreter

/-- Two computations that are the same, unless the first ends in a failure that `Fails` allows. -/
inductive SameUnless (Fails : Failure → Prop) {β : Type} :
    Except Signal β → Except Signal β → Prop
  | fails {failure other} : Fails failure → SameUnless Fails (.error (.fatal failure)) other
  | value (b : β) : SameUnless Fails (.ok b) (.ok b)
  | warning (warning : Warning) :
    SameUnless Fails (.error (.warning warning)) (.error (.warning warning))

namespace SameUnless

variable {Fails : Failure → Prop} {α β : Type}

theorem bind {x y : Except Signal α} {f g : α → Except Signal β} (first : SameUnless Fails x y)
    (each : ∀ a, SameUnless Fails (f a) (g a)) : SameUnless Fails (x >>= f) (y >>= g) := by
  cases first with
  | fails failing => exact .fails failing
  | value a => exact each a
  | warning => exact .warning _

theorem mapM {f : α → Except Signal β} (each : ∀ a, SameUnless Fails (f a) (f a))
    (values : List α) : SameUnless Fails (values.mapM f) (values.mapM f) := by
  induction values with
  | nil => exact .value _
  | cons value rest ih =>
    rw [List.mapM_cons]
    exact bind (each value) fun _ => bind ih fun _ => .value _

theorem same {x y : Except Signal β} (agrees : SameUnless Fails x y)
    (fine : ∀ failure, x ≠ .error (.fatal failure)) : y = x := by
  cases agrees with
  | @fails failure => exact absurd rfl (fine failure)
  | value | warning => rfl

end SameUnless

variable {K R α β : Type}

section

variable {Fails : Failure → Prop} {op : Operation}

theorem require_same {wanted : String} {value : Option β} :
    SameUnless Fails (op.require wanted value) (op.require wanted value) := by
  cases value with
  | none => exact .warning _
  | some value => exact .value value

theorem numbered_same (what : String) (choose : Int → Option α) :
    SameUnless Fails (numbered op what choose) (numbered op what choose) := by
  refine require_same.bind fun value => ?_
  split
  · exact .value _
  · exact .warning _

variable [Scalar K]

theorem textItem_same (value : Object) :
    SameUnless Fails (textItem op value : Except Signal (TextItem K)) (textItem op value) := by
  unfold textItem
  split
  · exact .value _
  · split
    · exact .value _
    · exact .warning _

theorem dash_same : SameUnless Fails (dash op : Except Signal (Dash K)) (dash op) := by
  have length (value : Object) :
      SameUnless Fails (dashLength op value : Except Signal K) (dashLength op value) := by
    unfold dashLength
    split
    · exact .value _
    · exact .warning _
  exact require_same.bind fun values =>
    (SameUnless.mapM length values).bind fun _ => require_same.bind fun _ => .value _

end

variable {better resolver : Resolver K R} (improves : better.Improves resolver)
  (features : Features) (frame : Frame R) (op : Operation)

section

variable {kind : ResourceKind} {lookup improved : R → String → Lookup α} (name : String)
  (kept : ∀ found, lookup frame.scope name = .ok found → improved frame.scope name = .ok found)
  (fails : ∀ source, lookup frame.scope name = .error source →
    resolver.Fails frame.scope (.resolve kind name source))
include kept fails

theorem search_improved :
    SameUnless (resolver.Fails frame.scope) (search features kind name (lookup frame.scope))
      (search features kind name (improved frame.scope)) := by
  unfold search
  split
  · cases answer : lookup frame.scope name with
    | error source => exact .fails (fails source answer)
    | ok found =>
      rw [kept found answer]
      cases found <;> exact .value _
  · exact .value _

theorem resource_improved :
    SameUnless (resolver.Fails frame.scope) (resource features kind name (lookup frame.scope))
      (resource features kind name (improved frame.scope)) := by
  refine (search_improved features frame name kept fails).bind fun found => ?_
  cases found with
  | missing => exact .warning _
  | present | declined => exact .value _

end

include improves

theorem spaceNamed_improved (name : String) :
    SameUnless (resolver.Fails frame.scope) (spaceNamed resolver features frame name)
      (spaceNamed better features frame name) := by
  unfold spaceNamed
  split
  · exact .value _
  · exact resource_improved features frame name (fun _ => improves.colorSpace) fun _ => .colorSpace

theorem propertyList_improved :
    SameUnless (resolver.Fails frame.scope) (propertyList resolver features frame op)
      (propertyList better features frame op) := by
  unfold propertyList
  split
  · exact .value _
  · refine require_same.bind fun name => ?_
    have entries := resource_improved features frame name (fun _ => improves.properties)
      fun _ => .properties
    exact entries.bind fun _ => .value _

theorem colorOrPattern_improved (side : Side) :
    SameUnless (resolver.Fails frame.scope) (colorOrPattern resolver features frame op side)
      (colorOrPattern better features frame op side) := by
  unfold colorOrPattern
  dsimp only
  split
  · exact .value _
  · next name _ =>
    have pattern := resource_improved features frame name (fun _ => improves.pattern)
      fun _ => .pattern
    exact pattern.bind fun _ => .value _

theorem selectSpace_improved (side : Side) :
    SameUnless (resolver.Fails frame.scope) (selectSpace resolver features frame op side)
      (selectSpace better features frame op side) :=
  require_same.bind fun name =>
    (spaceNamed_improved improves features frame name).bind fun _ => .value _

variable [Scalar K]

theorem inlineImage_improved :
    SameUnless (resolver.Fails frame.scope) (inlineImage resolver features frame op)
      (inlineImage better features frame op) := by
  unfold inlineImage
  split
  · exact .warning _
  · split
    · exact (spaceNamed_improved improves features frame _).bind fun _ => .value _
    · exact .value _

theorem callback_improved (operator : Operator) :
    SameUnless (resolver.Fails frame.scope) (callback resolver features frame op operator)
      (callback better features frame op operator) := by
  cases operator
  case setLineWidth | setMiterLimit | setRenderingIntent | setFlatness | setCharSpacing
    | setWordSpacing | setHorizontalScaling | setLeading | setRise | showText | markPoint
    | beginMarked =>
    exact require_same.bind fun _ => .value _
  case setLineCap | setLineJoin | setRenderMode =>
    exact (numbered_same _ _).bind fun _ => .value _
  case setDash => exact dash_same.bind fun _ => .value _
  case setParameters =>
    refine require_same.bind fun name => ?_
    have found := resource_improved features frame name (fun _ => improves.parameters)
      fun _ => .parameters
    exact found.bind fun _ => .value _
  case paintShading =>
    refine require_same.bind fun name => ?_
    have found := resource_improved features frame name (fun _ => improves.shading)
      fun _ => .shading
    exact found.bind fun _ => .value _
  case showTextAdjusted =>
    exact require_same.bind fun values =>
      (SameUnless.mapM textItem_same values).bind fun _ => .value _
  case markPointWithProperties | beginMarkedWithProperties =>
    exact require_same.bind fun _ =>
      (propertyList_improved improves features frame op).bind fun _ => .value _
  case setStrokeColorSpace | setFillColorSpace =>
    exact selectSpace_improved improves features frame op _
  case setStrokeColorOrPattern | setFillColorOrPattern =>
    exact colorOrPattern_improved improves features frame op _
  case inlineImage => exact inlineImage_improved improves features frame op
  case setStrokeGray | setFillGray | setStrokeRGB | setFillRGB | setStrokeCMYK | setFillCMYK
    | moveTo | lineTo | moveText | moveTextSetLeading | setGlyphWidth | curveFromCurrent
    | curveIntoEnd | rectangle | concat | curveTo | setTextMatrix | setGlyphWidthAndBounds =>
    exact require_same
  all_goals exact .value _

theorem plan_improved :
    SameUnless (resolver.Fails frame.scope) (plan resolver features frame op)
      (plan better features frame op) := by
  unfold plan
  split
  case h_2 =>
    refine require_same.bind fun name => require_same.bind fun _ => ?_
    have found := search_improved features frame name (fun _ => improves.font) fun _ => .font
    refine found.bind fun found => ?_
    cases found <;> exact .value _
  case h_3 => exact require_same.bind fun _ => .value _
  case h_4 => exact require_same.bind fun _ => require_same.bind fun _ => .value _
  case h_7 =>
    refine require_same.bind fun name => ?_
    have found := resource_improved features frame name (fun _ => improves.xobject) fun _ => .xobject
    refine found.bind fun _ => ?_
    split <;> exact .value _
  case h_9 =>
    unfold endCompatibility
    split
    · exact .warning _
    · exact .value _
  case h_10 =>
    exact (callback_improved improves features frame op _).bind fun _ => .value _
  all_goals exact .value _

omit improves

inductive Unresolved (resolver : Resolver K R) (scope : R) : Signal → Prop
  | warning {warning} : Unresolved resolver scope (.warning warning)
  | fatal {failure} : resolver.Fails scope failure → Unresolved resolver scope (.fatal failure)

theorem plan_refuses {signal : Signal} (refused : plan resolver features frame op = .error signal) :
    Unresolved resolver frame.scope signal := by
  have same := plan_improved (.refl resolver) features frame op
  rw [refused] at same
  cases same with
  | fails failing => exact .fatal failing
  | warning => exact .warning

/-- What an operation does about lookups that fail: the failure of one is offered and nothing else is
done, or it does what it would if they did not fail. -/
inductive Heeded {ω : Type} (host : Host K R ω) (resolver : Resolver K R)
    (forms : FormRunner K R ω) (frame : Frame R) (site : Site) (op : Operation) (w : ω) : Prop
  | offered {failure answer v} : resolver.Fails frame.scope failure →
    host.offer failure w = (answer, v) →
    operate host resolver forms frame site op w = (answer, frame.sections, v) →
    Heeded host resolver forms frame site op w
  | untouched : (∀ better : Resolver K R, better.Improves resolver →
      operate host better forms frame site op w = operate host resolver forms frame site op w) →
    Heeded host resolver forms frame site op w

theorem operate_heeded {ω : Type} (host : Host K R ω) (resolver : Resolver K R)
    (forms : FormRunner K R ω) (frame : Frame R) (site : Site) (op : Operation) (w : ω) :
    Heeded host resolver forms frame site op w := by
  by_cases failing : ∃ failure, plan resolver (host.features w) frame op = .error (.fatal failure)
  · obtain ⟨failure, refused⟩ := failing
    cases plan_refuses (host.features w) frame op refused with
    | fatal fails =>
      refine .offered fails rfl ?_
      simp only [operate, refused, settle]
  · refine .untouched fun better improves => ?_
    have agrees := plan_improved improves (host.features w) frame op
    have equal := agrees.same fun failure refused => failing ⟨failure, refused⟩
    simp only [operate, equal]

end Interpreter
end PageMarks
