import PageMarks.Proofs.Interpreter.Plan

/-!
What an operation looks up. It asks for one resource at most, by a name among its operands, in the
scope of its frame; what the resolver answers decides what the operation comes to, and nothing else
about the resolver does.
-/

namespace PageMarks

abbrev ResourceKind.Value (K R : Type) : ResourceKind → Type
  | colorSpace => ColorSpace
  | font => Font K
  | pattern => Pattern K
  | shading => Shading
  | parameters => Parameters K
  | properties => Dictionary
  | xobject => XObject K R

namespace Resolver

variable {K R : Type}

def find (resolver : Resolver K R) (scope : R) :
    (kind : ResourceKind) → String → Lookup (kind.Value K R)
  | .colorSpace => resolver.colorSpace scope
  | .font => resolver.font scope
  | .pattern => resolver.pattern scope
  | .shading => resolver.shading scope
  | .parameters => resolver.parameters scope
  | .properties => resolver.properties scope
  | .xobject => resolver.xobject scope

def SameIn (scope : R) (resolver other : Resolver K R) : Prop :=
  ∀ kind, resolver.find scope kind = other.find scope kind

end Resolver

namespace Interpreter

variable (K : Type) {R : Type} [Scalar K]

/-- The operation looks a name up, if the device wants resources of the kind. -/
inductive Asks (op : Operation) : ResourceKind → String → Prop
  | space {name} : op.kind? = some .setStrokeColorSpace ∨ op.kind? = some .setFillColorSpace →
    op.name 0 = .ok name → ColorSpace.ofDeviceName? name = none → Asks op .colorSpace name
  | inlineSpace {name} {image : InlineImage K} : op.kind? = some .inlineImage →
    InlineImage.ofContent op.operands = .ok image → image.space = none →
    image.spaceName = some name → ColorSpace.ofDeviceName? name = none → Asks op .colorSpace name
  | font {name} {size : K} : op.kind? = some .setFont → op.name 0 = .ok name →
    op.number 1 = .ok size → Asks op .font name
  | pattern {name} :
    op.kind? = some .setStrokeColorOrPattern ∨ op.kind? = some .setFillColorOrPattern →
    op.lastName? = some name → Asks op .pattern name
  | shading {name} : op.kind? = some .paintShading → op.name 0 = .ok name → Asks op .shading name
  | parameters {name} : op.kind? = some .setParameters → op.name 0 = .ok name →
    Asks op .parameters name
  | properties {tag name} :
    op.kind? = some .markPointWithProperties ∨ op.kind? = some .beginMarkedWithProperties →
    op.name 0 = .ok tag → op.dictionary? 1 = none → op.name 1 = .ok name → Asks op .properties name
  | xobject {name} : op.kind? = some .paintXObject → op.name 0 = .ok name → Asks op .xobject name

variable {K}

inductive Hands (name : String) : (kind : ResourceKind) → kind.Value K R → Callback K R → Prop
  | space {side space} : Hands name .colorSpace space (.colorSpace side name (some space))
  | inlineSpace {image space} : image.spaceName = some name →
    Hands name .colorSpace space (.drawInlineImage image (some space))
  | font {font size} : Hands name .font font (.font name (some font) size)
  | pattern {side components pattern} :
    Hands name .pattern pattern (.pattern side components name (some pattern))
  | shading {shading} : Hands name .shading shading (.drawShading name (some shading))
  | parameters {parameters} : Hands name .parameters parameters (.parameters name (some parameters))
  | point {tag entries} : Hands name .properties entries (.markPointWith tag (some name) (some entries))
  | marked {tag entries} :
    Hands name .properties entries (.beginMarkedWith tag (some name) (some entries))
  | xobject {xobject} : Hands name .xobject xobject (.drawXObject name (some xobject))

/-- What an operation comes to that has asked for a name: a resource is handed to the device, a name
that is missing is warned about, at once or after callbacks, and an error is fatal. -/
inductive Answered (kind : ResourceKind) (name : String) :
    Lookup (kind.Value K R) → Except Signal (Plan K R) → Prop
  | failed {source} : Answered kind name (.error source) (.error (.fatal (.resolve kind name source)))
  | missing : Answered kind name (.ok none) (.error (.warning (missing kind name)))
  | missingAfter {p} : p.sequel = .report (Interpreter.missing kind name) →
    Answered kind name (.ok none) (.ok p)
  | found {value p} : (∃ call ∈ p.calls, Hands name kind value call) →
    (∀ warning, p.sequel ≠ .report warning) →
    Answered kind name (.ok (some value)) (.ok p)

/-- A name is reported missing, at once or after callbacks. -/
def Misses (kind : ResourceKind) (name : String) (planned : Except Signal (Plan K R)) : Prop :=
  planned = .error (.warning (missing kind name)) ∨
    ∃ p, planned = .ok p ∧ p.sequel = .report (missing kind name)

omit [Scalar K] in
theorem answered_misses {kind : ResourceKind} {name : String} {answer : Lookup (kind.Value K R)}
    {planned : Except Signal (Plan K R)} (answered : Answered kind name answer planned) :
    Misses kind name planned ↔ answer = .ok none := by
  cases answered with
  | failed => exact ⟨by rintro (⟨⟨⟩⟩ | ⟨_, ⟨⟩, _⟩), nofun⟩
  | missing => exact ⟨fun _ => rfl, fun _ => .inl rfl⟩
  | missingAfter reports => exact ⟨fun _ => rfl, fun _ => .inr ⟨_, rfl, reports⟩⟩
  | found _ quiet =>
    refine ⟨?_, nofun⟩
    rintro (⟨⟨⟩⟩ | ⟨_, ⟨⟩, reports⟩)
    exact absurd reports (quiet _)

structure GoesOn (features : Features) (frame : Frame R) (op : Operation) (kind : ResourceKind)
    (name : String) (next : Lookup (kind.Value K R) → Except Signal (Plan K R)) : Prop where
  planned : ∀ resolver : Resolver K R,
    plan resolver features frame op = next (resolver.find frame.scope kind name)
  answered : ∀ answer, Answered kind name answer (next answer)

variable {features : Features} {frame : Frame R} {op : Operation} {kind : ResourceKind}
  {name : String}

section

omit [Scalar K]

def handOn (frame : Frame R) (kind : ResourceKind) (name : String)
    (call : kind.Value K R → Callback K R) (after : kind.Value K R → Sequel K R) :
    Lookup (kind.Value K R) → Except Signal (Plan K R)
  | .error source => .error (.fatal (.resolve kind name source))
  | .ok none => .error (.warning (missing kind name))
  | .ok (some value) => .ok ⟨[call value], after value, frame.sections⟩

theorem handOn_answered {call : kind.Value K R → Callback K R} {after : kind.Value K R → Sequel K R}
    (hands : ∀ value, Hands name kind value (call value))
    (quiet : ∀ value warning, after value ≠ .report warning) (answer : Lookup (kind.Value K R)) :
    Answered kind name answer (handOn frame kind name call after answer) := by
  match answer with
  | .error source => exact .failed
  | .ok none => exact .missing
  | .ok (some value) =>
    exact .found ⟨call value, List.mem_singleton_self _, hands value⟩ (quiet value)

theorem resource_handedOn (wanted : features kind = true) (lookup : String → Lookup (kind.Value K R))
    (call : kind.Value K R → Callback K R) (after : kind.Value K R → Sequel K R)
    {made : Option (kind.Value K R) → Except Signal (Plan K R)}
    (makes : ∀ value, made (some value) = .ok ⟨[call value], after value, frame.sections⟩) :
    (resource features kind name lookup >>= made) = handOn frame kind name call after (lookup name) := by
  simp only [resource, search, wanted, if_true]
  match lookup name with
  | .error source => rfl
  | .ok none => rfl
  | .ok (some value) => exact makes value

def setFont (frame : Frame R) (name : String) (size : K) :
    Lookup (Font K) → Except Signal (Plan K R)
  | .error source => .error (.fatal (.resolve .font name source))
  | .ok none => .ok ⟨[.font name none size], .report (missing .font name), frame.sections⟩
  | .ok (some font) => .ok ⟨[.font name (some font) size], .nothing, frame.sections⟩

theorem setFont_answered {size : K} (answer : Lookup (Font K)) :
    Answered .font name answer (setFont frame name size answer) := by
  match answer with
  | .error source => exact .failed
  | .ok none => exact .missingAfter rfl
  | .ok (some font) => exact .found ⟨_, List.mem_singleton_self _, .font⟩ nofun

def afterXObject (name : String) : XObject K R → Sequel K R
  | .form form => .enter name form
  | _ => .nothing

theorem selectSpace_asks (named : op.name 0 = .ok name)
    (family : ColorSpace.ofDeviceName? name = none) (side : Side) (resolver : Resolver K R) :
    selectSpace resolver features frame op side =
      (resource features .colorSpace name (resolver.colorSpace frame.scope) >>= fun found =>
        .ok (.colorSpace side name found)) := by
  rw [selectSpace, named]
  change (spaceNamed resolver features frame name >>= _) = _
  rw [spaceNamed, family]
  rfl

theorem colorOrPattern_asks (named : op.lastName? = some name) (side : Side)
    (resolver : Resolver K R) :
    colorOrPattern resolver features frame op side =
      (resource features .pattern name (resolver.pattern frame.scope) >>= fun found =>
        .ok (.pattern side (Operation.components op.operands) name found)) := by
  simp only [colorOrPattern, named]
  rfl

theorem propertyList_asks (inPlace : op.dictionary? 1 = none) (named : op.name 1 = .ok name)
    (call : Option String → Option Dictionary → Callback K R) (resolver : Resolver K R) :
    (propertyList resolver features frame op >>= fun list => .ok (call list.1 list.2)) =
      (resource features .properties name (resolver.properties frame.scope) >>= fun found =>
        (.ok (call (some name) found) : Except Signal (Callback K R))) := by
  simp only [propertyList, inPlace, named]
  change ((resource features .properties name _ >>= _) >>= _) = _
  rw [bind_assoc]
  rfl

end

theorem callback_goesOn {operator : Operator} (is : op.kind? = some operator)
    (one : operator ∉ several) (wanted : features kind = true)
    (made : Option (kind.Value K R) → Callback K R)
    (hands : ∀ value, Hands name kind value (made (some value)))
    (asked : ∀ resolver : Resolver K R, callback resolver features frame op operator =
      (resource features kind name (resolver.find frame.scope kind) >>= fun found => .ok (made found))) :
    ∃ next : Lookup (kind.Value K R) → Except Signal (Plan K R),
      GoesOn features frame op kind name next := by
  refine ⟨handOn frame kind name (fun value => made (some value)) fun _ => .nothing, fun resolver => ?_,
    handOn_answered hands fun _ _ same => nomatch same⟩
  have planned : plan resolver features frame op =
      (callback resolver features frame op operator >>= fun call => .ok (calls frame [call])) := by
    rw [plan, is]
    cases operator
    case setFont | nextLineShowText | spacedNextLineShowText | inlineImageData | endInlineImage
      | paintXObject | beginCompatibility | endCompatibility => exact absurd (by decide) one
    all_goals rfl
  rw [planned, asked, bind_assoc]
  exact resource_handedOn wanted _ _ _ fun _ => rfl

theorem inlineImage_asks {image : InlineImage K}
    (read : InlineImage.ofContent op.operands = .ok image) (unresolved : image.space = none)
    (named : image.spaceName = some name) (family : ColorSpace.ofDeviceName? name = none)
    (resolver : Resolver K R) :
    inlineImage resolver features frame op =
      (resource features .colorSpace name (resolver.colorSpace frame.scope) >>= fun found =>
        .ok (.drawInlineImage image found)) := by
  simp only [inlineImage, read, unresolved, named, spaceNamed, family]
  rfl

theorem font_goesOn (is : op.kind? = some .setFont) (wanted : features .font = true)
    (named : op.name 0 = .ok name) {size : K} (sized : op.number 1 = .ok size) :
    GoesOn features frame op .font name
      (setFont frame name size : Lookup (Font K) → Except Signal (Plan K R)) := by
  refine ⟨fun resolver => ?_, setFont_answered⟩
  simp only [plan, is, selectFont, named]
  change (op.number 1 >>= _) = _
  rw [sized]
  change (search features .font name _ >>= _) = setFont frame name size (resolver.font frame.scope name)
  simp only [search, wanted, if_true]
  match resolver.font frame.scope name with
  | .error source => rfl
  | .ok none => rfl
  | .ok (some font) => rfl

theorem xobject_goesOn (is : op.kind? = some .paintXObject) (wanted : features .xobject = true)
    (named : op.name 0 = .ok name) :
    GoesOn features frame op .xobject name
      (handOn frame .xobject name (fun xobject : XObject K R => .drawXObject name (some xobject))
        (afterXObject name)) := by
  refine ⟨fun resolver => ?_,
    handOn_answered (fun _ => .xobject) fun value => by cases value <;> nofun⟩
  rw [plan, is]
  simp only [paintXObject, named]
  exact resource_handedOn wanted _ _ _ fun value => by cases value <;> rfl

/-- An operation that asks for a name looks it up once, in the scope of its frame, and what is found
there decides what it comes to. -/
theorem asks_goesOn (asks : Asks K op kind name) (wanted : features kind = true) :
    ∃ next : Lookup (kind.Value K R) → Except Signal (Plan K R),
      GoesOn features frame op kind name next := by
  cases asks with
  | space is named family =>
    rcases is with is | is
    · exact callback_goesOn is (by decide) wanted (.colorSpace .stroke name)
        (fun _ => .space) (selectSpace_asks named family .stroke)
    · exact callback_goesOn is (by decide) wanted (.colorSpace .fill name)
        (fun _ => .space) (selectSpace_asks named family .fill)
  | inlineSpace is read unresolved named family =>
    exact callback_goesOn is (by decide) wanted (.drawInlineImage _)
      (fun _ => .inlineSpace named) (inlineImage_asks read unresolved named family)
  | font is named sized => exact ⟨_, font_goesOn is wanted named sized⟩
  | pattern is named =>
    rcases is with is | is
    · exact callback_goesOn is (by decide) wanted (.pattern .stroke _ name)
        (fun _ => .pattern) (colorOrPattern_asks named .stroke)
    · exact callback_goesOn is (by decide) wanted (.pattern .fill _ name)
        (fun _ => .pattern) (colorOrPattern_asks named .fill)
  | shading is named =>
    refine callback_goesOn is (by decide) wanted (.drawShading name) (fun _ => .shading)
      fun resolver => ?_
    change (op.name 0 >>= _) = _
    rw [named]
    rfl
  | parameters is named =>
    refine callback_goesOn is (by decide) wanted (.parameters name) (fun _ => .parameters)
      fun resolver => ?_
    change (op.name 0 >>= _) = _
    rw [named]
    rfl
  | @properties tag _ is tagged inPlace named =>
    rcases is with is | is
    · refine callback_goesOn is (by decide) wanted (.markPointWith tag (some name))
        (fun _ => .point) fun resolver => ?_
      change (op.name 0 >>= _) = _
      rw [tagged]
      exact propertyList_asks inPlace named (.markPointWith tag) resolver
    · refine callback_goesOn is (by decide) wanted (.beginMarkedWith tag (some name))
        (fun _ => .marked) fun resolver => ?_
      change (op.name 0 >>= _) = _
      rw [tagged]
      exact propertyList_asks inPlace named (.beginMarkedWith tag) resolver
  | xobject is named => exact ⟨_, xobject_goesOn is wanted named⟩

theorem plan_answered (resolver : Resolver K R) (asks : Asks K op kind name)
    (wanted : features kind = true) :
    Answered kind name (resolver.find frame.scope kind name) (plan resolver features frame op) := by
  obtain ⟨next, goesOn⟩ : ∃ next : Lookup (kind.Value K R) → Except Signal (Plan K R),
      GoesOn features frame op kind name next := asks_goesOn asks wanted
  rw [goesOn.planned resolver]
  exact goesOn.answered _

omit [Scalar K] in
theorem search_same {α : Type} {lookup other : String → Lookup α}
    (same : features kind = true → lookup = other) (name : String) :
    search features kind name lookup = search features kind name other := by
  cases wanted : features kind with
  | true => rw [same wanted]
  | false => simp only [search, wanted, Bool.false_eq_true, if_false]

omit [Scalar K] in
theorem resource_same {α : Type} {lookup other : String → Lookup α}
    (same : features kind = true → lookup = other) (name : String) :
    resource features kind name lookup = resource features kind name other := by
  rw [resource, resource, search_same same]

theorem plan_agreeing {resolver other : Resolver K R}
    (same : ∀ kind, features kind = true →
      resolver.find frame.scope kind = other.find frame.scope kind) :
    plan resolver features frame op = plan other features frame op := by
  have space := resource_same (same .colorSpace)
  have font := search_same (same .font)
  have pattern := resource_same (same .pattern)
  have shading := resource_same (same .shading)
  have parameters := resource_same (same .parameters)
  have properties := resource_same (same .properties)
  have xobject := resource_same (same .xobject)
  simp only [Resolver.find] at space font pattern shading parameters properties xobject
  have called (operator : Operator) : callback resolver features frame op operator =
      callback other features frame op operator := by
    unfold callback
    cases operator
    case setParameters => simp only [parameters]
    case setStrokeColorSpace | setFillColorSpace => simp only [selectSpace, spaceNamed, space]
    case setStrokeColorOrPattern | setFillColorOrPattern => simp only [colorOrPattern, pattern]
    case paintShading => simp only [shading]
    case inlineImage => simp only [inlineImage, spaceNamed, space]
    case markPointWithProperties | beginMarkedWithProperties =>
      simp only [propertyList, properties]
    all_goals rfl
  unfold plan
  split
  case h_2 => simp only [selectFont, font]
  case h_7 => simp only [paintXObject, xobject]
  case h_10 => rw [called]
  all_goals rfl

theorem plan_sameIn {resolver other : Resolver K R} (same : resolver.SameIn frame.scope other) :
    plan resolver features frame op = plan other features frame op :=
  plan_agreeing fun kind _ => same kind

end Interpreter
end PageMarks
