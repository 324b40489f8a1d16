import PageMarks.Proofs.Filter.Callbacks
import PageMarks.Proofs.Interpreter.Plan

/-!
Plans behind a filter. A filter declines some kinds of resources, and only the operators whose
callbacks it would hold back anyway look for these. Where a plan makes several callbacks, or goes on
after its callbacks, an engine answers them without so much as a warning, so that it makes no
difference to the plan which of them arrive.
-/

namespace PageMarks.Filter

open Interpreter Engine

variable {K R : Type} [Scalar K]

def Sure (c : Callback K R) : Prop :=
  ∀ (hints : Bool) (e : Engine K (List (Mark K))), (call .recorder hints c e).1 = .ok ()

/-- All callbacks but the last are sure, and the last one too if something follows. -/
structure Steady (p : Plan K R) : Prop where
  initial : ∀ c ∈ p.calls.dropLast, Sure c
  all : p.sequel ≠ .nothing → ∀ c ∈ p.calls, Sure c

theorem steady_plain {calls : List (Callback K R)} {sections : Nat}
    (initial : ∀ c ∈ calls.dropLast, Sure c) : Steady ⟨calls, .nothing, sections⟩ :=
  ⟨initial, fun something => absurd rfl something⟩

theorem steady_one (c : Callback K R) (sections : Nat) : Steady ⟨[c], .nothing, sections⟩ :=
  steady_plain fun _ member => absurd member List.not_mem_nil

theorem steady_sure {c : Callback K R} (sure : Sure c) (sequel : Sequel K R) (sections : Nat) :
    Steady ⟨[c], sequel, sections⟩ :=
  ⟨fun _ member => absurd member List.not_mem_nil,
    fun _ _ member => List.mem_singleton.mp member ▸ sure⟩

variable (resolver : Resolver K R) (features : Features) (frame : Frame R) (op : Operation)

theorem plan_steady : Yields Steady (plan resolver features frame op) := by
  unfold plan
  split
  case h_2 =>
    unfold selectFont
    refine yields_bind fun _ => yields_bind fun _ => yields_bind fun found => ?_
    cases found <;> exact yields_ok (steady_sure (fun _ _ => rfl) _ _)
  case h_3 =>
    refine yields_bind fun bytes => yields_ok (steady_plain fun c member => ?_)
    rw [List.mem_singleton.mp member]
    exact fun _ _ => rfl
  case h_4 =>
    refine yields_bind fun _ => yields_bind fun _ => yields_ok (steady_plain fun c member => ?_)
    simp only [List.dropLast, List.mem_cons, List.not_mem_nil, or_false] at member
    rcases member with same | same | same <;> rw [same] <;> exact fun _ _ => rfl
  case h_5 | h_6 => exact yields_ok (steady_plain fun _ member => absurd member List.not_mem_nil)
  case h_7 =>
    unfold paintXObject
    refine yields_bind fun _ => yields_bind fun _ => ?_
    split
    · exact yields_ok (steady_sure (fun _ _ => rfl) _ _)
    · exact yields_ok (steady_one _ _)
  case h_9 =>
    unfold endCompatibility
    split
    · exact yields_error _
    · exact yields_ok (steady_one _ _)
  case h_10 => exact yields_bind fun _ => yields_ok (steady_one _ _)
  all_goals exact yields_ok (steady_one _ _)

def consults : Operator → List ResourceKind
  | .setFont => [.font]
  | .setParameters => [.parameters]
  | .paintXObject => [.xobject]
  | .paintShading => [.shading]
  | .markPointWithProperties | .beginMarkedWithProperties => [.properties]
  | .setStrokeColorSpace | .setFillColorSpace | .inlineImage => [.colorSpace]
  | .setStrokeColorOrPattern | .setFillColorOrPattern => [.pattern]
  | _ => []

section

variable {α : Type} {f₁ f₂ : Features} {kind : ResourceKind} (name : String)
  (lookup : String → Lookup α)

theorem search_congr (same : f₁ kind = f₂ kind) :
    search f₁ kind name lookup = search f₂ kind name lookup := by
  rw [search, same]
  rfl

theorem resource_congr (same : f₁ kind = f₂ kind) :
    resource f₁ kind name lookup = resource f₂ kind name lookup := by
  rw [resource, search_congr name lookup same]
  rfl

end

variable {f₁ f₂ : Features}

omit [Scalar K] in
theorem spaceNamed_congr (same : f₁ .colorSpace = f₂ .colorSpace) (name : String) :
    spaceNamed resolver f₁ frame name = spaceNamed resolver f₂ frame name := by
  unfold spaceNamed
  rw [resource_congr name _ same]

omit [Scalar K] in
theorem propertyList_congr (same : f₁ .properties = f₂ .properties) :
    propertyList resolver f₁ frame op = propertyList resolver f₂ frame op := by
  unfold propertyList
  simp only [resource_congr _ _ same]

theorem callback_congr {operator : Operator}
    (same : ∀ kind ∈ consults operator, f₁ kind = f₂ kind) :
    callback resolver f₁ frame op operator = callback resolver f₂ frame op operator := by
  cases operator
  case setParameters =>
    simp only [callback, resource_congr _ _ (same _ (List.mem_singleton_self _))]
  case paintShading =>
    simp only [callback, resource_congr _ _ (same _ (List.mem_singleton_self _))]
  case markPointWithProperties | beginMarkedWithProperties =>
    simp only [callback, propertyList_congr _ _ _ (same _ (List.mem_singleton_self _))]
  case setStrokeColorSpace | setFillColorSpace =>
    simp only [callback, selectSpace, spaceNamed_congr _ _ (same _ (List.mem_singleton_self _))]
  case inlineImage =>
    simp only [callback, inlineImage, spaceNamed_congr _ _ (same _ (List.mem_singleton_self _))]
  case setStrokeColorOrPattern | setFillColorOrPattern =>
    simp only [callback, colorOrPattern, resource_congr _ _ (same _ (List.mem_singleton_self _))]
  all_goals rfl

theorem plan_congr
    (same : ∀ operator, op.kind? = some operator → ∀ kind ∈ consults operator, f₁ kind = f₂ kind) :
    plan resolver f₁ frame op = plan resolver f₂ frame op := by
  unfold plan
  split <;> rename_i kind
  case h_2 =>
    unfold selectFont
    simp only [search_congr _ _ (same _ kind _ (List.mem_singleton_self _))]
  case h_7 =>
    unfold paintXObject
    simp only [resource_congr _ _ (same _ kind _ (List.mem_singleton_self _))]
  case h_10 => rw [callback_congr _ _ _ (same _ kind)]
  all_goals rfl

def Ends {ε α : Type} (good : α → Prop) (bad : ε → Prop) : Except ε α → Prop
  | .ok a => good a
  | .error e => bad e

theorem ends_bind {ε α β : Type} {good : β → Prop} {bad : ε → Prop} {x : Except ε α}
    {f : α → Except ε β} (ends : Ends (fun a => Ends good bad (f a)) bad x) :
    Ends good bad (x >>= f) := by
  cases x <;> exact ends

theorem ends_mono {ε α : Type} {good better : α → Prop} {bad : ε → Prop} {x : Except ε α}
    (ends : Ends good bad x) (stronger : ∀ a, good a → better a) : Ends better bad x := by
  cases x with
  | ok a => exact stronger a ends
  | error => exact ends

/-- Failures that a plan may end in, by whether it may look for resources. -/
structure Admits (bad : Signal → Prop) (asked : Bool) : Prop where
  warning : ∀ warning, bad (.warning warning)
  fatal : asked = true → ∀ failure, bad (.fatal failure)

variable {S : Categories} {bad : Signal → Prop}

/-- A plan that makes suppressed callbacks only and leaves it at that. -/
structure Idle (S : Categories) (frame : Frame R) (p : Plan K R) : Prop where
  hidden : ∀ c ∈ p.calls, c.category?.any S = true
  closed : ∀ name form, p.sequel ≠ .enter name form
  sections : p.sections = frame.sections

theorem require_ends {β : Type} {asked : Bool} (admits : Admits bad asked) (wanted : String)
    (x : Option β) : Ends (fun _ => True) bad (op.require wanted x) := by
  cases x with
  | none => exact admits.warning _
  | some => trivial

theorem search_ends {α : Type} {kind : ResourceKind} (admits : Admits bad (features kind))
    (name : String) (lookup : String → Lookup α) :
    Ends (fun _ => True) bad (search features kind name lookup) := by
  unfold search
  split
  · rename_i asked
    split
    · exact admits.fatal asked _
    · trivial
    · trivial
  · trivial

theorem resource_ends {α : Type} {kind : ResourceKind} (admits : Admits bad (features kind))
    (name : String) (lookup : String → Lookup α) :
    Ends (fun _ => True) bad (resource features kind name lookup) := by
  refine ends_bind (ends_mono (search_ends features admits name lookup) fun found _ => ?_)
  cases found with
  | present | declined => trivial
  | missing => exact admits.warning _

omit [Scalar K] in
theorem propertyList_ends (admits : Admits bad (features .properties)) :
    Ends (fun _ => True) bad (propertyList resolver features frame op) := by
  unfold propertyList
  split
  · trivial
  · refine ends_bind (ends_mono (require_ends op admits _ _) fun name _ => ?_)
    exact ends_bind (ends_mono (resource_ends features admits name _) fun _ _ => trivial)

theorem plan_idle {operator : Operator} {kind : ResourceKind} {category : Category}
    (named : op.kind? = some operator) (asks : kind ∈ consults operator)
    (owned : kind.category? = some category) (hidden : S category = true)
    (colorful : S .color = false) (admits : Admits bad (features kind)) :
    Ends (Idle S frame) bad (plan resolver features frame op) := by
  have idle {c : Callback K R} (own : c.category? = some category) (sequel : Sequel K R)
      (closed : ∀ name form, sequel ≠ .enter name form) :
      Idle S frame ⟨[c], sequel, frame.sections⟩ := by
    refine ⟨fun d member => ?_, closed, rfl⟩
    rw [List.mem_singleton.mp member, own]
    exact hidden
  unfold plan
  rw [named]
  cases operator
  case setFont =>
    cases List.mem_singleton.mp asks
    cases owned
    refine ends_bind (ends_mono (require_ends op admits _ _) fun name _ => ?_)
    refine ends_bind (ends_mono (require_ends op admits _ _) fun size _ => ?_)
    refine ends_bind (ends_mono (search_ends features admits name _) fun found _ => ?_)
    cases found <;> exact idle rfl _ nofun
  case paintShading =>
    cases List.mem_singleton.mp asks
    cases owned
    refine ends_bind (ends_bind (ends_mono (require_ends op admits _ _) fun name _ => ?_))
    exact ends_bind (ends_mono (resource_ends features admits name _) fun _ _ => idle rfl _ nofun)
  case markPointWithProperties | beginMarkedWithProperties =>
    cases List.mem_singleton.mp asks
    cases owned
    refine ends_bind (ends_bind (ends_mono (require_ends op admits _ _) fun tag _ => ?_))
    exact ends_bind (ends_mono (propertyList_ends resolver features frame op admits) fun _ _ =>
      idle rfl _ nofun)
  case setParameters | paintXObject => cases List.mem_singleton.mp asks; cases owned
  case setStrokeColorSpace | setFillColorSpace | inlineImage | setStrokeColorOrPattern
    | setFillColorOrPattern =>
    cases List.mem_singleton.mp asks
    cases owned
    rw [colorful] at hidden
    cases hidden
  all_goals exact absurd asks List.not_mem_nil

end PageMarks.Filter
