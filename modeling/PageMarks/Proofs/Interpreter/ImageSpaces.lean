import PageMarks.Proofs.Interpreter.Scoping

/-!
The color spaces of inline images. An image that names a device family is drawn in that family: its
space is settled from the image alone, where no frame is at hand. An operator that selects a space by
the same name gives the default space of the frame instead. So the two agree exactly where no default
other than the family itself is in force. Names that are looked up come to the same for both.
-/

namespace PageMarks

def Side.selects : Side → Operator
  | .stroke => .setStrokeColorSpace
  | .fill => .setFillColorSpace

def ColorSpace.defaultName? : ColorSpace → Option String
  | .deviceGray => some "DefaultGray"
  | .deviceRGB => some "DefaultRGB"
  | .deviceCMYK => some "DefaultCMYK"
  | _ => none

/-- A scope registers a default space for a device family, with as many components as that has. -/
def Resolver.Registers {K R : Type} (resolver : Resolver K R) (scope : R)
    (family default : ColorSpace) : Prop :=
  ∃ name, family.defaultName? = some name ∧ resolver.colorSpace scope name = .ok (some default) ∧
    default.components = family.components

namespace InlineImage

/-- What short and long names have in common, a name has in common with its long form. -/
theorem expand_same {α : Type} {table : List (String × String)} {f : String → α}
    (same : ∀ names ∈ table, f names.2 = f names.1) (name : String) :
    f (expand table name) = f name := by
  unfold expand
  cases found : table.lookup name with
  | none => rfl
  | some long =>
    obtain ⟨_, _, rfl, _⟩ := List.lookup_eq_some_iff.mp found
    exact same (name, long) (by simp)

theorem ofDeviceName_expand (name : String) :
    ColorSpace.ofDeviceName? (expand spaceNames name) = ColorSpace.ofDeviceName? name :=
  expand_same (by decide) name

variable {K : Type} [Scalar K] {image : InlineImage K}

theorem ofEntries_space [Decoder] {entries : Dictionary} {data : Bytes}
    (made : ofEntries entries data = .ok image) :
    spaceOf image.entries = .ok (image.space, image.spaceName) := by
  obtain ⟨width, _, made⟩ := Interpreter.bind_ok made
  obtain ⟨height, _, made⟩ := Interpreter.bind_ok made
  obtain ⟨⟨space, spaceName⟩, found, made⟩ := Interpreter.bind_ok made
  cases made
  exact found

theorem ofContent_space {operands : List Object} (made : ofContent operands = .ok image) :
    @spaceOf .none image.entries = .ok (image.space, image.spaceName) := by
  let := Decoder.none
  unfold ofContent ofOperands at made
  split at made
  · exact ofEntries_space made
  · cases made

end InlineImage

namespace Interpreter

variable {K R ω : Type}

section

variable {host : Host K R ω} {resolver : Resolver K R} {scope : R} {frame : Frame R}

theorem defaultOf_iff {name : String} {wanted : Nat} {default : ColorSpace} :
    (defaultOf resolver scope name wanted).1 = some default ↔
      resolver.colorSpace scope name = .ok (some default) ∧ default.components = wanted := by
  unfold defaultOf
  rcases resolver.colorSpace scope name with error | _ | space
  · simp
  · simp
  · dsimp only
    split
    · next fits =>
      simp only [Option.some.injEq, Except.ok.injEq]
      exact ⟨fun is => ⟨is, is ▸ fits⟩, And.left⟩
    · next unfit =>
      simp only [Option.some.injEq, Except.ok.injEq]
      exact ⟨nofun, fun ⟨is, fits⟩ => absurd (is ▸ fits) unfit⟩

theorem FrameOf.default_iff (frameOf : FrameOf host resolver scope frame) :
    ∃ opened, ∀ family default, frame.default? family = some default ↔
      host.features opened .colorSpace = true ∧ resolver.Registers scope family default := by
  obtain ⟨opened, defaults⟩ := frameOf.defaults
  refine ⟨opened, fun family default => ?_⟩
  cases wanted : host.features opened .colorSpace with
  | false =>
    rw [wanted] at defaults
    obtain ⟨gray, rgb, cmyk⟩ : frame.gray = none ∧ frame.rgb = none ∧ frame.cmyk = none := by
      simpa [Frame.defaults] using defaults
    cases family <;> simp [Frame.default?, gray, rgb, cmyk]
  | true =>
    rw [wanted] at defaults
    obtain ⟨gray, rgb, cmyk⟩ : frame.gray = (defaultOf resolver scope "DefaultGray" 1).1 ∧
        frame.rgb = (defaultOf resolver scope "DefaultRGB" 3).1 ∧
        frame.cmyk = (defaultOf resolver scope "DefaultCMYK" 4).1 := by
      simpa [Frame.defaults, defaultsOf] using defaults
    cases family <;>
      simp [Frame.default?, gray, rgb, cmyk, defaultOf_iff, Resolver.Registers,
        ColorSpace.defaultName?, ColorSpace.components]

end

variable [Scalar K] {resolver : Resolver K R} {features : Features} {frame : Frame R}
  {op : Operation} {name : String} {family : ColorSpace}

structure DrawsNamed (op : Operation) (image : InlineImage K) (name : String) : Prop where
  kind : op.kind? = some .inlineImage
  made : InlineImage.ofContent op.operands = .ok image
  named : (image.entries.entry? "ColorSpace").bind Object.name? = some name

structure Selects (op : Operation) (side : Side) (name : String) : Prop where
  kind : op.kind? = some side.selects
  named : op.name 0 = .ok name

omit [Scalar K] in
theorem spaceNamed_family (is : ColorSpace.ofDeviceName? name = some family) :
    spaceNamed resolver features frame name = .ok (some ((frame.default? family).getD family)) := by
  rw [spaceNamed, is]

theorem selects_plan {side : Side} (selects : Selects op side name) :
    plan resolver features frame op = (spaceNamed resolver features frame name >>= fun space =>
      .ok (calls frame [.colorSpace side name space])) := by
  have called : selectSpace resolver features frame op side =
      (spaceNamed resolver features frame name >>= fun space =>
        .ok (.colorSpace side name space)) := by
    rw [selectSpace, selects.named]
    rfl
  have planned : plan resolver features frame op =
      (selectSpace resolver features frame op side >>= fun call => .ok (calls frame [call])) := by
    cases side <;> exact plan_callback _ _ _ _ selects.kind (by decide)
  rw [planned, called, bind_assoc]
  rfl

section

variable {image : InlineImage K}

theorem DrawsNamed.entry (draws : DrawsNamed op image name) :
    ∃ bytes, image.entries.entry? "ColorSpace" = some (.name bytes) ∧
      Text.Utf8.decode bytes = name := by
  obtain ⟨value, found, named⟩ := Option.bind_eq_some_iff.mp draws.named
  cases value with
  | name bytes => exact ⟨bytes, found, Option.some.inj named⟩
  | _ => cases named

theorem DrawsNamed.space_family (draws : DrawsNamed op image name)
    (is : ColorSpace.ofDeviceName? name = some family) :
    image.space = some family ∧ image.spaceName = none := by
  obtain ⟨bytes, found, rfl⟩ := draws.entry
  have space := InlineImage.ofContent_space draws.made
  simp only [InlineImage.spaceOf, found, InlineImage.ofDeviceName_expand, is] at space
  obtain ⟨settled, unnamed⟩ := Prod.mk.inj (Except.ok.inj space)
  exact ⟨settled.symm, unnamed.symm⟩

theorem DrawsNamed.space_other (draws : DrawsNamed op image name)
    (other : ColorSpace.ofDeviceName? name = none) :
    image.space = none ∧
      image.spaceName = some (InlineImage.expand InlineImage.spaceNames name) := by
  obtain ⟨bytes, found, rfl⟩ := draws.entry
  have space := InlineImage.ofContent_space draws.made
  simp only [InlineImage.spaceOf, found, InlineImage.ofDeviceName_expand, other] at space
  obtain ⟨unsettled, looked⟩ := Prod.mk.inj (Except.ok.inj space)
  exact ⟨unsettled.symm, looked.symm⟩

theorem DrawsNamed.family_plan (draws : DrawsNamed op image name)
    (is : ColorSpace.ofDeviceName? name = some family) :
    plan resolver features frame op =
      .ok (calls frame [.drawInlineImage image (some family)]) := by
  obtain ⟨settled, unnamed⟩ := draws.space_family is
  have drawn : inlineImage resolver features frame op =
      .ok (.drawInlineImage image (some family)) := by
    simp only [inlineImage, draws.made, settled, unnamed]
    rfl
  rw [plan_callback _ _ _ _ draws.kind (by decide)]
  change (inlineImage resolver features frame op >>= _) = _
  rw [drawn]
  rfl

theorem DrawsNamed.other_plan (draws : DrawsNamed op image name)
    (other : ColorSpace.ofDeviceName? name = none) :
    plan resolver features frame op =
      (spaceNamed resolver features frame (InlineImage.expand InlineImage.spaceNames name) >>=
        fun space => .ok (calls frame [.drawInlineImage image space])) := by
  obtain ⟨unsettled, looked⟩ := draws.space_other other
  have drawn : inlineImage resolver features frame op =
      (spaceNamed resolver features frame (InlineImage.expand InlineImage.spaceNames name) >>=
        fun space => .ok (.drawInlineImage image space)) := by
    simp only [inlineImage, draws.made, unsettled, looked]
    rfl
  rw [plan_callback _ _ _ _ draws.kind (by decide)]
  change (inlineImage resolver features frame op >>= _) = _
  rw [drawn, bind_assoc]
  rfl

/-- An image is drawn in the space that an operator selects. -/
def DrawnAsSelected (resolver : Resolver K R) (features : Features) (frame : Frame R)
    (draw : Operation) (image : InlineImage K) (select : Operation) (side : Side) (name : String) :
    Prop :=
  ∃ space, plan resolver features frame draw = .ok (calls frame [.drawInlineImage image space]) ∧
    plan resolver features frame select = .ok (calls frame [.colorSpace side name space])

theorem drawnAsSelected_other (draws : DrawsNamed op image name) {select : Operation} {side : Side}
    (selects : Selects select side name) (other : ColorSpace.ofDeviceName? name = none)
    (long : InlineImage.expand InlineImage.spaceNames name = name) :
    DrawnAsSelected resolver features frame op image select side name ↔
      ∃ space, spaceNamed resolver features frame name = .ok space := by
  rw [DrawnAsSelected, draws.other_plan other, selects_plan selects, long]
  cases spaceNamed resolver features frame name with
  | error => exact iff_of_false (fun ⟨_, here, _⟩ => nomatch here) fun ⟨_, found⟩ => nomatch found
  | ok space => exact iff_of_true ⟨space, rfl, rfl⟩ ⟨space, rfl⟩

end

/-- Wherever a run has come to, inside whatever forms: an image whose space is given by the name of a
device family is drawn in that family, and an operator that selects a space by that name gives the
default that the scope in force registers. The two are the same space just when there is no other
default than the family. -/
theorem image_space_iff (host : Host K R ω) (resolver : Resolver K R) (limit : Nat) (page : R)
    (content : List Operation) (w : ω) {frame : Frame R} {index : Nat} {rest : List Operation}
    {forms : List (OpenForm K R)} {v : ω}
    (reaches : Reaches host resolver limit [] (start host resolver page content w)
      (.running ⟨frame, index, rest⟩ forms v))
    {draw : Operation} {image : InlineImage K} (draws : DrawsNamed draw image name)
    (is : ColorSpace.ofDeviceName? name = some family) :
    (∃ opened, ∀ default, frame.default? family = some default ↔
      host.features opened .colorSpace = true ∧
        resolver.Registers (inForce page forms) family default) ∧
    ∀ features,
      plan resolver features frame draw = .ok (calls frame [.drawInlineImage image (some family)]) ∧
      ∀ select side, Selects select side name →
        plan resolver features frame select =
          .ok (calls frame [.colorSpace side name (some ((frame.default? family).getD family))]) ∧
        (DrawnAsSelected resolver features frame draw image select side name ↔
          ∀ default, frame.default? family = some default → default = family) := by
  have placed : FrameOf host resolver (inForce page forms) frame :=
    (reaches_inScope reaches (start_inScope content w)).1
  obtain ⟨opened, defaults⟩ := placed.default_iff
  refine ⟨⟨opened, defaults family⟩, fun features => ?_⟩
  have drawn : plan resolver features frame draw =
    .ok (calls frame [.drawInlineImage image (some family)]) := draws.family_plan is
  refine ⟨drawn, fun select side selects => ?_⟩
  have selected : plan resolver features frame select =
      .ok (calls frame [.colorSpace side name (some ((frame.default? family).getD family))]) := by
    rw [selects_plan selects, spaceNamed_family is]
    rfl
  refine ⟨selected, ?_, fun only => ⟨some family, drawn, ?_⟩⟩
  · rintro ⟨space, here, there⟩ default inForce
    rw [drawn] at here
    rw [selected, inForce] at there
    cases here
    simpa [calls] using there
  · rw [selected]
    cases found : frame.default? family with
    | none => rfl
    | some default =>
      rw [only default found]
      rfl

def withDefault : Resolver Float Unit :=
  { Resolver.none Float Unit with
    colorSpace := fun _ name => .ok (if name = "DefaultRGB" then some .calRGB else none) }

def entriesRGB : Dictionary :=
  [([87], .integer 1), ([72], .integer 1), ([67, 83], .name [82, 71, 66])]

def drawRGB : Operation := ⟨"BI", [.dictionary entriesRGB, .string [0, 0, 0] .literal]⟩

def fillRGB : Operation := ⟨"cs", [.name [82, 71, 66]]⟩

def imageRGB : InlineImage Float where
  width := 1
  height := 1
  bitsPerComponent := none
  space := some .deviceRGB
  spaceName := none
  filters := []
  decode := none
  isMask := false
  interpolate := false
  entries := InlineImage.expandKeys entriesRGB
  data := [0, 0, 0]

theorem drawsRGB : DrawsNamed drawRGB imageRGB "RGB" := ⟨rfl, rfl, rfl⟩

theorem selectsRGB : Selects fillRGB .fill "RGB" := ⟨rfl, rfl⟩

theorem image_space_iff_default :
    ¬ DrawnAsSelected withDefault (fun _ => true) ⟨(), none, some .calRGB, none, 0⟩ drawRGB imageRGB
      fillRGB .fill "RGB" := by
  have reached : Reaches (hearing (.silent Float Unit)) withDefault 0 []
      (start (hearing (.silent Float Unit)) withDefault () [drawRGB, fillRGB] ((), .empty))
      (.running ⟨⟨(), none, some .calRGB, none, 0⟩, 0, [drawRGB, fillRGB]⟩ [] ((), .empty)) := .refl
  have iff := ((image_space_iff (hearing (.silent Float Unit)) withDefault 0 ()
    [drawRGB, fillRGB] ((), .empty) reached drawsRGB rfl).2 fun _ => true).2 fillRGB .fill selectsRGB
  intro same
  cases iff.2.mp same .calRGB rfl

/-- The default is registered, and still the image is drawn in the family. -/
theorem default_passed_over :
    withDefault.Registers () .deviceRGB .calRGB ∧
      history (hearing (.silent Float Unit)) withDefault 0 () [drawRGB, fillRGB] ((), .empty) =
        [.note (.dispatch "BI" 0), .call (.drawInlineImage imageRGB (some .deviceRGB)) (.ok ()),
          .note (.dispatch "cs" 1), .call (.colorSpace .fill "RGB" (some .calRGB)) (.ok ())] :=
  ⟨⟨"DefaultRGB", rfl, rfl, rfl⟩, rfl⟩

end Interpreter
end PageMarks
