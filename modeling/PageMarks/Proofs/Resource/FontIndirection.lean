import PageMarks.Proofs.Resource.Headers

/-!
Fonts in documents that differ in where values are. Widths are read through references, down to single
numbers; names, the first code and the widths of glyphs that have none are read where they stand.
-/

namespace PageMarks.Resource

variable {K : Type} [Scalar K] {doc doc' : Document}

theorem none_of_none {α β : Type} {Rel : α → β → Prop} {a : Option α} {b : Option β}
    (pair : Option.Rel Rel a b) (none : a = none) : b = .none := by
  subst none
  cases pair
  rfl

section

variable (rewritten : Rewritten doc doc') {value value' : Object}
  (respelled : Respelled doc doc' value value')
include rewritten respelled

theorem resolve?_found :
    Option.Rel (Found doc doc') (doc.resolve? value) (doc'.resolve? value') := by
  have agree := resolve_agrees rewritten respelled
  rw [Document.resolve?, Document.resolve?]
  generalize doc.resolve value = answer at agree ⊢
  generalize doc'.resolve value' = answer' at agree ⊢
  cases agree with
  | error => exact .none
  | ok found => exact .some found

theorem numberAt?_same : (numberAt? doc value : Option K) = numberAt? doc' value' :=
  bind_related (resolve?_found rewritten respelled) fun _ _ found => kept_number found.kept

theorem codeAt?_same : codeAt? doc value = codeAt? doc' value' :=
  bind_related (resolve?_found rewritten respelled) fun _ _ found => kept_word found.kept

theorem arrayAt?_respelled :
    Option.Rel (RespelledItems doc doc') (arrayAt? doc value) (arrayAt? doc' value') :=
  related_bind (resolve?_found rewritten respelled) fun _ _ found => kept_array found.kept

end

def widthList (doc : Document) : Option Object → List K
  | some (.array items) => items.map fun item => (numberAt? doc item).getD Scalar.zero
  | _ => []

theorem widthList_same (rewritten : Rewritten doc doc') {held held' : Object}
    (found : Found doc doc' held held') :
    (widthList doc (some held) : List K) = widthList doc' (some held') := by
  have kept := found.kept
  cases kept with
  | @array items items' respelled =>
    rw [widthList, widthList]
    clear found
    induction items generalizing items' with
    | nil =>
      cases respelled
      rfl
    | cons item rest ih =>
      cases respelled with
      | cons first others =>
        rw [List.map_cons, List.map_cons, numberAt?_same rewritten first, ih others]
  | _ => rfl

def missingWidth : Option Object → K
  | some (.dictionary descriptor) =>
    (Dictionary.number? descriptor "MissingWidth").getD Scalar.zero
  | _ => Scalar.zero

theorem missingWidth_same {held held' : Object} (found : Found doc doc' held held')
    (unmoved : Unmoved doc doc' .alone [.key "MissingWidth"] held held') :
    (missingWidth (some held) : K) = missingWidth (some held') := by
  have kept := found.kept
  cases kept with
  | dictionary entries =>
    have inner : Headers doc doc' _ _ _ _ := ⟨found, fun _ => rfl, fun _ => rfl, entries⟩
    rw [missingWidth, missingWidth, inner.number unmoved]
  | _ => rfl

theorem groupRanges_same (rewritten : Rewritten doc doc') (code : Nat) {items items' : List Object}
    (respelled : RespelledItems doc doc' items items') :
    (groupRanges doc code items : Option (List (WidthRange K))) =
      groupRanges doc' code items' := by
  induction items generalizing items' code with
  | nil =>
    cases respelled
    rfl
  | cons item rest ih =>
    cases respelled with
    | cons first others =>
      rw [groupRanges, groupRanges, numberAt?_same rewritten first]
      simp only [ih _ others]

theorem widthRanges_same (rewritten : Rewritten doc doc') {items items' : List Object}
    (respelled : RespelledItems doc doc' items items') :
    (widthRanges doc items : Option (List (WidthRange K))) =
      widthRanges doc' items' := by
  fun_induction widthRanges (K := K) doc items generalizing items' with
  | case1 =>
    cases respelled
    rfl
  | case2 value rest nothing ih =>
    cases respelled with
    | cons start others =>
      rw [codeAt?_same rewritten start] at nothing
      simp only [widthRanges.eq_def doc' (_ :: _), nothing]
      exact ih others
  | case3 value first begins =>
    cases respelled with
    | cons start others =>
      cases others
      rw [codeAt?_same rewritten start] at begins
      simp only [widthRanges.eq_def doc' (_ :: _), begins]
  | case4 value first next begins widths rest group ih =>
    cases respelled with
    | cons start others =>
      cases others with
      | cons second others =>
        rw [codeAt?_same rewritten start] at begins
        have pair := arrayAt?_respelled rewritten second
        rw [group] at pair
        generalize group' : arrayAt? doc' _ = widths' at pair
        cases pair with
        | some inside =>
          simp only [widthRanges.eq_def doc' (_ :: _), begins, group']
          rw [groupRanges_same rewritten first inside, ih others]
  | case5 value first next begins single =>
    cases respelled with
    | cons start others =>
      cases others with
      | cons second others =>
        cases others
        rw [codeAt?_same rewritten start] at begins
        have single' := none_of_none (arrayAt?_respelled rewritten second) single
        simp only [widthRanges.eq_def doc' (_ :: _), begins, single']
  | case6 value first next begins width rest single last wide widens ends ih =>
    cases respelled with
    | cons start others =>
      cases others with
      | cons second others =>
        cases others with
        | cons third others =>
          rw [codeAt?_same rewritten start] at begins
          rw [codeAt?_same rewritten second] at ends
          rw [numberAt?_same rewritten third] at widens
          have single' := none_of_none (arrayAt?_respelled rewritten second) single
          simp only [widthRanges.eq_def doc' (_ :: _), begins, single', ends, widens]
          rw [ih others]
  | case7 value first next begins width rest single unclear ih =>
    cases respelled with
    | cons start others =>
      cases others with
      | cons second others =>
        cases others with
        | cons third others =>
          rw [codeAt?_same rewritten start] at begins
          rw [codeAt?_same rewritten second, numberAt?_same rewritten third] at unclear
          have single' := none_of_none (arrayAt?_respelled rewritten second) single
          simp only [widthRanges.eq_def doc' (_ :: _), begins, single']
          exact ih others

section

variable (rewritten : Rewritten doc doc') {value value' : Object} {entries entries' : Dictionary}
  (headers : Headers doc doc' value value' entries entries')
include headers

theorem rescale_same (matrix : Unmoved doc doc' .alone [.key "FontMatrix"] value value')
    (scale : Unmoved doc doc' .alone [.key "FontMatrix", .item 0] value value') (widths : List K) :
    rescale entries widths = rescale entries' widths := by
  have pair := headers.item matrix scale
  have heads (items : Option (List Object)) : items.bind List.head? = items.bind (·[0]?) := by
    cases items with
    | none => rfl
    | some items => exact List.head?_eq_getElem?
  rw [rescale, rescale, heads, heads, bind_related pair fun _ _ kept => kept_number kept]

include rewritten

omit headers rewritten in
theorem simpleFont_eq (name : String) :
    (simpleFont doc name entries : Except ResolveError (Font K)) =
      (followed? doc entries "Widths" >>= fun widths =>
        followed? doc entries "FontDescriptor" >>= fun descriptor =>
          .ok (.simple name ((entries.word? "FirstChar").getD 0) (rescale entries (widthList doc widths))
            (missingWidth descriptor))) := rfl

theorem simpleFont_same (name : String)
    (keys : ∀ key ∈ ["FirstChar", "FontMatrix"], Unmoved doc doc' .alone [.key key] value value')
    (scale : Unmoved doc doc' .alone [.key "FontMatrix", .item 0] value value')
    (missing : Unmoved doc doc' .alone [.key "FontDescriptor", .key "MissingWidth"] value value') :
    (simpleFont doc name entries : Except ResolveError (Font K)) = simpleFont doc' name entries' := by
  rw [simpleFont_eq, simpleFont_eq, headers.word (keys "FirstChar" (by simp))]
  refine Agree.same.mp ((headers.followed rewritten "Widths").bind fun widths widths' pair => ?_)
  have listed : (widthList doc widths : List K) = widthList doc' widths' := by
    cases pair with
    | none => rfl
    | some reached => exact widthList_same rewritten reached.found
  refine (headers.followed rewritten "FontDescriptor").bind fun descriptor descriptor' pair => ?_
  have absent : (missingWidth descriptor : K) = missingWidth descriptor' := by
    cases pair with
    | none => rfl
    | some reached => exact missingWidth_same reached.found (reached.unmoved missing)
  refine .ok ?_
  rw [listed, absent, rescale_same headers (keys "FontMatrix" (by simp)) scale]

theorem descendant_agrees :
    Agree (Option.Rel fun inner inner' =>
        Reached doc doc' value value' [.key "DescendantFonts", .item 0] (.dictionary inner)
          (.dictionary inner') ∧ RespelledEntries doc doc' inner inner')
      (descendant doc entries) (descendant doc' entries') := by
  refine (headers.followed rewritten "DescendantFonts").bind fun fonts fonts' pair => ?_
  cases pair with
  | none => exact .ok .none
  | some reached =>
    have kept := reached.found.kept
    cases kept with
    | array items =>
      cases items with
      | nil => exact .ok .none
      | @cons first first' _ _ pair =>
        have agree := resolve_reaches rewritten (.item 0) reached.found rfl rfl pair
        dsimp only
        generalize doc.resolve first = answer at agree ⊢
        generalize doc'.resolve first' = answer' at agree ⊢
        cases agree with
        | error e => exact .error _
        | ok inner =>
          have kept := inner.found.kept
          cases kept with
          | dictionary entries => exact .ok (.some ⟨reached.further inner, entries⟩)
          | _ => exact .ok .none
    | _ => exact .ok .none

theorem compositeFont_same (name : String)
    (width : Unmoved doc doc' .alone [.key "DescendantFonts", .item 0, .key "DW"] value value') :
    (compositeFont doc name entries : Except ResolveError (Option (Font K))) =
      compositeFont doc' name entries' := by
  refine Agree.same.mp ((descendant_agrees rewritten headers).bind fun inner inner' pair => ?_)
  cases pair with
  | none => exact .ok rfl
  | some pair =>
    obtain ⟨reached, respelled⟩ := pair
    have inner : Headers doc doc' _ _ _ _ := ⟨reached.found, fun _ => rfl, fun _ => rfl, respelled⟩
    dsimp only
    rw [inner.number (reached.unmoved width)]
    refine (inner.followed rewritten "W").bind fun widths widths' pair => ?_
    cases pair with
    | none => exact .ok rfl
    | some reached =>
      have kept := reached.found.kept
      cases kept with
      | array items =>
        dsimp only
        rw [widthRanges_same rewritten items]
        exact Agree.same.mpr rfl
      | _ => exact .ok rfl

theorem font_same (name : String)
    (keys : ∀ key ∈ ["Subtype", "BaseFont", "FirstChar", "FontMatrix"],
      Unmoved doc doc' .alone [.key key] value value')
    (scale : Unmoved doc doc' .alone [.key "FontMatrix", .item 0] value value')
    (missing : Unmoved doc doc' .alone [.key "FontDescriptor", .key "MissingWidth"] value value')
    (width : Unmoved doc doc' .alone [.key "DescendantFonts", .item 0, .key "DW"] value value') :
    (font doc name entries : Except ResolveError (Font K)) = font doc' name entries' := by
  simp only [font, headers.name (keys "Subtype" (by simp)), headers.name (keys "BaseFont" (by simp)),
    compositeFont_same rewritten headers _ width,
    simpleFont_same rewritten headers _ (fun key own => keys key (by simp_all)) scale missing]

end

end PageMarks.Resource
