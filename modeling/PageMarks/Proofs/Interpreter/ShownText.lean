import PageMarks.Proofs.Engine.Placement
import PageMarks.Proofs.Interpreter.Nesting

/-!
When text is shown. Content that shows text only between the two operators that bracket texts makes
no callback that shows text before one that places it. What forms do makes no difference, as every
form begins with a matrix that places the text.
-/

namespace PageMarks

variable {K R : Type}

def Entry.shows : Entry K R → Bool
  | .call (.showText _) _ | .call (.showTextAdjusted _) _ => true
  | _ => false

def Operation.showsText (op : Operation) : Bool :=
  match op.kind? with
  | some .showText | some .showTextAdjusted | some .nextLineShowText
  | some .spacedNextLineShowText => true
  | _ => false

def Operation.inText (inside : Bool) (op : Operation) : Bool :=
  match op.kind? with
  | some .beginText => true
  | some .endText => false
  | _ => inside

def TextInside : Bool → List Operation → Prop
  | _, [] => True
  | inside, op :: rest => (op.showsText = true → inside = true) ∧ TextInside (op.inText inside) rest

instance decidableTextInside : (inside : Bool) → (content : List Operation) →
    Decidable (TextInside inside content)
  | _, [] => .isTrue trivial
  | inside, op :: rest => @instDecidableAnd _ _ _ (decidableTextInside (op.inText inside) rest)

namespace Interpreter

/-- No text is shown before a callback that places it. -/
def ShownPlaced : Log K R → Prop
  | [] => True
  | entry :: rest => entry.places = true ∨ (entry.shows = false ∧ ShownPlaced rest)

theorem shownPlaced_append {log later : Log K R} :
    ShownPlaced (log ++ later) ↔
      ShownPlaced log ∧ ((∃ entry ∈ log, entry.places = true) ∨ ShownPlaced later) := by
  induction log with
  | nil => simp [ShownPlaced]
  | cons entry rest ih =>
    simp only [List.cons_append, ShownPlaced, ih, List.mem_cons, exists_eq_or_imp]
    by_cases placing : entry.places = true <;> simp [placing, and_assoc]

theorem shows_not_places {entry : Entry K R} (shows : entry.shows = true) :
    entry.places = false := by
  rcases entry with _ | ⟨c, _⟩ | _ | _
  case call =>
    cases c
    case showText | showTextAdjusted => rfl
    all_goals cases shows
  all_goals cases shows

theorem shownPlaced_last {log : Log K R} {entry : Entry K R} (placed : ShownPlaced (log ++ [entry])) :
    ShownPlaced log ∧ (entry.shows = true → ∃ earlier ∈ log, earlier.places = true) := by
  obtain ⟨before, last⟩ := shownPlaced_append.mp placed
  refine ⟨before, fun shows => last.resolve_right ?_⟩
  rintro (places | ⟨hidden, -⟩)
  · rw [shows_not_places shows] at places
    cases places
  · rw [shows] at hidden
    cases hidden

theorem shownPlaced_of_silent {log : Log K R} (silent : ∀ entry ∈ log, entry.shows = false) :
    ShownPlaced log := by
  induction log with
  | nil => trivial
  | cons entry rest ih =>
    exact .inr ⟨silent entry List.mem_cons_self, ih fun e member => silent e (.tail _ member)⟩

theorem silent_of_callbacks {log : Log K R}
    (silent : ∀ c ∈ callbacks log, ∀ answer, (Entry.call c answer).shows = false) :
    ∀ entry ∈ log, entry.shows = false := by
  intro entry member
  cases entry with
  | call c answer => exact silent c (List.mem_filterMap.mpr ⟨_, member, rfl⟩) answer
  | note | warning | offer => rfl

theorem hushed_silent {log : Log K R} (hushed : Hushed log) : ∀ entry ∈ log, entry.shows = false :=
  silent_of_callbacks (by simp [hushed.1])

theorem own_shows {op : Operation} {c : Callback K R} (own : Own op c) {answer : Outcome}
    (shows : (Entry.call c answer).shows = true) : op.showsText = true := by
  unfold Own at own
  unfold Operation.showsText
  cases kind : op.kind? with
  | none =>
    rw [kind] at own
    cases own
    cases shows
  | some operator =>
    rw [kind] at own
    cases c
    case showText | showTextAdjusted =>
      simp only [Callback.operators, List.mem_cons, List.not_mem_nil, or_false] at own
      rcases own with rfl | rfl | rfl <;> rfl
    all_goals cases shows

variable [Scalar K] {resolver : Resolver K R} {limit : Nat}

theorem prepared_matrix {site : Site} {form : Form K R} {outcome : Outcome} {log : Log K R}
    (prepared : Prepared site form outcome log) :
    ∃ answer rest, log = .call (.concat form.matrix) answer :: rest := by
  cases prepared <;> exact ⟨_, _, rfl⟩

theorem form_shownPlaced {depth : Nat} {site : Site} {name : String} {form : Form K R} {scope : R}
    {outcome : Outcome} {log : Log K R}
    (transcript : Transcript resolver limit (.form depth site name form scope outcome) log) :
    ShownPlaced log := by
  have entered (saved : Outcome) (answer : Outcome) (later : Log K R) :
      ShownPlaced (.note (.enter name (depth + 1)) :: .call .save saved ::
        ((tolerated site saved).2 ++ .call (.concat form.matrix) answer :: later)) := by
    refine .inr ⟨rfl, .inr ⟨rfl, shownPlaced_append.mpr ⟨?_, .inr (.inl rfl)⟩⟩⟩
    exact shownPlaced_of_silent (hushed_silent (tolerated_hushed site saved))
  cases transcript with
  | tooDeep => trivial
  | shut => exact .inr ⟨rfl, .inr ⟨rfl, trivial⟩⟩
  | unready _ _ prepared =>
    obtain ⟨answer, rest, rfl⟩ := prepared_matrix prepared
    simp only [bracket, List.cons_append, List.append_assoc]
    exact entered _ answer _
  | form _ _ prepared =>
    obtain ⟨answer, rest, rfl⟩ := prepared_matrix prepared
    simp only [bracket, List.cons_append, List.append_assoc]
    exact entered _ answer _

theorem operation_shownPlaced {depth : Nat} {frame : Frame R} {site : Site} {op : Operation}
    {answer : Except Failure Unit} {sections : Nat} {log : Log K R}
    (transcript : Transcript resolver limit (.operation depth frame site op answer sections) log)
    (textless : op.showsText = false) : ShownPlaced log := by
  have own {features : Features} {p : Plan K R} {given : Outcome} {own : Log K R}
      (planned : plan resolver features frame op = .ok p) (performed : Performed p.calls given own) :
      ShownPlaced own :=
    shownPlaced_of_silent (silent_of_callbacks fun c member answer => by
      have own := own_of_initial planned (performed_callbacks performed) c member
      exact eq_false_of_ne_true fun shows => by simp [own_shows own shows] at textless)
  have heard {site : Site} {sections : Nat} {outcome : Outcome} {answer : Except Failure Unit}
      {log : Log K R} (settled : Settled site sections outcome answer log) : ShownPlaced log :=
    shownPlaced_of_silent (hushed_silent (settled_hushed settled))
  cases transcript with
  | refused _ settled => exact heard settled
  | broken planned performed settled =>
    exact shownPlaced_append.mpr ⟨own planned performed, .inr (heard settled)⟩
  | performed planned performed _ settled =>
    exact shownPlaced_append.mpr ⟨own planned performed, .inr (heard settled)⟩
  | invoked planned performed _ form settled =>
    have inside := shownPlaced_append.mpr
      ⟨own planned performed, .inr (form_shownPlaced form)⟩
    exact shownPlaced_append.mpr ⟨inside, .inr (heard settled)⟩

theorem plan_beginText {features : Features} {frame : Frame R} {op : Operation}
    (kind : op.kind? = some .beginText) :
    plan resolver features frame op = .ok (calls frame [.beginText]) := by
  unfold plan
  rw [kind]
  rfl

theorem content_shownPlaced {depth index : Nat} {frame : Frame R} {content : List Operation}
    {ending : Ending} {log : Log K R}
    (transcript : Transcript resolver limit (.content depth frame index content ending) log)
    (inside : TextInside false content) : ShownPlaced log := by
  induction content generalizing frame index log with
  | nil =>
    cases transcript
    trivial
  | cons op rest ih =>
    obtain ⟨first, later⟩ := inside
    have textless : op.showsText = false := by
      by_contra shows
      cases first (eq_true_of_ne_false shows)
    cases transcript with
    | stopped => exact .inr ⟨rfl, trivial⟩
    | raised operation => exact .inr ⟨rfl, operation_shownPlaced operation textless⟩
    | @next _ _ _ _ _ _ _ log after operation content =>
      refine .inr ⟨rfl, shownPlaced_append.mpr ⟨operation_shownPlaced operation textless, ?_⟩⟩
      by_cases begun : op.kind? = some .beginText
      · obtain ⟨given, heard, same, -⟩ := one_call operation fun _ => plan_beginText begun
        exact .inl ⟨_, by rw [same]; exact List.mem_cons_self, rfl⟩
      · have outside : op.inText false = false := by
          unfold Operation.inText
          split
          · contradiction
          · rfl
          · rfl
        rw [outside] at later
        exact .inr (ih content later)

theorem history_shownPlaced {ω : Type} (host : Host K R ω) (resolver : Resolver K R) (limit : Nat)
    (scope : R) {content : List Operation} (inside : TextInside false content) (w : ω) :
    ShownPlaced (history host resolver limit scope content w) := by
  obtain ⟨frame, opening, log, same, opened, transcript⟩ :=
    history_logged host resolver limit scope content w
  rw [same]
  refine shownPlaced_append.mpr ⟨?_, .inr (content_shownPlaced transcript inside)⟩
  exact shownPlaced_of_silent (hushed_silent (opened_hushed opened))

end Interpreter
end PageMarks
