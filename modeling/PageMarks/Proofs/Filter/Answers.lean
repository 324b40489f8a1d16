import PageMarks.Proofs.Filter.Plans

/-!
Engines behind a filter, and what is heard of their answers. An engine behind one answers callbacks
like an engine in agreement behind none, up to warnings, and a warning that is heard on one side
only makes no difference to a run.
-/

namespace PageMarks

def Entry.isOffer {K R : Type} : Entry K R → Bool
  | .offer .. => true
  | _ => false

namespace Filter

open Interpreter Engine

def Calm {K R : Type} (log : Log K R) : Prop := ∀ entry ∈ log, entry.isOffer = false

instance {K R : Type} (log : Log K R) : Decidable (Calm log) :=
  inferInstanceAs (Decidable (∀ entry ∈ log, entry.isOffer = false))

abbrev World (K R η : Type) := (Engine K (List (Mark K)) × η) × Log K R

variable {K R η : Type} [Scalar K] (hints : Bool) (handler : Handler η) (S : Categories)

def recorder : Host K R (Engine K (List (Mark K)) × η) :=
  .of ((device .recorder hints).filter S) handler fun _ => false

def recording : Host K R (World K R η) := (recorder hints handler S).logged

def Related (w₁ w₂ : World K R η) : Prop := Agrees S w₁.1.1 w₂.1.1 ∧ Calm w₂.2

def Similar (x y : Outcome × World K R η) : Prop := gist x.1 = gist y.1 ∧ Related S x.2 y.2

variable {S}

omit [Scalar K] in
theorem calm_append {log later : Log K R} : Calm (log ++ later) ↔ Calm log ∧ Calm later := by
  simp only [Calm, List.mem_append, or_imp, forall_and]

omit [Scalar K] in
theorem calm_extend {log : Log K R} {entry : Entry K R} (calm : Calm log)
    (quiet : entry.isOffer = false) : Calm (log ++ [entry]) :=
  calm_append.mpr ⟨calm, fun _ member => List.mem_singleton.mp member ▸ quiet⟩

section

variable {w₁ w₂ : World K R η}

theorem warn_related (warning₁ warning₂ : Warning) (related : Related S w₁ w₂) :
    Related S ((recording hints handler .none).warn warning₁ w₁)
      ((recording hints handler S).warn warning₂ w₂) :=
  ⟨related.1, calm_extend related.2 rfl⟩

theorem note_related (note : Note) (related : Related S w₁ w₂) :
    Related S ((recording hints handler .none).note note w₁)
      ((recording hints handler S).note note w₂) :=
  ⟨related.1, calm_extend related.2 rfl⟩

theorem call_shown {c : Callback K R} (shown : c.category?.any S = false) (w : World K R η) :
    (recording hints handler S).call c w =
      ((call .recorder hints c w.1.1).1, ((call .recorder hints c w.1.1).2, w.1.2),
        w.2 ++ [.call c (call .recorder hints c w.1.1).1]) := by
  simp only [recording, recorder, Host.logged, Host.of, Device.filter, device, shown,
    Bool.false_eq_true, if_false]

theorem call_hidden {c : Callback K R} (hidden : c.category?.any S = true) (w : World K R η) :
    (recording hints handler S).call c w = (.ok (), w.1, w.2 ++ [.call c (.ok ())]) := by
  simp only [recording, recorder, Host.logged, Host.of, Device.filter, hidden, if_true]

omit [Scalar K] in
theorem none_hidden (c : Callback K R) : c.category?.any Categories.none = false := by
  cases c.category? <;> rfl

omit [Scalar K] in
theorem hidden_category {c : Callback K R} (hidden : c.category?.any S = true) :
    ∃ category, c.category? = some category ∧ S category = true := by
  rcases listed : c.category? with _ | category <;> rw [listed] at hidden
  · cases hidden
  · exact ⟨category, rfl, hidden⟩

/-- A property of worlds that outlives warnings and the callbacks that a filter holds back, where
these do no more than warn. -/
structure Indifferent {ω : Type} (S : Categories) (host : Host K R ω) (Inv : ω → Prop) :
    Prop where
  warn {w : ω} (warning : Warning) : Inv w → Inv (host.warn warning w)
  call {w : ω} {c : Callback K R} : c.category?.any S = true → Inv w →
    gist (host.call c w).1 = .ok () ∧ Inv (host.call c w).2

variable (w₁ w₂) in
theorem indifferent_left (colorful : S .color = false) :
    Indifferent S (recording hints handler .none) (Related S · w₂ : World K R η → Prop) where
  warn _ related := related
  call {w c} passes related := by
    obtain ⟨category, listed, hidden⟩ := hidden_category passes
    have missed := call_missed hints listed hidden colorful related.1
    rw [call_shown hints handler (none_hidden c)]
    exact ⟨missed.1, missed.2, related.2⟩

variable (w₁ w₂) in
theorem indifferent_right :
    Indifferent S (recording hints handler S) (Related S w₁ : World K R η → Prop) where
  warn _ related := ⟨related.1, calm_extend related.2 rfl⟩
  call {w c} passes related := by
    rw [call_hidden hints handler passes]
    exact ⟨rfl, related.1, calm_extend related.2 rfl⟩

theorem call_similar (colorful : S .color = false) (c : Callback K R)
    (related : Related S w₁ w₂) :
    Similar S ((recording hints handler .none).call c w₁)
      ((recording hints handler S).call c w₂) := by
  rcases passes : c.category?.any S
  · have close := call_close hints passes related.1
    rw [call_shown hints handler (none_hidden c), call_shown hints handler passes]
    exact ⟨close.1, close.2, calm_extend related.2 rfl⟩
  · have left := (indifferent_left hints handler w₂ colorful).call passes related
    have right := (indifferent_right hints handler _).call passes left.2
    exact ⟨left.1.trans right.1.symm, right.2⟩

theorem call_sure {c : Callback K R} (sure : Sure c) (w : World K R η) :
    ((recording hints handler S).call c w).1 = .ok () := by
  rcases passes : c.category?.any S
  · rw [call_shown hints handler passes]
    exact sure hints w.1.1
  · rw [call_hidden hints handler passes]

end

omit [Scalar K] in
theorem perform_next {ω : Type} (host : Host K R ω) {c : Callback K R} {w : ω}
    (fine : (host.call c w).1 = .ok ()) (rest : List (Callback K R)) :
    perform host (c :: rest) w = perform host rest (host.call c w).2 := by
  rcases answered : host.call c w with ⟨_ | ⟨⟨⟩⟩, after⟩
  · rw [answered] at fine
    cases fine
  · simp only [perform, answered]

omit [Scalar K] in
theorem perform_one {ω : Type} (host : Host K R ω) (c : Callback K R) (w : ω) :
    perform host [c] w = host.call c w := by
  rcases answered : host.call c w with ⟨_ | ⟨⟨⟩⟩, after⟩ <;> simp only [perform, answered]

theorem perform_sure (calls : List (Callback K R)) (sure : ∀ c ∈ calls, Sure c)
    (w : World K R η) : (perform (recording hints handler S) calls w).1 = .ok () := by
  induction calls generalizing w with
  | nil => rfl
  | cons c rest ih =>
    rw [perform_next _ (call_sure hints handler (sure c List.mem_cons_self) w)]
    exact ih (fun d member => sure d (List.mem_cons_of_mem c member)) _

theorem perform_similar (colorful : S .color = false) (calls : List (Callback K R))
    (sure : ∀ c ∈ calls.dropLast, Sure c) {w₁ w₂ : World K R η} (related : Related S w₁ w₂) :
    Similar S (perform (recording hints handler .none) calls w₁)
      (perform (recording hints handler S) calls w₂) := by
  induction calls generalizing w₁ w₂ with
  | nil => exact ⟨rfl, related⟩
  | cons c rest ih =>
    have similar := call_similar hints handler colorful c related
    cases rest with
    | nil =>
      rw [perform_one, perform_one]
      exact similar
    | cons d rest =>
      have fine := sure c List.mem_cons_self
      rw [perform_next _ (call_sure hints handler fine w₁),
        perform_next _ (call_sure hints handler fine w₂)]
      exact ih (fun d member => sure d (List.mem_cons_of_mem c member)) similar.2

/-- Answers that are no more than a warning are the same once it has been heard, and other answers
of the same gist are the same anyway. -/
theorem same_gist {x y : Outcome} (same : gist x = gist y) :
    (gist x = .ok () ∧ gist y = .ok ()) ∨ (x = y ∧ ∀ warning, x ≠ .error (.warning warning)) := by
  have own (z : Outcome) (grave : gist z ≠ .ok ()) : gist z = z := by
    rcases z with (_ | warning | _ | _) | _
    case error.warning => exact absurd rfl grave
    all_goals rfl
  by_cases fine : gist x = .ok ()
  · exact .inl ⟨fine, same ▸ fine⟩
  · refine .inr ⟨?_, ?_⟩
    · rw [← own x fine, same, own y (same ▸ fine)]
    · rintro warning rfl
      exact fine rfl

section

variable {ω : Type} (host : Host K R ω) (site : Site)

def Heard (w v : ω) : Prop := v = w ∨ ∃ warning, v = host.warn warning w

omit [Scalar K] in
theorem tolerate_fine {answer : Outcome} (fine : gist answer = .ok ()) (w : ω) :
    ∃ v, tolerate host site (answer, w) = (.ok (), v) ∧ Heard host w v := by
  rcases answer with (_ | warning | _ | _) | _
  case error.warning => exact ⟨_, rfl, .inr ⟨_, rfl⟩⟩
  case ok => exact ⟨w, rfl, .inl rfl⟩
  all_goals cases fine

omit [Scalar K] in
theorem settle_fine (sections : Nat) {answer : Outcome} (fine : gist answer = .ok ()) (w : ω) :
    ∃ v, settle host site sections (answer, w) = (.ok (), v) ∧ Heard host w v := by
  rcases answer with (_ | warning | _ | _) | _
  case error.warning => exact ⟨_, rfl, .inr ⟨_, rfl⟩⟩
  case ok => exact ⟨w, rfl, .inl rfl⟩
  all_goals cases fine

end

theorem heard_related {w₁ v₁ w₂ v₂ : World K R η} (related : Related S w₁ w₂)
    (left : Heard (recording hints handler .none) w₁ v₁)
    (right : Heard (recording hints handler S) w₂ v₂) : Related S v₁ v₂ := by
  rcases left with rfl | ⟨warning, rfl⟩ <;> rcases right with rfl | ⟨_, rfl⟩
  · exact related
  · exact ⟨related.1, calm_extend related.2 rfl⟩
  · exact related
  · exact warn_related hints handler _ _ related

omit [Scalar K] in
theorem tolerate_grave {ω : Type} (host : Host K R ω) (site : Site) {answer : Outcome}
    (grave : ∀ warning, answer ≠ .error (.warning warning)) (w : ω) :
    tolerate host site (answer, w) = (answer, w) := by
  rcases answer with (_ | warning | _ | _) | _
  case error.warning => exact absurd rfl (grave warning)
  all_goals rfl

theorem tolerate_similar (site : Site) {x y : Outcome × World K R η} (similar : Similar S x y) :
    Alike (Related S) (tolerate (recording hints handler .none) site x)
      (tolerate (recording hints handler S) site y) := by
  obtain ⟨answer₁, v₁⟩ := x
  obtain ⟨answer₂, v₂⟩ := y
  obtain ⟨same, related⟩ := similar
  rcases same_gist same with ⟨fine₁, fine₂⟩ | ⟨rfl, grave⟩
  · obtain ⟨u₁, e₁, left⟩ := tolerate_fine (recording hints handler .none) site fine₁ v₁
    obtain ⟨u₂, e₂, right⟩ := tolerate_fine (recording hints handler S) site fine₂ v₂
    rw [e₁, e₂]
    exact ⟨rfl, heard_related hints handler related left right⟩
  · rw [tolerate_grave _ site grave, tolerate_grave _ site grave]
    exact ⟨rfl, related⟩

theorem settle_similar (site : Site) (sections : Nat) {x y : Outcome × World K R η}
    (similar : Similar S x y)
    (calm : Calm (settle (recording hints handler .none) site sections x).2.2) :
    Alike (Related S) (settle (recording hints handler .none) site sections x)
      (settle (recording hints handler S) site sections y) := by
  obtain ⟨answer₁, v₁⟩ := x
  obtain ⟨answer₂, v₂⟩ := y
  obtain ⟨same, related⟩ := similar
  rcases same_gist same with ⟨fine₁, fine₂⟩ | ⟨rfl, grave⟩
  · obtain ⟨u₁, e₁, left⟩ := settle_fine (recording hints handler .none) site sections fine₁ v₁
    obtain ⟨u₂, e₂, right⟩ := settle_fine (recording hints handler S) site sections fine₂ v₂
    rw [e₁, e₂]
    exact ⟨rfl, heard_related hints handler related left right⟩
  · rcases answer₁ with (_ | warning | failure | failure) | _
    case error.unsupported =>
      simp only [settle]
      split
      · exact ⟨rfl, warn_related hints handler _ _ related⟩
      · exact ⟨rfl, related⟩
    case error.warning => exact absurd rfl (grave warning)
    case error.fatal =>
      have offered := (calm_append.mp calm).2 _ (List.mem_singleton_self _)
      cases offered
    all_goals exact ⟨rfl, related⟩

end Filter
end PageMarks
