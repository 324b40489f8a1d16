import PageMarks.Operator

/-!
Balanced sequences. Some elements open something, some close what was opened last, others do
neither. The definition counts; the height that a sequence rises to is what inductions go along.
-/

namespace PageMarks

inductive Step
  | up
  | down
  | level
  deriving DecidableEq, Repr

variable {α β : Type} (step : α → Step)

def ups (l : List α) : Nat := l.countP fun x => step x = .up

def downs (l : List α) : Nat := l.countP fun x => step x = .down

/-- No prefix closes more than it opens, and in the end all is closed. -/
structure Balanced (l : List α) : Prop where
  nested : ∀ initial, initial <+: l → downs step initial ≤ ups step initial
  closed : downs step l = ups step l

/-- The height after a sequence, unless the sequence goes below the ground. -/
def height : Nat → List α → Option Nat
  | n, [] => some n
  | n, x :: rest =>
    match step x with
    | .up => height (n + 1) rest
    | .level => height n rest
    | .down =>
      match n with
      | 0 => none
      | n + 1 => height n rest

@[simp] theorem ups_nil : ups step [] = 0 := rfl

@[simp] theorem downs_nil : downs step [] = 0 := rfl

theorem ups_cons (x : α) (l : List α) :
    ups step (x :: l) = ups step l + if step x = .up then 1 else 0 := by
  simp [ups, List.countP_cons]

theorem downs_cons (x : α) (l : List α) :
    downs step (x :: l) = downs step l + if step x = .down then 1 else 0 := by
  simp [downs, List.countP_cons]

variable {step}

theorem height_up {x : α} (up : step x = .up) (n : Nat) (l : List α) :
    height step n (x :: l) = height step (n + 1) l := by
  simp only [height, up]

theorem height_level {x : α} (level : step x = .level) (n : Nat) (l : List α) :
    height step n (x :: l) = height step n l := by
  simp only [height, level]

theorem height_down {x : α} (down : step x = .down) (n : Nat) (l : List α) :
    height step (n + 1) (x :: l) = height step n l := by
  simp only [height, down]

theorem height_down_zero {x : α} (down : step x = .down) (l : List α) :
    height step 0 (x :: l) = none := by
  simp only [height, down]

theorem height_append (n : Nat) (l later : List α) :
    height step n (l ++ later) = (height step n l).bind fun m => height step m later := by
  induction l generalizing n with
  | nil => rfl
  | cons x l ih =>
    rw [List.cons_append]
    cases turn : step x with
    | up => rw [height_up turn, height_up turn, ih]
    | level => rw [height_level turn, height_level turn, ih]
    | down =>
      cases n with
      | zero => rw [height_down_zero turn, height_down_zero turn, Option.bind_none]
      | succ n => rw [height_down turn, height_down turn, ih]

theorem height_flat {l : List α} (flat : ∀ x ∈ l, step x = .level) (n : Nat) :
    height step n l = some n := by
  induction l with
  | nil => rfl
  | cons x l ih =>
    rw [height_level (flat x List.mem_cons_self)]
    exact ih fun y member => flat y (List.mem_cons_of_mem x member)

theorem height_raise {n m : Nat} {l : List α} (reached : height step n l = some m) (k : Nat) :
    height step (n + k) l = some (m + k) := by
  induction l generalizing n with
  | nil =>
    cases reached
    rfl
  | cons x l ih =>
    cases turn : step x with
    | up =>
      rw [height_up turn] at reached ⊢
      rw [Nat.add_right_comm]
      exact ih reached
    | level =>
      rw [height_level turn] at reached ⊢
      exact ih reached
    | down =>
      cases n with
      | zero => rw [height_down_zero turn] at reached; cases reached
      | succ n =>
        rw [height_down turn] at reached
        rw [Nat.add_right_comm, height_down turn]
        exact ih reached

theorem forall_initial_cons {P : List α → Prop} (x : α) (l : List α) :
    (∀ initial, initial <+: x :: l → P initial) ↔
      P [] ∧ ∀ initial, initial <+: l → P (x :: initial) := by
  constructor
  · intro all
    exact ⟨all [] List.nil_prefix, fun initial member => all _ ((List.prefix_cons_inj x).mpr member)⟩
  · rintro ⟨first, others⟩ initial member
    rcases List.prefix_cons_iff.mp member with rfl | ⟨rest, rfl, within⟩
    · exact first
    · exact others rest within

theorem height_eq_some (n m : Nat) (l : List α) :
    height step n l = some m ↔
      (∀ initial, initial <+: l → downs step initial ≤ n + ups step initial) ∧
        m + downs step l = n + ups step l := by
  induction l generalizing n with
  | nil => simp [height, eq_comm]
  | cons x l ih =>
    rw [forall_initial_cons]
    simp only [ups_cons, downs_cons]
    cases turn : step x with
    | up =>
      rw [height_up turn, ih]
      simp only [reduceCtorEq, if_true, if_false, Nat.add_zero, ups_nil, downs_nil, Nat.zero_le,
        true_and, Nat.add_right_comm n 1, Nat.add_assoc]
    | level =>
      rw [height_level turn, ih]
      simp only [reduceCtorEq, if_false, Nat.add_zero, ups_nil, downs_nil, Nat.zero_le, true_and]
    | down =>
      simp only [reduceCtorEq, if_true, if_false, Nat.add_zero, ups_nil, downs_nil, Nat.zero_le,
        true_and]
      cases n with
      | zero =>
        rw [height_down_zero turn]
        refine iff_of_false nofun fun ⟨nested, _⟩ => ?_
        have first := nested [] List.nil_prefix
        simp at first
      | succ n =>
        rw [height_down turn, ih]
        simp only [Nat.add_right_comm n 1, Nat.add_le_add_iff_right, ← Nat.add_assoc,
          Nat.add_right_cancel_iff]

theorem balanced_iff (l : List α) : Balanced step l ↔ height step 0 l = some 0 := by
  rw [height_eq_some]
  simp only [Nat.zero_add]
  exact ⟨fun balanced => ⟨balanced.nested, balanced.closed⟩, fun ⟨nested, closed⟩ => ⟨nested, closed⟩⟩

theorem Balanced.height {l : List α} (balanced : Balanced step l) (n : Nat) :
    height step n l = some n := by
  simpa using height_raise ((balanced_iff l).mp balanced) n

end PageMarks
