import PageMarks.Proofs.Interpreter.Routing

/-!
What is under way at a point of a log. After a callback the log goes on with the rest of the
operation that makes it, or of the set-up of the form that the operation goes into. Two logs that
are alike up to the end of that can be followed beside each other, one to go on and one to be left.
-/

namespace PageMarks.Interpreter

variable {K R : Type}

def leaves : Log K R → Bool
  | .note (.leave _) :: _ => true
  | _ => false

/-- An operation is taken up here, or a form is left. The restore of a form is told from others by
the note that comes next. -/
def turns : Log K R → Bool
  | .note (.dispatch _ _) :: _ => true
  | .call .restore _ :: rest => leaves rest
  | _ => false

/-- The rest of what is under way at the beginning of a log, be it an operation or the set-up of a
form. An operation that goes into a form is followed to the end of the set-up, where the content of
the form begins. -/
def settling : Log K R → Log K R
  | [] => []
  | entry :: rest => if turns (entry :: rest) then [] else entry :: settling rest

def Settles (n : Nat) (log done : Log K R) : Prop :=
  ∃ past c answer rest, log = past ++ .call c answer :: rest ∧ (callbacks past).length + 1 = n ∧
    done = past ++ .call c answer :: settling rest

theorem leaves_cons (entry : Entry K R) (rest later : Log K R) :
    leaves (entry :: (rest ++ later)) = leaves (entry :: rest) := by
  rcases entry with (_ | _ | _ | _) | _ | _ | _ <;> rfl

theorem leaves_append {log later : Log K R} (led : leaves later = false) :
    leaves (log ++ later) = leaves log := by
  cases log with
  | nil => exact led
  | cons entry rest => exact leaves_cons entry rest later

theorem turns_cons {entry : Entry K R} {rest later : Log K R} (led : leaves later = false) :
    turns (entry :: (rest ++ later)) = turns (entry :: rest) := by
  rcases entry with (_ | _ | _ | _) | ⟨c, _⟩ | _ | _
  case call =>
    cases c
    case restore => exact leaves_append led
    all_goals rfl
  all_goals rfl

theorem turns_append {log : Log K R} (turn : turns log) (later : Log K R) :
    turns (log ++ later) := by
  unfold turns at turn
  split at turn
  · rfl
  · rename_i rest
    cases rest with
    | nil => cases turn
    | cons entry rest => exact (leaves_cons entry rest later).trans turn
  · cases turn

theorem leaves_turn {log : Log K R} (turn : turns log) : leaves log = false := by
  unfold leaves
  split
  · cases turn
  · rfl

theorem settling_turn {log : Log K R} (turn : turns log) : settling log = [] := by
  cases log with
  | nil => rfl
  | cons entry rest => rw [settling, if_pos turn]

theorem settling_append {log later : Log K R} (whole : settling log = log)
    (led : leaves later = false) : settling (log ++ later) = log ++ settling later := by
  induction log with
  | nil => rfl
  | cons entry rest ih =>
    rw [settling] at whole
    split at whole
    · cases whole
    · rename_i straight
      rw [List.cons_append, settling, turns_cons led, if_neg straight, ih (List.cons.inj whole).2]
      rfl

def Straight (log : Log K R) : Prop := ∀ note ∈ notes log, ∃ name depth, note = .enter name depth

theorem straight_silent {log : Log K R} (silent : notes log = []) : Straight log := by
  intro note member
  rw [silent] at member
  cases member

theorem straight_right (log : Log K R) {later : Log K R} (straight : Straight (log ++ later)) :
    Straight later := by
  intro note member
  exact straight note (by rw [notes_append]; exact List.mem_append_right _ member)

theorem straight_leaves {log : Log K R} (straight : Straight log) : leaves log = false := by
  unfold leaves
  split
  · rename_i name _
    obtain ⟨_, _, e⟩ := straight (.leave name) (.head _)
    cases e
  · rfl

theorem straight_turns {log : Log K R} (straight : Straight log) : turns log = false := by
  unfold turns
  split
  · rename_i operator index _
    obtain ⟨_, _, e⟩ := straight (.dispatch operator index) (.head _)
    cases e
  · exact straight_leaves (straight_right [_] straight)
  · rfl

theorem straight_settling {log : Log K R} (straight : Straight log) : settling log = log := by
  induction log with
  | nil => rfl
  | cons entry rest ih =>
    have after : Straight rest := straight_right [entry] straight
    rw [settling, straight_turns straight, if_neg Bool.false_ne_true, ih after]

theorem callbacks_length (past : Log K R) (c : Callback K R) (answer : Outcome) (rest : Log K R) :
    (callbacks (past ++ .call c answer :: rest)).length =
      (callbacks past).length + 1 + (callbacks rest).length := by
  rw [callbacks_append, List.length_append]
  change _ + ((callbacks rest).length + 1) = _
  omega

theorem exists_callback {n : Nat} {log : Log K R} (positive : 0 < n)
    (made : n ≤ (callbacks log).length) :
    ∃ past c answer rest, log = past ++ .call c answer :: rest ∧
      (callbacks past).length + 1 = n := by
  induction log generalizing n with
  | nil => exact absurd made (Nat.not_le.mpr positive)
  | cons entry rest ih =>
    rcases entry with note | ⟨c, answer⟩ | warning | ⟨failure, answer⟩
    case call =>
      rcases n with _ | _ | n
      · cases positive
      · exact ⟨[], c, answer, rest, rfl, rfl⟩
      · obtain ⟨past, d, other, after, rfl, counted⟩ :=
          ih (Nat.succ_pos n) (Nat.le_of_succ_le_succ made)
        exact ⟨.call c answer :: past, d, other, after, rfl, congrArg (· + 1) counted⟩
    all_goals
      obtain ⟨past, d, other, after, rfl, counted⟩ := ih positive made
      exact ⟨_ :: past, d, other, after, rfl, counted⟩

def Whole (n : Nat) (log : Log K R) : Prop :=
  ∀ past c answer rest, log = past ++ .call c answer :: rest → (callbacks past).length + 1 = n →
    settling rest = rest

theorem whole_before {n : Nat} {log : Log K R} (early : (callbacks log).length < n) :
    Whole n log := by
  rintro past c answer rest rfl counted
  rw [callbacks_length] at early
  omega

theorem whole_append {n : Nat} {log later : Log K R} (whole : Whole n log)
    (straight : Straight later) : Whole n (log ++ later) := by
  intro past c answer rest both counted
  rcases WayOut.split both with ⟨inside, rfl, rfl⟩ | ⟨between, rfl, rfl⟩
  · have settled := whole past c answer inside rfl counted
    rw [settling_append settled (straight_leaves straight), straight_settling straight]
  · have after : Straight (.call c answer :: rest) := straight_right between straight
    exact straight_settling (straight_right [.call c answer] after)

/-- A log at a point where the forms named are open. -/
structure Standing (n : Nat) (names : List String) (log : Log K R) : Prop where
  whole : Whole n log
  forms : log.foldl track ([], none) = (names, none)

namespace Standing

variable {n : Nat} {name : String} {names : List String} {log : Log K R}

theorem settles {tail : Log K R} (standing : Standing n names log) (positive : 0 < n)
    (made : n ≤ (callbacks log).length) (led : leaves tail = false) (ended : settling tail = []) :
    Settles n (log ++ tail) log := by
  obtain ⟨past, c, answer, rest, rfl, counted⟩ := exists_callback positive made
  have settled := standing.whole past c answer rest rfl counted
  refine ⟨past, c, answer, rest ++ tail, List.append_assoc .., counted, ?_⟩
  rw [settling_append settled led, ended, List.append_nil]

theorem silent {later : Log K R} (standing : Standing n names log) (silent : notes later = []) :
    Standing n names (log ++ later) where
  whole := whole_append standing.whole (straight_silent silent)
  forms := by rw [List.foldl_append, standing.forms, closed_silent silent]

theorem dispatched (standing : Standing n names log) (early : (callbacks log).length < n)
    (operator : String) (index : Nat) :
    Standing n names (log ++ [.note (.dispatch operator index)]) where
  whole := whole_before (by rwa [callbacks_append, List.length_append])
  forms := by rw [List.foldl_append, standing.forms]; rfl

theorem entered (standing : Standing n names log) (name : String) (depth : Nat) (saved : Outcome) :
    Standing n (if accepted saved then name :: names else names)
      (log ++ [.note (.enter name depth), .call .save saved]) where
  whole := whole_append standing.whole (by
    intro note member
    cases List.mem_singleton.mp member
    exact ⟨name, depth, rfl⟩)
  forms := by rw [List.foldl_append, standing.forms]; rfl

theorem left (standing : Standing n (name :: names) log) (early : (callbacks log).length < n)
    (restored : Outcome) :
    Standing n names (log ++ [.call .restore restored, .note (.leave name)]) where
  whole := by
    intro past c answer rest both counted
    rcases WayOut.split both with ⟨inside, rfl, rfl⟩ | ⟨between, rfl, last⟩
    · rw [callbacks_length] at early
      omega
    · rcases between with _ | ⟨first, between⟩
      · cases last
        rfl
      · obtain ⟨-, last⟩ := List.cons.inj last
        rcases between with _ | ⟨_, _ | _⟩ <;> cases last
  forms := by rw [List.foldl_append, standing.forms]; rfl

end Standing

/-- The first log goes on where the second one makes for the exit. The forms between the point where
they part and the forms named have been left in the second. -/
def Apart (n : Nat) (names : List String) (going leaving : Log K R) : Prop :=
  ∃ done tail way inner, going = done ++ tail ∧ leaving = done ++ way ∧
    Standing n (inner ++ names) done ∧ n ≤ (callbacks done).length ∧ turns tail ∧
    callbacks way = inner.map fun _ => .restore

namespace Apart

variable {n : Nat} {name : String} {names : List String} {going leaving heard : Log K R}

theorem asked (apart : Apart n names going leaving) : n ≤ (callbacks leaving).length := by
  obtain ⟨done, -, way, -, -, rfl, -, reached, -, -⟩ := apart
  rw [callbacks_append, List.length_append]
  omega

theorem append (apart : Apart n names going leaving) (later : Log K R)
    (mute : callbacks heard = []) : Apart n names (going ++ later) (leaving ++ heard) := by
  obtain ⟨done, tail, way, inner, rfl, rfl, standing, reached, turn, restores⟩ := apart
  refine ⟨done, tail ++ later, way ++ heard, inner, List.append_assoc .., List.append_assoc ..,
    standing, reached, turns_append turn later, ?_⟩
  rw [callbacks_append, mute, List.append_nil, restores]

theorem left (apart : Apart n (name :: names) going leaving) (later : Log K R)
    (restored : Outcome) :
    Apart n names (going ++ later)
      (leaving ++ [.call .restore restored, .note (.leave name)]) := by
  obtain ⟨done, tail, way, inner, rfl, rfl, standing, reached, turn, restores⟩ := apart
  refine ⟨done, tail ++ later, way ++ [.call .restore restored, .note (.leave name)],
    inner ++ [name], List.append_assoc .., List.append_assoc .., ?_, reached,
    turns_append turn later, ?_⟩
  · rwa [List.append_assoc]
  · rw [callbacks_append, restores, List.map_append]
    rfl

end Apart

end PageMarks.Interpreter
