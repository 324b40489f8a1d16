import PageMarks.Proofs.Engine.Restore
import PageMarks.Proofs.Geometry.Exact

/-!
Where lines begin. A line is begun at an offset from the start of the one before it, and in exact
arithmetic the offsets add up. The leading is a number of its own that some operators set and others
go down by; what is shown on a line moves the text matrix, and the next line knows nothing of it.
-/

namespace PageMarks

open Scalar (zero)

variable {K R σ η : Type} [Scalar K]

/-- The offset of the current line from the first one, and the leading in force. -/
structure Lines (K : Type) where
  x : K
  y : K
  leading : K
  deriving DecidableEq, Repr

namespace Lines

def start (leading : K) : Lines K := ⟨zero, zero, leading⟩

def move (tx ty : K) (l : Lines K) : Lines K := { l with x := l.x + tx, y := l.y + ty }

def next (l : Lines K) : Lines K := l.move zero (-l.leading)

def perform (l : Lines K) (op : Operation) : Lines K :=
  match op.kind? with
  | some .moveText =>
    match op.two Object.number? Prod.mk with
    | .ok (tx, ty) => l.move tx ty
    | .error _ => l
  | some .moveTextSetLeading =>
    match op.two Object.number? Prod.mk with
    | .ok (tx, ty) => { l with leading := -ty }.move tx ty
    | .error _ => l
  | some .nextLine => l.next
  | some .setLeading =>
    match op.number 0 with
    | .ok leading => { l with leading }
    | .error _ => l
  | some .nextLineShowText =>
    match op.string 0 with
    | .ok _ => l.next
    | .error _ => l
  | some .spacedNextLineShowText =>
    match (op.two Object.number? Prod.mk : Except Signal (K × K)), op.string 2 with
    | .ok _, .ok _ => l.next
    | _, _ => l
  | _ => l

def ask (l : Lines K) : Callback K R → Lines K
  | .moveText tx ty => l.move tx ty
  | .moveTextSetLeading tx ty => { l with leading := -ty }.move tx ty
  | .nextLine => l.next
  | .leading leading => { l with leading }
  | _ => l

end Lines

/-- Operators that begin lines, show text, or set text parameters. -/
def Operator.inLine : Operator → Bool
  | .moveText | .moveTextSetLeading | .nextLine => true
  | operator => operator.group == .textState || operator.group == .textShowing

def Operator.movesLines : Operator → Bool
  | .moveText | .moveTextSetLeading | .nextLine | .setLeading | .nextLineShowText
  | .spacedNextLineShowText => true
  | _ => false

def Operation.InLine (op : Operation) : Prop :=
  ∃ operator, op.kind? = some operator ∧ operator.inLine

def Operation.onlyShows (op : Operation) : Bool :=
  op.kind? == some .showText || op.kind? == some .showTextAdjusted

def Callback.beginsLine : Callback K R → Bool
  | .moveText .. | .moveTextSetLeading .. | .nextLine => true
  | _ => false

def Note.isDispatch : Note → Bool
  | .dispatch .. => true
  | _ => false

namespace Engine

open Interpreter

/-- The current line begins where lines that started at a matrix are. -/
structure Stands (m : Matrix K) (l : Lines K) (e : Engine K σ) : Prop where
  line : e.state.text.lineMatrix = (Matrix.translation l.x l.y).followedBy m
  leading : e.state.text.leading = l.leading

variable {surface : Surface K σ} {hints : Bool} {m : Matrix K} {l : Lines K} {e after : Engine K σ}

theorem stands_unmoved (m : Matrix K) (l : Lines K) : Unmoved (Stands (σ := σ) m l) where
  surface _ stands := ⟨stands.line, stands.leading⟩
  advance _ stands := ⟨stands.line, stands.leading⟩

section

variable [Scalar.Exact K]

theorem moveLine_stands (tx ty : K) (stands : Stands m l e) :
    Stands m (l.move tx ty) (e.placeText (.moveLine tx ty)) where
  line := by
    change (Matrix.translation tx ty).followedBy e.state.text.lineMatrix =
      (Matrix.translation (l.x + tx) (l.y + ty)).followedBy m
    rw [stands.line, ← Matrix.followedBy_assoc, Matrix.translation_translation,
      Scalar.Exact.add_comm tx, Scalar.Exact.add_comm ty]
  leading := stands.leading

theorem call_stands {c : Callback K R} (stays : c.operators.any Operator.inLine = true)
    (stands : Stands m l e) :
    Stands m (l.ask c) (call surface hints c e).2 := by
  cases c
  case moveText tx ty => exact moveLine_stands tx ty stands
  case moveTextSetLeading tx ty =>
    have led : Stands m { l with leading := -ty } (e.modifyText (.setLeading (-ty))) :=
      ⟨stands.line, rfl⟩
    exact moveLine_stands tx ty led
  case nextLine =>
    have moved : (call surface hints (.nextLine : Callback K R) e).2 =
        e.placeText (.moveLine zero (-l.leading)) := by
      rw [← stands.leading]
      rfl
    rw [moved]
    exact moveLine_stands zero (-l.leading) stands
  case leading leading => exact ⟨stands.line, rfl⟩
  case showText bytes => exact (stands_unmoved m l).showText bytes stands
  case showTextAdjusted items => exact (stands_unmoved m l).showAdjusted items stands
  case charSpacing | wordSpacing | horizontalScaling | font | renderMode | rise =>
    exact ⟨stands.line, stands.leading⟩
  all_goals cases stays

end

theorem call_begins {c : Callback K R} (begins : c.beginsLine = true) :
    (call surface hints c e).2.state.text.matrix =
      (call surface hints c e).2.state.text.lineMatrix := by
  cases c
  case moveText | moveTextSetLeading | nextLine => rfl
  all_goals cases begins

/-- Callbacks that go well whatever the engine is. -/
def Smooth (surface : Surface K σ) (hints : Bool) (c : Callback K R) : Prop :=
  ∀ e, (call surface hints c e).1 = .ok ()

theorem performed_smooth {calls : List (Callback K R)} {outcome : Outcome} {log : Log K R}
    (performed : Performed calls outcome log) (replays : Replays surface hints e log after)
    (smooth : ∀ c ∈ calls.dropLast, Smooth surface hints c) : callbacks log = calls := by
  induction performed generalizing e with
  | done => rfl
  | @next c rest answer log performed ih =>
    obtain ⟨-, later⟩ := replays
    have others : ∀ d ∈ rest.dropLast, Smooth surface hints d := by
      intro d member
      cases rest with
      | nil => cases member
      | cons => exact smooth d (List.mem_cons_of_mem c member)
    exact congrArg (c :: ·) (ih later others)
  | @broken c rest signal =>
    cases rest with
    | nil => rfl
    -- It is not the last, and so it cannot have gone wrong.
    | cons =>
      have well := smooth c List.mem_cons_self e
      cases replays.1.symm.trans well

/-- What an operation asks for does to lines what the operation does. -/
def Lays (surface : Surface K σ) (hints : Bool) (op : Operation) : Except Signal (Plan K R) → Prop
  | .error _ => ∀ l : Lines K, l.perform op = l
  | .ok p => (∀ l : Lines K, p.calls.foldl Lines.ask l = l.perform op) ∧
    ∀ c ∈ p.calls.dropLast, Smooth surface hints c

theorem two_pair {α β : Type} (op : Operation) (read : Object → Option α) (f : α → α → β) :
    op.two read f = (op.two read Prod.mk).map fun pair => f pair.1 pair.2 := by
  simp only [Operation.two, Operation.require, Operation.malformed]
  cases op.leading? read 2 with
  | none => rfl
  | some values =>
    rcases values with _ | ⟨x, _ | ⟨y, _ | ⟨z, rest⟩⟩⟩
    all_goals rfl

section

variable {op : Operation} {resolver : Resolver K R} {features : Features} {frame : Frame R}

theorem lays_one {c : Callback K R} (does : ∀ l : Lines K, l.ask c = l.perform op) :
    Lays surface hints op (.ok (calls frame [c])) :=
  ⟨does, fun _ member => absurd member List.not_mem_nil⟩

theorem offset_lays {make : K → K → Callback K R} (offset : K → K → Lines K → Lines K)
    (performs : ∀ l : Lines K, l.perform op =
      match op.two Object.number? Prod.mk with
      | .ok (tx, ty) => offset tx ty l
      | .error _ => l)
    (asks : ∀ (l : Lines K) tx ty, l.ask (make tx ty) = offset tx ty l) :
    Lays surface hints op
      (op.two Object.number? make >>= fun c => .ok (calls frame [c])) := by
  rw [two_pair]
  cases read : (op.two Object.number? Prod.mk : Except Signal (K × K)) with
  | error =>
    intro l
    rw [performs, read]
  | ok pair =>
    apply lays_one
    intro l
    rw [performs, read]
    exact asks l pair.1 pair.2

theorem leading_lays (kind : op.kind? = some .setLeading) :
    Lays surface hints op ((op.number 0 >>= fun leading => .ok (.leading leading : Callback K R)) >>=
      fun c => .ok (calls frame [c])) := by
  cases read : (op.number 0 : Except Signal K) with
  | error =>
    intro l
    simp only [Lines.perform, kind, read]
  | ok leading =>
    apply lays_one
    intro l
    simp only [Lines.perform, kind, read]
    rfl

theorem quote_lays (kind : op.kind? = some .nextLineShowText) :
    Lays surface hints op
      (op.string 0 >>= fun bytes =>
        .ok (calls frame [(.nextLine : Callback K R), .showText bytes])) := by
  cases read : op.string 0 with
  | error =>
    intro l
    simp only [Lines.perform, kind, read]
  | ok bytes =>
    constructor
    · intro l
      simp only [Lines.perform, kind, read]
      rfl
    · intro c member
      cases List.mem_singleton.mp member
      intro e
      rfl

theorem spaced_lays (kind : op.kind? = some .spacedNextLineShowText) :
    Lays (R := R) surface hints op (spacedNextLineShowText frame op) := by
  unfold spacedNextLineShowText
  cases numbers : (op.two Object.number? Prod.mk : Except Signal (K × K)) with
  | error =>
    intro l
    simp only [Lines.perform, kind, numbers]
  | ok pair =>
    cases read : op.string 2 with
    | error =>
      intro l
      simp only [Lines.perform, kind, numbers, read]
    | ok bytes =>
      constructor
      · intro l
        simp only [Lines.perform, kind, numbers, read]
        rfl
      · intro c member
        have first : c ∈ [(.wordSpacing pair.1 : Callback K R), .charSpacing pair.2, .nextLine] :=
          member
        simp only [List.mem_cons, List.not_mem_nil, or_false] at first
        rcases first with rfl | rfl | rfl
        all_goals
          intro e
          rfl

theorem moving_lays {operator : Operator} (kind : op.kind? = some operator)
    (moves : operator.movesLines = true) :
    Lays surface hints op (plan resolver features frame op) := by
  cases operator
  case moveText =>
    rw [plan_callback _ _ _ _ kind (by decide)]
    apply offset_lays Lines.move
    · intro l
      simp only [Lines.perform, kind]
    · intro l tx ty
      rfl
  case moveTextSetLeading =>
    rw [plan_callback _ _ _ _ kind (by decide)]
    apply offset_lays fun tx ty l => { l with leading := -ty }.move tx ty
    · intro l
      simp only [Lines.perform, kind]
    · intro l tx ty
      rfl
  case nextLine =>
    rw [plan_callback _ _ _ _ kind (by decide)]
    apply lays_one
    intro l
    simp only [Lines.perform, kind, Lines.ask]
  case setLeading =>
    rw [plan_callback _ _ _ _ kind (by decide)]
    exact leading_lays kind
  case nextLineShowText =>
    unfold plan
    rw [kind]
    exact quote_lays kind
  case spacedNextLineShowText =>
    unfold plan
    rw [kind]
    exact spaced_lays kind
  all_goals cases moves

theorem idle_ask {operator : Operator} (kind : op.kind? = some operator)
    (idle : operator.movesLines = false) {c : Callback K R} (own : Own op c) (l : Lines K) :
    l.ask c = l := by
  unfold Own at own
  rw [kind] at own
  cases c
  case moveText | moveTextSetLeading | leading =>
    cases List.mem_singleton.mp own
    cases idle
  case nextLine =>
    simp only [Callback.operators, List.mem_cons, List.not_mem_nil, or_false] at own
    rcases own with rfl | rfl | rfl <;> cases idle
  all_goals rfl

theorem idle_perform {operator : Operator} (kind : op.kind? = some operator)
    (idle : operator.movesLines = false) (l : Lines K) : l.perform op = l := by
  unfold Lines.perform
  rw [kind]
  cases operator
  case moveText | moveTextSetLeading | nextLine | setLeading | nextLineShowText
      | spacedNextLineShowText => cases idle
  all_goals rfl

theorem fold_idle {operator : Operator} (kind : op.kind? = some operator)
    (idle : operator.movesLines = false) {cs : List (Callback K R)} (own : ∀ c ∈ cs, Own op c)
    (l : Lines K) : cs.foldl Lines.ask l = l := by
  induction cs with
  | nil => rfl
  | cons c rest ih =>
    rw [List.foldl_cons, idle_ask kind idle (own c List.mem_cons_self)]
    exact ih fun d member => own d (List.mem_cons_of_mem c member)

theorem made_lines {operator : Operator} (kind : op.kind? = some operator) {p : Plan K R}
    (planned : plan resolver features frame op = .ok p) {outcome : Outcome} {log : Log K R}
    (performed : Performed p.calls outcome log) (replays : Replays surface hints e log after)
    (l : Lines K) : (callbacks log).foldl Lines.ask l = l.perform op := by
  cases moves : operator.movesLines with
  | true =>
    have lays : Lays surface hints op (plan resolver features frame op) := moving_lays kind moves
    rw [planned] at lays
    rw [performed_smooth performed replays lays.2]
    exact lays.1 l
  | false =>
    rw [idle_perform kind moves]
    exact fold_idle kind moves (own_of_initial planned (performed_callbacks performed)) l

theorem refused_lines {operator : Operator} (kind : op.kind? = some operator) {signal : Signal}
    (refused : plan resolver features frame op = .error signal) (l : Lines K) :
    l.perform op = l := by
  cases moves : operator.movesLines with
  | true =>
    have lays : Lays (.silent K) false op (plan resolver features frame op) :=
      moving_lays kind moves
    rw [refused] at lays
    exact lays l
  | false => exact idle_perform kind moves l

end

section

variable [Scalar.Exact K] {resolver : Resolver K R} {limit depth : Nat} {frame : Frame R}
  {op : Operation}

theorem replays_stands {log : Log K R}
    (stays : ∀ c ∈ callbacks log, c.operators.any Operator.inLine = true)
    (replays : Replays surface hints e log after) (stands : Stands m l e) :
    Stands m ((callbacks log).foldl Lines.ask l) after := by
  induction log generalizing e l with
  | nil =>
    cases replays
    exact stands
  | cons entry rest ih =>
    cases entry with
    | note | warning | offer => exact ih stays replays stands
    | call c answer =>
      have here := stays c List.mem_cons_self
      exact ih (fun d member => stays d (List.mem_cons_of_mem c member)) replays.2
        (call_stands here stands)

theorem operation_stands {site : Site} {answer : Except Failure Unit} {sections : Nat}
    {log : Log K R} (inLine : op.InLine)
    (transcript : Transcript resolver limit (.operation depth frame site op answer sections) log)
    (replays : Replays surface hints e log after) (stands : Stands m l e) :
    Stands m (l.perform op) after ∧ notes log = [] := by
  obtain ⟨operator, kind, within⟩ := inLine
  -- Callbacks that are made to the end or broken off, with what is heard of them afterwards.
  have made {features : Features} {p : Plan K R} {given : Outcome} {own heard : Log K R}
      (planned : plan resolver features frame op = .ok p) (performed : Performed p.calls given own)
      (hushed : Hushed heard) (replays : Replays surface hints e (own ++ heard) after) :
      Stands m (l.perform op) after ∧ notes (own ++ heard) = [] := by
    obtain ⟨between, asked, still⟩ := (replays_append surface hints).mp replays
    cases hushed_replays hushed.1 still
    constructor
    · rw [← made_lines kind planned performed asked l]
      refine replays_stands ?_ asked stands
      intro c member
      have own := own_of_initial planned (performed_callbacks performed) c member
      unfold Own at own
      rw [kind] at own
      exact List.any_eq_true.mpr ⟨operator, own, within⟩
    · rw [notes_append, performed_notes performed, hushed.2, List.append_nil]
  cases transcript with
  | refused refused settled =>
    have hushed := settled_hushed settled
    cases hushed_replays hushed.1 replays
    rw [refused_lines kind refused]
    exact ⟨stands, hushed.2⟩
  | broken planned performed settled => exact made planned performed (settled_hushed settled) replays
  | performed planned performed _ settled =>
    exact made planned performed (settled_hushed settled) replays
  | invoked planned _ enters =>
    have entered := (plan_enters resolver _ frame op _ planned _ _ enters).kind
    cases kind.symm.trans entered
    cases within

def takenUp (log : Log K R) : Nat := (notes log).countP Note.isDispatch

omit [Scalar K] [Scalar.Exact K] in
theorem takenUp_operation {operator : String} {index : Nat} {log : Log K R}
    (silent : notes log = []) (later : Log K R) :
    takenUp (.note (.dispatch operator index) :: (log ++ later)) = takenUp later + 1 := by
  change (Note.dispatch operator index :: notes (log ++ later)).countP Note.isDispatch = _
  rw [notes_append, silent, List.nil_append]
  exact List.countP_cons_of_pos rfl

theorem content_stands {index : Nat} {content : List Operation} {ending : Ending} {log : Log K R}
    (inLine : ∀ op ∈ content, op.InLine)
    (transcript : Transcript resolver limit (.content depth frame index content ending) log)
    (replays : Replays surface hints e log after) (stands : Stands m l e) :
    Stands m ((content.take (takenUp log)).foldl Lines.perform l) after ∧
      (ending = .ok .finished → takenUp log = content.length) := by
  induction content generalizing frame index log e l with
  | nil =>
    cases transcript
    cases replays
    exact ⟨stands, fun _ => rfl⟩
  | cons op rest ih =>
    have here := inLine op List.mem_cons_self
    have others := fun op member => inLine op (List.mem_cons_of_mem _ member)
    cases transcript with
    | stopped =>
      cases replays
      exact ⟨stands, nofun⟩
    | @raised _ _ _ _ _ _ _ log operation =>
      obtain ⟨stands, silent⟩ := operation_stands here operation replays stands
      have one : takenUp (.note (.dispatch op.operator index) :: (log ++ [])) = 1 :=
        takenUp_operation silent []
      rw [List.append_nil] at one
      rw [one]
      exact ⟨stands, nofun⟩
    | @next _ _ _ _ _ _ _ log later operation transcript =>
      obtain ⟨between, first, second⟩ := (replays_append surface hints).mp replays
      obtain ⟨stands, silent⟩ := operation_stands here operation first stands
      obtain ⟨reached, all⟩ := ih others transcript second stands
      rw [takenUp_operation silent later]
      exact ⟨reached, fun finished => congrArg (· + 1) (all finished)⟩

inductive Begun (surface : Surface K σ) (hints : Bool) : Matrix K → Engine K σ → Prop
  | beginText (e : Engine K σ) :
    Begun surface hints .identity (call surface hints (.beginText : Callback K Unit) e).2
  | textMatrix (m : Matrix K) (e : Engine K σ) :
    Begun surface hints m (call surface hints (.textMatrix m : Callback K Unit) e).2

theorem begun_stands (begun : Begun surface hints m e) :
    Stands m (.start e.state.text.leading) e := by
  have started : e.state.text.lineMatrix = m := by
    cases begun with
    | beginText =>
      simp only [call, beginText]
      split <;> rfl
    | textMatrix => rfl
  exact ⟨started.trans (Matrix.identity_followedBy m).symm, rfl⟩

end

theorem perform_shows {op : Operation} (shows : op.onlyShows = true) (l : Lines K) :
    l.perform op = l := by
  simp only [Operation.onlyShows, Bool.or_eq_true, beq_iff_eq] at shows
  rcases shows with kind | kind
  all_goals exact idle_perform kind rfl l

theorem performs_shows (content : List Operation) (l : Lines K) :
    (content.filter (!·.onlyShows)).foldl Lines.perform l = content.foldl Lines.perform l := by
  induction content generalizing l with
  | nil => rfl
  | cons op rest ih =>
    cases shows : op.onlyShows with
    | false =>
      rw [List.filter_cons_of_pos (by simp only [shows]; rfl)]
      exact ih (l.perform op)
    | true =>
      rw [List.filter_cons_of_neg (by simp only [shows]; exact Bool.false_ne_true), ih,
        List.foldl_cons, perform_shows shows]

variable [Scalar.Exact K]

theorem execute_stands (handler : Handler η) (cancelled : Engine K σ → Bool)
    (resolver : Resolver K R) {limit room : Nat} (within : room ≤ limit) (frame : Frame R)
    (index : Nat) {content : List Operation} (inLine : ∀ op ∈ content, op.InLine)
    (begun : Begun surface hints m e) {h h' : η} {ending : Ending} {log : Log K R}
    (ran : execute (Host.of (device surface hints) handler cancelled).logged resolver
      (formRunner (Host.of (device surface hints) handler cancelled).logged resolver limit room) frame
      index content ((e, h), []) = (ending, (after, h'), log)) :
    Stands m ((content.take (takenUp log)).foldl Lines.perform (.start e.state.text.leading))
        after ∧
      (ending = .ok .finished → takenUp log = content.length) := by
  obtain ⟨transcript, replays⟩ := execute_written within ran
  exact content_stands inLine transcript replays (begun_stands begun)

theorem execute_shows (handler : Handler η) (cancelled : Engine K σ → Bool)
    (resolver : Resolver K R) {limit room : Nat} (within : room ≤ limit) (frame : Frame R)
    (index : Nat) {first second : List Operation} (inLine : ∀ op ∈ first ++ second, op.InLine)
    (same : first.filter (!·.onlyShows) = second.filter (!·.onlyShows))
    (begun : Begun surface hints m e) {h h₁ h₂ : η} {one two : Engine K σ} {log later : Log K R}
    (ran : execute (Host.of (device surface hints) handler cancelled).logged resolver
      (formRunner (Host.of (device surface hints) handler cancelled).logged resolver limit room) frame
      index first ((e, h), []) = (.ok .finished, (one, h₁), log))
    (other : execute (Host.of (device surface hints) handler cancelled).logged resolver
      (formRunner (Host.of (device surface hints) handler cancelled).logged resolver limit room) frame
      index second ((e, h), []) = (.ok .finished, (two, h₂), later)) :
    one.state.text.lineMatrix = two.state.text.lineMatrix := by
  obtain ⟨stands, all⟩ := execute_stands handler cancelled resolver within frame index
    (fun op member => inLine op (List.mem_append_left _ member)) begun ran
  obtain ⟨also, every⟩ := execute_stands handler cancelled resolver within frame index
    (fun op member => inLine op (List.mem_append_right _ member)) begun other
  rw [all rfl, List.take_length, ← performs_shows, same, performs_shows] at stands
  rw [every rfl, List.take_length] at also
  exact stands.line.trans also.line.symm

/-- A run of content in line ends where the moves of its operations add up to, each move puts the
text where the line begins, and operations that only show text make no difference to it. -/
theorem line_positions (surface : Surface K σ) (hints : Bool) (handler : Handler η)
    (cancelled : Engine K σ → Bool) (resolver : Resolver K R) (limit room : Nat)
    (within : room ≤ limit) (frame : Frame R) (index : Nat) (m : Matrix K) (e : Engine K σ)
    (begun : Begun surface hints m e) (h : η) :
    let run (content : List Operation) :=
      execute (Host.of (device surface hints) handler cancelled).logged resolver
        (formRunner (Host.of (device surface hints) handler cancelled).logged resolver limit room)
        frame index content ((e, h), [])
    (∀ content ending after h' log, (∀ op ∈ content, op.InLine) →
      run content = (ending, (after, h'), log) →
      Stands m ((content.take (takenUp log)).foldl Lines.perform (.start e.state.text.leading))
          after ∧
        (ending = .ok .finished → takenUp log = content.length)) ∧
    (∀ (c : Callback K R) (before : Engine K σ), c.beginsLine = true →
      (call surface hints c before).2.state.text.matrix =
        (call surface hints c before).2.state.text.lineMatrix) ∧
    ∀ first second one two h₁ h₂ log later, (∀ op ∈ first ++ second, op.InLine) →
      first.filter (!·.onlyShows) = second.filter (!·.onlyShows) →
      run first = (.ok .finished, (one, h₁), log) →
      run second = (.ok .finished, (two, h₂), later) →
      one.state.text.lineMatrix = two.state.text.lineMatrix := by
  refine ⟨?_, ?_, ?_⟩
  · intro content ending after h' log inLine ran
    exact execute_stands handler cancelled resolver within frame index inLine begun ran
  · intro c before begins
    exact call_begins begins
  · intro first second one two h₁ h₂ log later inLine same ran other
    exact execute_shows handler cancelled resolver within frame index inLine same begun ran other

def paragraph : List Operation :=
  [⟨"TL", [.integer 14]⟩, ⟨"Tj", [.string [65] .literal]⟩, ⟨"T*", []⟩,
    ⟨"Td", [.integer 5, .integer 2]⟩, ⟨"TD", [.integer 3, .integer (-7)]⟩,
    ⟨"'", [.string [66] .literal]⟩]

theorem paragraph_inLine : ∀ op ∈ paragraph, op.InLine := by
  simp only [paragraph, List.forall_mem_cons]
  refine ⟨⟨.setLeading, rfl, rfl⟩, ⟨.showText, rfl, rfl⟩, ⟨.nextLine, rfl, rfl⟩,
    ⟨.moveText, rfl, rfl⟩, ⟨.moveTextSetLeading, rfl, rfl⟩, ⟨.nextLineShowText, rfl, rfl⟩, ?_⟩
  exact List.forall_mem_nil _

def opened : Engine ℚ Unit :=
  (call (.silent ℚ) false (.beginText : Callback ℚ Unit)
    (call (.silent ℚ) false (.font "F" (some (.simple "F" 65 [500] 0)) 10 : Callback ℚ Unit)
      (start (.initial ⟨2, 0, 0, 2, 0, 0⟩) 1 ())).2).2

def paragraphRun : Ending × (Engine ℚ Unit × Records) × Log ℚ Unit :=
  let host := (Host.of (device (.silent ℚ) false) (Records.handler true) fun _ => false).logged
  execute host (.none ℚ Unit) (formRunner host (.none ℚ Unit) 10 10) ⟨(), none, none, none, 0⟩ 0
    paragraph ((opened, .empty), [])

theorem line_positions_paragraph :
    paragraphRun.1 = .ok .finished ∧
      Stands .identity ⟨8, -26, 7⟩ paragraphRun.2.1.1 := by
  have begun : Begun (.silent ℚ) false .identity opened := .beginText _
  have finished : paragraphRun.1 = .ok .finished := by rfl
  obtain ⟨runs, -, -⟩ := line_positions (R := Unit) (.silent ℚ) false (Records.handler true)
    (fun _ => false) (.none ℚ Unit) 10 10 (Nat.le_refl 10) ⟨(), none, none, none, 0⟩ 0 .identity
    opened begun .empty
  obtain ⟨stands, all⟩ := runs paragraph paragraphRun.1 paragraphRun.2.1.1 paragraphRun.2.1.2
    paragraphRun.2.2 paragraph_inLine rfl
  have sums : paragraph.foldl Lines.perform (.start opened.state.text.leading) =
      (⟨8, -26, 7⟩ : Lines ℚ) := by
    decide +kernel
  rw [all finished, List.take_length, sums] at stands
  exact ⟨finished, stands⟩

end Engine
end PageMarks
