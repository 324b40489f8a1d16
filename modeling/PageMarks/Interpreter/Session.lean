import PageMarks.Interpreter

/-!
An interpreter that is kept between runs. It has a stack of frames, onto which every run of content
pushes one, and it may hold a request to stop; each operation has a slot for what was derived from its
operands, which is written once and kept.
-/

namespace PageMarks.Interpreter

/-- What the operands of an inline image come to: the image, or a text that says what is wrong. -/
abbrev Derived (K : Type) := Except String (InlineImage K)

def derive {K : Type} [Scalar K] (operands : List Object) : Derived K :=
  (InlineImage.ofContent operands).mapError ResolveError.message

/-- Where operations have their slots. One operation may be met in several places, each with a slot of
its own, but a slot belongs to the operands of one. -/
structure Placement (ω κ : Type) where
  slot : ω → Operation → κ
  own : ∀ {w v : ω} {op other : Operation}, slot w op = slot v other → op.operands = other.operands

structure Session (K R ω κ : Type) where
  frames : List (Frame R)
  token : Option (ω → Bool)
  slots : κ → Option (Derived K)
  world : ω

namespace Session

variable {K R ω κ α : Type}

def new (w : ω) : Session K R ω κ := ⟨[], none, fun _ => none, w⟩

def act (f : ω → α × ω) (s : Session K R ω κ) : α × Session K R ω κ :=
  let (a, w) := f s.world
  (a, { s with world := w })

def stopped (s : Session K R ω κ) : Bool := s.token.any fun token => token s.world

def sections (s : Session K R ω κ) : Nat := (s.frames.head?.map Frame.sections).getD 0

variable (host : Host K R ω)

abbrev FormRunner (K R ω κ : Type) :=
  Site → String → Form K R → R → Session K R ω κ → Outcome × Session K R ω κ

def settle (site : Site) (outcome : Outcome) (s : Session K R ω κ) :
    Except Failure Unit × Session K R ω κ :=
  s.act fun w => Interpreter.settle host site s.sections (outcome, w)

def carryOut (forms : FormRunner K R ω κ) (site : Site) (scope : R) (p : Plan K R)
    (s : Session K R ω κ) : Outcome × Session K R ω κ :=
  match s.act (perform host p.calls) with
  | (.ok (), s) =>
    match p.sequel with
    | .nothing => (.ok (), s)
    | .report warning => (.error (.warning warning), s)
    | .enter name form => forms site name form scope s
  | failed => failed

variable [DecidableEq κ] [Scalar K] (place : Placement ω κ)

def remember (op : Operation) (s : Session K R ω κ) : Derived K × Session K R ω κ :=
  let key := place.slot s.world op
  match s.slots key with
  | some derived => (derived, s)
  | none =>
    let derived := derive op.operands
    (derived, { s with slots := fun other => if other = key then some derived else s.slots other })

variable (resolver : Resolver K R)

def rememberedImage (features : Features) (frame : Frame R) (op : Operation) :
    Derived K → Except Signal (Callback K R)
  | .error text => complain op ("malformed inline image: " ++ text)
  | .ok image =>
    match image.space, image.spaceName with
    | none, some name => do
      return .drawInlineImage image (← spaceNamed resolver features frame name)
    | space, _ => return .drawInlineImage image space

def prepare (frame : Frame R) (op : Operation) (s : Session K R ω κ) :
    Except Signal (Plan K R) × Session K R ω κ :=
  if op.kind? = some .inlineImage then
    let (derived, s) := s.remember place op
    let call := rememberedImage resolver (host.features s.world) frame op derived
    (call.map fun call => calls frame [call], s)
  else (plan resolver (host.features s.world) frame op, s)

def operate (forms : FormRunner K R ω κ) (site : Site) (op : Operation) (s : Session K R ω κ) :
    Except Failure Unit × Session K R ω κ :=
  match s.frames with
  | [] => (.ok (), s) -- content is always run in a frame
  | frame :: below =>
    match prepare host place resolver frame op s with
    | (.error signal, s) => settle host site (.error signal) s
    | (.ok p, s) =>
      let (outcome, s) := carryOut host forms site frame.scope p
        { s with frames := { frame with sections := p.sections } :: below }
      settle host site outcome s

def execute (forms : FormRunner K R ω κ) (index : Nat) :
    List Operation → Session K R ω κ → Ending × Session K R ω κ
  | [], s => (.ok .finished, s)
  | op :: rest, s =>
    if s.stopped then (.ok .cancelled, { s with world := host.note (.stop index) s.world })
    else
      let s := { s with world := host.note (.dispatch op.operator index) s.world }
      match operate host place resolver forms ⟨op.operator, index⟩ op s with
      | (.error failure, s) => (.error failure, s)
      | (.ok (), s) => execute forms (index + 1) rest s

/-- Run content in a frame of its own, which is taken off the stack however the content ends. -/
def runFrame (forms : FormRunner K R ω κ) (scope : R) (content : List Operation)
    (s : Session K R ω κ) : Ending × Session K R ω κ :=
  let (frame, s) := s.act (openFrame host resolver scope)
  let (ending, s) := execute host place resolver forms 0 content { s with frames := frame :: s.frames }
  (ending, { s with frames := s.frames.tail })

def runBody (run : R → List Operation → Session K R ω κ → Ending × Session K R ω κ) (site : Site)
    (form : Form K R) (scope : R) (s : Session K R ω κ) : Outcome × Session K R ω κ :=
  match s.act (setUp host site form) with
  | (.error signal, s) => (.error signal, s)
  | (.ok (), s) =>
    match run (form.scope.getD scope) form.content s with
    | (.ok _, s) => (.ok (), s)
    | (.error failure, s) => (.error (.abort failure), s)

def runForm (limit : Nat)
    (run : R → List Operation → Session K R ω κ → Ending × Session K R ω κ) :
    FormRunner K R ω κ :=
  fun site name form scope s =>
    if limit < s.frames.length then s.act (tooDeep limit site name form scope)
    else
      let entering (w : ω) :=
        tolerate host site (host.call .save (host.note (.enter name s.frames.length) w))
      match s.act entering with
      | (.error signal, s) => (.error signal, s)
      | (.ok (), s) =>
        let (body, s) := runBody host run site form scope s
        s.act (leaveForm host site name body)

/-- How forms are run. The stack decides which are skipped; no more than `room` are ever in each
other. -/
def formRunner (limit : Nat) : Nat → FormRunner K R ω κ
  | 0 => fun site name form scope => act (tooDeep limit site name form scope)
  | room + 1 =>
    runForm host limit (runFrame host place resolver (formRunner limit room))

def run (limit : Nat) (scope : R) (content : List Operation) (s : Session K R ω κ) :
    Ending × Session K R ω κ :=
  runFrame host place resolver (formRunner host place resolver limit limit) scope content s

def process (limit : Nat) (scope : R) (content : List Operation) (s : Session K R ω κ) :
    Ending × Session K R ω κ :=
  run host place resolver limit scope content { s with token := none }

def processCancellable (limit : Nat) (token : ω → Bool) (scope : R) (content : List Operation)
    (s : Session K R ω κ) : Ending × Session K R ω κ :=
  let (ending, s) := run host place resolver limit scope content { s with token := some token }
  (ending, { s with token := none })

structure Job (R ω : Type) where
  token : Option (ω → Bool)
  scope : R
  content : List Operation

def serve (limit : Nat) (job : Job R ω) (s : Session K R ω κ) : Ending × Session K R ω κ :=
  match job.token with
  | none => process host place resolver limit job.scope job.content s
  | some token => processCancellable host place resolver limit token job.scope job.content s

end Session
end PageMarks.Interpreter
