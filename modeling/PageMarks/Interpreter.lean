import PageMarks.Interpreter.Host
import PageMarks.Interpreter.Plan

/-!
Running content. Operations are performed in order; warnings are reported and passed over, fatal
conditions are offered to the handler, and a form runs between a save and a restore in a frame of
its own. What a handler raises ends every run that is under way, and is not offered again.
-/

namespace PageMarks.Interpreter

inductive Completion
  | finished
  /-- Stopped before an operation, on request. -/
  | cancelled
  deriving DecidableEq, Repr

abbrev Ending := Except Failure Completion

structure Site where
  operator : String
  index : Nat

variable {K R ω : Type} (host : Host K R ω)

def perform : List (Callback K R) → ω → Outcome × ω
  | [], w => (.ok (), w)
  | c :: rest, w =>
    match host.call c w with
    | (.ok (), w) => perform rest w
    | failed => failed

def report (site : Site) (warning : Warning) (w : ω) : ω :=
  host.warn (warning.attach site.operator site.index) w

/-- Warnings about callbacks that the interpreter makes on its own account do not stop it. -/
def tolerate (site : Site) : Outcome × ω → Outcome × ω
  | (.error (.warning warning), w) => (.ok (), report host site warning w)
  | other => other

def wrongCount (name : String) (space : ColorSpace) (wanted : Nat) : String :=
  "/" ++ name ++ " has " ++ toString space.components ++ " components, expected " ++
    toString wanted

def unresolved (name : String) (error : ResolveError) : String :=
  "/" ++ name ++ " could not be resolved: " ++ error.message

def badDefault (name problem : String) (w : ω) : Option ColorSpace × ω :=
  (none, host.warn (.aboutResource .defaultColorSpace problem name) w)

/-- A default space, unless it is absent or unfit. -/
def defaultSpace (resolver : Resolver K R) (scope : R) (name : String) (wanted : Nat) (w : ω) :
    Option ColorSpace × ω :=
  match resolver.colorSpace scope name with
  | .error error => badDefault host name (unresolved name error) w
  | .ok none => (none, w)
  | .ok (some space) =>
    if space.components = wanted then (some space, w)
    else badDefault host name (wrongCount name space wanted) w

def openFrame (resolver : Resolver K R) (scope : R) (w : ω) : Frame R × ω :=
  if host.features w .colorSpace then
    let (gray, w) := defaultSpace host resolver scope "DefaultGray" 1 w
    let (rgb, w) := defaultSpace host resolver scope "DefaultRGB" 3 w
    let (cmyk, w) := defaultSpace host resolver scope "DefaultCMYK" 4 w
    (⟨scope, gray, rgb, cmyk, 0⟩, w)
  else (⟨scope, none, none, none, 0⟩, w)

abbrev FormRunner (K R ω : Type) := Site → String → Form K R → R → ω → Outcome × ω

def follow (forms : FormRunner K R ω) (site : Site) (scope : R) (sequel : Sequel K R) (w : ω) :
    Outcome × ω :=
  match sequel with
  | .nothing => (.ok (), w)
  | .report warning => (.error (.warning warning), w)
  | .enter name form => forms site name form scope w

def carryOut (forms : FormRunner K R ω) (site : Site) (scope : R) (p : Plan K R) (w : ω) :
    Outcome × ω :=
  match perform host p.calls w with
  | (.ok (), w) => follow forms site scope p.sequel w
  | failed => failed

/-- Hear what an operation ended in. An abort has been offered already. -/
def settle (site : Site) (sections : Nat) : Outcome × ω → Except Failure Unit × ω
  | (.ok (), w) => (.ok (), w)
  | (.error .unsupported, w) =>
    if sections = 0 then
      let warning := Warning.plain .unsupportedOperator
        ("operator '" ++ site.operator ++ "' is not supported")
      (.ok (), report host site warning w)
    else (.ok (), w)
  | (.error (.warning warning), w) => (.ok (), report host site warning w)
  | (.error (.fatal failure), w) => host.offer failure w
  | (.error (.abort failure), w) => (.error failure, w)

variable [Scalar K]

def operate (resolver : Resolver K R) (forms : FormRunner K R ω) (frame : Frame R) (site : Site)
    (op : Operation) (w : ω) : Except Failure Unit × Nat × ω :=
  match plan resolver (host.features w) frame op with
  | .error signal =>
    let (answer, w) := settle host site frame.sections (.error signal, w)
    (answer, frame.sections, w)
  | .ok p =>
    let (answer, w) := settle host site p.sections (carryOut host forms site frame.scope p w)
    (answer, p.sections, w)

def execute (resolver : Resolver K R) (forms : FormRunner K R ω) (frame : Frame R) (index : Nat) :
    List Operation → ω → Ending × ω
  | [], w => (.ok .finished, w)
  | op :: rest, w =>
    if host.cancelled w then (.ok .cancelled, host.note (.stop index) w)
    else
      let w := host.note (.dispatch op.operator index) w
      match operate host resolver forms frame ⟨op.operator, index⟩ op w with
      | (.error failure, _, w) => (.error failure, w)
      | (.ok (), sections, w) => execute resolver forms { frame with sections } (index + 1) rest w

def clipToBox (box : Rect K) : List (Callback K R) :=
  [.rectangle box.x0 box.y0 box.width box.height, .clip .nonzero, .endPath]

def setUp (site : Site) (form : Form K R) (w : ω) : Outcome × ω :=
  match tolerate host site (host.call (.concat form.matrix) w) with
  | (.ok (), w) =>
    match form.box with
    | none => (.ok (), w)
    | some box => perform host (clipToBox box) w
  | failed => failed

def runBody (run : R → List Operation → ω → Ending × ω) (site : Site) (form : Form K R)
    (scope : R) (w : ω) : Outcome × ω :=
  match setUp host site form w with
  | (.ok (), w) =>
    match run (form.scope.getD scope) form.content w with
    | (.ok _, w) => (.ok (), w)
    | (.error failure, w) => (.error (.abort failure), w)
  | failed => failed

/-- The restore is made however the body ended, and a body that failed has the last word. -/
def leaveForm (site : Site) (name : String) (body : Outcome) (w : ω) : Outcome × ω :=
  let (restored, w) := host.call .restore w
  let w := host.note (.leave name) w
  match body with
  | .ok () => tolerate host site (restored, w)
  | .error signal => (.error signal, w)

def runForm (depth : Nat) (run : R → List Operation → ω → Ending × ω) : FormRunner K R ω :=
  fun site name form scope w =>
    match tolerate host site (host.call .save (host.note (.enter name depth) w)) with
    | (.ok (), w) =>
      let (body, w) := runBody host run site form scope w
      leaveForm host site name body w
    | failed => failed

def tooDeep (limit : Nat) : FormRunner K R ω :=
  fun _ name _ _ w =>
    (.error (.warning (.aboutResource .formDepthExceeded
      ("form nesting deeper than " ++ toString limit) name)), w)

def run (resolver : Resolver K R) (limit : Nat) : Nat → R → List Operation → ω → Ending × ω
  | 0, scope, content, w =>
    let (frame, w) := openFrame host resolver scope w
    execute host resolver (tooDeep limit) frame 0 content w
  | room + 1, scope, content, w =>
    let (frame, w) := openFrame host resolver scope w
    execute host resolver (runForm host (limit - room) (run resolver limit room)) frame 0 content w

def formRunner (resolver : Resolver K R) (limit : Nat) : Nat → FormRunner K R ω
  | 0 => tooDeep limit
  | room + 1 => runForm host (limit - room) (run host resolver limit room)

theorem run_eq (resolver : Resolver K R) (limit room : Nat) (scope : R) (content : List Operation)
    (w : ω) :
    run host resolver limit room scope content w =
      execute host resolver (formRunner host resolver limit room)
        (openFrame host resolver scope w).1 0 content (openFrame host resolver scope w).2 := by
  cases room <;> rfl

def process (resolver : Resolver K R) (limit : Nat) (scope : R) (content : List Operation) (w : ω) :
    Ending × ω :=
  run host resolver limit limit scope content w

end PageMarks.Interpreter
