import PageMarks.Interpreter

/-! Runs written down: a host that keeps a log of all it is asked and told, in order. -/

namespace PageMarks

inductive Entry (K R : Type)
  | note (note : Note)
  | call (callback : Callback K R) (answer : Outcome)
  | warning (warning : Warning)
  | offer (failure : Failure) (answer : Except Failure Unit)

abbrev Log (K R : Type) := List (Entry K R)

/-- The device did as it was asked, with a warning at most. -/
def accepted : Outcome → Bool
  | .ok () | .error (.warning _) => true
  | _ => false

namespace Interpreter

variable {K R : Type}

def callbacks (log : Log K R) : List (Callback K R) :=
  log.filterMap fun
    | .call c _ => some c
    | _ => none

def notes (log : Log K R) : List Note :=
  log.filterMap fun
    | .note note => some note
    | _ => none

theorem callbacks_append (log later : Log K R) :
    callbacks (log ++ later) = callbacks log ++ callbacks later := List.filterMap_append

theorem notes_append (log later : Log K R) : notes (log ++ later) = notes log ++ notes later :=
  List.filterMap_append

end Interpreter

def Host.logged {K R ω : Type} (host : Host K R ω) : Host K R (ω × Log K R) where
  features w := host.features w.1
  call c w :=
    let (answer, v) := host.call c w.1
    (answer, v, w.2 ++ [.call c answer])
  warn warning w := (host.warn warning w.1, w.2 ++ [.warning warning])
  offer failure w :=
    let (answer, v) := host.offer failure w.1
    (answer, v, w.2 ++ [.offer failure answer])
  note note w := (host.note note w.1, w.2 ++ [.note note])
  cancelled w := host.cancelled w.1

def Interpreter.history {K R ω : Type} [Scalar K] (host : Host K R ω) (resolver : Resolver K R)
    (limit : Nat) (scope : R) (content : List Operation) (w : ω) : Log K R :=
  (process host.logged resolver limit scope content (w, [])).2.2

end PageMarks
