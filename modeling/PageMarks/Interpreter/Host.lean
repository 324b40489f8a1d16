import PageMarks.Device

/-!
The world an interpreter works in: a device, somebody who hears of warnings and decides about fatal
conditions, a request to stop that may come at any time, and a place for notes on how far it got.
-/

namespace PageMarks

/-- Progress of a run: an operation taken up, operations given up from an index on, a form gone into
and left again. The page itself is at depth one. -/
inductive Note
  | dispatch (operator : String) (index : Nat)
  | stop (index : Nat)
  | enter (form : String) (depth : Nat)
  | leave (form : String)
  deriving DecidableEq, Repr

structure Handler (η : Type) where
  warn : Warning → η → η
  /-- Swallow a fatal condition, or raise one in its place. -/
  offer : Failure → η → Except Failure Unit × η

structure Host (K R ω : Type) where
  features : ω → Features
  call : Callback K R → ω → Outcome × ω
  warn : Warning → ω → ω
  offer : Failure → ω → Except Failure Unit × ω
  note : Note → ω → ω
  cancelled : ω → Bool

def Host.of {K R σ η : Type} (device : Device K R σ) (handler : Handler η)
    (cancelled : σ → Bool) : Host K R (σ × η) where
  features w := device.features w.1
  call c w :=
    let (outcome, s) := device.call c w.1
    (outcome, s, w.2)
  warn warning w := (w.1, handler.warn warning w.2)
  offer failure w :=
    let (answer, h) := handler.offer failure w.2
    (answer, w.1, h)
  note _ w := w
  cancelled w := cancelled w.1

def Handler.strict (η : Type) : Handler η where
  warn _ h := h
  offer failure h := (.error failure, h)

structure Records where
  warnings : List Warning
  failures : List Failure

namespace Records

def empty : Records := ⟨[], []⟩

def handler (swallow : Bool) : Handler Records where
  warn warning r := { r with warnings := r.warnings ++ [warning] }
  offer failure r :=
    if swallow then (.ok (), { r with failures := r.failures ++ [failure] })
    else (.error failure, r)

end Records
end PageMarks
