import PageMarks.Graphics.State

/-! The current graphics state above a bounded stack of saved ones. -/

namespace PageMarks

inductive StackError
  | overflow (limit : Nat)
  | underflow
  deriving DecidableEq, Repr

def StackError.message : StackError → String
  | overflow limit => "graphics state stack overflow (limit " ++ toString limit ++ ")"
  | underflow => "graphics state stack underflow: restore without matching save"

/-- Saved states, the most recent first. -/
structure StateStack (K : Type) where
  current : GraphicsState K
  saved : List (GraphicsState K)
  limit : Nat

namespace StateStack

variable {K : Type}

def start (initial : GraphicsState K) (limit : Nat) : StateStack K := ⟨initial, [], limit⟩

def depth (s : StateStack K) : Nat := s.saved.length

def save (s : StateStack K) : Except StackError (StateStack K) :=
  if s.limit ≤ s.depth then .error (.overflow s.limit)
  else .ok { s with saved := s.current :: s.saved }

def restore (s : StateStack K) : Except StackError (StateStack K) :=
  match s.saved with
  | [] => .error .underflow
  | state :: saved => .ok { s with current := state, saved }

def modify (f : GraphicsState K → GraphicsState K) (s : StateStack K) : StateStack K :=
  { s with current := f s.current }

end StateStack
end PageMarks
