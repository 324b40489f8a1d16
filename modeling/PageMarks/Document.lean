import PageMarks.Object

/-! Documents: a table of numbered objects and a trailer. -/

namespace PageMarks

inductive DocumentError
  | missing (id : ObjectId)
  | referenceLimit
  | wrongType (expected found : String)
  | undecoded (reason : String)

namespace DocumentError

def message : DocumentError → String
  | missing id => "object ID " ++ toString id.number ++ " " ++ toString id.generation ++ " not found"
  | referenceLimit => "dereferencing object reached limit, may indicate a reference cycle"
  | wrongType expected found =>
    "object has wrong type; expected type " ++ expected ++ " but found type " ++ found
  | undecoded reason => reason

end DocumentError

/-- `objects` holds each id once. -/
structure Document where
  objects : List (ObjectId × Object)
  trailer : Dictionary

namespace Document

def empty : Document := ⟨[], []⟩

def insert (id : ObjectId) (value : Object) (doc : Document) : Document :=
  { doc with objects := doc.objects.filter (·.1 != id) ++ [(id, value)] }

def find? (doc : Document) (id : ObjectId) : Option Object :=
  (doc.objects.find? (·.1 == id)).map (·.2)

/-- The value behind a chain of references; `room` more may follow the first. -/
def follow (doc : Document) (id : ObjectId) (room : Nat) : Except DocumentError Object :=
  match doc.find? id with
  | none => .error (.missing id)
  | some (.reference next) =>
    match room with
    | 0 => match doc.find? next with
      | none => .error (.missing next)
      | some _ => .error .referenceLimit
    | room + 1 => doc.follow next room
  | some value => .ok value

def chainLimit : Nat := 128

def get (doc : Document) (id : ObjectId) : Except DocumentError Object := doc.follow id chainLimit

def resolve (doc : Document) : Object → Except DocumentError Object
  | .reference id => doc.get id
  | value => .ok value

def resolve? (doc : Document) (value : Object) : Option Object := (doc.resolve value).toOption

def getDictionary (doc : Document) (id : ObjectId) : Except DocumentError Dictionary :=
  match doc.get id with
  | .error e => .error e
  | .ok (.dictionary entries) => .ok entries
  | .ok value => .error (.wrongType "Dictionary" value.kind)

end Document
end PageMarks
