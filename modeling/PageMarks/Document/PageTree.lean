import PageMarks.Document

/-!
The pages of a document, in the order of its page tree. A tree may refer back into itself: every
child looked at is paid for from a budget as large as the object table.
-/

namespace PageMarks.Document

/-- An array, in place or behind at most `chainLimit` references, its own included. -/
def childList? (doc : Document) : Object → Option (List Object)
  | .array kids => some kids
  | .reference id => (doc.follow id (chainLimit - 1)).toOption.bind Object.array?
  | _ => none

def children (doc : Document) (id : ObjectId) : List Object :=
  match doc.getDictionary id with
  | .error _ => []
  | .ok node => ((Dictionary.entry? node "Kids").bind doc.childList?).getD []

inductive TreeEntry
  | page
  | node
  | other
  deriving DecidableEq

def treeEntry (doc : Document) (id : ObjectId) : TreeEntry :=
  match doc.getDictionary id with
  | .error _ => .other
  | .ok entries =>
    match Dictionary.entry? entries "Type" with
    | some (.name type) =>
      if type = Text.Utf8.encode "Page" then .page
      else if type = Text.Utf8.encode "Pages" then .node
      else .other
    | _ => .other

def treeDepthLimit : Nat := 256

/-- Walk `kids`, then the lists set aside; at most `treeDepthLimit` are set aside at a time. -/
def walk (doc : Document) (budget : Nat) (kids : List Object) (aside : List (List Object)) :
    List ObjectId :=
  match kids, aside with
  | [], [] => []
  | [], next :: aside => walk doc budget next aside
  | kid :: kids, aside =>
    match budget with
    | 0 => []
    | budget + 1 =>
      match kid with
      | .reference id =>
        match doc.treeEntry id with
        | .page => id :: walk doc budget kids aside
        | .node =>
          if aside.length < treeDepthLimit then
            walk doc budget (doc.children id) (if kids.isEmpty then aside else kids :: aside)
          else walk doc budget kids aside
        | .other => walk doc budget kids aside
      | _ => walk doc budget kids aside
termination_by (budget, aside.length)

def rootKids (doc : Document) : List Object :=
  match Dictionary.entry? doc.trailer "Root" with
  | some (.reference root) =>
    match doc.getDictionary root with
    | .error _ => []
    | .ok catalog =>
      match Dictionary.entry? catalog "Pages" with
      | some (.reference tree) => doc.children tree
      | _ => []
  | _ => []

def pages (doc : Document) : List ObjectId := doc.walk doc.objects.length doc.rootKids []

def page? (doc : Document) : Nat → Option ObjectId
  | 0 => none
  | n + 1 => doc.pages[n]?

end PageMarks.Document
