import PageMarks.Proofs.Interpreter.Asking
import PageMarks.Proofs.Text.Utf8
import PageMarks.Resource.Scope

/-!
Names of resources as bytes. A name is read as text before it is looked up, so it is looked up by the
bytes of that text: by itself if it is well-formed, by another name if something in it was replaced.
The main statement says so of every kind of resource and of every operation that asks for one.
-/

namespace PageMarks

def ResourceKind.category : ResourceKind → String
  | colorSpace => "ColorSpace"
  | font => "Font"
  | pattern => "Pattern"
  | shading => "Shading"
  | parameters => "ExtGState"
  | properties => "Properties"
  | xobject => "XObject"

theorem Dictionary.get?_eq_none {key : Bytes} {d : Dictionary} :
    d.get? key = none ↔ ∀ entry ∈ d, entry.1 ≠ key := by
  rw [get?, Option.map_eq_none_iff, List.find?_eq_none]
  simp only [beq_iff_eq, ne_eq]

namespace Resource.Scope

open Interpreter Text

variable {K : Type} [Scalar K]

def reading [Decoder] (s : Scope) (name : String) :
    (kind : ResourceKind) → Object → Except ResolveError (kind.Value K Scope)
  | .colorSpace, value => Resource.colorSpace (some s.document) value
  | .font, value => do Resource.font s.document name (← entriesOf .font name value)
  | .pattern, value => do
    let entries ← headerOf .pattern name value
    return ⟨(entries.long? "PatternType").getD 1, entries.matrix, entries⟩
  | .shading, value => do
    let entries ← headerOf .shading name value
    let space ← spaceEntry? s.document entries
    return ⟨(entries.long? "ShadingType").getD 0, space, entries⟩
  | .parameters, value => do Resource.parameters s.document (← entriesOf .parameters name value)
  | .properties, value => entriesOf .propertyList name value
  | .xobject, .stream entries data =>
    match Dictionary.name? entries "Subtype" with
    | some "Form" => (s.form entries data).map .form
    | some "Image" => (s.image entries).map .image
    | some "PS" => .ok .postScript
    | other => .error (.unknownSubtype name other)
  | .xobject, _ => .error (.notStream name)

theorem find_eq_lookup [Decoder] (s : Scope) (kind : ResourceKind) (name : String) :
    (resolver (K := K)).find s kind name = s.lookup kind.category name (s.reading name kind) := by
  cases kind
  case xobject =>
    simp only [Resolver.find, resolver, xobject, lookup, ResourceKind.category]
    congr
    funext value
    cases value <;> rfl
  all_goals rfl

def table (s : Scope) (category : String) : Except ResolveError Dictionary :=
  match s.entries.entry? category with
  | none => .ok []
  | some value =>
    match s.document.resolve value with
    | .error e => .error (.document e)
    | .ok (.dictionary entries) => .ok entries
    | .ok _ => .error (.categoryNotDictionary category)

def valueAs [Decoder] (s : Scope) (kind : ResourceKind) (name : String) (value : Object) :
    Except ResolveError (kind.Value K Scope) :=
  match s.document.resolve value with
  | .error e => .error (.document e)
  | .ok object => s.reading name kind object

theorem find_eq_table [Decoder] (s : Scope) (kind : ResourceKind) (name : String) :
    (resolver (K := K)).find s kind name =
      match s.table kind.category with
      | .error e => .error e
      | .ok table =>
        match table.get? (Utf8.encode name) with
        | none => .ok none
        | some value => (s.valueAs kind name value).map some := by
  rw [find_eq_lookup, lookup, find?, table]
  rcases s.entries.entry? kind.category with _ | value
  · rfl
  · dsimp only
    rcases s.document.resolve value with e | object
    · rfl
    · cases object
      case dictionary entries =>
        dsimp only [followed?, Dictionary.entry?]
        rcases Dictionary.get? (Utf8.encode name) entries with _ | value
        · rfl
        · dsimp only [valueAs]
          rcases s.document.resolve value with e | object <;> rfl
      all_goals rfl

end Resource.Scope

namespace Interpreter

open Text Resource

/-- Where an operation has the name of a resource among its operands. -/
def nameOperand? (op : Operation) : ResourceKind → Option Object
  | .pattern => op.operands.getLast?
  | .properties => op.operands[1]?
  | _ => op.operands[0]?

variable {K : Type} [Scalar K] {op : Operation} {kind : ResourceKind} {n : Bytes}

omit [Scalar K] in
theorem name_decoded {i : Nat} {name : String} (operand : op.operands[i]? = some (.name n))
    (named : op.name i = .ok name) : name = Utf8.decode n := by
  rw [Operation.name, Operation.operand, operand] at named
  cases named
  rfl

theorem asks_decoded {name : String} (operand : nameOperand? op kind = some (.name n))
    (asks : Asks K op kind name) : name = Utf8.decode n := by
  cases asks with
  | space _ named | font _ named | shading _ named | parameters _ named | xobject _ named =>
    exact name_decoded operand named
  | properties _ _ _ named => exact name_decoded operand named
  | pattern _ named =>
    have last : op.operands.getLast? = some (.name n) := operand
    rw [Operation.lastName?, last] at named
    cases named
    rfl
  | inlineSpace _ read =>
    have first : op.operands[0]? = some (.name n) := operand
    obtain ⟨_, _ | ⟨object, rest⟩⟩ := op
    · cases first
    · cases first
      cases read

/-- An operation with a name for an operand looks it up by the bytes of its text, which are its own
bytes exactly if those are well-formed. It is handed what is under that key in the table of its kind,
and reports the name missing exactly if no key of the table is that one. -/
theorem names_resolved [Decoder] {features : Features} {frame : Frame Scope}
    (operand : nameOperand? op kind = some (.name n)) (wanted : features kind = true) :
    (Utf8.encode (Utf8.decode n) = n ↔ Utf8.Valid n) ∧
    ∀ name table, Asks K op kind name → frame.scope.table kind.category = .ok table →
      name = Utf8.decode n ∧
      (∀ value, table.get? (Utf8.encode (Utf8.decode n)) = some value →
        Answered kind name ((frame.scope.valueAs kind name value).map some)
          (plan (Scope.resolver (K := K)) features frame op)) ∧
      (Misses kind name (plan (Scope.resolver (K := K)) features frame op) ↔
        ∀ entry ∈ table, entry.1 ≠ Utf8.encode (Utf8.decode n)) := by
  refine ⟨Utf8.encode_decode_iff n, fun name table asks tabled => ?_⟩
  obtain rfl := asks_decoded operand asks
  have answered : Answered kind (Utf8.decode n) _
      (plan (Scope.resolver (K := K)) features frame op) := plan_answered _ asks wanted
  rw [Scope.find_eq_table, tabled] at answered
  refine ⟨rfl, fun value found => ?_, ?_⟩
  · simpa only [found] using answered
  · rw [answered_misses answered, ← Dictionary.get?_eq_none]
    rcases found : table.get? (Utf8.encode (Utf8.decode n)) with _ | value
    · simp only [found]
    · simp only [found, reduceCtorEq, iff_false]
      rcases frame.scope.valueAs (K := K) kind (Utf8.decode n) value with _ | _ <;> nofun

def misnamed : Scope where
  document := .empty
  entries :=
    [(Utf8.encode "ExtGState", .dictionary [([0xFF], .dictionary [])]),
      (Utf8.encode "ColorSpace",
        .dictionary [(Utf8.encode "DeviceGray", .name (Utf8.encode "DeviceRGB"))])]

def misnamedFrame : Frame Scope := ⟨misnamed, none, none, none, 0⟩

/-- The name is sought under the three bytes of the character that replaces its one. -/
theorem names_resolved_replaced : letI := Decoder.none
    Misses .parameters "\uFFFD" (plan (Scope.resolver (K := Float)) (fun _ => true) misnamedFrame
      ⟨"gs", [.name [0xFF]]⟩) := by
  have asks : Asks Float ⟨"gs", [.name [0xFF]]⟩ .parameters "\uFFFD" := .parameters rfl rfl
  have operand : nameOperand? ⟨"gs", [.name [0xFF]]⟩ .parameters = some (.name [0xFF]) := rfl
  have tabled : misnamedFrame.scope.table "ExtGState" = .ok [([0xFF], .dictionary [])] := rfl
  let := Decoder.none
  refine ((names_resolved operand rfl).2 _ _ asks tabled).2.2.2 ?_
  decide

/-- The table has the name itself for a key, and yet it is reported missing; and a space under the name
of a device family is not the one that is selected. -/
theorem own_key_unfound : letI := Decoder.none
    (∃ table, misnamed.table "ExtGState" = .ok table ∧ ∃ entry ∈ table, entry.1 = [0xFF]) ∧
      Misses .parameters "\uFFFD" (plan (Scope.resolver (K := Float)) (fun _ => true) misnamedFrame
        ⟨"gs", [.name [0xFF]]⟩) ∧
      Scope.colorSpace misnamed "DeviceGray" = .ok (some .deviceRGB) ∧
      plan (Scope.resolver (K := Float)) (fun _ => true) misnamedFrame
          ⟨"cs", [.name (Utf8.encode "DeviceGray")]⟩ =
        .ok ⟨[.colorSpace .fill "DeviceGray" (some .deviceGray)], .nothing, 0⟩ :=
  ⟨⟨_, rfl, _, List.mem_singleton_self _, rfl⟩, .inl rfl, rfl, rfl⟩

end Interpreter
end PageMarks
