import Mathlib.Data.List.Forall2
import PageMarks.Page
import PageMarks.Proofs.Content.Continuation

/-!
The content of a page in several streams. The streams are joined and the whole is read once; the main
statement is that this reads every stream by itself, in order, with the operands that one stream
leaves handed to the next. What is asked for it is that a stream that ends inside a comment is not
followed on its line: comments go on from one stream into the next.
-/

namespace PageMarks

namespace Content

/-- Streams read one after another. Operands that wait at the end of one wait on in the next. -/
def operationsInTurn (waiting : List Object) : List Bytes → Except Error (List Operation)
  | [] => .ok []
  | data :: rest =>
    match readStream data with
    | .error stop => .error (stop.inInput data.length)
    | .ok items =>
      let (operations, left) := gather waiting items
      (operationsInTurn left rest).map (operations ++ ·)

abbrev ReadAlone : List Bytes → List (List Item) → Prop :=
  List.Forall₂ fun data items => readStream data = .ok items

theorem readAlone {streams : List Bytes}
    (alone : ∀ data ∈ streams, ∃ operations, Content.operations data = .ok operations) :
    ∃ items, ReadAlone streams items := by
  induction streams with
  | nil => exact ⟨[], .nil⟩
  | cons data rest ih =>
    obtain ⟨⟨operations, found⟩, others⟩ := List.forall_mem_cons.mp alone
    obtain ⟨more, read⟩ := ih others
    cases first : readStream data with
    | error stop => simp [Content.operations, first] at found
    | ok items => exact ⟨items :: more, .cons first read⟩

theorem operationsInTurn_read {streams : List Bytes} {items : List (List Item)}
    (read : ReadAlone streams items) (waiting : List Object) :
    operationsInTurn waiting streams = .ok (gather waiting items.flatten).1 := by
  induction read generalizing waiting with
  | nil => rfl
  | cons first _ ih => simp [operationsInTurn, first, ih, gather_append, Except.map]

/-- The second stream begins with the end of a line if the first ends inside a comment. -/
def Apart (data next : Bytes) : Prop :=
  endsInComment data = true → ∃ eol rest, next = eol :: rest ∧ (eol = 10 ∨ eol = 13)

theorem Apart.more {data next : Bytes} (apart : Apart data next) (rest : Bytes) :
    Apart data (next ++ rest) := by
  intro opened
  obtain ⟨eol, line, rfl, ends⟩ := apart opened
  exact ⟨eol, line ++ rest, rfl, ends⟩

theorem Apart.blanks {data next : Bytes} (apart : Apart data next) :
    blanksFrom (endsInComment data) (32 :: next) = skipBlanks next := by
  cases opened : endsInComment data with
  | false => rfl
  | true =>
    obtain ⟨eol, rest, rfl, rfl | rfl⟩ := apart opened <;> rfl

section Spaced

variable {data : Bytes} {items : List Item} (read : readStream data = .ok items)
include read

theorem readStream_spaced {next : Bytes} (apart : Apart data next) :
    readStream (data ++ 32 :: next) = (readStream next).map (items ++ ·) := by
  rw [readStream_append read rfl, apart.blanks, readStream_skip]

theorem readStream_hidden (opened : endsInComment data = true) (next : Bytes) :
    readStream (data ++ 32 :: next) = (readStream (blanksFrom true next)).map (items ++ ·) := by
  rw [readStream_append read rfl, opened]
  rfl

theorem readStream_joined {rest : List Bytes} {more : List (List Item)}
    (others : ReadAlone rest more) (apart : List.IsChain Apart (data :: rest)) :
    readStream (data ++ rest.flatMap (32 :: ·)) = .ok (items ++ more.flatten) := by
  induction others generalizing data items with
  | nil => simpa using read
  | cons first _ ih =>
    obtain ⟨front, others⟩ := List.isChain_cons_cons.mp apart
    rw [List.flatMap_cons, List.cons_append, readStream_spaced read (front.more _),
      ih first others]
    rfl

end Spaced

theorem readStream_word {b : UInt8} {word : String} (starts : startsOperator b = true)
    (read : keyword b [] = (word, [])) (other : word ≠ "BI") :
    readStream [b] = .ok [wordItem word] := by
  have solid := operator_solid starts
  exact readStream_last (skipBlanks_solid solid.space solid.comment []) starts read other

end Content

namespace Page

variable {doc : Document}

def joined (bytes : Bytes) : List Bytes → Bytes
  | [] => bytes
  | data :: rest => joined ((if bytes.isEmpty then [] else bytes ++ [32]) ++ data) rest

theorem joined_append {bytes : Bytes} (begun : bytes ≠ []) (streams : List Bytes) :
    joined bytes streams = bytes ++ streams.flatMap (32 :: ·) := by
  induction streams generalizing bytes with
  | nil => simp [joined]
  | cons data rest ih => simp [joined, begun, ih]

theorem joined_read {streams : List Bytes} {items : List (List Content.Item)}
    (read : Content.ReadAlone streams items) (apart : List.IsChain Content.Apart streams) :
    Content.readStream (joined [] streams) = .ok items.flatten := by
  induction read with
  | nil => exact Content.readStream_blank rfl
  | @cons data _ rest more first others ih =>
    have front : joined [] (data :: rest) = joined data rest := rfl
    by_cases empty : data = []
    · subst empty
      rw [Content.readStream_blank rfl] at first
      cases first
      rw [front]
      exact ih apart.of_cons
    · rw [front, joined_append empty]
      exact Content.readStream_joined first others apart

theorem joinStreams_joined [Decoder] {items : List Object} {streams : List Bytes}
    (found : List.Forall₂ (fun item data => streamOf doc item = .ok data) items streams)
    (bytes : Bytes) : joinStreams doc bytes items = .ok (joined bytes streams) := by
  induction found generalizing bytes with
  | nil => rfl
  | cons first _ ih =>
    rw [joinStreams, first]
    exact ih _

/-- Page `number` is object `id`, and its /Contents an array of streams that hold `streams`. -/
structure ContentArray [Decoder] (doc : Document) (number : Nat) (id : ObjectId) (streams : List Bytes) :
    Prop where
  page : doc.page? number = some id
  array : ∃ node value items, doc.getDictionary id = .ok node ∧
    Dictionary.entry? node "Contents" = some value ∧ doc.resolve value = .ok (.array items) ∧
    List.Forall₂ (fun item data => streamOf doc item = .ok data) items streams

variable {K : Type} [Scalar K] {number : Nat} {id : ObjectId} {streams : List Bytes}

theorem ContentArray.load [Decoder] (contents : ContentArray doc number id streams) :
    Page.load (K := K) doc number = do
      let operations ← (Content.operations (joined [] streams)).mapError .content
      let scope ← scopeOf doc id
      let mediaBox := (← inherited? doc "MediaBox" ancestorLimit id).bind (boxOf? doc)
      return { number, id, operations, scope, mediaBox } := by
  obtain ⟨node, value, items, found, entry, array, each⟩ := contents.array
  have bytes : contentBytes doc node = .ok (joined [] streams) := by
    rw [contentBytes, entry]
    simp only [array]
    exact joinStreams_joined each []
  rw [Page.load, contents.page]
  simp only [pure_bind, found]
  change (contentBytes doc node >>= fun _ => _) = _
  rw [bytes]
  rfl

/-- A page is read stream by stream, unless a stream that ends inside a comment hides the first line
of the next. -/
theorem load_in_turn [Decoder] (contents : ContentArray doc number id streams)
    (alone : ∀ data ∈ streams, ∃ operations, Content.operations data = .ok operations)
    (apart : List.IsChain Content.Apart streams) :
    ∃ operations, Content.operationsInTurn [] streams = .ok operations ∧
      Page.load (K := K) doc number = do
        let scope ← scopeOf doc id
        let mediaBox := (← inherited? doc "MediaBox" ancestorLimit id).bind (boxOf? doc)
        return { number, id, operations, scope, mediaBox } := by
  obtain ⟨items, read⟩ := Content.readAlone alone
  refine ⟨_, Content.operationsInTurn_read read [], ?_⟩
  rw [contents.load, Content.operations, joined_read read apart]
  rfl

def twoStreams (first second : Bytes) : Document where
  objects := [
    (⟨1, 0⟩, .dictionary [(Text.Utf8.encode "Type", .name (Text.Utf8.encode "Page")),
      (Text.Utf8.encode "Parent", .reference ⟨2, 0⟩),
      (Text.Utf8.encode "Contents", .array [.reference ⟨4, 0⟩, .reference ⟨5, 0⟩])]),
    (⟨2, 0⟩, .dictionary [(Text.Utf8.encode "Type", .name (Text.Utf8.encode "Pages")),
      (Text.Utf8.encode "Kids", .array [.reference ⟨1, 0⟩])]),
    (⟨3, 0⟩, .dictionary [(Text.Utf8.encode "Type", .name (Text.Utf8.encode "Catalog")),
      (Text.Utf8.encode "Pages", .reference ⟨2, 0⟩)]),
    (⟨4, 0⟩, .stream [] first),
    (⟨5, 0⟩, .stream [] second)]
  trailer := [(Text.Utf8.encode "Root", .reference ⟨3, 0⟩)]

theorem twoStreams_contents [Decoder] (first second : Bytes) :
    ContentArray (twoStreams first second) 1 ⟨1, 0⟩ [first, second] where
  page := by
    have kids : (twoStreams first second).rootKids = [.reference ⟨1, 0⟩] := rfl
    have entry : (twoStreams first second).treeEntry ⟨1, 0⟩ = .page := rfl
    have pages : (twoStreams first second).pages = [⟨1, 0⟩] := by
      rw [Document.pages, kids]
      change Document.walk _ 5 _ _ = _
      simp [Document.walk, entry]
    rw [Document.page?, pages]
    rfl
  array := ⟨_, _, _, rfl, rfl, rfl, .cons rfl (.cons rfl .nil)⟩

/-- The `1` at the end of one stream is the operand of the `w` that begins the next. -/
theorem load_in_turn_operand : letI := Decoder.none
    ContentArray (twoStreams [49] [119]) 1 ⟨1, 0⟩ [[49], [119]] ∧
    List.IsChain Content.Apart [[49], [119]] ∧
    Page.load (K := Float) (twoStreams [49] [119]) 1 =
      .ok ⟨1, ⟨1, 0⟩, [⟨"w", [.integer 1]⟩], ⟨twoStreams [49] [119], []⟩, none⟩ := by
  let := Decoder.none
  have contents := twoStreams_contents [49] [119]
  have item : Content.ItemAt 49 [] (some (.operand (.integer 1))) [] :=
    .value rfl (.number rfl rfl)
  have one : Content.readStream [49] = .ok [.operand (.integer 1)] := by
    rw [Content.readStream_step rfl item.yields, Content.readStream_blank rfl]
    rfl
  have width : Content.readStream [119] = .ok [.operator "w"] :=
    Content.readStream_word rfl rfl (by decide)
  have alone : ∀ data ∈ [[49], [119]], ∃ operations, Content.operations data = .ok operations := by
    simp only [List.forall_mem_cons, Content.operations, one, width]
    exact ⟨⟨_, rfl⟩, ⟨_, rfl⟩, nofun⟩
  have apart : List.IsChain Content.Apart [[49], [119]] := by
    refine .cons_cons (fun opened => ?_) (.singleton _)
    rw [Content.endsInComment_step rfl item.yields, Content.endsInComment_blank rfl] at opened
    cases opened
  obtain ⟨operations, turn, load⟩ := load_in_turn (K := Float) contents alone apart
  rw [Content.operationsInTurn_read (.cons one (.cons width .nil))] at turn
  cases turn
  exact ⟨contents, apart, load⟩

/-- The stream `n` after the stream `% c` is an operation of its own, and the page has none. -/
theorem load_comment_hides : letI := Decoder.none
    ContentArray (twoStreams [37, 32, 99] [110]) 1 ⟨1, 0⟩ [[37, 32, 99], [110]] ∧
    (∀ data ∈ [[37, 32, 99], [110]], ∃ operations, Content.operations data = .ok operations) ∧
    Content.operationsInTurn [] [[37, 32, 99], [110]] = .ok [⟨"n", []⟩] ∧
    Page.load (K := Float) (twoStreams [37, 32, 99] [110]) 1 =
      .ok ⟨1, ⟨1, 0⟩, [], ⟨twoStreams [37, 32, 99] [110], []⟩, none⟩ := by
  let := Decoder.none
  have contents := twoStreams_contents [37, 32, 99] [110]
  have comment : Content.readStream [37, 32, 99] = .ok [] := Content.readStream_blank rfl
  have ends : Content.readStream [110] = .ok [.operator "n"] :=
    Content.readStream_word rfl rfl (by decide)
  have opened : Content.endsInComment [37, 32, 99] = true := Content.endsInComment_blank rfl
  refine ⟨contents, ?_, ?_, ?_⟩
  · simp only [List.forall_mem_cons, Content.operations, comment, ends]
    exact ⟨⟨_, rfl⟩, ⟨_, rfl⟩, nofun⟩
  · exact Content.operationsInTurn_read (.cons comment (.cons ends .nil)) []
  · have read : Content.readStream (joined [] [[37, 32, 99], [110]]) = .ok [] := by
      rw [show joined [] [[37, 32, 99], [110]] = [37, 32, 99] ++ 32 :: [110] from rfl,
        Content.readStream_hidden comment opened, Content.readStream_blank rfl]
      rfl
    rw [contents.load, Content.operations, read]
    rfl

end Page
end PageMarks
