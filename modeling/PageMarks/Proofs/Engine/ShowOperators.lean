import PageMarks.Proofs.Engine.Driven
import PageMarks.Proofs.Engine.PathEnding

/-!
Operators that show text in several ways. Where a font is loaded and all glyphs are taken, a string
may be shown in parts, an array entry by entry, and the operators that begin a new line are those
they abbreviate. Nothing is computed anew for this: the same moves are made one after another.
-/

namespace PageMarks

variable {K : Type}

/-- A string may be cut there: anywhere for one-byte codes, and between two codes of two bytes. -/
def Font.Cuts : Font K → Bytes → Prop
  | .simple .., _ => True
  | .composite .., bytes => 2 ∣ bytes.length

theorem Font.pairCodes_append (bytes others : Bytes) (even : 2 ∣ bytes.length) :
    pairCodes (bytes ++ others) = pairCodes bytes ++ pairCodes others := by
  induction bytes using pairCodes.induct with
  | case1 => rfl
  | case2 high => simp at even
  | case3 high low rest ih =>
    have fewer : 2 ∣ rest.length := by
      simp only [List.length_cons] at even
      omega
    simp only [List.cons_append, pairCodes, ih fewer]

theorem Font.glyphs_append {font : Font K} {bytes : Bytes} (cuts : font.Cuts bytes)
    (others : Bytes) : font.glyphs (bytes ++ others) = font.glyphs bytes ++ font.glyphs others := by
  cases font with
  | simple => simp only [glyphs, codes, List.map_append]
  | composite => simp only [glyphs, codes, pairCodes_append _ _ cuts, List.map_append]

namespace Engine

open Interpreter

variable [Scalar K] {R σ η : Type} {surface : Surface K σ} {hints : Bool} {e after : Engine K σ}
  {font : Font K}

def TakesGlyphs (surface : Surface K σ) : Prop :=
  ∀ glyph rendering state s, (surface (.showGlyph glyph rendering state) s).1 = .ok ()

omit [Scalar K] in
theorem takesGlyphs_logged (takes : TakesGlyphs surface) : TakesGlyphs surface.logged :=
  fun glyph rendering state s => takes glyph rendering state s.1

section

variable (takes : TakesGlyphs surface)
include takes

omit [Scalar K] in
theorem emit_taken (glyph : Glyph K) (rendering : Matrix K) (state : GraphicsState K) :
    e.emit surface (.showGlyph glyph rendering state) =
      (.ok (), (e.emit surface (.showGlyph glyph rendering state)).2) :=
  Prod.ext (takes glyph rendering state e.surface) rfl

theorem showGlyphs_taken (glyphs : List (Glyph K)) (e : Engine K σ) :
    e.showGlyphs surface glyphs = (.ok (), (e.showGlyphs surface glyphs).2) := by
  induction glyphs generalizing e with
  | nil => rfl
  | cons glyph rest ih =>
    rw [showGlyphs, emit_taken takes]
    exact ih _

theorem showGlyphs_append (first second : List (Glyph K)) (e : Engine K σ) :
    e.showGlyphs surface (first ++ second) =
      (e.showGlyphs surface first).2.showGlyphs surface second := by
  induction first generalizing e with
  | nil => rfl
  | cons glyph rest ih =>
    rw [List.cons_append, showGlyphs, showGlyphs, emit_taken takes]
    exact ih _

end

theorem showGlyphs_font (glyphs : List (Glyph K)) :
    (e.showGlyphs surface glyphs).2.font? = e.font? := by
  have lasting : Lasting surface fun after => after.font? = e.font? :=
    ⟨fun _ same => same, fun _ same => same⟩
  exact lasting.showGlyphs glyphs rfl

theorem call_showText (takes : TakesGlyphs surface) (loaded : e.font? = some font) (bytes : Bytes) :
    call surface hints (.showText bytes : Callback K R) e =
      (.ok (), (e.showGlyphs surface (font.glyphs bytes)).2) := by
  rw [← showGlyphs_taken takes]
  change e.showText surface bytes = _
  simp only [showText, showBytes, loaded, Option.isSome_some, if_true]

def alone : TextItem K → Callback K R
  | .text bytes => .showText bytes
  | .adjust value => .showTextAdjusted [.adjust value]

theorem showItems_alone (hints : Bool) (takes : TakesGlyphs surface) (items : List (TextItem K))
    (loaded : e.font? = some font) :
    ∃ after, e.showItems surface items = (.ok (), after) ∧
      Completes surface hints (items.map (alone (R := R))) e after := by
  induction items generalizing e with
  | nil => exact ⟨e, rfl, rfl⟩
  | cons item rest ih =>
    cases item with
    | text bytes =>
      let shown := (e.showGlyphs surface (font.glyphs bytes)).2
      obtain ⟨after, items, completes⟩ := ih (e := shown) ((showGlyphs_font _).trans loaded)
      refine ⟨after, ?_, shown, call_showText takes loaded bytes, completes⟩
      rw [showItems, showBytes, loaded]
      dsimp only
      rw [showGlyphs_taken takes]
      exact items
    | adjust value =>
      let moved := e.modifyText fun t => t.advance (t.adjustmentOffset value)
      obtain ⟨after, items, completes⟩ := ih (e := moved) loaded
      refine ⟨after, items, moved, ?_, completes⟩
      change e.showAdjusted surface [.adjust value] = _
      simp only [showAdjusted, showItems, List.any_cons, TextItem.isText, List.any_nil,
        Bool.or_false, Bool.and_false]
      rfl

theorem call_showTextAdjusted (hints : Bool) (takes : TakesGlyphs surface) (items : List (TextItem K))
    (loaded : e.font? = some font) :
    ∃ after, call surface hints (.showTextAdjusted items : Callback K R) e = (.ok (), after) ∧
      Completes surface hints (items.map (alone (R := R))) e after := by
  obtain ⟨after, items, completes⟩ := showItems_alone (R := R) hints takes items loaded
  refine ⟨after, ?_, completes⟩
  change e.showAdjusted surface _ = _
  simp only [showAdjusted, items, loaded, Option.isNone_some, Bool.false_and]
  rfl

def ShowsString (op : Operation) (bytes : Bytes) : Prop :=
  op.kind? = some .showText ∧ op.string 0 = .ok bytes

def ShowsArray (op : Operation) (entries : List Object) : Prop :=
  op.kind? = some .showTextAdjusted ∧ op.array 0 = .ok entries

variable (K) in
inductive ShowsEntry : Object → Operation → Prop
  | text {bytes : Bytes} {form : StringForm} {op : Operation} (shows : ShowsString op bytes) :
    ShowsEntry (.string bytes form) op
  | number {object : Object} {value : K} {op : Operation} (number : object.number? = some value)
    (shows : ShowsArray op [object]) : ShowsEntry object op

section

variable {resolver : Resolver K R} {frame : Frame R} {op : Operation}

theorem asks_callback {operator : Operator} {c : Callback K R} (kind : op.kind? = some operator)
    (one : operator ∉ several)
    (called : callback resolver (fun _ => true) frame op operator = .ok c) :
    Asks resolver frame op [c] := by
  unfold Asks
  rw [plan_callback _ _ _ _ kind one, called]
  rfl

omit [Scalar K] in
theorem called_of {α : Type} {x : Except Signal α} {a : α} (read : x = .ok a)
    (make : α → Callback K R) : (x >>= fun a => .ok (make a)) = (.ok (make a) : Except Signal _) := by
  rw [read]
  rfl

theorem asks_showText {bytes : Bytes} (shows : ShowsString op bytes) :
    Asks resolver frame op [.showText bytes] :=
  asks_callback shows.1 (by decide) (called_of shows.2 .showText)

theorem asks_showTextAdjusted {entries : List Object} {items : List (TextItem K)}
    (shows : ShowsArray op entries) (read : entries.mapM (textItem op) = .ok items) :
    Asks resolver frame op [.showTextAdjusted items] := by
  have shown : callback resolver (fun _ => true) frame op .showTextAdjusted =
      (op.array 0 >>= fun entries => entries.mapM (textItem op) >>= fun items =>
        .ok (.showTextAdjusted items)) := rfl
  apply asks_callback shows.1 (by decide)
  rw [shown, shows.2]
  exact called_of read .showTextAdjusted

theorem textItem_number {object : Object} {value : K} (number : object.number? = some value) :
    textItem op object = .ok (.adjust value) := by
  cases object with
  | integer | real => simp only [textItem, number]
  | _ => cases number

theorem showsEntry_asks (resolver : Resolver K R) (frame : Frame R) {object : Object}
    (shows : ShowsEntry K object op) (array : Operation) :
    ∃ item : TextItem K, textItem array object = .ok item ∧
      Asks resolver frame op [alone item] := by
  cases shows with
  | text shows => exact ⟨.text _, rfl, asks_showText shows⟩
  | @number _ value _ number shows =>
    refine ⟨.adjust value, textItem_number number, asks_showTextAdjusted shows ?_⟩
    rw [List.mapM_cons, textItem_number number]
    rfl

theorem showsEntries_ask (resolver : Resolver K R) (frame : Frame R) {objects : List Object}
    {ops : List Operation} (entries : List.Forall₂ (ShowsEntry K) objects ops) (array : Operation) :
    ∃ items : List (TextItem K), objects.mapM (textItem array) = .ok items ∧
      List.Forall₂ (Asks resolver frame) ops ((items.map alone).map ([·])) := by
  induction entries with
  | nil => exact ⟨[], rfl, .nil⟩
  | cons entry _ ih =>
    obtain ⟨item, read, asks⟩ := showsEntry_asks resolver frame entry array
    obtain ⟨items, others, ask⟩ := ih
    refine ⟨item :: items, ?_, .cons asks ask⟩
    rw [List.mapM_cons, read, others]
    rfl

theorem asks_nextLineShowText {bytes : Bytes} (kind : op.kind? = some .nextLineShowText)
    (read : op.string 0 = .ok bytes) : Asks resolver frame op [.nextLine, .showText bytes] := by
  unfold Asks plan
  rw [kind]
  dsimp only
  rw [read]
  rfl

theorem asks_spacedNextLineShowText {word char : K} {bytes : Bytes}
    (kind : op.kind? = some .spacedNextLineShowText)
    (numbers : op.two Object.number? Prod.mk = .ok (word, char)) (read : op.string 2 = .ok bytes) :
    Asks resolver frame op [.wordSpacing word, .charSpacing char, .nextLine, .showText bytes] := by
  unfold Asks plan
  rw [kind]
  dsimp only [spacedNextLineShowText]
  rw [numbers, read]
  rfl

end

def Agree (surface : Surface K σ) (hints : Bool) (handler : Handler η) (resolver : Resolver K R)
    (forms : FormRunner K R (Engine K σ × η)) (frame : Frame R) (e : Engine K σ) (h : η)
    (first second : List Operation) : Prop :=
  ∃ after, ∀ index,
    execute (driving surface hints handler fun _ => false) resolver forms frame index first (e, h) =
      (.ok .finished, after, h) ∧
    execute (driving surface hints handler fun _ => false) resolver forms frame index second (e, h) =
      (.ok .finished, after, h)

section

variable {handler : Handler η} {resolver : Resolver K R} {forms : FormRunner K R (Engine K σ × η)}
  {frame : Frame R} {h : η}

theorem agree_completes {first second : List Operation} {cs ds : List (List (Callback K R))}
    (asks : List.Forall₂ (Asks resolver frame) first cs)
    (others : List.Forall₂ (Asks resolver frame) second ds)
    (completes : Completes surface hints cs.flatten e after)
    (also : Completes surface hints ds.flatten e after) :
    Agree surface hints handler resolver forms frame e h first second :=
  ⟨after, fun _ => ⟨execute_completes asks completes, execute_completes others also⟩⟩

variable (takes : TakesGlyphs surface) (loaded : e.font? = some font)
include takes loaded

theorem agree_parts {whole first second : Operation} {bytes others : Bytes}
    (cuts : font.Cuts bytes) (all : ShowsString whole (bytes ++ others))
    (one : ShowsString first bytes) (two : ShowsString second others) :
    Agree surface hints handler resolver forms frame e h [whole] [first, second] := by
  let shown := (e.showGlyphs surface (font.glyphs bytes)).2
  have part : call surface hints (.showText bytes : Callback K R) e = (.ok (), shown) :=
    call_showText takes loaded bytes
  have rest : call surface hints (.showText others : Callback K R) shown = _ :=
    call_showText takes ((showGlyphs_font _).trans loaded) others
  have together : call surface hints (.showText (bytes ++ others) : Callback K R) e = _ :=
    call_showText takes loaded (bytes ++ others)
  rw [Font.glyphs_append cuts, showGlyphs_append takes] at together
  exact agree_completes (.cons (asks_showText all) .nil)
    (.cons (asks_showText one) (.cons (asks_showText two) .nil))
    (completes_one together) ⟨shown, part, completes_one rest⟩

theorem agree_entries {array : Operation} {objects : List Object} {ops : List Operation}
    (shows : ShowsArray array objects) (entries : List.Forall₂ (ShowsEntry K) objects ops) :
    Agree surface hints handler resolver forms frame e h [array] ops := by
  obtain ⟨items, read, asks⟩ := showsEntries_ask resolver frame entries array
  obtain ⟨after, whole, completes⟩ := call_showTextAdjusted (R := R) hints takes items loaded
  refine agree_completes (.cons (asks_showTextAdjusted shows read) .nil) asks
    (completes_one whole) ?_
  rwa [← List.flatMap_def, List.flatMap_singleton']

theorem line_completes (hints : Bool) (bytes : Bytes) :
    ∃ after, Completes surface hints [(.nextLine : Callback K R), .showText bytes] e after := by
  have moved : (e.placeText .nextLine).font? = some font := loaded
  exact ⟨_, e.placeText .nextLine, rfl, completes_one (call_showText takes moved bytes)⟩

end

/-- Strings in parts, arrays by entries, and the operators that begin a line, beside a surface with a
record of what it is asked. -/
theorem show_operators_agree (surface : Surface K σ) (takes : TakesGlyphs surface) (hints : Bool)
    (handler : Handler η) (resolver : Resolver K R)
    (forms : FormRunner K R (Engine K (σ × List (Hook K × Outcome)) × η)) (frame : Frame R)
    (e : Engine K (σ × List (Hook K × Outcome))) (h : η) (loaded : e.font? = some font) :
    let Same := Agree surface.logged hints handler resolver forms frame e h
    (∀ whole first second bytes others, font.Cuts bytes →
      ShowsString whole (bytes ++ others) → ShowsString first bytes → ShowsString second others →
      Same [whole] [first, second]) ∧
    (∀ array objects ops, ShowsArray array objects → List.Forall₂ (ShowsEntry K) objects ops →
      Same [array] ops) ∧
    (∀ quote line text bytes, quote.kind? = some .nextLineShowText → quote.string 0 = .ok bytes →
      line.kind? = some .nextLine → ShowsString text bytes → Same [quote] [line, text]) ∧
    ∀ quote words chars line text (word char : K) bytes,
      quote.kind? = some .spacedNextLineShowText →
      quote.two Object.number? Prod.mk = .ok (word, char) → quote.string 2 = .ok bytes →
      words.kind? = some .setWordSpacing → words.number 0 = .ok word →
      chars.kind? = some .setCharSpacing → chars.number 0 = .ok char →
      line.kind? = some .nextLine → ShowsString text bytes →
      Same [quote] [words, chars, line, text] := by
  have taken := takesGlyphs_logged takes
  refine ⟨?_, ?_, ?_, ?_⟩
  · intro whole first second bytes others cuts all one two
    exact agree_parts taken loaded cuts all one two
  · intro array objects ops shows entries
    exact agree_entries taken loaded shows entries
  · intro quote line text bytes kind read next shows
    obtain ⟨after, completes⟩ := line_completes (R := R) taken loaded hints bytes
    exact agree_completes (.cons (asks_nextLineShowText kind read) .nil)
      (.cons (asks_callback next (by decide) rfl) (.cons (asks_showText shows) .nil))
      completes completes
  · intro quote words chars line text word char bytes kind numbers read wordKind wordRead charKind
      charRead next shows
    let spaced := (e.modifyText (.setWordSpacing word)).modifyText (.setCharSpacing char)
    have still : spaced.font? = some font := loaded
    obtain ⟨after, completes⟩ := line_completes (R := R) taken still hints bytes
    have all : Completes surface.logged hints
        [(.wordSpacing word : Callback K R), .charSpacing char, .nextLine, .showText bytes] e after :=
      ⟨_, rfl, spaced, rfl, completes⟩
    have spaces : Asks resolver frame words [.wordSpacing word] :=
      asks_callback wordKind (by decide) (called_of wordRead .wordSpacing)
    have letters : Asks resolver frame chars [.charSpacing char] :=
      asks_callback charKind (by decide) (called_of charRead .charSpacing)
    have begins : Asks resolver frame line [.nextLine] := asks_callback next (by decide) rfl
    exact agree_completes (.cons (asks_spacedNextLineShowText kind numbers read) .nil)
      (.cons spaces (.cons letters (.cons begins (.cons (asks_showText shows) .nil)))) all all

def wide : Font Float := .composite "W" 1000 []

def wideText : Engine Float (Unit × List (Hook Float × Outcome)) :=
  (call (Surface.silent Float).logged false (.font "W" (some wide) 10 : Callback Float Unit)
    (start (.initial ⟨1, 0, 0, 1, 0, 0⟩) 1 ((), []))).2

theorem show_operators_agree_wide :
    let Same := Agree (Surface.silent Float).logged false (.strict Unit) (.none Float Unit)
      (tooDeep 10) ⟨(), none, none, none, 0⟩ wideText ()
    Same [⟨"Tj", [.string [0, 65, 0, 66, 1] .literal]⟩]
        [⟨"Tj", [.string [0, 65] .literal]⟩, ⟨"Tj", [.string [0, 66, 1] .literal]⟩] ∧
      Same [⟨"TJ", [.array [.string [0, 65] .literal, .integer 120]]⟩]
        [⟨"Tj", [.string [0, 65] .literal]⟩, ⟨"TJ", [.array [.integer 120]]⟩] ∧
      Same [⟨"\"", [.integer 2, .integer 1, .string [0, 65] .literal]⟩]
        [⟨"Tw", [.integer 2]⟩, ⟨"Tc", [.integer 1]⟩, ⟨"T*", []⟩,
          ⟨"Tj", [.string [0, 65] .literal]⟩] := by
  obtain ⟨parts, entries, -, spaced⟩ := show_operators_agree (.silent Float) (fun _ _ _ _ => rfl)
    false (.strict Unit) (.none Float Unit) (tooDeep 10) ⟨(), none, none, none, 0⟩ wideText ()
    (rfl : wideText.font? = some wide)
  refine ⟨?_, ?_, ?_⟩
  · exact parts _ _ _ [0, 65] [0, 66, 1] ⟨1, rfl⟩ ⟨rfl, rfl⟩ ⟨rfl, rfl⟩ ⟨rfl, rfl⟩
  · exact entries _ _ _ ⟨rfl, rfl⟩
      (.cons (.text ⟨rfl, rfl⟩) (.cons (.number rfl ⟨rfl, rfl⟩) .nil))
  · exact spaced _ _ _ _ _ _ _ _ rfl rfl rfl rfl rfl rfl rfl rfl ⟨rfl, rfl⟩

end Engine
end PageMarks
