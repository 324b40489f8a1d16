import PageMarks.Document.Base85
import PageMarks.Proofs.Content.Continuation
import PageMarks.Proofs.Resource.FontIndirection
import PageMarks.Proofs.Resource.Naming
import PageMarks.Proofs.Resource.SpaceIndirection

/-!
Lookups in documents that differ in where values are. Which values are read where they stand is listed
kind by kind; all others are read through references. The main statement is that a lookup comes to the
same in both documents if nothing was moved that is read where it stands.
-/

namespace PageMarks.Resource

/-- The values that are read where they stand when a value is read as a resource. Where data is decoded,
the entries that the decoder goes by are, with all that is in them. -/
inductive InPlace (doc : Document) : ResourceKind → Object → Extent → List Place → Prop
  | space {value extent path} : SpaceInPlace doc value extent path →
    InPlace doc .colorSpace value extent path
  | font {value key} : key ∈ ["Subtype", "BaseFont", "FirstChar", "FontMatrix"] →
    InPlace doc .font value .alone [.key key]
  | fontScale {value} : InPlace doc .font value .alone [.key "FontMatrix", .item 0]
  | missingWidth {value} : InPlace doc .font value .alone [.key "FontDescriptor", .key "MissingWidth"]
  | defaultWidth {value} : InPlace doc .font value .alone [.key "DescendantFonts", .item 0, .key "DW"]
  | pattern {value key} : key ∈ ["PatternType", "Matrix"] → InPlace doc .pattern value .alone [.key key]
  | patternMatrix {value i} : InPlace doc .pattern value .alone [.key "Matrix", .item i]
  | shading {value} : InPlace doc .shading value .alone [.key "ShadingType"]
  | shadingSpace {value space extent path} : doc.at? [.key "ColorSpace"] value = some space →
    SpaceInPlace doc space extent path → InPlace doc .shading value extent (.key "ColorSpace" :: path)
  | parameters {value key} :
    key ∈ ["LW", "LC", "LJ", "ML", "RI", "FL", "CA", "ca", "BM", "SA", "Font"] →
    InPlace doc .parameters value .alone [.key key]
  | blendMode {value} : InPlace doc .parameters value .alone [.key "BM", .item 0]
  | fontSize {value} : InPlace doc .parameters value .alone [.key "Font", .item 1]
  | dash {value i} : i < 2 → InPlace doc .parameters value .alone [.key "D", .item i]
  | dashLength {value i} : InPlace doc .parameters value .alone [.key "D", .item 0, .item i]
  | xobject {value key} :
    key ∈ ["Subtype", "Matrix", "BBox", "Width", "Height", "BitsPerComponent", "ImageMask"] →
    InPlace doc .xobject value .alone [.key key]
  | xobjectItem {value key i} : key ∈ ["Matrix", "BBox"] →
    InPlace doc .xobject value .alone [.key key, .item i]
  | decoded {value key} : (doc.at? [.key "Subtype"] value).bind Object.name? = some "Form" →
    key ∈ Decoder.keys → InPlace doc .xobject value .whole [.key key]
  | imageSpace {value space extent path} : doc.at? [.key "ColorSpace"] value = some space →
    SpaceInPlace doc space extent path → InPlace doc .xobject value extent (.key "ColorSpace" :: path)

structure SameScope (s s' : Scope) : Prop where
  documents : Rewritten s.document s'.document
  entries : RespelledEntries s.document s'.document s.entries s'.entries

/-- The same resource, but for the dictionary that it was read from and brings along. -/
inductive SameResource {K : Type} (doc doc' : Document) :
    (kind : ResourceKind) → kind.Value K Scope → kind.Value K Scope → Prop
  | space {space} : SameResource doc doc' .colorSpace space space
  | font {font} : SameResource doc doc' .font font font
  | pattern {type matrix entries entries'} : RespelledEntries doc doc' entries entries' →
    SameResource doc doc' .pattern ⟨type, matrix, entries⟩ ⟨type, matrix, entries'⟩
  | shading {type space entries entries'} : RespelledEntries doc doc' entries entries' →
    SameResource doc doc' .shading ⟨type, space, entries⟩ ⟨type, space, entries'⟩
  | parameters {parameters} : SameResource doc doc' .parameters parameters parameters
  | properties {entries entries'} : RespelledEntries doc doc' entries entries' →
    SameResource doc doc' .properties entries entries'
  | form {matrix box content scope scope'} : Option.Rel SameScope scope scope' →
    SameResource doc doc' .xobject (.form ⟨matrix, box, content, scope⟩)
      (.form ⟨matrix, box, content, scope'⟩)
  | image {image : Image} {entries} : RespelledEntries doc doc' image.entries entries →
    SameResource doc doc' .xobject (.image image) (.image { image with entries })
  | postScript : SameResource doc doc' .xobject .postScript .postScript

variable {K : Type} [Scalar K] {doc doc' : Document}

section

variable (rewritten : Rewritten doc doc') {value value' : Object} {entries entries' : Dictionary}
  (headers : Headers doc doc' value value' entries entries')
include rewritten headers

theorem spaceEntry?_same [Decoder] [Decoder.Local]
    (unmoved : ∀ space extent path, doc.at? [.key "ColorSpace"] value = some space →
      SpaceInPlace doc space extent path →
      Unmoved doc doc' extent (.key "ColorSpace" :: path) value value') :
    spaceEntry? doc entries = spaceEntry? doc' entries' := by
  have pair : Option.Rel (Respelled doc doc') (entries.entry? "ColorSpace")
      (entries'.entry? "ColorSpace") := entries_get headers.respelled _
  have here := headers.here "ColorSpace"
  have there := headers.there "ColorSpace"
  unfold spaceEntry?
  generalize entries.entry? "ColorSpace" = space at pair here ⊢
  generalize entries'.entry? "ColorSpace" = space' at pair there ⊢
  cases pair with
  | none => rfl
  | @some space space' pair =>
    have same := colorSpace_same rewritten pair fun extent path inPlace =>
      headers.found.within (unmoved space extent path (at?_place headers.found.direct here) inPlace)
        here there
    dsimp only
    rw [same]

theorem dash?_same (items : ∀ i < 2, Unmoved doc doc' .alone [.key "D", .item i] value value')
    (lengths : ∀ i, Unmoved doc doc' .alone [.key "D", .item 0, .item i] value value') :
    (dash? doc entries : Except ResolveError (Option (Dash K))) = dash? doc' entries' := by
  refine Agree.same.mp ((headers.followed rewritten "D").bind fun dash dash' pair => ?_)
  cases pair with
  | none => exact .ok rfl
  | some reached =>
    have found := reached.found
    have item {i : Nat} (within : i < 2) := reached.unmoved (items i within)
    have length (i : Nat) := reached.unmoved (lengths i)
    have kept := found.kept
    cases kept with
    | array inside =>
      cases inside with
      | nil => exact .ok rfl
      | cons first others =>
        have kept := kept_of_unmoved first (found.within (item Nat.zero_lt_two) rfl rfl)
        cases kept with
        | array inner =>
          cases others with
          | nil => exact .ok rfl
          | cons phase =>
            have phases := kept_of_unmoved phase (found.within (item Nat.one_lt_two) rfl rfl)
            have same := items_kept inner fun i => found.within (length i) rfl rfl
            refine .ok (congrArg some ?_)
            rw [kept_number phases, Object.numbersOf, Object.numbersOf,
              filterMap_kept same fun _ _ kept => kept_number kept]
        | _ => exact .ok rfl
    | _ => exact .ok rfl

omit rewritten in
theorem blendMode?_same (mode : Unmoved doc doc' .alone [.key "BM"] value value')
    (first : Unmoved doc doc' .alone [.key "BM", .item 0] value value') :
    blendMode? entries = blendMode? entries' := by
  have pair := headers.entry mode
  have here := headers.here "BM"
  have there := headers.there "BM"
  rw [blendMode?, blendMode?]
  generalize entries.entry? "BM" = held at pair here ⊢
  generalize entries'.entry? "BM" = held' at pair there ⊢
  cases pair with
  | none => rfl
  | some kept =>
    cases kept with
    | array items =>
      have arrays : Found doc doc' (.array _) (.array _) := ⟨.array items, nofun⟩
      have heads := arrays.site (headers.found.within first here there)
      dsimp only
      rw [List.head?_eq_getElem?, List.head?_eq_getElem?]
      exact bind_related heads fun _ _ => kept_name
    | _ => rfl

theorem parameters_same
    (keys : ∀ key ∈ ["LW", "LC", "LJ", "ML", "RI", "FL", "CA", "ca", "BM", "SA", "Font"],
      Unmoved doc doc' .alone [.key key] value value')
    (mode : Unmoved doc doc' .alone [.key "BM", .item 0] value value')
    (size : Unmoved doc doc' .alone [.key "Font", .item 1] value value')
    (items : ∀ i < 2, Unmoved doc doc' .alone [.key "D", .item i] value value')
    (lengths : ∀ i, Unmoved doc doc' .alone [.key "D", .item 0, .item i] value value') :
    (Resource.parameters doc entries : Except ResolveError (Parameters K)) =
      Resource.parameters doc' entries' := by
  have number (key : String) (own : key ∈ ["LW", "ML", "FL", "CA", "ca"]) :
      (entries.number? key : Option K) = entries'.number? key :=
    headers.number (keys key (by simp at own ⊢; tauto))
  have size : ((entries.array? "Font").bind (·[1]?)).bind Object.number? =
      (((entries'.array? "Font").bind (·[1]?)).bind Object.number? : Option K) :=
    bind_related (headers.item (keys "Font" (by simp)) size) fun _ _ kept => kept_number kept
  have adjustment := headers.entry (keys "SA" (by simp))
  simp only [Resource.parameters, dash?_same rewritten headers items lengths,
    number "LW" (by simp), number "ML" (by simp), number "FL" (by simp), number "CA" (by simp),
    number "ca" (by simp), headers.long (keys "LC" (by simp)), headers.long (keys "LJ" (by simp)),
    headers.name (keys "RI" (by simp)), blendMode?_same headers (keys "BM" (by simp)) mode, size]
  generalize entries.entry? "SA" = held at adjustment ⊢
  generalize entries'.entry? "SA" = held' at adjustment ⊢
  cases adjustment with
  | none => rfl
  | some kept => cases kept <;> rfl

end

theorem ofObject_agrees (rewritten : Rewritten doc doc') {value value' : Object}
    (respelled : Respelled doc doc' value value') :
    Agree SameScope (Scope.ofObject doc value) (Scope.ofObject doc' value') := by
  have agree := resolve_agrees rewritten respelled
  rw [Scope.ofObject, Scope.ofObject]
  generalize doc.resolve value = answer at agree ⊢
  generalize doc'.resolve value' = answer' at agree ⊢
  cases agree with
  | error e => exact .error _
  | ok found =>
    have kept := found.kept
    cases kept with
    | dictionary entries => exact .ok ⟨rewritten, entries⟩
    | _ => exact .error _

section

variable {s s' : Scope} (rewritten : Rewritten s.document s'.document) {entries entries' : Dictionary}
  {data : Bytes}
  (headers : Headers s.document s'.document (.stream entries data) (.stream entries' data) entries entries')
  (unmoved : ∀ extent path, InPlace s.document .xobject (.stream entries data) extent path →
    Unmoved s.document s'.document extent path (.stream entries data) (.stream entries' data))
include rewritten headers unmoved

theorem form_agrees [Decoder] [Decoder.Local] (subtype : entries.name? "Subtype" = some "Form") :
    Agree (fun form form' : Form K Scope =>
        SameResource s.document s'.document .xobject (.form form) (.form form'))
      (s.form entries data) (s'.form entries' data) := by
  have isForm : (s.document.at? [.key "Subtype"] (.stream entries data)).bind Object.name? =
      some "Form" := by
    rw [headers.found.at?_child, headers.here, ← subtype]
    exact congrArg (fun held : Option Object => held.bind Object.name?) (Option.bind_fun_some _)
  have bytes := streamData_kept headers.found fun key used => unmoved _ _ (.decoded isForm used)
  have matrix := headers.matrix (K := K) (unmoved _ _ (.xobject (by simp)))
    fun i => unmoved _ _ (.xobjectItem (by simp))
  have box := headers.boundingBox (K := K) (unmoved _ _ (.xobject (by simp)))
    fun i => unmoved _ _ (.xobjectItem (by simp))
  rw [Scope.form, Scope.form, bytes, matrix, box]
  refine Agree.bind_same _ fun bytes => Agree.bind_same _ fun content => ?_
  have pair : Option.Rel (Respelled s.document s'.document) (entries.entry? "Resources")
      (entries'.entry? "Resources") := entries_get headers.respelled _
  generalize entries.entry? "Resources" = own at pair ⊢
  generalize entries'.entry? "Resources" = own' at pair ⊢
  cases pair with
  | none => exact .ok (.form .none)
  | @some own own' pair =>
    have scopes : Agree (Option.Rel SameScope) ((Scope.ofObject s.document own).map some)
        ((Scope.ofObject s'.document own').map some) :=
      (ofObject_agrees rewritten pair).map fun _ _ => .some
    exact scopes.bind fun _ _ same => .ok (.form same)

omit [Scalar K] in
theorem image_agrees [Decoder] [Decoder.Local] :
    Agree (fun image image' : Image =>
        SameResource (K := K) s.document s'.document .xobject (.image image) (.image image'))
      (s.image entries) (s'.image entries') := by
  have space := spaceEntry?_same rewritten headers fun space extent path at_ inPlace =>
    unmoved _ _ (.imageSpace at_ inPlace)
  rw [Scope.image, Scope.image, space, headers.word (unmoved _ _ (.xobject (by simp))),
    headers.word (unmoved _ [.key "Height"] (.xobject (by simp))),
    headers.word (unmoved _ [.key "BitsPerComponent"] (.xobject (by simp))),
    headers.flag (unmoved _ _ (.xobject (by simp)))]
  exact Agree.bind_same _ fun space => .ok (.image headers.respelled)

end

theorem inPlace_cons {kind : ResourceKind} {value : Object} {extent : Extent} {path : List Place}
    (inPlace : InPlace doc kind value extent path) : ∃ place rest, path = place :: rest := by
  cases inPlace with
  | space inside => exact spaceInPlace_cons inside
  | _ => exact ⟨_, _, rfl⟩

theorem inPlace_resolved {kind : ResourceKind} {value held : Object}
    (resolved : doc.resolve value = .ok held) (direct : ∀ id, held ≠ .reference id) {extent : Extent}
    {path : List Place} (inPlace : InPlace doc kind held extent path) :
    InPlace doc kind value extent path := by
  cases inPlace with
  | space inside => exact .space (spaceInPlace_resolved resolved direct inside)
  | shadingSpace at_ inside => exact .shadingSpace ((at?_held resolved direct _ _).trans at_) inside
  | imageSpace at_ inside => exact .imageSpace ((at?_held resolved direct _ _).trans at_) inside
  | fontScale | missingWidth | defaultWidth | patternMatrix | shading | blendMode | fontSize
    | dashLength => constructor
  | font own => exact .font own
  | pattern own => exact .pattern own
  | parameters own => exact .parameters own
  | dash own => exact .dash own
  | xobject own => exact .xobject own
  | xobjectItem own => exact .xobjectItem own
  | decoded isForm used =>
    refine .decoded ?_ used
    rwa [at?_held resolved direct]

variable {s s' : Scope}

theorem reading_agrees [Decoder] [Decoder.Local] (rewritten : Rewritten s.document s'.document)
    (kind : ResourceKind) (name : String) {value value' : Object}
    (found : Found s.document s'.document value value')
    (unmoved : ∀ extent path, InPlace s.document kind value extent path →
      Unmoved s.document s'.document extent path value value') :
    Agree (SameResource (K := K) s.document s'.document kind) (s.reading name kind value)
      (s'.reading name kind value') := by
  cases kind with
  | colorSpace =>
    have same := colorSpace_same rewritten (.kept found.kept) fun extent path inside =>
      unmoved extent path (.space inside)
    exact .of_eq same fun _ => .space
  | font =>
    refine (entriesOf_agrees found .font name).bind fun entries entries' headers => ?_
    have same := font_same (K := K) rewritten headers name (fun key own => unmoved _ _ (.font own))
      (unmoved _ _ .fontScale) (unmoved _ _ .missingWidth) (unmoved _ _ .defaultWidth)
    exact .of_eq same fun _ => .font
  | pattern =>
    refine (headerOf_agrees found .pattern name).bind fun entries entries' headers => ?_
    have matrix := headers.matrix (K := K) (unmoved _ _ (.pattern (by simp))) fun i =>
      unmoved _ _ .patternMatrix
    rw [headers.long (unmoved _ _ (.pattern (by simp))), matrix]
    exact .ok (.pattern headers.respelled)
  | shading =>
    refine (headerOf_agrees found .shading name).bind fun entries entries' headers => ?_
    have space := spaceEntry?_same rewritten headers fun space extent path at_ inside =>
      unmoved _ _ (.shadingSpace at_ inside)
    rw [space, headers.long (unmoved _ _ .shading)]
    exact Agree.bind_same _ fun space => .ok (.shading headers.respelled)
  | parameters =>
    refine (entriesOf_agrees found .parameters name).bind fun entries entries' headers => ?_
    have same := parameters_same (K := K) rewritten headers (fun key own => unmoved _ _ (.parameters own))
      (unmoved _ _ .blendMode) (unmoved _ _ .fontSize) (fun i few => unmoved _ _ (.dash few))
      fun i => unmoved _ _ .dashLength
    exact .of_eq same fun _ => .parameters
  | properties =>
    exact (entriesOf_agrees found .propertyList name).imp fun _ _ headers => .properties headers.respelled
  | xobject =>
    have kept := found.kept
    cases kept with
    | @stream entries entries' data inside =>
      have headers : Headers s.document s'.document (.stream entries data) (.stream entries' data)
          entries entries' := ⟨found, fun _ => rfl, fun _ => rfl, inside⟩
      have subtype : entries.name? "Subtype" = entries'.name? "Subtype" :=
        headers.name (unmoved _ _ (.xobject (by simp)))
      rw [Scope.reading, Scope.reading, subtype]
      split
      next isForm =>
        exact (form_agrees rewritten headers unmoved (subtype.trans isForm)).map fun _ _ same => same
      · exact (image_agrees rewritten headers unmoved).map fun _ _ same => same
      · exact .ok .postScript
      · exact .error _
    | _ => exact .error _

theorem find?_eq (s : Scope) (category name : String) :
    s.find? category name =
      (followed? s.document s.entries category >>= fun
        | none => .ok none
        | some (.dictionary entries) => followed? s.document entries name
        | some _ => .error (.categoryNotDictionary category)) := by
  rw [Scope.find?, followed?]
  rcases s.entries.entry? category with _ | table
  · rfl
  · dsimp only
    rcases s.document.resolve table with e | held
    · rfl
    · cases held <;> rfl

theorem find?_agrees (same : SameScope s s') (category name : String) :
    Agree (Option.Rel (Reached s.document s'.document (.dictionary s.entries) (.dictionary s'.entries)
      [.key category, .key name])) (s.find? category name) (s'.find? category name) := by
  have roots : Headers s.document s'.document (.dictionary s.entries) (.dictionary s'.entries)
      s.entries s'.entries :=
    ⟨⟨.dictionary same.entries, nofun⟩, fun _ => rfl, fun _ => rfl, same.entries⟩
  rw [find?_eq, find?_eq]
  refine (roots.followed same.documents category).bind fun table table' pair => ?_
  cases pair with
  | none => exact .ok .none
  | some reached =>
    have kept := reached.found.kept
    cases kept with
    | dictionary entries =>
      have tables : Headers s.document s'.document _ _ _ _ :=
        ⟨reached.found, fun _ => rfl, fun _ => rfl, entries⟩
      exact (tables.followed same.documents name).imp fun value value' pair =>
        related_imp pair fun _ _ inner => reached.further inner
    | _ => exact .error _

/-- In a scope in which values were moved, a lookup comes to what it came to before, if nothing was
moved that it reads where it stands. -/
theorem lookups_same [Decoder] [Decoder.Local] (same : SameScope s s') (kind : ResourceKind)
    (name : String)
    (unmoved : ∀ value extent path,
      s.document.at? [.key kind.category, .key name] (.dictionary s.entries) = some value →
      InPlace s.document kind value extent path →
      Unmoved s.document s'.document extent (.key kind.category :: .key name :: path)
        (.dictionary s.entries) (.dictionary s'.entries)) :
    Agree (Option.Rel (SameResource s.document s'.document kind))
      ((Scope.resolver (K := K)).find s kind name) (Scope.resolver.find s' kind name) := by
  rw [Scope.find_eq_lookup, Scope.find_eq_lookup, Scope.lookup, Scope.lookup]
  have agree := find?_agrees same kind.category name
  generalize s.find? kind.category name = answer at agree ⊢
  generalize s'.find? kind.category name = answer' at agree ⊢
  cases agree with
  | error e => exact .error e
  | ok pair =>
    cases pair with
    | none => exact .ok .none
    | some reached =>
      obtain ⟨value, at_, resolved⟩ := reached.here
      have reading := reading_agrees (K := K) same.documents kind name reached.found
        fun extent path inPlace => ?_
      · exact reading.map fun _ _ => .some
      · obtain ⟨place, rest, rfl⟩ := inPlace_cons inPlace
        refine reached.unmoved (unmoved value _ _ at_ ?_)
        exact inPlace_resolved resolved reached.found.direct inPlace

def scopeOf (objects : List (ObjectId × Object)) (category name : String) (value : Object) : Scope where
  document := ⟨objects, []⟩
  entries := [(Text.Utf8.encode category, .dictionary [(Text.Utf8.encode name, value)])]

theorem scopeOf_same {objects objects' : List (ObjectId × Object)} (category name : String)
    {value value' : Object} (documents : Rewritten ⟨objects, []⟩ ⟨objects', []⟩)
    (respelled : Respelled ⟨objects, []⟩ ⟨objects', []⟩ value value') :
    SameScope (scopeOf objects category name value) (scopeOf objects' category name value') :=
  ⟨documents, .cons (.kept (.dictionary (.cons respelled .nil))) .nil⟩

def encodedForm (resources : Object) : Object :=
  .stream
    [(Text.Utf8.encode "Subtype", .name (Text.Utf8.encode "Form")),
      (Text.Utf8.encode "Filter", .array [.name Base85.filterName]),
      (Text.Utf8.encode "Resources", resources)]
    (Text.Utf8.encode "D?~>")

def resourcesInPlace : Scope := scopeOf [] "XObject" "F" (encodedForm (.dictionary []))

def resourcesMoved : Scope :=
  scopeOf [(⟨1, 0⟩, .dictionary [])] "XObject" "F" (encodedForm (.reference ⟨1, 0⟩))

theorem resourcesMoved_same : SameScope resourcesInPlace resourcesMoved := by
  refine scopeOf_same "XObject" "F" nofun (.kept (.stream ?_))
  refine .cons (.kept .name) (.cons (.kept (.array ?_)) (.cons ?_ .nil))
  · exact .cons (.kept .name) .nil
  · exact .moved nofun rfl (.dictionary .nil)

/-- The form is read through its filter, and its scope is found where it was moved to. -/
theorem lookups_same_form : letI := Base85.decoder
    (Scope.resolver (K := Float)).find resourcesInPlace .xobject "F" =
        .ok (some (.form ⟨.identity, none, [⟨"n", []⟩], some ⟨resourcesInPlace.document, []⟩⟩)) ∧
      Agree (Option.Rel (SameResource resourcesInPlace.document resourcesMoved.document .xobject))
        ((Scope.resolver (K := Float)).find resourcesInPlace .xobject "F")
        (Scope.resolver.find resourcesMoved .xobject "F") := by
  let := Base85.decoder
  have := Base85.decoder_local
  constructor
  · have read : Content.operations [110] = .ok [⟨"n", []⟩] := by
      have item : Content.ItemAt 110 [] (some (.operator "n")) [] := .word rfl (by decide)
      rw [Content.operations, Content.readStream_step rfl item.yields, Content.readStream_blank rfl]
      rfl
    change (Except.map some (Except.map _ (Except.mapError _ (Content.operations [110]) >>= _))) = _
    rw [read]
    rfl
  · refine lookups_same resourcesMoved_same .xobject "F" fun value extent path found inPlace => ?_
    cases found
    cases inPlace with
    | xobject own =>
      intro id refers
      simp only [List.mem_cons, List.not_mem_nil, or_false] at own
      rcases own with rfl | rfl | rfl | rfl | rfl | rfl | rfl <;> cases refers
    | xobjectItem own =>
      intro id refers
      simp only [List.mem_cons, List.not_mem_nil, or_false] at own
      rcases own with rfl | rfl <;> cases refers
    | decoded _ used =>
      simp only [Decoder.keys, List.mem_cons, List.not_mem_nil, or_false] at used
      rcases used with rfl | rfl | rfl <;> rfl
    | imageSpace at_ => cases at_

def subtypeInPlace : Scope :=
  scopeOf [] "XObject" "F" (.stream [(Text.Utf8.encode "Subtype", .name (Text.Utf8.encode "PS"))] [])

def subtypeMoved : Scope :=
  scopeOf [(⟨1, 0⟩, .name (Text.Utf8.encode "PS"))] "XObject" "F"
    (.stream [(Text.Utf8.encode "Subtype", .reference ⟨1, 0⟩)] [])

/-- The subtype was moved, and with it nothing is found that was found without. -/
theorem moved_subtype_unread : letI := Decoder.none
    SameScope subtypeInPlace subtypeMoved ∧
      Scope.xobject (K := Float) subtypeInPlace "F" = .ok (some .postScript) ∧
      Scope.xobject (K := Float) subtypeMoved "F" = .error (.unknownSubtype "F" none) :=
  ⟨scopeOf_same "XObject" "F" nofun (.kept (.stream (.cons (.moved nofun rfl .name) .nil))), rfl, rfl⟩

end PageMarks.Resource
