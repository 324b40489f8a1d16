import PageMarks.Page

/-!
Entries that a page has from above. A node without the key hands the search on to the node that its
/Parent refers to, and 64 nodes are looked at. The main statement says exactly when a value is found,
when there is none, and which error ends the search: a fault of a node counts only if no node before
it has the key, and a way up that comes back to itself, or is too long, is an error as well.
-/

namespace PageMarks.Page

section

variable (doc : Document) (key : String)

def entryAt? (id : ObjectId) : Option Object :=
  (doc.getDictionary id).toOption.bind (Dictionary.entry? · key)

/-- Node `n` on the way up through /Parent. A node is the first on its own way, and has number 0. -/
inductive Above (doc : Document) : Nat → ObjectId → ObjectId → Prop
  | self {id} : Above doc 0 id id
  | next {n id parent node} : entryAt? doc "Parent" id = some (.reference parent) →
    Above doc n parent node → Above doc (n + 1) id node

def Keyless (n : Nat) (id : ObjectId) : Prop :=
  ∀ m < n, ∀ node, Above doc m id node → entryAt? doc key node = none

def Top (id : ObjectId) : Prop :=
  ∃ entries : Dictionary, doc.get id = .ok (.dictionary entries) ∧ entries.entry? "Parent" = none

inductive Broken (id : ObjectId) : PageError → Prop
  | dangling {error : DocumentError} : doc.get id = .error error → Broken id (.document error)
  | undictionary {value : Object} : doc.get id = .ok value → value.dictionary? = none →
    Broken id (.document (.wrongType "Dictionary" value.kind))
  | unreferring {entries : Dictionary} {value : Object} : doc.get id = .ok (.dictionary entries) →
    entries.entry? key = none → entries.entry? "Parent" = some value →
    (∀ parent, value ≠ .reference parent) →
    Broken id (.malformed (.parentReference (.wrongType "Reference" value.kind)))

/-- What a search comes to at the node where it ends. -/
inductive Ends (id : ObjectId) : Except PageError (Option Object) → Prop
  | found {value : Object} : entryAt? doc key id = some value → Ends id (.ok (some value))
  | absent : entryAt? doc key id = none → Top doc id → Ends id (.ok none)
  | broken {error : PageError} : Broken doc key id error → Ends id (.error error)

end

variable {doc : Document} {key : String} {n m room : Nat} {id node parent : ObjectId}

theorem Above.trans {last : ObjectId} (above : Above doc n id node) (further : Above doc m node last) :
    Above doc (n + m) id last := by
  induction above with
  | self => rwa [Nat.zero_add]
  | next leads _ ih =>
    rw [Nat.succ_add]
    exact .next leads (ih further)

theorem Above.unique {other : ObjectId} (above : Above doc n id node) (also : Above doc n id other) :
    node = other := by
  induction above with
  | self =>
    cases also
    rfl
  | next leads _ ih =>
    cases also with
    | next leads' further =>
      rw [leads] at leads'
      cases leads'
      exact ih further

theorem Keyless.zero : Keyless doc key 0 id := fun _ below => absurd below (Nat.not_lt_zero _)

theorem Keyless.succ (first : entryAt? doc key id = none)
    (others : ∀ parent, entryAt? doc "Parent" id = some (.reference parent) → Keyless doc key n parent) :
    Keyless doc key (n + 1) id := by
  intro m below node above
  cases above with
  | self => exact first
  | next leads further => exact others _ leads _ (Nat.lt_of_succ_lt_succ below) node further

theorem Keyless.tail (keyless : Keyless doc key (n + 1) id)
    (leads : entryAt? doc "Parent" id = some (.reference parent)) : Keyless doc key n parent :=
  fun _ below _ above => keyless _ (Nat.succ_lt_succ below) _ (.next leads above)

theorem keyless_succ (above : Above doc n id node) :
    Keyless doc key (n + 1) id ↔ Keyless doc key n id ∧ entryAt? doc key node = none := by
  constructor
  · intro keyless
    exact ⟨fun m below => keyless m (Nat.lt_succ_of_lt below), keyless n (Nat.lt_succ_self n) node above⟩
  · rintro ⟨keyless, last⟩ m below other above'
    rcases Nat.lt_succ_iff_lt_or_eq.mp below with below | rfl
    · exact keyless m below other above'
    · exact above.unique above' ▸ last

theorem above_cyclic (above : Above doc n id node) (again : Above doc (m + 1) node node) (k : Nat) :
    ∃ last, Above doc k id last := by
  have turns (k : Nat) : ∃ last further, Above doc (k + further) node last := by
    induction k with
    | zero => exact ⟨node, 0, .self⟩
    | succ k ih =>
      obtain ⟨last, further, way⟩ := ih
      refine ⟨last, further + m, ?_⟩
      have longer := again.trans way
      rwa [show m + 1 + (k + further) = k + 1 + (further + m) by omega] at longer
  -- The turns make ways of some length beyond `k`, and those have beginnings of any length.
  have initial {k further : Nat} {id last : ObjectId} (way : Above doc (k + further) id last) :
      ∃ last, Above doc k id last := by
    induction k generalizing id with
    | zero => exact ⟨id, .self⟩
    | succ k ih =>
      rw [Nat.succ_add] at way
      cases way with
      | next leads way =>
        obtain ⟨last, way⟩ := ih way
        exact ⟨last, .next leads way⟩
  obtain ⟨last, further, way⟩ := turns k
  have whole := above.trans way
  rw [Nat.add_left_comm] at whole
  exact initial whole

theorem entryAt?_dictionary {entries : Dictionary} (found : doc.getDictionary id = .ok entries)
    (key : String) : entryAt? doc key id = entries.entry? key := by
  rw [entryAt?, found]
  rfl

theorem getDictionary_ok {entries : Dictionary} :
    doc.getDictionary id = .ok entries ↔ doc.get id = .ok (.dictionary entries) := by
  unfold Document.getDictionary
  rcases doc.get id with error | value
  · simp
  · cases value <;> simp

theorem getDictionary_error {error : DocumentError} (failed : doc.getDictionary id = .error error) :
    Broken doc key id (.document error) := by
  unfold Document.getDictionary at failed
  rcases got : doc.get id with error | value
  · rw [got] at failed
    cases failed
    exact .dangling got
  · rw [got] at failed
    cases value
    case dictionary => cases failed
    all_goals
      cases failed
      exact .undictionary got rfl

theorem inherited?_next (keyless : entryAt? doc key id = none)
    (leads : entryAt? doc "Parent" id = some (.reference parent)) :
    inherited? doc key (room + 1) id = inherited? doc key room parent := by
  cases found : doc.getDictionary id with
  | error => simp [entryAt?, found, Except.toOption] at leads
  | ok entries =>
    rw [entryAt?_dictionary found] at keyless leads
    simp only [inherited?, found, keyless, leads]

theorem inherited?_above (above : Above doc n id node) (keyless : Keyless doc key n id) :
    inherited? doc key (n + room) id = inherited? doc key room node := by
  induction above with
  | self => rw [Nat.zero_add]
  | next leads _ ih =>
    have first := keyless 0 (Nat.succ_pos _) _ .self
    rw [Nat.succ_add, inherited?_next first leads]
    exact ih (keyless.tail leads)

theorem inherited?_ends {result : Except PageError (Option Object)} (ends : Ends doc key id result) :
    inherited? doc key (room + 1) id = result := by
  cases ends with
  | @found value has =>
    cases found : doc.getDictionary id with
    | error => simp [entryAt?, found, Except.toOption] at has
    | ok entries =>
      rw [entryAt?_dictionary found] at has
      simp only [inherited?, found, has]
  | absent keyless top =>
    obtain ⟨entries, got, parentless⟩ := top
    have found := getDictionary_ok.mpr got
    rw [entryAt?_dictionary found] at keyless
    simp only [inherited?, found, keyless, parentless]
  | broken broken =>
    cases broken with
    | dangling failed => simp only [inherited?, Document.getDictionary, failed]
    | @undictionary value got other =>
      cases value
      case dictionary => cases other
      all_goals simp only [inherited?, Document.getDictionary, got]
    | @unreferring entries value got keyless parent other =>
      simp only [inherited?, getDictionary_ok.mpr got, keyless, parent]

theorem ends_or_next (doc : Document) (key : String) (id : ObjectId) :
    (∃ result, Ends doc key id result) ∨
      entryAt? doc key id = none ∧ ∃ parent, entryAt? doc "Parent" id = some (.reference parent) := by
  cases found : doc.getDictionary id with
  | error => exact .inl ⟨_, .broken (getDictionary_error found)⟩
  | ok entries =>
    have got := getDictionary_ok.mp found
    rw [entryAt?_dictionary found "Parent"]
    cases has : entries.entry? key with
    | some value => exact .inl ⟨_, .found ((entryAt?_dictionary found key).trans has)⟩
    | none =>
      have keyless : entryAt? doc key id = none := (entryAt?_dictionary found key).trans has
      cases above : entries.entry? "Parent" with
      | none => exact .inl ⟨_, .absent keyless ⟨entries, got, above⟩⟩
      | some value =>
        by_cases refers : ∃ parent, value = .reference parent
        · obtain ⟨parent, rfl⟩ := refers
          exact .inr ⟨keyless, parent, rfl⟩
        · exact .inl ⟨_, .broken (.unreferring got has above (not_exists.mp refers))⟩

theorem inherited?_total (doc : Document) (key : String) (room : Nat) (id : ObjectId) :
    (∃ n < room, ∃ node result, Above doc n id node ∧ Keyless doc key n id ∧
      Ends doc key node result) ∨
    ∃ node, Above doc room id node ∧ Keyless doc key room id := by
  induction room generalizing id with
  | zero => exact .inr ⟨id, .self, .zero⟩
  | succ room ih =>
    rcases ends_or_next doc key id with ⟨result, ends⟩ | ⟨keyless, parent, leads⟩
    · exact .inl ⟨0, Nat.succ_pos room, id, result, .self, .zero, ends⟩
    · have others {n : Nat} (further : Keyless doc key n parent) : Keyless doc key (n + 1) id := by
        refine .succ keyless fun other leads' => ?_
        rw [leads] at leads'
        cases leads'
        exact further
      rcases ih parent with ⟨n, within, node, result, above, further, ends⟩ | ⟨node, above, further⟩
      · exact .inl ⟨n + 1, Nat.succ_lt_succ within, node, result, .next leads above, others further, ends⟩
      · exact .inr ⟨node, .next leads above, others further⟩

theorem inherited?_of_ends {result : Except PageError (Option Object)} (within : n < room)
    (above : Above doc n id node) (keyless : Keyless doc key n id) (ends : Ends doc key node result) :
    inherited? doc key room id = result := by
  obtain ⟨further, rfl⟩ := Nat.exists_eq_add_of_lt within
  rw [Nat.add_assoc, inherited?_above above keyless, inherited?_ends ends]

theorem inherited?_of_above (above : Above doc n id node) (keyless : Keyless doc key n id) :
    inherited? doc key n id = .error (.malformed .parentChain) := by
  have passed : inherited? doc key (n + 0) id = inherited? doc key 0 node :=
    inherited?_above above keyless
  exact passed

theorem inherited?_iff {result : Except PageError (Option Object)} :
    inherited? doc key room id = result ↔
      (∃ n < room, ∃ node, Above doc n id node ∧ Keyless doc key n id ∧ Ends doc key node result) ∨
      (∃ node, Above doc room id node ∧ Keyless doc key room id) ∧
        result = .error (.malformed .parentChain) := by
  constructor
  · rintro rfl
    rcases inherited?_total doc key room id with
      ⟨n, within, node, result, above, keyless, ends⟩ | ⟨node, above, keyless⟩
    · rw [inherited?_of_ends within above keyless ends]
      exact .inl ⟨n, within, node, above, keyless, ends⟩
    · exact .inr ⟨⟨node, above, keyless⟩, inherited?_of_above above keyless⟩
  · rintro (⟨n, within, node, above, keyless, ends⟩ | ⟨⟨node, above, keyless⟩, rfl⟩)
    · exact inherited?_of_ends within above keyless ends
    · exact inherited?_of_above above keyless

/-- A key is looked up on a page as it should be: its value is that of the nearest node on the way up
that has it, among the first 64; there is none just if one of these nodes is at the top and the key is
on none of them up to there; and it is an error just if, before the key is found, a node is broken or
64 of them have been passed. So it is where the way up never ends and the key is nowhere on it. -/
theorem inherited_nearest (doc : Document) (key : String) (id : ObjectId) :
    (∀ value, inherited? doc key ancestorLimit id = .ok (some value) ↔
      ∃ n < 64, ∃ node, Above doc n id node ∧ Keyless doc key n id ∧
        entryAt? doc key node = some value) ∧
    (inherited? doc key ancestorLimit id = .ok none ↔
      ∃ n < 64, ∃ node, Above doc n id node ∧ Keyless doc key (n + 1) id ∧ Top doc node) ∧
    (∀ error, inherited? doc key ancestorLimit id = .error error ↔
      (∃ n < 64, ∃ node, Above doc n id node ∧ Keyless doc key n id ∧ Broken doc key node error) ∨
      (∃ node, Above doc 64 id node ∧ Keyless doc key 64 id) ∧
        error = .malformed .parentChain) ∧
    (∀ n m node, Above doc n id node → Above doc (m + 1) node node →
      (∀ k, Keyless doc key k id) →
      inherited? doc key ancestorLimit id = .error (.malformed .parentChain)) := by
  refine ⟨fun value => ?_, ?_, fun error => ?_, ?_⟩
  · rw [inherited?_iff]
    constructor
    · rintro (⟨n, within, node, above, keyless, ⟨⟩⟩ | ⟨_, ⟨⟩⟩)
      exact ⟨n, within, node, above, keyless, ‹_›⟩
    · rintro ⟨n, within, node, above, keyless, has⟩
      exact .inl ⟨n, within, node, above, keyless, .found has⟩
  · rw [inherited?_iff]
    constructor
    · rintro (⟨n, within, node, above, keyless, ⟨⟩⟩ | ⟨_, ⟨⟩⟩)
      exact ⟨n, within, node, above, (keyless_succ above).mpr ⟨keyless, ‹_›⟩, ‹_›⟩
    · rintro ⟨n, within, node, above, keyless, top⟩
      obtain ⟨before, last⟩ := (keyless_succ above).mp keyless
      exact .inl ⟨n, within, node, above, before, .absent last top⟩
  · rw [inherited?_iff]
    constructor
    · rintro (⟨n, within, node, above, keyless, ⟨⟩⟩ | ⟨passed, ⟨⟩⟩)
      · exact .inl ⟨n, within, node, above, keyless, ‹_›⟩
      · exact .inr ⟨passed, rfl⟩
    · rintro (⟨n, within, node, above, keyless, broken⟩ | ⟨passed, rfl⟩)
      · exact .inl ⟨n, within, node, above, keyless, .broken broken⟩
      · exact .inr ⟨passed, rfl⟩
  · intro n m node above again keyless
    obtain ⟨last, above⟩ := above_cyclic above again ancestorLimit
    exact inherited?_of_above above (keyless ancestorLimit)

def ladder (height : Nat) : Document where
  objects :=
    (List.range height).map (fun n =>
      (⟨n, 0⟩, .dictionary [(Text.Utf8.encode "Parent", .reference ⟨n + 1, 0⟩)])) ++
      [(⟨height, 0⟩, .dictionary [(Text.Utf8.encode "Rotate", .integer 90)])]
  trailer := []

example : inherited? (ladder 63) "Rotate" ancestorLimit ⟨0, 0⟩ = .ok (some (.integer 90)) := rfl

example : inherited? (ladder 64) "Rotate" ancestorLimit ⟨0, 0⟩ =
    .error (.malformed .parentChain) := rfl

end PageMarks.Page
