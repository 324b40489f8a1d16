import PageMarks.Proofs.Interpreter.Bracketing

/-!
Requests to stop, and whether the end of a run tells of them. A stop in the content of a page is the
last thing in the log and is reported. A stop inside a form is not passed on: it is up to the content
around the form to be asked again before its next operation, and there may be none.
-/

namespace PageMarks.Interpreter

variable {K R ω : Type}

def Skipped (log : Log K R) : Prop := ∃ index, .stop index ∈ notes log

def Truthful (ending : Ending) (log : Log K R) : Prop :=
  (ending = .ok .finished → ¬Skipped log) ∧
    (Skipped log → (∀ failure, ending ≠ .error failure) → ending = .ok .cancelled)

/-- A request to stop that is not taken back. -/
def Sticky (host : Host K R ω) : Prop := Kept host fun w => host.cancelled w = true

def EndsInStop (log : Log K R) : Prop := ∃ index, log.getLast? = some (.note (.stop index))

theorem skipped_append {log later : Log K R} :
    Skipped (log ++ later) ↔ Skipped log ∨ Skipped later := by
  simp [Skipped, notes_append, exists_or]

theorem skipped_mono {log larger : Log K R} (within : log ⊆ larger) (skipped : Skipped log) :
    Skipped larger := by
  obtain ⟨index, member⟩ := skipped
  obtain ⟨entry, present, noted⟩ := List.mem_filterMap.mp member
  exact ⟨index, List.mem_filterMap.mpr ⟨entry, within present, noted⟩⟩

theorem truthful_iff (ending : Ending) (log : Log K R) :
    Truthful ending log ↔ (ending = .ok .finished → ¬Skipped log) := by
  refine ⟨And.left, fun told => ⟨told, fun skipped unfailed => ?_⟩⟩
  rcases ending with failure | _ | _
  · exact absurd rfl (unfailed failure)
  · exact absurd skipped (told rfl)
  · rfl

theorem endsInStop_append {log : Log K R} (later : Log K R) (before : ¬EndsInStop log) :
    EndsInStop (log ++ later) ↔ EndsInStop later := by
  rcases later.eq_nil_or_concat with rfl | ⟨_, _, rfl⟩
  · exact iff_of_false (by simpa using before) (by simp [EndsInStop])
  · simp [EndsInStop]

theorem silent_endsInStop {log : Log K R} (silent : notes log = []) : ¬EndsInStop log := by
  rintro ⟨index, last⟩
  have member : Note.stop index ∈ notes log :=
    List.mem_filterMap.mpr ⟨_, List.mem_of_getLast? last, rfl⟩
  rw [silent] at member
  cases member

theorem silent_skipped {log : Log K R} (silent : notes log = []) : ¬Skipped log := by
  simp [Skipped, silent]

theorem dispatch_endsInStop (operator : String) (index : Nat) :
    ¬EndsInStop [(.note (.dispatch operator index) : Entry K R)] := by
  simp [EndsInStop]

theorem bracket_endsInStop (name : String) (depth : Nat) (saved restored : Outcome)
    (inside : Log K R) : ¬EndsInStop (bracket name depth saved restored inside) := by
  rintro ⟨index, last⟩
  rw [bracket, List.getLast?_append] at last
  cases last

variable [Scalar K] {resolver : Resolver K R} {limit : Nat}

/-- Content ends in a stop when it says so, an operation or a form never does. -/
def Part.ToldApart : Part K R → Log K R → Prop
  | .content _ _ _ _ ending, log => EndsInStop log ↔ ending = .ok .cancelled
  | _, log => ¬EndsInStop log

omit [Scalar K] in
theorem performed_endsInStop {calls : List (Callback K R)} {site : Site} {sections : Nat}
    {answer outcome : Outcome} {heard : Except Failure Unit} {log later : Log K R}
    (performed : Performed calls answer log) (settled : Settled site sections outcome heard later) :
    ¬EndsInStop (log ++ later) :=
  silent_endsInStop (by
    rw [notes_append, performed_notes performed, (settled_hushed settled).2, List.nil_append])

theorem part_toldApart {part : Part K R} {log : Log K R}
    (transcript : Transcript resolver limit part log) : part.ToldApart log := by
  induction transcript with
  | finished => simp [Part.ToldApart, EndsInStop]
  | @stopped _ _ index => exact ⟨fun _ => rfl, fun _ => ⟨index, rfl⟩⟩
  | @raised _ _ index op _ _ _ log _ operation =>
    refine iff_of_false (fun ends => operation ?_) nofun
    exact (endsInStop_append log (dispatch_endsInStop op.operator index)).mp ends
  | @next _ _ index op _ _ _ log later _ _ operation content =>
    have first : ¬EndsInStop (.note (.dispatch op.operator index) :: log) :=
      fun ends => operation ((endsInStop_append log (dispatch_endsInStop op.operator index)).mp ends)
    exact (endsInStop_append later first).trans content
  | refused _ settled => exact silent_endsInStop (settled_hushed settled).2
  | broken _ performed settled => exact performed_endsInStop performed settled
  | performed _ performed _ settled => exact performed_endsInStop performed settled
  | @invoked _ _ _ _ _ _ _ _ _ _ own inside heard _ performed _ _ settled form =>
    have first : ¬EndsInStop (own ++ inside) := fun ends =>
      form ((endsInStop_append inside (silent_endsInStop (performed_notes performed))).mp ends)
    exact fun ends =>
      silent_endsInStop (settled_hushed settled).2 ((endsInStop_append heard first).mp ends)
  | tooDeep => exact silent_endsInStop rfl
  | shut => simp [Part.ToldApart, EndsInStop]
  | unready => exact fun ends => bracket_endsInStop _ _ _ _ _ ends
  | @form _ site _ _ _ _ ending _ restored =>
    exact fun ends => silent_endsInStop (formOutcome_hushed site ending.outcome restored).2
      ((endsInStop_append _ (bracket_endsInStop _ _ _ _ _)).mp ends)

theorem last_operation {depth : Nat} {frame : Frame R} {index : Nat} {init : List Operation}
    {last : Operation} {log : Log K R}
    (transcript : Transcript resolver limit
      (.content depth frame index (init ++ [last]) (.ok .finished)) log) :
    ∃ before inside around sections,
      log = before ++ .note (.dispatch last.operator (index + init.length)) :: inside ∧
        Transcript resolver limit
          (.operation depth around ⟨last.operator, index + init.length⟩ last (.ok ()) sections)
          inside := by
  obtain ⟨sections, before, after, rfl, -, ending⟩ := content_split transcript
  cases ending with
  | next operation later =>
    cases later
    exact ⟨before, _, _, _, by rw [List.append_nil], operation⟩

theorem skipped_inside {depth : Nat} {frame : Frame R} {site : Site} {op : Operation}
    {answer : Except Failure Unit} {sections : Nat} {log : Log K R}
    (transcript : Transcript resolver limit (.operation depth frame site op answer sections) log)
    (skipped : Skipped log) : op.kind? = some .paintXObject := by
  cases transcript with
  | refused _ settled => exact absurd skipped (silent_skipped (settled_hushed settled).2)
  | broken _ performed settled =>
    rcases skipped_append.mp skipped with own | heard
    · exact absurd own (silent_skipped (performed_notes performed))
    · exact absurd heard (silent_skipped (settled_hushed settled).2)
  | performed _ performed _ settled =>
    rcases skipped_append.mp skipped with own | heard
    · exact absurd own (silent_skipped (performed_notes performed))
    · exact absurd heard (silent_skipped (settled_hushed settled).2)
  | invoked planned _ sequel => exact (plan_enters _ _ _ _ _ planned _ _ sequel).kind

/-- Nothing is taken up after a stop. -/
def Orderly (log : Log K R) : Prop :=
  (notes log).Pairwise fun earlier later =>
    (∃ index, earlier = .stop index) → ∀ operator index, later ≠ .dispatch operator index

omit [Scalar K] in
theorem orderly_split {before after : Log K R} {operator : String} {index : Nat}
    (orderly : Orderly (before ++ .note (.dispatch operator index) :: after)) : ¬Skipped before := by
  rintro ⟨stopped, member⟩
  rw [Orderly, notes_append, List.pairwise_append] at orderly
  exact orderly.2.2 _ member _ (.head _) ⟨stopped, rfl⟩ operator index rfl

omit [Scalar K] in
theorem orderly_note {log : Log K R} {note : Note} (orderly : Orderly log)
    (allowed : Skipped log → ∀ operator index, note ≠ .dispatch operator index) :
    Orderly (log ++ [.note note]) := by
  rw [Orderly, notes_append, List.pairwise_append]
  refine ⟨orderly, List.pairwise_singleton _ _, ?_⟩
  rintro _ member _ last ⟨index, rfl⟩
  cases List.mem_singleton.mp last
  exact allowed ⟨index, member⟩

/-- Of a request to stop that lasts: once something has been given up, the request stands and
nothing more is taken up. -/
def Halted (host : Host K R ω) (w : ω × Log K R) : Prop :=
  (Skipped w.2 → host.cancelled w.1 = true) ∧ Orderly w.2

omit [Scalar K] in
theorem halted_silent {host : Host K R ω} {v w : ω} {log later : Log K R}
    (silent : notes later = []) (lasting : host.cancelled v = true → host.cancelled w = true)
    (halted : Halted host (v, log)) : Halted host (w, log ++ later) := by
  refine ⟨fun skipped => lasting (halted.1 ?_), ?_⟩
  · exact (skipped_append.mp skipped).resolve_right (silent_skipped silent)
  · simpa only [Orderly, notes_append, silent, List.append_nil] using halted.2

omit [Scalar K] in
theorem halted_kept {host : Host K R ω} (sticky : Sticky host) : Kept host.logged (Halted host) where
  call c := halted_silent rfl (sticky.call c)
  warn warning := halted_silent rfl (sticky.warn warning)
  offer failure := halted_silent rfl (sticky.offer failure)
  note {w} note halted timely := by
    refine ⟨fun skipped => sticky.note note ?_ timely, orderly_note halted.2 ?_⟩
    · rcases skipped_append.mp skipped with earlier | ⟨index, now⟩
      · exact halted.1 earlier
      · cases List.mem_singleton.mp now
        exact timely
    · rintro skipped operator index rfl
      exact Bool.noConfusion ((halted.1 skipped).symm.trans timely)

theorem history_orderly {host : Host K R ω} (sticky : Sticky host) (resolver : Resolver K R)
    (limit : Nat) (scope : R) (content : List Operation) (w : ω) :
    Orderly (history host resolver limit scope content w) :=
  have fresh : Halted host (w, []) := ⟨fun skipped => absurd skipped (silent_skipped rfl), .nil⟩
  ((halted_kept sticky).run resolver limit limit scope content fresh).2

/-- A stop is reported if it comes at the end of the log. With a request that lasts, one that is not
reported was made while a form was drawn by the very last operation. -/
theorem stop_reported_iff (host : Host K R ω) (resolver : Resolver K R) (limit : Nat) (scope : R)
    (content : List Operation) (w : ω) :
    (Truthful (process host resolver limit scope content w).1
        (history host resolver limit scope content w) ↔
      (Skipped (history host resolver limit scope content w) →
        (∃ failure, (process host resolver limit scope content w).1 = .error failure) ∨
          EndsInStop (history host resolver limit scope content w))) ∧
    (Sticky host → ¬Truthful (process host resolver limit scope content w).1
        (history host resolver limit scope content w) →
      ∃ init last before inside, content = init ++ [last] ∧ last.kind? = some .paintXObject ∧
        history host resolver limit scope content w =
          before ++ .note (.dispatch last.operator init.length) :: inside ∧
        ¬Skipped before ∧ Skipped inside) := by
  obtain ⟨frame, opening, log, e, opened, transcript⟩ :=
    history_logged host resolver limit scope content w
  have silent := (opened_hushed opened).2
  have told : EndsInStop (opening ++ log) ↔
      (process host resolver limit scope content w).1 = .ok .cancelled :=
    (endsInStop_append log (silent_endsInStop silent)).trans (part_toldApart transcript)
  constructor
  · rw [truthful_iff, e, told]
    rcases (process host resolver limit scope content w).1 with failure | _ | _ <;> simp
  · intro sticky untold
    obtain ⟨finished, skipped⟩ := Classical.not_imp.mp (mt (truthful_iff _ _).mpr untold)
    have skipped := Classical.not_not.mp skipped
    have orderly := history_orderly sticky resolver limit scope content w
    rw [finished] at transcript
    rw [e] at skipped orderly ⊢
    rcases content.eq_nil_or_concat with rfl | ⟨init, last, split⟩
    · cases transcript
      exact absurd skipped (silent_skipped (by simpa using silent))
    · obtain rfl := split.trans List.concat_eq_append
      obtain ⟨before, inside, around, sections, rfl, operation⟩ := last_operation transcript
      rw [Nat.zero_add] at operation orderly skipped ⊢
      rw [← List.append_assoc] at orderly skipped
      have unskipped := orderly_split orderly
      have within : Skipped inside := by
        simpa [Skipped, notes] using (skipped_append.mp skipped).resolve_left unskipped
      exact ⟨init, last, opening ++ before, inside, rfl, skipped_inside operation within,
        (List.append_assoc ..).symm, unskipped, within⟩

def endPathTwice : Form Float Unit := ⟨⟨1, 0, 0, 1, 0, 0⟩, none, [⟨"n", []⟩, ⟨"n", []⟩], none⟩

def oneForm : Resolver Float Unit :=
  { Resolver.none Float Unit with xobject := fun _ _ => .ok (some (.form endPathTwice)) }

def counter (K R : Type) : Device K R Nat where
  features _ _ := true
  call _ count := (.ok (), count + 1)

def stopAtFour : Host Float Unit (Nat × Unit) :=
  .of (counter Float Unit) (.strict Unit) fun count => decide (4 ≤ count)

theorem stopAtFour_sticky : Sticky stopAtFour where
  call _ asked := decide_eq_true (Nat.le_succ_of_le (of_decide_eq_true asked))
  warn _ asked := asked
  offer _ asked := asked
  note _ asked _ := asked

theorem stop_in_form_lost :
    Sticky stopAtFour ∧
      (process stopAtFour oneForm 10 () [⟨"Do", [.name [70]]⟩] (0, ())).1 = .ok .finished ∧
      notes (history stopAtFour oneForm 10 () [⟨"Do", [.name [70]]⟩] (0, ())) =
        [.dispatch "Do" 0, .enter "F" 1, .dispatch "n" 0, .stop 1, .leave "F"] ∧
      ¬Truthful (process stopAtFour oneForm 10 () [⟨"Do", [.name [70]]⟩] (0, ())).1
        (history stopAtFour oneForm 10 () [⟨"Do", [.name [70]]⟩] (0, ())) := by
  have finished : (process stopAtFour oneForm 10 () [⟨"Do", [.name [70]]⟩] (0, ())).1 =
      .ok .finished := rfl
  have noted : notes (history stopAtFour oneForm 10 () [⟨"Do", [.name [70]]⟩] (0, ())) =
      [.dispatch "Do" 0, .enter "F" 1, .dispatch "n" 0, .stop 1, .leave "F"] := rfl
  have skipped : Skipped (history stopAtFour oneForm 10 () [⟨"Do", [.name [70]]⟩] (0, ())) :=
    ⟨1, by rw [noted]; simp⟩
  exact ⟨stopAtFour_sticky, finished, noted, fun truthful => truthful.1 finished skipped⟩

end PageMarks.Interpreter
