import PageMarks.Proofs.Content.Continuation
import PageMarks.Proofs.Content.Stops

/-!
Reading that resumes. What is left of a stream that was read is the operands that wait for an
operator; to resume is to read other bytes with these operands in hand. The main statement is that
bytes with a space in the middle are read to the space and then resumed after it, unless a comment
runs over it. Errors after the space are those of the bytes there, further on by as many bytes as
stand before.
-/

namespace PageMarks.Content

def resumed (waiting : List Object) (bytes : Bytes) : Except Error (List Operation × List Object) :=
  match readStream bytes with
  | .error stop => .error (stop.inInput bytes.length)
  | .ok items => .ok (gather waiting items)

theorem operations_resumed (bytes : Bytes) :
    operations bytes = (resumed [] bytes).map fun read => read.1 := by
  unfold operations resumed
  cases readStream bytes <;> rfl

def Error.further (n : Nat) (e : Error) : Error := { e with offset := e.offset + n }

theorem Stop.inInput_further {stop : Stop} {size : Nat} (fits : stop.left ≤ size) (n : Nat) :
    stop.inInput (n + size) = (stop.inInput size).further n := by
  have offset : n + size - stop.left = size - stop.left + n := by omega
  simp only [Stop.inInput, Error.further, offset]

/-- Read from bytes with `n` others before them, which were read to the operations `before`. -/
def behind (n : Nat) (before : List Operation) :
    Except Error (List Operation × List Object) → Except Error (List Operation × List Object)
  | .ok (ops, left) => .ok (before ++ ops, left)
  | .error e => .error (e.further n)

section Resumed

variable {front back : Bytes} {items : List Item} (waiting : List Object)

theorem resumed_append (read : readStream (front ++ back) = (readStream back).map (items ++ ·)) :
    resumed waiting (front ++ back) =
      behind front.length (gather waiting items).1 (resumed (gather waiting items).2 back) := by
  cases rest : readStream back with
  | error stop =>
    have fits := (readStream_within rest).left_le
    have failed : readStream (front ++ back) = .error stop := by
      rw [read, rest]
      rfl
    simp only [resumed, failed, rest, behind, List.length_append]
    rw [Stop.inInput_further fits]
  | ok more =>
    have whole : readStream (front ++ back) = .ok (items ++ more) := by
      rw [read, rest]
      rfl
    simp only [resumed, whole, rest, behind]
    rw [gather_append]

theorem resumed_spaced {before : List Operation} {left : List Object}
    (read : resumed waiting front = .ok (before, left)) (closed : endsInComment front = false)
    {space : UInt8} (isSpace : isSpace space = true) (back : Bytes) :
    resumed waiting (front ++ space :: back) =
      behind (front.length + 1) before (resumed left back) := by
  cases alone : readStream front with
  | error stop => simp [resumed, alone] at read
  | ok items =>
    have ends : endsRun (space :: back) = true := by simp [endsRun, isRegular, isSpace]
    have skipped : readStream (skipBlanks (space :: back)) = readStream back := by
      calc readStream (skipBlanks (space :: back))
          = readStream (skipBlanks back) := by
            simp [skipBlanks, blanksFrom, isSpace]
        _ = readStream back := readStream_skip back
    have joined : readStream ((front ++ [space]) ++ back) = (readStream back).map (items ++ ·) := by
      calc readStream ((front ++ [space]) ++ back)
          = readStream (front ++ space :: back) := by rw [List.append_assoc, List.singleton_append]
        _ = (readStream (skipBlanks (space :: back))).map (items ++ ·) := by
            rw [readStream_append alone ends, closed, skipBlanks]
        _ = (readStream back).map (items ++ ·) := by rw [skipped]
    have gathered : gather waiting items = (before, left) := by
      simpa [resumed, alone] using read
    have whole := resumed_append waiting joined
    rw [gathered] at whole
    simpa using whole

end Resumed

/-- Operations read up to a space are followed by those that the rest is resumed to. If the rest
fails, so does the whole, with the same fault as far behind the space as it lies in the rest. -/
theorem operations_spaced {front : Bytes} {before : List Operation} {left : List Object}
    (read : resumed [] front = .ok (before, left)) (closed : endsInComment front = false)
    {space : UInt8} (blank : isSpace space = true) (back : Bytes) :
    operations (front ++ [space] ++ back) =
      match resumed left back with
      | .ok (ops, _) => .ok (before ++ ops)
      | .error e => .error ⟨e.fault, e.offset + (front.length + 1)⟩ := by
  rw [operations_resumed, List.append_assoc, List.singleton_append,
    resumed_spaced [] read closed blank]
  cases resumed left back <;> rfl

/-- `BI ID EI 7` leaves a `7` behind the image. It is the operand of a `Tz` after the space; a string
that is open there is found eleven bytes further on. -/
theorem operations_spaced_image :
    resumed [] [66, 73, 32, 73, 68, 32, 69, 73, 32, 55] =
      .ok ([⟨"BI", [.dictionary [], .string [] .literal]⟩], [.integer 7]) ∧
    endsInComment [66, 73, 32, 73, 68, 32, 69, 73, 32, 55] = false ∧ isSpace 13 = true ∧
    operations ([66, 73, 32, 73, 68, 32, 69, 73, 32, 55] ++ [13] ++ [84, 122]) =
      .ok [⟨"BI", [.dictionary [], .string [] .literal]⟩, ⟨"Tz", [.integer 7]⟩] ∧
    operations ([66, 73, 32, 73, 68, 32, 69, 73, 32, 55] ++ [13] ++ [60, 52]) =
      .error ⟨.unterminated .hexString, 11⟩ := by
  have image : ItemAt 66 [73, 32, 73, 68, 32, 69, 73, 32, 55]
      (some (.image (Dictionary.ofList []) (List.dropLast []))) [32, 55] :=
    .image rfl rfl (.done rfl rfl) rfl
  have seven : ItemAt 55 [] (some (.operand (.integer 7))) [] := .value rfl (.number rfl rfl)
  have read : resumed [] [66, 73, 32, 73, 68, 32, 69, 73, 32, 55] =
      .ok ([⟨"BI", [.dictionary [], .string [] .literal]⟩], [.integer 7]) := by
    rw [resumed, readStream_step rfl image.yields, readStream_step rfl seven.yields,
      readStream_blank rfl]
    rfl
  have closed : endsInComment [66, 73, 32, 73, 68, 32, 69, 73, 32, 55] = false := by
    rw [endsInComment_step rfl image.yields, endsInComment_step rfl seven.yields,
      endsInComment_blank rfl]
    rfl
  have scaled : resumed [.integer 7] [84, 122] = .ok ([⟨"Tz", [.integer 7]⟩], []) := by
    rw [resumed, readStream_last rfl rfl rfl (by decide)]
    rfl
  have opened : resumed [.integer 7] [60, 52] = .error ⟨.unterminated .hexString, 0⟩ := by
    have failed : readItem 60 [52] = .error ⟨.unterminated .hexString, 2⟩ := by
      have value : readValue .stream [60, 52] = .error ⟨.unterminated .hexString, 2⟩ :=
        readValue_angle (by decide)
      simp [readItem, isStray, startsOperator, value, Except.map]
    rw [resumed, readStream_stop rfl failed]
    rfl
  refine ⟨read, closed, rfl, ?_, ?_⟩
  · rw [operations_spaced read closed rfl, scaled]
    rfl
  · rw [operations_spaced read closed rfl, opened]
    rfl

end PageMarks.Content
