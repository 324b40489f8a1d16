import PageMarks.Text.Utf8

/-!
Text comes back from its bytes. So bytes come back from the text they are read as exactly when they
are the bytes of a text; in all others something was replaced.
-/

namespace PageMarks.Text.Utf8

theorem toNat_byte {b : Nat} (small : b < 256) : (UInt8.ofNat b).toNat = b := by
  rw [UInt8.toNat_ofNat']
  omega

section

variable {b : Nat} (small : b < 256) (s : Bytes)
include small

theorem decodeFrom_begins {owed : Owed} (begins : lead b = .begins owed) :
    decodeFrom none (UInt8.ofNat b :: s) = decodeFrom (some owed) s := by
  simp only [decodeFrom, step, begin, toNat_byte small, begins, List.nil_append]

variable {count low high bits : Nat} (above : low ≤ b) (below : b ≤ high)
include above below

theorem decodeFrom_last :
    decodeFrom (some ⟨1, low, high, bits⟩) (UInt8.ofNat b :: s) =
      Char.ofNat (bits * 64 + (b - 0x80)) :: decodeFrom none s := by
  simp only [decodeFrom, step, toNat_byte small, if_pos (And.intro above below),
    if_pos (Nat.le_refl 1), List.singleton_append]

theorem decodeFrom_more :
    decodeFrom (some ⟨count + 2, low, high, bits⟩) (UInt8.ofNat b :: s) =
      decodeFrom (some ⟨count + 1, 0x80, 0xBF, bits * 64 + (b - 0x80)⟩) s := by
  have several : ¬ count + 2 ≤ 1 := by omega
  simp only [decodeFrom, step, toNat_byte small, if_pos (And.intro above below), if_neg several,
    List.nil_append]
  rfl

end

theorem lead_two {b : Nat} (above : 0xC2 ≤ b) (below : b < 0xE0) :
    lead b = .begins ⟨1, 0x80, 0xBF, b - 0xC0⟩ := by
  rw [lead, if_neg (by omega), if_neg (by omega), if_pos below]

theorem lead_three {b : Nat} (above : 0xE0 ≤ b) (below : b < 0xF0) :
    lead b = .begins ⟨2, if b = 0xE0 then 0xA0 else 0x80, if b = 0xED then 0x9F else 0xBF, b - 0xE0⟩ := by
  rw [lead, if_neg (by omega), if_neg (by omega), if_neg (by omega)]
  split
  · subst b; rfl
  · split
    · subst b; rfl
    · rfl

theorem lead_four {b : Nat} (above : 0xF0 ≤ b) (below : b ≤ 0xF4) :
    lead b = .begins ⟨3, if b = 0xF0 then 0x90 else 0x80, if b = 0xF4 then 0x8F else 0xBF, b - 0xF0⟩ := by
  rw [lead, if_neg (by omega), if_neg (by omega), if_neg (by omega), if_neg (by omega),
    if_neg (by omega), if_neg (by omega)]
  split
  · subst b; rfl
  · split
    · rw [if_neg (by omega)]
    · have last : b = 0xF4 := by omega
      subst b
      rfl

theorem decode_char (c : Char) (s : Bytes) :
    decodeFrom none (String.utf8EncodeChar c ++ s) = c :: decodeFrom none s := by
  have valid : c.val.toNat < 0xD800 ∨ 0xDFFF < c.val.toNat ∧ c.val.toNat < 0x110000 := c.valid
  have same (bits : Nat) (value : bits = c.val.toNat) : Char.ofNat bits = c := by
    rw [value]
    exact Char.ofNat_toNat c
  rw [String.utf8EncodeChar]
  generalize c.val.toNat = v at valid same
  split
  · have begins : lead v = .whole (Char.ofNat v) := by rw [lead, if_pos (by omega)]
    simp only [List.singleton_append, decodeFrom, step, begin, toNat_byte (b := v) (by omega), begins,
      same v rfl]
  · split
    · have begins := lead_two (b := v / 64 % 32 + 0xC0) (by omega) (by omega)
      simp only [List.cons_append, List.nil_append]
      rw [decodeFrom_begins (by omega) _ begins, decodeFrom_last (by omega) _ (by omega) (by omega),
        same _ (by omega)]
    · split
      · have begins := lead_three (b := v / 4096 % 16 + 0xE0) (by omega) (by omega)
        simp only [List.cons_append, List.nil_append]
        rw [decodeFrom_begins (by omega) _ begins,
          decodeFrom_more (by omega) _ (by split <;> omega) (by split <;> omega),
          decodeFrom_last (by omega) _ (by omega) (by omega), same _ (by omega)]
      · have begins := lead_four (b := v / 262144 % 8 + 0xF0) (by omega) (by omega)
        simp only [List.cons_append, List.nil_append]
        rw [decodeFrom_begins (by omega) _ begins,
          decodeFrom_more (by omega) _ (by split <;> omega) (by split <;> omega),
          decodeFrom_more (by omega) _ (by omega) (by omega),
          decodeFrom_last (by omega) _ (by omega) (by omega), same _ (by omega)]

theorem decode_encode (text : String) : decode (encode text) = text := by
  have chars (list : List Char) : decodeFrom none (list.flatMap String.utf8EncodeChar) = list := by
    induction list with
    | nil => rfl
    | cons c rest ih => rw [List.flatMap_cons, decode_char, ih]
  rw [decode, encode, chars, String.ofList_toList]

def Valid (bytes : Bytes) : Prop := ∃ text, encode text = bytes

theorem encode_decode_iff (bytes : Bytes) : encode (decode bytes) = bytes ↔ Valid bytes := by
  constructor
  · exact fun same => ⟨decode bytes, same⟩
  · rintro ⟨text, rfl⟩
    rw [decode_encode]

end PageMarks.Text.Utf8
