import Mathlib.Data.List.Basic
import PageMarks.Document

/-!
The values a value is made of. There are as many as `Object.count` says, and what a part is made of
are parts as well; the values a document holds are the parts of the objects in its table.
-/

namespace PageMarks

namespace Object

mutual

def parts : Object → List Object
  | array items => array items :: itemParts items
  | dictionary entries => dictionary entries :: entryParts entries
  | stream entries data => stream entries data :: entryParts entries
  | value => [value]

def itemParts : List Object → List Object
  | [] => []
  | item :: rest => item.parts ++ itemParts rest

def entryParts : List (Bytes × Object) → List Object
  | [] => []
  | (_, value) :: rest => value.parts ++ entryParts rest

end

mutual

theorem parts_length : (value : Object) → value.parts.length = value.count
  | array items => by simp only [parts, count, List.length_cons, itemParts_length items]
  | dictionary entries => by simp only [parts, count, List.length_cons, entryParts_length entries]
  | stream entries _ => by simp only [parts, count, List.length_cons, entryParts_length entries]
  | null | boolean _ | integer _ | real _ | name _ | string .. | reference _ => rfl

theorem itemParts_length : (items : List Object) → (itemParts items).length = countItems items
  | [] => rfl
  | item :: rest => by
    simp only [itemParts, countItems, List.length_append, parts_length item, itemParts_length rest]

theorem entryParts_length :
    (entries : List (Bytes × Object)) → (entryParts entries).length = countEntries entries
  | [] => rfl
  | (_, value) :: rest => by
    simp only [entryParts, countEntries, List.length_append, parts_length value,
      entryParts_length rest]

end

theorem count_le_countItems {item : Object} {items : List Object} (member : item ∈ items) :
    item.count ≤ countItems items := by
  induction items with
  | nil => cases member
  | cons first rest ih =>
    rw [countItems]
    rcases List.mem_cons.mp member with rfl | later
    · exact Nat.le_add_right _ _
    · exact Nat.le_trans (ih later) (Nat.le_add_left _ _)

theorem countEntries_eq (entries : List (Bytes × Object)) :
    countEntries entries = countItems (entries.map (·.2)) := by
  induction entries with
  | nil => rfl
  | cons entry rest ih =>
    rw [countEntries, ih]
    rfl

theorem count_le_countEntries {entry : Bytes × Object} {entries : List (Bytes × Object)}
    (member : entry ∈ entries) : entry.2.count ≤ countEntries entries := by
  rw [countEntries_eq]
  exact count_le_countItems (List.mem_map_of_mem member)

theorem self_mem_parts (value : Object) : value ∈ value.parts := by
  cases value <;> simp [parts]

theorem parts_subset_itemParts {item : Object} {items : List Object} (member : item ∈ items) :
    item.parts ⊆ itemParts items := by
  induction items with
  | nil => cases member
  | cons first rest ih =>
    rw [itemParts]
    rcases List.mem_cons.mp member with rfl | later
    · exact List.subset_append_left _ _
    · exact List.Subset.trans (ih later) (List.subset_append_right _ _)

theorem entryParts_eq (entries : List (Bytes × Object)) :
    entryParts entries = itemParts (entries.map (·.2)) := by
  induction entries with
  | nil => rfl
  | cons entry rest ih =>
    rw [entryParts, ih]
    rfl

theorem parts_subset_entryParts {entry : Bytes × Object} {entries : List (Bytes × Object)}
    (member : entry ∈ entries) : entry.2.parts ⊆ entryParts entries := by
  rw [entryParts_eq]
  exact parts_subset_itemParts (List.mem_map_of_mem member)

mutual

theorem parts_subset {part : Object} :
    (value : Object) → part ∈ value.parts → part.parts ⊆ value.parts
  | array items, member => by
    rcases List.mem_cons.mp member with rfl | inner
    · exact List.Subset.refl _
    · exact List.Subset.trans (itemParts_closed items inner) (List.subset_cons_self _ _)
  | dictionary entries, member => by
    rcases List.mem_cons.mp member with rfl | inner
    · exact List.Subset.refl _
    · exact List.Subset.trans (entryParts_closed entries inner) (List.subset_cons_self _ _)
  | stream entries _, member => by
    rcases List.mem_cons.mp member with rfl | inner
    · exact List.Subset.refl _
    · exact List.Subset.trans (entryParts_closed entries inner) (List.subset_cons_self _ _)
  | null, member | boolean _, member | integer _, member | real _, member | name _, member
  | string .., member | reference _, member => by
    rw [List.mem_singleton.mp member]
    exact List.Subset.refl _

theorem itemParts_closed {part : Object} :
    (items : List Object) → part ∈ itemParts items → part.parts ⊆ itemParts items
  | item :: rest, member => by
    rcases List.mem_append.mp member with first | later
    · exact List.Subset.trans (parts_subset item first) (List.subset_append_left _ _)
    · exact List.Subset.trans (itemParts_closed rest later) (List.subset_append_right _ _)

theorem entryParts_closed {part : Object} :
    (entries : List (Bytes × Object)) → part ∈ entryParts entries →
      part.parts ⊆ entryParts entries
  | (_, value) :: rest, member => by
    rcases List.mem_append.mp member with first | later
    · exact List.Subset.trans (parts_subset value first) (List.subset_append_left _ _)
    · exact List.Subset.trans (entryParts_closed rest later) (List.subset_append_right _ _)

end

theorem item_mem_parts {item value : Object} {items : List Object}
    (whole : array items ∈ value.parts) (member : item ∈ items) : item ∈ value.parts := by
  have within : item ∈ (array items).parts :=
    List.mem_cons_of_mem _ (parts_subset_itemParts member item.self_mem_parts)
  exact parts_subset value whole within

theorem entry_mem_parts {value : Object} {entry : Bytes × Object} {entries : List (Bytes × Object)}
    {data : Bytes} (whole : stream entries data ∈ value.parts) (member : entry ∈ entries) :
    entry.2 ∈ value.parts := by
  have within : entry.2 ∈ (stream entries data).parts :=
    List.mem_cons_of_mem _ (parts_subset_entryParts member entry.2.self_mem_parts)
  exact parts_subset value whole within

end Object

namespace Document

def parts (doc : Document) : List Object := doc.objects.flatMap (·.2.parts)

theorem parts_length (doc : Document) :
    doc.parts.length = doc.objects.foldl (fun n entry => n + entry.2.count) 0 := by
  have summed (entries : List (ObjectId × Object)) (n : Nat) :
      entries.foldl (fun n entry => n + entry.2.count) n =
        n + (entries.flatMap (·.2.parts)).length := by
    induction entries generalizing n with
    | nil => rfl
    | cons entry rest ih =>
      rw [List.foldl_cons, ih, List.flatMap_cons, List.length_append, Object.parts_length]
      omega
  rw [summed, parts, Nat.zero_add]

theorem find?_mem {doc : Document} {id : ObjectId} {value : Object}
    (found : doc.find? id = some value) : ∃ entry ∈ doc.objects, entry.2 = value := by
  obtain ⟨entry, first, same⟩ := Option.map_eq_some_iff.mp found
  exact ⟨entry, List.mem_of_find?_eq_some first, same⟩

theorem follow_mem {doc : Document} {id : ObjectId} {room : Nat} {value : Object}
    (reached : doc.follow id room = .ok value) : ∃ entry ∈ doc.objects, entry.2 = value := by
  fun_induction doc.follow id room with
  | case1 | case2 | case3 => cases reached
  | case4 id next found room ih => exact ih reached
  | case5 id room held _ found =>
    cases reached
    exact find?_mem found

/-- What a value refers to is in the table, unless the value is no reference. -/
theorem resolve_mem {doc : Document} {value target : Object}
    (reached : doc.resolve value = .ok target) : target = value ∨ target ∈ doc.parts := by
  unfold resolve at reached
  split at reached
  · obtain ⟨entry, member, rfl⟩ := follow_mem reached
    exact .inr (List.mem_flatMap.mpr ⟨entry, member, entry.2.self_mem_parts⟩)
  · cases reached
    exact .inl rfl

theorem item_mem_parts {doc : Document} {item : Object} {items : List Object}
    (whole : .array items ∈ doc.parts) (member : item ∈ items) : item ∈ doc.parts := by
  obtain ⟨entry, held, within⟩ := List.mem_flatMap.mp whole
  exact List.mem_flatMap.mpr ⟨entry, held, Object.item_mem_parts within member⟩

theorem entry_mem_parts {doc : Document} {entry : Bytes × Object}
    {entries : List (Bytes × Object)} {data : Bytes} (whole : .stream entries data ∈ doc.parts)
    (member : entry ∈ entries) : entry.2 ∈ doc.parts := by
  obtain ⟨held, inTable, within⟩ := List.mem_flatMap.mp whole
  exact List.mem_flatMap.mpr ⟨held, inTable, Object.entry_mem_parts within member⟩

end Document
end PageMarks
