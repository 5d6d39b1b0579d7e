import ConfigRefs.Text.Dotted

/-!
# Text: splitting what was joined

A name splits into exactly the dot-free parts it was joined from (`segments_joinDots`), so names with
the same segments are the same (`segments_injective`).
-/

namespace ConfigRefs.Text

/-- No part has a dot. -/
def DotFree (part : String) : Prop := '.' ∉ part.toList

instance (part : String) : Decidable (DotFree part) := inferInstanceAs (Decidable (_ ∉ _))

theorem splitDots_of_dotFree : ∀ {text : List Char}, '.' ∉ text → splitDots text = [text]
  | [], _ => rfl
  | c :: text, h => by
    rw [List.mem_cons, not_or] at h
    rw [splitDots, if_neg (Ne.symm h.1), splitDots_of_dotFree h.2]

theorem splitDots_append_dot : ∀ {text : List Char} (rest : List Char), '.' ∉ text →
    splitDots (text ++ '.' :: rest) = text :: splitDots rest
  | [], _, _ => by rw [List.nil_append, splitDots, if_pos rfl]
  | c :: text, rest, h => by
    rw [List.mem_cons, not_or] at h
    rw [List.cons_append, splitDots, if_neg (Ne.symm h.1), splitDots_append_dot rest h.2]

theorem splitDots_intercalate : ∀ {parts : List (List Char)}, parts ≠ [] →
    (∀ part ∈ parts, '.' ∉ part) → splitDots (List.intercalate ['.'] parts) = parts
  | [], h, _ => absurd rfl h
  | [part], _, h => by
    rw [List.intercalate_singleton, splitDots_of_dotFree (h part List.mem_cons_self)]
  | part :: next :: parts, _, h => by
    rw [List.intercalate_cons_cons, List.append_assoc, List.singleton_append,
      splitDots_append_dot _ (h part List.mem_cons_self),
      splitDots_intercalate (List.cons_ne_nil _ _) fun p hp => h p (List.mem_cons_of_mem part hp)]

/-- **A name has the segments that it was joined from.** -/
theorem segments_joinDots {parts : List String} (hne : parts ≠ []) (h : ∀ part ∈ parts, DotFree part) :
    segments (joinDots parts) = parts := by
  have hsplit : splitDots (List.intercalate ['.'] (parts.map String.toList))
      = parts.map String.toList := by
    refine splitDots_intercalate (by simpa using hne) fun text htext => ?_
    obtain ⟨part, hpart, rfl⟩ := List.mem_map.1 htext
    exact h part hpart
  rw [segments, joinDots, String.toList_ofList, hsplit, List.map_map]
  simp [Function.comp_def]

theorem joinDots_singleton (part : String) : joinDots [part] = part := by
  rw [joinDots, List.map_singleton, List.intercalate_singleton, String.ofList_toList]

theorem toList_joinDots_cons_cons (part next : String) (parts : List String) :
    (joinDots (part :: next :: parts)).toList
      = part.toList ++ '.' :: (joinDots (next :: parts)).toList := by
  rw [joinDots, joinDots, String.toList_ofList, String.toList_ofList, List.map_cons, List.map_cons,
    List.intercalate_cons_cons, List.append_assoc, List.singleton_append]

theorem joinDots_pair (a b : String) : joinDots [a, b] = a ++ "." ++ b := by
  rw [← String.toList_inj]
  simp [joinDots, List.intercalate_cons_cons]

theorem joinDots_triple (a b c : String) : joinDots [a, b, c] = a ++ "." ++ b ++ "." ++ c := by
  rw [← String.toList_inj]
  simp [joinDots, List.intercalate_cons_cons]

/-- A name without a dot is its only segment. -/
theorem segments_of_dotFree {name : String} (h : DotFree name) : segments name = [name] := by
  rw [segments, splitDots_of_dotFree h, List.map_singleton, String.ofList_toList]

theorem not_mem_of_mem_splitDots : ∀ {text piece : List Char}, piece ∈ splitDots text → '.' ∉ piece
  | [], piece, h => by
    rw [splitDots, List.mem_singleton] at h
    rw [h]
    exact List.not_mem_nil
  | c :: text, piece, h => by
    obtain ⟨next, pieces, hsplit⟩ := List.exists_cons_of_ne_nil (splitDots_ne_nil text)
    have ih (p : List Char) (hp : p ∈ next :: pieces) : '.' ∉ p :=
      not_mem_of_mem_splitDots (hsplit ▸ hp)
    by_cases hc : c = '.'
    · rw [splitDots, if_pos hc, hsplit] at h
      rcases List.mem_cons.1 h with rfl | hmem
      · exact List.not_mem_nil
      · exact ih piece hmem
    · rw [splitDots, if_neg hc, hsplit] at h
      rcases List.mem_cons.1 h with rfl | hmem
      · exact List.not_mem_cons_of_ne_of_not_mem (Ne.symm hc) (ih next List.mem_cons_self)
      · exact ih piece (List.mem_cons_of_mem next hmem)

/-- Only a name without a dot has one segment, and that is the name. -/
theorem segments_eq_singleton_iff {name part : String} :
    segments name = [part] ↔ name = part ∧ DotFree part := by
  constructor
  · intro h
    have hname : name = part := by
      rw [← joinDots_segments name, h, joinDots_singleton]
    have hmem : part ∈ segments name := h ▸ List.mem_singleton_self part
    obtain ⟨piece, hpiece, rfl⟩ := List.mem_map.1 hmem
    refine ⟨hname, ?_⟩
    rw [DotFree, String.toList_ofList]
    exact not_mem_of_mem_splitDots hpiece
  · rintro ⟨rfl, hfree⟩
    exact segments_of_dotFree hfree

theorem segments_injective {a b : String} (h : segments a = segments b) : a = b := by
  rw [← joinDots_segments a, h, joinDots_segments]

end ConfigRefs.Text
