/-!
# Text: dotted paths

Identifiers and traversals are written as segments joined by dots. `segments` splits a name at its
dots and `joinDots` puts it together again (`joinDots_segments`).
-/

namespace ConfigRefs.Text

/-- The pieces of a text between its dots; a text without a dot is one piece. -/
def splitDots : List Char → List (List Char)
  | [] => [[]]
  | c :: rest =>
    if c = '.' then [] :: splitDots rest
    else match splitDots rest with
      | [] => [[c]]
      | piece :: pieces => (c :: piece) :: pieces

/-- The segments of a dotted name. -/
def segments (name : String) : List String := (splitDots name.toList).map String.ofList

/-- The dotted name with the given segments. -/
def joinDots (parts : List String) : String :=
  String.ofList (List.intercalate ['.'] (parts.map String.toList))

theorem splitDots_ne_nil (text : List Char) : splitDots text ≠ [] := by
  cases text with
  | nil => simp [splitDots]
  | cons c rest =>
    simp only [splitDots]
    split
    · simp
    · split <;> simp

theorem intercalate_splitDots (text : List Char) : List.intercalate ['.'] (splitDots text) = text := by
  induction text with
  | nil => rfl
  | cons c rest ih =>
    obtain ⟨piece, pieces, h⟩ := List.exists_cons_of_ne_nil (splitDots_ne_nil rest)
    rw [h] at ih
    by_cases hc : c = '.'
    · subst hc
      simp [splitDots, h, List.intercalate_cons_cons, ih]
    · cases pieces <;> simp_all [splitDots, List.intercalate_cons_cons]

theorem joinDots_segments (name : String) : joinDots (segments name) = name := by
  simp [joinDots, segments, Function.comp_def, intercalate_splitDots]

end ConfigRefs.Text
