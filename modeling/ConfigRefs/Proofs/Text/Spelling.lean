import ConfigRefs.Proofs.Text.Place
import ConfigRefs.Text.CharClass

/-!
# Text: what is written, apart from white space

White space may stand between the parts of a path. `Spells text start stop chars` says that the slice
between two boundaries of a text is `chars` with white space in it; pieces that meet spell what they
spell one after the other (`Spells.append`).
-/

namespace ConfigRefs.Text

/-- The characters of a text that are no white space. -/
def withoutBlanks (text : List Char) : List Char := text.filter fun c => !isBlank c

/-- Between two boundaries of a text some characters are written, with any white space among them. -/
structure Spells (text : List Char) (start stop : Nat) (chars : List Char) : Prop where
  isBoundary_start : IsBoundary text start
  isBoundary_stop : IsBoundary text stop
  start_le_stop : start ≤ stop
  withoutBlanks_slice : withoutBlanks (slice text start stop) = chars

theorem withoutBlanks_append (a b : List Char) :
    withoutBlanks (a ++ b) = withoutBlanks a ++ withoutBlanks b := List.filter_append a b

theorem withoutBlanks_eq_self {text : List Char} (h : ∀ c ∈ text, isBlank c = false) :
    withoutBlanks text = text := List.filter_eq_self.2 fun c hc => by rw [h c hc]; rfl

theorem withoutBlanks_blank {c : Char} (h : isBlank c = true) : withoutBlanks [c] = [] :=
  List.filter_singleton.trans (by rw [h]; rfl)

section Spells

variable {text piece a b : List Char} {start middle stop : Nat}

/-- Nothing is written between a boundary and itself. -/
theorem IsBoundary.spells_nil (h : IsBoundary text start) : Spells text start start [] where
  isBoundary_start := h
  isBoundary_stop := h
  start_le_stop := Nat.le_refl _
  withoutBlanks_slice := by
    have hlength : byteLength (slice text start start) = 0 := by
      rw [byteLength_slice (Nat.le_refl _) h h, Nat.sub_self]
    rw [eq_nil_of_byteLength_eq_zero hlength]
    rfl

/-- A piece of a text spells its characters. -/
theorem StandsAt.spells (h : StandsAt text start piece) :
    Spells text start (start + byteLength piece) (withoutBlanks piece) where
  isBoundary_start := h.isBoundary_start
  isBoundary_stop := h.isBoundary_stop
  start_le_stop := Nat.le_add_right _ _
  withoutBlanks_slice := by rw [h.slice]

/-- **Pieces that meet at a boundary** spell what they spell one after the other. -/
theorem Spells.append (h : Spells text start middle a) (h' : Spells text middle stop b) :
    Spells text start stop (a ++ b) where
  isBoundary_start := h.isBoundary_start
  isBoundary_stop := h'.isBoundary_stop
  start_le_stop := Nat.le_trans h.start_le_stop h'.start_le_stop
  withoutBlanks_slice := by
    rw [← slice_append_slice h.start_le_stop h'.start_le_stop h.isBoundary_start h.isBoundary_stop
      h'.isBoundary_stop, withoutBlanks_append, h.withoutBlanks_slice, h'.withoutBlanks_slice]

end Spells

end ConfigRefs.Text
