import ConfigRefs.Proofs.Text.Encoding

/-!
# Checked: access to texts, lists and counters

Steps that give no result when they leave their data: `textBetween` cuts a text only between two
boundaries that are in order and inside it, `listBetween` a list only between two positions of it,
`fill` sets only positions of a list, and `subtract` does not go below zero.
-/

namespace ConfigRefs.Checked

open ConfigRefs.Text

/-- The text between two byte offsets, if both are boundaries, the first one not behind the second. -/
def textBetween (text : List Char) (start stop : Nat) : Option (List Char) :=
  if start ≤ stop ∧ stop ≤ byteLength text ∧ IsBoundary text start ∧ IsBoundary text stop then
    some (slice text start stop)
  else none

/-- The items between two positions of a list, if these are in order and inside it. -/
def listBetween {α : Type} (items : List α) (start stop : Nat) : Option (List α) :=
  if start ≤ stop ∧ stop ≤ items.length then some ((items.take stop).drop start) else none

/-- The list with the positions from `start` up to but not with `stop` set, if these are in order and
inside it. -/
def fill (flags : List Bool) (start stop : Nat) : Option (List Bool) :=
  if start ≤ stop ∧ stop ≤ flags.length then
    some (flags.mapIdx fun position flag => flag || (start ≤ position && position < stop))
  else none

/-- The difference of two counters, if it is none below zero. -/
def subtract (a b : Nat) : Option Nat := if b ≤ a then some (a - b) else none

theorem textBetween_eq_slice {text : List Char} {start stop : Nat} (hle : start ≤ stop)
    (hstart : IsBoundary text start) (hstop : IsBoundary text stop) :
    textBetween text start stop = some (slice text start stop) :=
  if_pos ⟨hle, hstop.le, hstart, hstop⟩

/-- A piece of a text is cut out by its ends. -/
theorem textBetween_standsAt {text piece : List Char} {start : Nat} (h : StandsAt text start piece) :
    textBetween text start (start + byteLength piece) = some piece := by
  rw [textBetween_eq_slice (Nat.le_add_right _ _) h.isBoundary_start h.isBoundary_stop, h.slice]

theorem listBetween_length {α : Type} {items : List α} {start : Nat} (h : start ≤ items.length) :
    listBetween items start items.length = some (items.drop start) := by
  rw [listBetween, if_pos ⟨h, Nat.le_refl _⟩, List.take_length]

theorem listBetween_zero {α : Type} {items : List α} {stop : Nat} (h : stop ≤ items.length) :
    listBetween items 0 stop = some (items.take stop) := by
  rw [listBetween, if_pos ⟨Nat.zero_le _, h⟩, List.drop_zero]

theorem subtract_of_le {a b : Nat} (h : b ≤ a) : subtract a b = some (a - b) := if_pos h

end ConfigRefs.Checked
