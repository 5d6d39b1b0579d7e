import ConfigRefs.Text.Bytes
import Mathlib.Data.List.Basic

/-!
# Text: pieces and their places

`StandsAt text start piece` says that a piece of a text begins at a byte offset of it, and
`IsBoundary text offset` that an offset lies between two characters. A piece is the slice between its
two ends (`StandsAt.slice`), both of which are boundaries, and slices that meet at a boundary join
(`slice_append_slice`). `RestAt text offset rest` says that nothing follows the piece.
-/

namespace ConfigRefs.Text

/-- A piece of a text begins at a byte offset. -/
def StandsAt (text : List Char) (start : Nat) (piece : List Char) : Prop :=
  ∃ before behind, text = before ++ piece ++ behind ∧ byteLength before = start

/-- A byte offset lies between two characters of a text, or at one of its ends. -/
def IsBoundary (text : List Char) (offset : Nat) : Prop := byteLength (takeBytes offset text) = offset

instance (text : List Char) (offset : Nat) : Decidable (IsBoundary text offset) :=
  inferInstanceAs (Decidable (_ = _))

theorem byteLength_pos {c : Char} {text : List Char} : 0 < byteLength (c :: text) := by
  have := c.utf8Size_pos
  rw [byteLength_cons]
  omega

theorem eq_nil_of_byteLength_eq_zero : ∀ {text : List Char}, byteLength text = 0 → text = []
  | [], _ => rfl
  | _ :: _, h => absurd h (Nat.ne_of_gt byteLength_pos)

theorem exists_of_byteLength_eq_one : ∀ {text : List Char}, byteLength text = 1 → ∃ c, text = [c]
  | [c], _ => ⟨c, rfl⟩
  | c :: d :: text, h => by
    have := c.utf8Size_pos
    have := d.utf8Size_pos
    simp only [byteLength_cons] at h
    omega

@[simp] theorem takeBytes_zero (text : List Char) : takeBytes 0 text = [] := by
  cases text with
  | nil => rfl
  | cons c text => rw [takeBytes, if_neg (by have := c.utf8Size_pos; omega)]

@[simp] theorem dropBytes_zero (text : List Char) : dropBytes 0 text = text := by
  cases text with
  | nil => rfl
  | cons c text => rw [dropBytes, if_neg (by have := c.utf8Size_pos; omega)]

@[simp] theorem takeBytes_append (before behind : List Char) :
    takeBytes (byteLength before) (before ++ behind) = before := by
  induction before with
  | nil => simp
  | cons c before ih => simp [takeBytes, ih]

@[simp] theorem dropBytes_append (before behind : List Char) :
    dropBytes (byteLength before) (before ++ behind) = behind := by
  induction before with
  | nil => simp
  | cons c before ih => simp [dropBytes, ih]

theorem isBoundary_iff {text : List Char} {offset : Nat} : IsBoundary text offset ↔
    ∃ before behind, text = before ++ behind ∧ byteLength before = offset := by
  constructor
  · intro h
    exact ⟨takeBytes offset text, dropBytes offset text, (takeBytes_append_dropBytes _ _).symm, h⟩
  · rintro ⟨before, behind, rfl, rfl⟩
    rw [IsBoundary, takeBytes_append]

theorem isBoundary_append (before behind : List Char) :
    IsBoundary (before ++ behind) (byteLength before) := isBoundary_iff.2 ⟨before, behind, rfl, rfl⟩

theorem isBoundary_zero (text : List Char) : IsBoundary text 0 := isBoundary_append [] text

theorem isBoundary_byteLength (text : List Char) : IsBoundary text (byteLength text) := by
  simpa using isBoundary_append text []

theorem IsBoundary.le {text : List Char} {offset : Nat} (h : IsBoundary text offset) :
    offset ≤ byteLength text := by
  obtain ⟨before, behind, rfl, rfl⟩ := isBoundary_iff.1 h
  rw [byteLength_append]
  omega

theorem IsBoundary.max {text : List Char} {a b : Nat} (ha : IsBoundary text a)
    (hb : IsBoundary text b) : IsBoundary text (max a b) := by
  rcases Nat.le_total a b with hle | hle
  · rwa [Nat.max_eq_right hle]
  · rwa [Nat.max_eq_left hle]

/-- Of two beginnings of a text the one that is not longer is a beginning of the other. -/
theorem isPrefix_of_byteLength_le {text a b : List Char} (ha : a <+: text) (hb : b <+: text)
    (hle : byteLength a ≤ byteLength b) : a <+: b := by
  rcases List.prefix_or_prefix_of_prefix ha hb with h | ⟨more, rfl⟩
  · exact h
  · rw [byteLength_append] at hle
    obtain rfl : more = [] := eq_nil_of_byteLength_eq_zero (by omega)
    simp

/-- A text is cut at a byte offset in one way only. -/
theorem append_inj_of_byteLength_eq {a b c d : List Char} (h : a ++ b = c ++ d)
    (hlength : byteLength a = byteLength c) : a = c ∧ b = d := by
  have htake := takeBytes_append a b
  have hdrop := dropBytes_append a b
  rw [h, hlength, takeBytes_append] at htake
  rw [h, hlength, dropBytes_append] at hdrop
  exact ⟨htake.symm, hdrop.symm⟩

/-- Two boundaries cut a text into three parts. -/
theorem IsBoundary.exists_between {text : List Char} {start stop : Nat} (hle : start ≤ stop)
    (hstart : IsBoundary text start) (hstop : IsBoundary text stop) :
    ∃ before piece behind, text = before ++ piece ++ behind ∧ byteLength before = start ∧
      byteLength before + byteLength piece = stop := by
  obtain ⟨before, behind, htext, rfl⟩ := isBoundary_iff.1 hstart
  obtain ⟨before', behind', htext', rfl⟩ := isBoundary_iff.1 hstop
  obtain ⟨piece, rfl⟩ : before <+: before' :=
    isPrefix_of_byteLength_le ⟨behind, htext.symm⟩ ⟨behind', htext'.symm⟩ hle
  exact ⟨before, piece, behind', htext', rfl, (byteLength_append _ _).symm⟩

theorem slice_append (before piece behind : List Char) :
    slice (before ++ piece ++ behind) (byteLength before) (byteLength before + byteLength piece)
      = piece := by
  rw [slice, ← byteLength_append, takeBytes_append, dropBytes_append]

theorem slice_zero (text : List Char) : slice text 0 (byteLength text) = text := by
  simpa using slice_append [] text []

theorem takeBytes_append_slice {text : List Char} {start stop : Nat} (hle : start ≤ stop)
    (hstart : IsBoundary text start) (hstop : IsBoundary text stop) :
    takeBytes start text ++ slice text start stop = takeBytes stop text := by
  obtain ⟨before, piece, behind, rfl, rfl, rfl⟩ := hstart.exists_between hle hstop
  rw [slice_append, ← byteLength_append, takeBytes_append, List.append_assoc, takeBytes_append]

/-- **Slices that meet at a boundary join.** -/
theorem slice_append_slice {text : List Char} {start middle stop : Nat} (h : start ≤ middle)
    (h' : middle ≤ stop) (hstart : IsBoundary text start) (hmiddle : IsBoundary text middle)
    (hstop : IsBoundary text stop) :
    slice text start middle ++ slice text middle stop = slice text start stop := by
  refine List.append_cancel_left (?_ : takeBytes start text ++ _ = takeBytes start text ++ _)
  calc takeBytes start text ++ (slice text start middle ++ slice text middle stop)
      = takeBytes middle text ++ slice text middle stop := by
        rw [← List.append_assoc, takeBytes_append_slice h hstart hmiddle]
    _ = takeBytes stop text := takeBytes_append_slice h' hmiddle hstop
    _ = takeBytes start text ++ slice text start stop :=
        (takeBytes_append_slice (Nat.le_trans h h') hstart hstop).symm

theorem dropBytes_eq_nil : ∀ {text : List Char} {n : Nat}, byteLength text ≤ n → dropBytes n text = []
  | [], _, _ => rfl
  | c :: text, n, h => by
    rw [byteLength_cons] at h
    rw [dropBytes, if_pos (by omega), dropBytes_eq_nil (by omega)]

/-- Between an offset and one that is not behind it there is no text. -/
theorem slice_eq_nil {text : List Char} {start stop : Nat} (hstop : IsBoundary text stop)
    (hle : stop ≤ start) : slice text start stop = [] :=
  dropBytes_eq_nil (Nat.le_trans (Nat.le_of_eq hstop) hle)

theorem byteLength_slice {text : List Char} {start stop : Nat} (hle : start ≤ stop)
    (hstart : IsBoundary text start) (hstop : IsBoundary text stop) :
    byteLength (slice text start stop) = stop - start := by
  obtain ⟨before, piece, behind, rfl, rfl, rfl⟩ := hstart.exists_between hle hstop
  rw [slice_append]
  omega

section StandsAt

variable {text piece : List Char} {start : Nat}

theorem standsAt_zero (text : List Char) : StandsAt text 0 text := ⟨[], [], by simp, rfl⟩

/-- **A piece is the slice between its ends.** -/
theorem StandsAt.slice (h : StandsAt text start piece) :
    slice text start (start + byteLength piece) = piece := by
  obtain ⟨before, behind, rfl, rfl⟩ := h
  exact slice_append before piece behind

/-- The slice from one boundary to another stands at the first, also when it is empty because the
second does not lie behind the first. -/
theorem IsBoundary.standsAt_slice {stop : Nat} (hstart : IsBoundary text start)
    (hstop : IsBoundary text stop) : StandsAt text start (Text.slice text start stop) := by
  rcases Nat.le_total start stop with hle | hle
  · obtain ⟨before, piece, behind, rfl, rfl, rfl⟩ := hstart.exists_between hle hstop
    rw [slice_append]
    exact ⟨before, behind, rfl, rfl⟩
  · rw [slice_eq_nil hstop hle]
    obtain ⟨before, behind, rfl, rfl⟩ := isBoundary_iff.1 hstart
    exact ⟨before, behind, by rw [List.append_nil], rfl⟩

theorem StandsAt.isBoundary_start (h : StandsAt text start piece) : IsBoundary text start := by
  obtain ⟨before, behind, rfl, rfl⟩ := h
  rw [List.append_assoc]
  exact isBoundary_append _ _

theorem StandsAt.isBoundary_stop (h : StandsAt text start piece) :
    IsBoundary text (start + byteLength piece) := by
  obtain ⟨before, behind, rfl, rfl⟩ := h
  rw [← byteLength_append]
  exact isBoundary_append _ _

theorem StandsAt.left {front back : List Char} (h : StandsAt text start (front ++ back)) :
    StandsAt text start front := by
  obtain ⟨before, behind, rfl, rfl⟩ := h
  exact ⟨before, back ++ behind, by simp, rfl⟩

theorem StandsAt.right (front : List Char) {back : List Char}
    (h : StandsAt text start (front ++ back)) :
    StandsAt text (start + byteLength front) back := by
  obtain ⟨before, behind, rfl, rfl⟩ := h
  exact ⟨before ++ front, behind, by simp, byteLength_append _ _⟩

end StandsAt

/-- **A character stands right before a place** iff the text up to there ends with it. -/
theorem exists_standsAt_iff_getLast? {before behind : List Char} {c : Char} :
    (∃ place, place + c.utf8Size = byteLength before ∧ StandsAt (before ++ behind) place [c])
      ↔ before.getLast? = some c := by
  constructor
  · rintro ⟨place, hplace, front, rest, htext, rfl⟩
    have hlength : byteLength (front ++ [c]) = byteLength before := by
      rw [← hplace, byteLength_append]
      rfl
    have hbefore : front ++ [c] = before := by
      have htake := takeBytes_append before behind
      rwa [htext, ← hlength, takeBytes_append] at htake
    rw [← hbefore, List.getLast?_concat]
  · intro h
    obtain ⟨front, rfl⟩ := List.getLast?_eq_some_iff.1 h
    exact ⟨byteLength front, (byteLength_append front [c]).symm, front, behind, rfl, rfl⟩

/-! ### The rest of a text -/

/-- A text goes on with a rest from a byte offset on. -/
def RestAt (text : List Char) (offset : Nat) (rest : List Char) : Prop :=
  ∃ before, text = before ++ rest ∧ byteLength before = offset

section RestAt

variable {text : List Char} {offset : Nat}

theorem restAt_zero (text : List Char) : RestAt text 0 text := ⟨[], rfl, rfl⟩

/-- Behind a piece the text goes on with some rest. -/
theorem StandsAt.exists_restAt {piece : List Char} (h : StandsAt text offset piece) :
    ∃ behind, RestAt text offset (piece ++ behind) := by
  obtain ⟨before, behind, rfl, rfl⟩ := h
  exact ⟨behind, before, List.append_assoc _ _ _, rfl⟩

theorem restAt_byteLength (text : List Char) : RestAt text (byteLength text) [] :=
  ⟨text, (List.append_nil text).symm, rfl⟩

theorem RestAt.right (front : List Char) {back : List Char} (h : RestAt text offset (front ++ back)) :
    RestAt text (offset + byteLength front) back := by
  obtain ⟨before, rfl, rfl⟩ := h
  exact ⟨before ++ front, by rw [List.append_assoc], byteLength_append _ _⟩

theorem RestAt.byteLength_eq {rest : List Char} (h : RestAt text offset rest) :
    byteLength text = offset + byteLength rest := by
  obtain ⟨before, rfl, rfl⟩ := h
  rw [byteLength_append]

end RestAt

end ConfigRefs.Text
