import ConfigRefs.Proofs.Interpolation.Place

/-!
# Interpolation: reading on inside of a body

`EndsBody closed depth text` says that `text` is what is left of a body at a place where `depth` more
braces are open, and `Reads depth piece after` that reading a piece leaves `after` of them open. What
is left behind a piece ends the same body (`EndsBody.of_reads`). In a closed body no brace is left open
and no quoted string unclosed (`EndsBody.eq_zero`, `EndsBody.exists_closing?`).
-/

namespace ConfigRefs.Interpolation

open ConfigRefs.Text

/-- What is left of a body where `depth` more braces are open: the brace behind it closes the body, or
nothing in it does. -/
def EndsBody : (closed : Bool) → (depth : Nat) → (text : List Char) → Prop
  | true, depth, text => closing? (List.replicate (depth + 1) .brace) (text ++ ['\x7d'])
      = some (text ++ ['\x7d'], [])
  | false, depth, text => closing? (List.replicate (depth + 1) .brace) text = none

/-- Reading a piece inside of a body takes the number of open braces from `depth` to `after`. -/
def Reads (depth : Nat) (piece : List Char) (after : Nat) : Prop :=
  ∀ rest, closing? (List.replicate (depth + 1) .brace) (piece ++ rest)
    = (closing? (List.replicate (after + 1) .brace) rest).map (prepend piece)

/-- A quoted string: a quote and the text up to the quote that closes it. -/
def IsQuoted (text : List Char) : Prop :=
  ∃ inside, text = '"' :: inside ∧ closing? [.quote] inside = some (inside, [])

/-! ### Pieces -/

section Pieces

variable {depth : Nat} {text inside behind : List Char}

theorem reads_plain (h : ∀ c ∈ text, IsPlain c) : Reads depth text depth := fun rest =>
  closing?_brace_plain (List.replicate depth .brace) rest h

theorem reads_open (depth : Nat) : Reads depth ['\x7b'] (depth + 1) := fun rest =>
  closing?_brace_open (List.replicate depth .brace) rest

theorem reads_close (depth : Nat) : Reads (depth + 1) ['\x7d'] depth := fun rest =>
  closing?_brace_close (List.replicate (depth + 1) .brace) rest

/-- The frames of a body stay open behind a quoted string in it. -/
theorem closing?_quoted (h : closing? [.quote] text = some (inside, behind)) :
    closing? (List.replicate (depth + 1) .brace) ('"' :: text)
      = (closing? (List.replicate (depth + 1) .brace) behind).map (prepend ('"' :: inside)) := by
  have hframes := closing?_frames_append [.quote] (List.replicate (depth + 1) .brace) text
  rw [List.singleton_append, List.replicate_succ] at hframes
  rw [List.replicate_succ, closing?_brace_quote, hframes, h, Option.bind_some, Option.map_map]
  rfl

theorem reads_quoted (h : IsQuoted text) : Reads depth text depth := by
  obtain ⟨inside, rfl, hinside⟩ := h
  exact fun rest => closing?_quoted (closing?_replace hinside rest)

/-- A quoted string ends with its closing quote. -/
theorem IsQuoted.getLast? (h : IsQuoted text) : text.getLast? = some '"' := by
  obtain ⟨inside, rfl, hinside⟩ := h
  have hlast : inside.getLast? = some '"' :=
    getLast?_of_closing? hinside (List.getLast?_singleton (a := Frame.quote))
  rw [List.getLast?_cons, hlast, Option.getD_some]

theorem isQuoted_of_closing? (h : closing? [.quote] text = some (inside, behind)) :
    IsQuoted ('"' :: inside) := by
  refine ⟨inside, rfl, ?_⟩
  have hreplaced := closing?_replace h []
  rwa [List.append_nil] at hreplaced

end Pieces

/-! ### What is left -/

namespace EndsBody

variable {closed : Bool} {depth after : Nat} {piece text : List Char}

theorem of_reads (h : EndsBody closed depth (piece ++ text)) (hreads : Reads depth piece after) :
    EndsBody closed after text := by
  cases closed with
  | true =>
    rw [EndsBody, List.append_assoc, hreads] at h
    obtain ⟨⟨inside, behind⟩, hclosing, heq⟩ := Option.map_eq_some_iff.1 h
    obtain ⟨hinside, rfl⟩ := Prod.mk.inj heq
    obtain rfl : inside = text ++ ['\x7d'] := List.append_cancel_left hinside
    exact hclosing
  | false => rwa [EndsBody, hreads, Option.map_eq_none_iff] at h

/-- No brace closes the body in front of its end. -/
theorem not_close (text : List Char) : ¬ EndsBody closed 0 ('\x7d' :: text) := by
  intro h
  cases closed with
  | true =>
    rw [EndsBody, List.replicate_succ, List.cons_append, closing?_brace_close, List.replicate_zero,
      closing?] at h
    simp [consFst] at h
  | false =>
    rw [EndsBody, List.replicate_succ, closing?_brace_close, List.replicate_zero, closing?] at h
    cases h

/-- **At the end of a closed body no brace is open.** -/
theorem eq_zero (h : EndsBody true depth []) : depth = 0 := by
  cases depth with
  | zero => rfl
  | succ depth =>
    have hread := reads_close depth []
    rw [List.replicate_succ (n := depth), closing?] at hread
    rw [EndsBody, List.nil_append] at h
    cases hread.symm.trans h

/-- **In a closed body every quoted string is closed.** -/
theorem exists_closing? (h : EndsBody true depth ('"' :: text)) :
    ∃ inside behind, closing? [.quote] text = some (inside, behind) := by
  have hframes := closing?_frames_append [.quote] (List.replicate (depth + 1) .brace)
    (text ++ ['\x7d'])
  rw [List.singleton_append, List.replicate_succ] at hframes
  rw [EndsBody, List.replicate_succ, List.cons_append, closing?_brace_quote, hframes] at h
  obtain ⟨split, hsplit, -⟩ := Option.map_eq_some_iff.1 h
  obtain ⟨⟨inside, behind⟩, hquote, hbraces⟩ := Option.bind_eq_some_iff.1 hsplit
  obtain ⟨⟨braces, back⟩, hbraces, -⟩ := Option.map_eq_some_iff.1 hbraces
  -- a brace is behind the string, so it ends in front of the brace that closes the body
  have hne : behind ≠ [] := by
    rintro rfl
    rw [closing?] at hbraces
    cases hbraces
  obtain ⟨front, last, rfl⟩ := (List.eq_nil_or_concat' behind).resolve_left hne
  have htext := closing?_append hquote
  rw [← List.append_assoc] at htext
  obtain ⟨rfl, -⟩ := List.append_inj' htext rfl
  exact ⟨inside, front, closing?_replace hquote front⟩

end EndsBody

/-- **A body ends as it is closed.** -/
theorem endsBody_of_mem_bodies {text : List Char} {body : Body} (hmem : body ∈ bodies text) :
    EndsBody body.closed 0 body.text := by
  obtain ⟨rest, -, ⟨hclosed, behind, hbody⟩ | ⟨hopen, hbody, hrest⟩⟩ :=
    exists_rest_of_mem_bodiesFrom (restAt_zero text) hmem
  · have hreplaced := closing?_replace (closing?_of_body? hbody) []
    rw [List.append_nil] at hreplaced
    rw [hclosed]
    exact hreplaced
  · rw [hopen, hrest]
    exact Option.map_eq_none_iff.1 hbody

end ConfigRefs.Interpolation
