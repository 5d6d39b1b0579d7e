import ConfigRefs.Interpolation.Nesting

/-!
# Interpolation: closing delimiters

One equation for each thing that can come next in a text (`closing?_brace_open` and those behind it).
Closing some frames and then others is closing all of them (`closing?_frames_append`), what is behind
the last delimiter has no influence (`closing?_replace`), and a text without braces and quotes is
passed by unchanged (`body?_plain`).
-/

namespace ConfigRefs.Interpolation

/-! ### What comes next -/

section Next

variable (outer : List Frame) (text : List Char)

theorem closing?_brace_open : closing? (.brace :: outer) ('\x7b' :: text)
    = (closing? (.brace :: .brace :: outer) text).map (consFst '\x7b') := by
  rw [closing?, if_pos rfl]

theorem closing?_brace_close : closing? (.brace :: outer) ('\x7d' :: text)
    = (closing? outer text).map (consFst '\x7d') := by
  rw [closing?, if_neg (by decide), if_pos rfl]

theorem closing?_brace_quote : closing? (.brace :: outer) ('"' :: text)
    = (closing? (.quote :: .brace :: outer) text).map (consFst '"') := by
  rw [closing?, if_neg (by decide), if_neg (by decide), if_pos rfl]

theorem closing?_brace_other {c : Char} (hopen : c ≠ '\x7b') (hclose : c ≠ '\x7d') (hquote : c ≠ '"') :
    closing? (.brace :: outer) (c :: text)
      = (closing? (.brace :: outer) text).map (consFst c) := by
  rw [closing?, if_neg hopen, if_neg hclose, if_neg hquote]

theorem closing?_quote_escape (c : Char) : closing? (.quote :: outer) ('\\' :: c :: text)
    = ((closing? (.quote :: outer) text).map (consFst c)).map (consFst '\\') := by
  rw [closing?, Option.map_map]
  rfl

theorem closing?_quote_marker : closing? (.quote :: outer) ('$' :: '\x7b' :: text)
    = ((closing? (.brace :: .quote :: outer) text).map (consFst '\x7b')).map (consFst '$') := by
  rw [closing?, Option.map_map]
  rfl

theorem closing?_quote_close : closing? (.quote :: outer) ('"' :: text)
    = (closing? outer text).map (consFst '"') := by
  rw [closing?, if_pos rfl] <;> simp

theorem closing?_quote_other {c : Char} (hescape : c = '\\' → text = [])
    (hmarker : ∀ rest, c = '$' → text ≠ '\x7b' :: rest) (hquote : c ≠ '"') :
    closing? (.quote :: outer) (c :: text)
      = (closing? (.quote :: outer) text).map (consFst c) := by
  rw [closing?, if_neg hquote]
  · intro d rest hc htext
    rw [hescape hc] at htext
    cases htext
  · exact hmarker

end Next

/-! ### Frames in turn -/

/-- A split of the text behind a first part, with that part in front. -/
def prepend (front : List Char) (split : List Char × List Char) : List Char × List Char :=
  (front ++ split.1, split.2)

theorem map_consFst_bind (c : Char) (split : Option (List Char × List Char))
    (next : List Char → Option (List Char × List Char)) :
    (split.bind fun s => (next s.2).map (prepend s.1)).map (consFst c)
      = (split.map (consFst c)).bind fun s => (next s.2).map (prepend s.1) := by
  cases split with
  | none => rfl
  | some s =>
    simp only [Option.bind_some, Option.map_some, Option.map_map, consFst]
    rfl

/-- **The inner frames are closed first, and the outer ones behind them.** -/
theorem closing?_frames_append (inner outer : List Frame) (text : List Char) :
    closing? (inner ++ outer) text
      = (closing? inner text).bind fun split => (closing? outer split.2).map (prepend split.1) := by
  have hmap (c : Char) (frames : List Frame) (text : List Char) :=
    map_consFst_bind c (closing? frames text) (closing? outer)
  fun_induction closing? inner text with
  | case1 text =>
    cases h : closing? outer text <;> simp [h, prepend]
  | case2 head tail => rfl
  | case3 inner text ih =>
    rw [List.cons_append, closing?_brace_open, ← hmap, ← ih]
    rfl
  | case4 inner text _ ih => rw [List.cons_append, closing?_brace_close, ← hmap, ← ih]
  | case5 inner text _ _ ih =>
    rw [List.cons_append, closing?_brace_quote, ← hmap, ← ih]
    rfl
  | case6 inner c text hopen hclose hquote ih =>
    rw [List.cons_append, closing?_brace_other _ _ hopen hclose hquote, ← hmap, ← ih]
    rfl
  | case7 inner c text ih =>
    rw [List.cons_append, closing?_quote_escape, ← List.cons_append, ih, hmap, map_consFst_bind,
      Option.map_map]
    rfl
  | case8 inner text ih =>
    rw [List.cons_append, closing?_quote_marker, ← List.cons_append, ← List.cons_append, ih, hmap,
      map_consFst_bind, Option.map_map]
    rfl
  | case9 inner text hescape hmarker ih => rw [List.cons_append, closing?_quote_close, ← hmap, ← ih]
  | case10 inner c text hescape hmarker hquote ih =>
    have hescape' : c = '\\' → text = [] := fun hc => by
      cases text with
      | nil => rfl
      | cons d text => exact (hescape d text hc rfl).elim
    rw [List.cons_append, closing?_quote_other _ _ hescape' hmarker hquote, ← hmap, ← ih]
    rfl

/-! ### What is behind the last delimiter -/

theorem exists_of_map_consFst {c : Char} {split : Option (List Char × List Char)}
    {inside behind : List Char} (h : split.map (consFst c) = some (inside, behind)) :
    ∃ tail, inside = c :: tail ∧ split = some (tail, behind) := by
  obtain ⟨⟨tail, back⟩, hsplit, heq⟩ := Option.map_eq_some_iff.1 h
  obtain ⟨rfl, rfl⟩ := Prod.mk.inj heq
  exact ⟨tail, rfl, hsplit⟩

/-- A frame is closed by a character. -/
theorem ne_nil_of_closing? {frame : Frame} {outer : List Frame} {text inside behind : List Char}
    (h : closing? (frame :: outer) text = some (inside, behind)) : inside ≠ [] := by
  rintro rfl
  have htext : text = behind := closing?_append h
  cases text with
  | nil => cases h
  | cons c text =>
    unfold closing? at h
    grind [consFst, Option.map_eq_some_iff]

/-- **What is behind the last delimiter does not matter.** -/
theorem closing?_replace {frames : List Frame} {text inside behind : List Char}
    (h : closing? frames text = some (inside, behind)) (other : List Char) :
    closing? frames (inside ++ other) = some (inside, other) := by
  fun_induction closing? frames text generalizing inside behind with
  | case1 text =>
    obtain ⟨rfl, rfl⟩ := Prod.mk.inj (Option.some.inj h)
    rw [List.nil_append, closing?]
  | case2 head tail => cases h
  | case3 outer text ih =>
    obtain ⟨tail, rfl, htail⟩ := exists_of_map_consFst h
    rw [List.cons_append, closing?_brace_open, ih htail]
    rfl
  | case4 outer text _ ih =>
    obtain ⟨tail, rfl, htail⟩ := exists_of_map_consFst h
    rw [List.cons_append, closing?_brace_close, ih htail]
    rfl
  | case5 outer text _ _ ih =>
    obtain ⟨tail, rfl, htail⟩ := exists_of_map_consFst h
    rw [List.cons_append, closing?_brace_quote, ih htail]
    rfl
  | case6 outer c text hopen hclose hquote ih =>
    obtain ⟨tail, rfl, htail⟩ := exists_of_map_consFst h
    rw [List.cons_append, closing?_brace_other _ _ hopen hclose hquote, ih htail]
    rfl
  | case7 outer c text ih =>
    obtain ⟨⟨tail, back⟩, htail, heq⟩ := Option.map_eq_some_iff.1 h
    obtain ⟨rfl, rfl⟩ := Prod.mk.inj heq
    rw [consFst, List.cons_append, List.cons_append, closing?_quote_escape, ih htail]
    rfl
  | case8 outer text ih =>
    obtain ⟨⟨tail, back⟩, htail, heq⟩ := Option.map_eq_some_iff.1 h
    obtain ⟨rfl, rfl⟩ := Prod.mk.inj heq
    rw [consFst, List.cons_append, List.cons_append, closing?_quote_marker, ih htail]
    rfl
  | case9 outer text _ _ ih =>
    obtain ⟨tail, rfl, htail⟩ := exists_of_map_consFst h
    rw [List.cons_append, closing?_quote_close, ih htail]
    rfl
  | case10 outer c text hescape hmarker hquote ih =>
    obtain ⟨tail, rfl, htail⟩ := exists_of_map_consFst h
    -- the next character is one that was read, so `c` takes part in no escape and no marker
    obtain ⟨d, more, rfl⟩ := List.exists_cons_of_ne_nil (ne_nil_of_closing? htail)
    obtain rfl : text = d :: (more ++ behind) := closing?_append htail
    rw [List.cons_append, closing?_quote_other _ _ (fun hc => (hescape d _ hc rfl).elim)
      (fun rest hc heq => ?_) hquote, ih htail]
    · rfl
    · rw [List.cons_append] at heq
      exact hmarker (more ++ behind) hc (by rw [(List.cons.inj heq).1])

/-! ### The length of a quoted string -/

theorem quotedLength_of_closed {rest inside behind : List Char}
    (h : closing? [.quote] rest = some (inside, behind)) : quotedLength rest = inside.length := by
  rw [quotedLength, h]

theorem quotedLength_of_unclosed {rest : List Char} (h : closing? [.quote] rest = none) :
    quotedLength rest = rest.length := by
  rw [quotedLength, h]

/-- A quoted string is as long without what is behind it. -/
theorem quotedLength_take (rest : List Char) :
    quotedLength (rest.take (quotedLength rest)) = quotedLength rest := by
  cases h : closing? [.quote] rest with
  | none => rw [quotedLength_of_unclosed h, List.take_length, quotedLength_of_unclosed h]
  | some split =>
    obtain ⟨inside, behind⟩ := split
    have hinside := closing?_replace h []
    rw [List.append_nil] at hinside
    rw [quotedLength_of_closed h, closing?_append h, List.take_left, quotedLength_of_closed hinside]

/-! ### Text without braces and quotes -/

/-- A character that neither nests nor begins a quoted string. -/
def IsPlain (c : Char) : Prop := c ≠ '\x7b' ∧ c ≠ '\x7d' ∧ c ≠ '"'

theorem closing?_brace_plain (outer : List Frame) (rest : List Char) : ∀ {text : List Char},
    (∀ c ∈ text, IsPlain c) → closing? (.brace :: outer) (text ++ rest)
      = (closing? (.brace :: outer) rest).map (prepend text)
  | [], _ => by
    cases h : closing? (.brace :: outer) rest <;> simp [h, prepend]
  | c :: text, h => by
    obtain ⟨hopen, hclose, hquote⟩ := h c List.mem_cons_self
    rw [List.cons_append, closing?_brace_other _ _ hopen hclose hquote,
      closing?_brace_plain outer rest fun d hd => h d (List.mem_cons_of_mem c hd), Option.map_map]
    rfl

/-- **A plain body ends at the next closing brace.** -/
theorem body?_plain {text : List Char} (h : ∀ c ∈ text, IsPlain c) (rest : List Char) :
    body? (text ++ '\x7d' :: rest) = some (text, rest) := by
  rw [body?, closing?_brace_plain [] _ h, closing?_brace_close, closing?]
  simp [consFst, prepend]

end ConfigRefs.Interpolation
