import ConfigRefs.Proofs.Interpolation.Balance

/-!
# Interpolation: what a quoted string is

`Fills escapes frame text` is the grammar of what stands between the two delimiters of a frame: the
inside of a quoted string, or the body of a template or of a pair of braces. `escapes` says whether a
dollar sign in front of the marker of a template escapes it.

* `closing?_of_fills`: without that escape, the scan passes all that fills a frame and goes on behind
  the delimiter that closes it.
* `exists_fills_of_closing?`: conversely, what the scan passes up to that delimiter fills the frame.
* `isQuoted_iff_fills`: the scan takes a text for a quoted string exactly if its inside fills one
  without that escape.
* `Fills.of_not_infix`: the escape makes a difference only to a text that it is written in.
-/

namespace ConfigRefs.Interpolation

/-- **What fills a frame**: the grammar of the inside of a quoted string and of a body. -/
inductive Fills (escapes : Bool) : Frame → List Char → Prop where
  | empty (frame : Frame) : Fills escapes frame []
  /-- A backslash with the character behind it. -/
  | backslash (c : Char) {rest : List Char} : Fills escapes .quote rest →
    Fills escapes .quote ('\\' :: c :: rest)
  /-- The escaped marker of a template. -/
  | escape {rest : List Char} : escapes = true → Fills escapes .quote rest →
    Fills escapes .quote ('$' :: '$' :: '\x7b' :: rest)
  | template {body rest : List Char} : Fills escapes .brace body → Fills escapes .quote rest →
    Fills escapes .quote ('$' :: '\x7b' :: (body ++ '\x7d' :: rest))
  /-- A character that ends nothing and begins none of the above. -/
  | char {c : Char} {rest : List Char} : c ≠ '"' → c ≠ '\\' → ¬ ['$', '\x7b'] <+: c :: rest →
    (escapes = true → ¬ ['$', '$', '\x7b'] <+: c :: rest) → Fills escapes .quote rest →
    Fills escapes .quote (c :: rest)
  | quoted {inside rest : List Char} : Fills escapes .quote inside → Fills escapes .brace rest →
    Fills escapes .brace ('"' :: (inside ++ '"' :: rest))
  | braces {body rest : List Char} : Fills escapes .brace body → Fills escapes .brace rest →
    Fills escapes .brace ('\x7b' :: (body ++ '\x7d' :: rest))
  | plain {c : Char} {rest : List Char} : IsPlain c → Fills escapes .brace rest →
    Fills escapes .brace (c :: rest)

/-- A text between two quotes. -/
def quoted (inside : List Char) : List Char := '"' :: (inside ++ ['"'])

/-! ### The scan passes what fills a frame -/

theorem map_prepend_map_prepend (front back : List Char) (split : Option (List Char × List Char)) :
    (split.map (prepend back)).map (prepend front) = split.map (prepend (front ++ back)) := by
  cases split with
  | none => rfl
  | some s => simp [prepend]

theorem map_consFst_map_prepend (c : Char) (front : List Char)
    (split : Option (List Char × List Char)) :
    (split.map (prepend front)).map (consFst c) = split.map (prepend (c :: front)) :=
  map_prepend_map_prepend [c] front split

/-- **The scan passes what fills a frame** and goes on behind the delimiter that closes it. -/
theorem closing?_of_fills {frame : Frame} {text : List Char} (h : Fills false frame text)
    (outer : List Frame) (behind : List Char) :
    closing? (frame :: outer) (text ++ frame.closer :: behind)
      = (closing? outer behind).map (prepend (text ++ [frame.closer])) := by
  induction h generalizing outer behind with
  | empty frame =>
    cases frame with
    | brace => exact closing?_brace_close outer behind
    | quote => exact closing?_quote_close outer behind
  | @backslash c rest _ ih =>
    rw [List.cons_append, List.cons_append, closing?_quote_escape, ih, map_consFst_map_prepend,
      map_consFst_map_prepend]
    rfl
  | escape htrue => cases htrue
  | @template body rest _ _ ihbody ihrest =>
    simp only [Frame.closer] at ihbody ihrest ⊢
    have hbody := ihbody (.quote :: outer) (rest ++ '"' :: behind)
    rw [List.cons_append, List.cons_append, List.append_assoc, List.cons_append,
      closing?_quote_marker, hbody, ihrest, map_prepend_map_prepend, map_consFst_map_prepend,
      map_consFst_map_prepend]
    simp
  | @char c rest hquote hbackslash hmarker _ _ ih =>
    rw [List.cons_append, closing?_quote_other outer _ (fun hc => absurd hc hbackslash) ?_ hquote,
      ih, map_consFst_map_prepend]
    · rfl
    · rintro more rfl hmore
      cases rest with
      | nil => simp [Frame.closer] at hmore
      | cons d rest =>
        obtain rfl := (List.cons.inj hmore).1
        exact hmarker ⟨rest, rfl⟩
  | @quoted inside rest _ _ ihinside ihrest =>
    simp only [Frame.closer] at ihinside ihrest ⊢
    have hinside := ihinside (.brace :: outer) (rest ++ '\x7d' :: behind)
    rw [List.cons_append, List.append_assoc, List.cons_append, closing?_brace_quote, hinside, ihrest,
      map_prepend_map_prepend, map_consFst_map_prepend]
    simp
  | @braces body rest _ _ ihbody ihrest =>
    simp only [Frame.closer] at ihbody ihrest ⊢
    have hbody := ihbody (.brace :: outer) (rest ++ '\x7d' :: behind)
    rw [List.cons_append, List.append_assoc, List.cons_append, closing?_brace_open, hbody, ihrest,
      map_prepend_map_prepend, map_consFst_map_prepend]
    simp
  | @plain c rest hplain _ ih =>
    obtain ⟨hopen, hclose, hquote⟩ := hplain
    rw [List.cons_append, closing?_brace_other outer _ hopen hclose hquote, ih,
      map_consFst_map_prepend]
    rfl

/-! ### What the scan passes fills a frame -/

/-- Two frames are closed one after the other. -/
theorem exists_of_closing?_pair {inner outer : Frame} {text inside behind : List Char}
    (h : closing? [inner, outer] text = some (inside, behind)) :
    ∃ front middle back, closing? [inner] text = some (front, middle) ∧
      closing? [outer] middle = some (back, behind) ∧ inside = front ++ back := by
  have hframes := closing?_frames_append [inner] [outer] text
  rw [List.singleton_append, h] at hframes
  obtain ⟨⟨front, middle⟩, hinner, hmap⟩ := Option.bind_eq_some_iff.1 hframes.symm
  obtain ⟨⟨back, rest⟩, houter, heq⟩ := Option.map_eq_some_iff.1 hmap
  obtain ⟨rfl, rfl⟩ := Prod.mk.inj heq
  exact ⟨front, middle, back, hinner, houter, rfl⟩

/-- **What the scan passes up to the delimiter that closes a frame fills it.** -/
theorem exists_fills_of_closing? : ∀ {frame : Frame} {text inside behind : List Char},
    closing? [frame] text = some (inside, behind) →
      ∃ front, inside = front ++ [frame.closer] ∧ Fills false frame front
  | frame, [], inside, behind, h => by
    cases frame <;> cases h
  | .brace, c :: text, inside, behind, h => by
    by_cases hopen : c = '\x7b'
    · rw [hopen, closing?_brace_open] at h
      obtain ⟨tail, rfl, htail⟩ := exists_of_map_consFst h
      obtain ⟨first, middle, last, hfirst, hlast, rfl⟩ := exists_of_closing?_pair htail
      have hlength : middle.length ≤ text.length := by simp [closing?_append hfirst]
      obtain ⟨body, rfl, hbody⟩ := exists_fills_of_closing? hfirst
      obtain ⟨rest, rfl, hrest⟩ := exists_fills_of_closing? hlast
      exact ⟨_, by simp [Frame.closer], hbody.braces hrest⟩
    by_cases hclose : c = '\x7d'
    · rw [hclose, closing?_brace_close, closing?] at h
      obtain ⟨rfl, -⟩ := Prod.mk.inj (Option.some.inj h)
      exact ⟨[], rfl, .empty .brace⟩
    by_cases hquote : c = '"'
    · rw [hquote, closing?_brace_quote] at h
      obtain ⟨tail, rfl, htail⟩ := exists_of_map_consFst h
      obtain ⟨first, middle, last, hfirst, hlast, rfl⟩ := exists_of_closing?_pair htail
      have hlength : middle.length ≤ text.length := by simp [closing?_append hfirst]
      obtain ⟨string, rfl, hstring⟩ := exists_fills_of_closing? hfirst
      obtain ⟨rest, rfl, hrest⟩ := exists_fills_of_closing? hlast
      exact ⟨_, by simp [Frame.closer], hstring.quoted hrest⟩
    · rw [closing?_brace_other _ _ hopen hclose hquote] at h
      obtain ⟨tail, rfl, htail⟩ := exists_of_map_consFst h
      obtain ⟨rest, rfl, hrest⟩ := exists_fills_of_closing? htail
      exact ⟨c :: rest, rfl, hrest.plain ⟨hopen, hclose, hquote⟩⟩
  | .quote, c :: text, inside, behind, h => by
    by_cases hbackslash : c = '\\'
    · rcases htext : text with _ | ⟨d, inner⟩
      · rw [hbackslash, htext] at h
        cases h
      · have hshorter : inner.length < text.length := by simp [htext]
        rw [hbackslash, htext, closing?_quote_escape] at h
        obtain ⟨tail, rfl, hsecond⟩ := exists_of_map_consFst h
        obtain ⟨tail, rfl, htail⟩ := exists_of_map_consFst hsecond
        obtain ⟨rest, rfl, hrest⟩ := exists_fills_of_closing? htail
        exact ⟨_, rfl, hrest.backslash d⟩
    by_cases hmarker : ['$', '\x7b'] <+: c :: text
    · obtain ⟨inner, heq⟩ := hmarker
      obtain ⟨hc, htext⟩ : c = '$' ∧ text = '\x7b' :: inner := by simpa [eq_comm] using heq
      have hshorter : inner.length < text.length := by simp [htext]
      rw [hc, htext, closing?_quote_marker] at h
      obtain ⟨tail, rfl, hsecond⟩ := exists_of_map_consFst h
      obtain ⟨tail, rfl, htail⟩ := exists_of_map_consFst hsecond
      obtain ⟨first, middle, last, hfirst, hlast, rfl⟩ := exists_of_closing?_pair htail
      have hlength : middle.length ≤ inner.length := by simp [closing?_append hfirst]
      obtain ⟨body, rfl, hbody⟩ := exists_fills_of_closing? hfirst
      obtain ⟨rest, rfl, hrest⟩ := exists_fills_of_closing? hlast
      exact ⟨_, by simp [Frame.closer], hbody.template hrest⟩
    by_cases hquote : c = '"'
    · rw [hquote, closing?_quote_close, closing?] at h
      obtain ⟨rfl, -⟩ := Prod.mk.inj (Option.some.inj h)
      exact ⟨[], rfl, .empty .quote⟩
    · have hnext : ∀ rest, c = '$' → text ≠ '\x7b' :: rest := by
        rintro rest rfl rfl
        exact hmarker ⟨rest, rfl⟩
      rw [closing?_quote_other _ _ (fun hc => absurd hc hbackslash) hnext hquote] at h
      obtain ⟨tail, rfl, htail⟩ := exists_of_map_consFst h
      have htext := closing?_append htail
      obtain ⟨rest, rfl, hrest⟩ := exists_fills_of_closing? htail
      refine ⟨c :: rest, rfl, hrest.char hquote hbackslash (fun hprefix => hmarker ?_)
        fun hescapes => absurd hescapes Bool.false_ne_true⟩
      exact hprefix.trans ⟨[Frame.closer .quote] ++ behind, by simp [htext]⟩
termination_by _ text => text.length
decreasing_by all_goals (simp only [List.length_cons]; omega)

/-! ### Quoted strings -/

/-- **What the scan takes for a quoted string** is a text between two quotes that fills them, the
marker of a template being one also behind a dollar sign. -/
theorem isQuoted_iff_fills {inside : List Char} :
    IsQuoted (quoted inside) ↔ Fills false .quote inside := by
  constructor
  · rintro ⟨text, htext, hclosing⟩
    obtain rfl : inside ++ ['"'] = text := (List.cons.inj htext).2
    obtain ⟨front, hfront, hfills⟩ := exists_fills_of_closing? hclosing
    rwa [List.append_cancel_right hfront]
  · intro h
    have hclosing := closing?_of_fills h [] []
    rw [closing?, Option.map_some, prepend, List.append_nil] at hclosing
    exact ⟨inside ++ ['"'], rfl, hclosing⟩

instance (text : List Char) : Decidable (IsQuoted text) :=
  decidable_of_iff (text.head? = some '"' ∧ closing? [.quote] text.tail = some (text.tail, [])) <| by
    constructor
    · rintro ⟨hhead, hclosing⟩
      obtain ⟨inside, rfl⟩ := List.head?_eq_some_iff.1 hhead
      exact ⟨inside, rfl, hclosing⟩
    · rintro ⟨inside, rfl, hclosing⟩
      exact ⟨rfl, hclosing⟩

instance (inside : List Char) : Decidable (Fills false .quote inside) :=
  decidable_of_iff _ isQuoted_iff_fills

/-- **The escape matters only where it is written.** -/
theorem Fills.of_not_infix {escapes others : Bool} {frame : Frame} {text : List Char}
    (h : Fills escapes frame text) (hnone : ¬ ['$', '$', '\x7b'] <:+: text) :
    Fills others frame text := by
  induction h with
  | empty frame => exact .empty frame
  | @backslash c rest _ ih =>
    exact .backslash c (ih fun hinside => hnone (hinside.trans ⟨['\\', c], [], by simp⟩))
  | @escape rest _ _ _ => exact absurd ⟨[], rest, rfl⟩ hnone
  | @template body rest _ _ ihbody ihrest =>
    refine .template (ihbody fun hinside => hnone (hinside.trans ?_))
      (ihrest fun hinside => hnone (hinside.trans ?_))
    · exact ⟨['$', '\x7b'], '\x7d' :: rest, by simp⟩
    · exact ⟨'$' :: '\x7b' :: (body ++ ['\x7d']), [], by simp⟩
  | @char c rest hquote hbackslash hmarker _ _ ih =>
    exact .char hquote hbackslash hmarker (fun _ hprefix => hnone hprefix.isInfix)
      (ih fun hinside => hnone (hinside.trans (List.suffix_cons c rest).isInfix))
  | @quoted inside rest _ _ ihinside ihrest =>
    refine .quoted (ihinside fun hinside => hnone (hinside.trans ?_))
      (ihrest fun hinside => hnone (hinside.trans ?_))
    · exact ⟨['"'], '"' :: rest, by simp⟩
    · exact ⟨'"' :: (inside ++ ['"']), [], by simp⟩
  | @braces body rest _ _ ihbody ihrest =>
    refine .braces (ihbody fun hinside => hnone (hinside.trans ?_))
      (ihrest fun hinside => hnone (hinside.trans ?_))
    · exact ⟨['\x7b'], '\x7d' :: rest, by simp⟩
    · exact ⟨'\x7b' :: (body ++ ['\x7d']), [], by simp⟩
  | @plain c rest hplain _ ih =>
    exact .plain hplain (ih fun hinside => hnone (hinside.trans (List.suffix_cons c rest).isInfix))

end ConfigRefs.Interpolation
