import ConfigRefs.Proofs.Checked.Access
import ConfigRefs.Proofs.Interpolation.Place

/-!
# Checked: interpolations

The scan for interpolations works on the bytes of a text and jumps over two of them at a backslash,
whatever characters they belong to. Here it reads every byte and counts every brace with a check, and
a loop that would not go forward gives no result. It finds the bodies of the text all the same
(`interpolations_utf8`), because a jump that ends inside of a character goes on to the end of it.
-/

namespace ConfigRefs.Checked

open ConfigRefs.Text ConfigRefs.Interpolation

mutual

/-- The position of the brace that closes `depth` braces and one more, from a position on. -/
def closingBrace (bytes : List UInt8) (depth position : Nat) : Option (Option Nat) :=
  if position < bytes.length then do
    let byte ← bytes[position]?
    if byte = asciiByte '\x7b' then closingBrace bytes (depth + 1) (position + 1)
    else if byte = asciiByte '\x7d' then
      if depth = 0 then some (some position)
      else do
        let depth ← subtract depth 1
        closingBrace bytes depth (position + 1)
    else if byte = asciiByte '"' then do
      let behind ← stringEnd bytes (position + 1)
      if position < behind then closingBrace bytes depth behind else none
    else closingBrace bytes depth (position + 1)
  else some none
termination_by bytes.length - position
decreasing_by all_goals omega

/-- The position behind the quoted string that goes on at a position. -/
def stringEnd (bytes : List UInt8) (position : Nat) : Option Nat :=
  if position < bytes.length then do
    let byte ← bytes[position]?
    if byte = asciiByte '\\' then stringEnd bytes (position + 2)
    else if byte = asciiByte '"' then some (position + 1)
    else if byte = asciiByte '$' ∧ bytes[position + 1]? = some (asciiByte '\x7b') then do
      let close ← closingBrace bytes 0 (position + 2)
      match close with
      | some close => if position ≤ close then stringEnd bytes (close + 1) else none
      | none => some bytes.length
    else stringEnd bytes (position + 1)
  else some bytes.length
termination_by bytes.length - position
decreasing_by all_goals omega

end

/-- The ranges of the interpolations from a position on. -/
def interpolations (bytes : List UInt8) (position : Nat) : Option (List Span) :=
  if position < bytes.length then do
    let rest ← listBetween bytes position bytes.length
    if [asciiByte '$', asciiByte '$', asciiByte '\x7b'] <+: rest then
      interpolations bytes (position + 3)
    else if ¬ [asciiByte '$', asciiByte '\x7b'] <+: rest then interpolations bytes (position + 1)
    else do
      let close ← closingBrace bytes 0 (position + 2)
      let stop := close.getD bytes.length
      if position ≤ stop then do
        let further ← interpolations bytes (stop + 1)
        some (⟨position + 2, stop⟩ :: further)
      else none
  else some []
termination_by bytes.length - position
decreasing_by all_goals omega

/-! ### What comes next -/

section Next

variable {text rest : List Char} {depth position : Nat}

theorem braceDelimiters_ascii : ∀ d ∈ ['\x7b', '\x7d', '"'], d.toNat < 0x80 := by
  simp

theorem stringDelimiters_ascii : ∀ d ∈ ['\\', '"', '$'], d.toNat < 0x80 := by
  simp

theorem passes_closingBrace (bytes : List UInt8) (depth : Nat) :
    Passes bytes ['\x7b', '\x7d', '"'] (closingBrace bytes depth) := by
  intro position byte hbyte hne
  have hlt : position < bytes.length := (List.getElem?_eq_some_iff.1 hbyte).1
  conv_lhs => rw [closingBrace, if_pos hlt, hbyte]
  simp only [Option.bind_eq_bind, Option.bind_some]
  rw [if_neg (hne _ (by simp)), if_neg (hne _ (by simp)), if_neg (hne _ (by simp))]

theorem passes_stringEnd (bytes : List UInt8) : Passes bytes ['\\', '"', '$'] (stringEnd bytes) := by
  intro position byte hbyte hne
  have hlt : position < bytes.length := (List.getElem?_eq_some_iff.1 hbyte).1
  conv_lhs => rw [stringEnd, if_pos hlt, hbyte]
  simp only [Option.bind_eq_bind, Option.bind_some]
  rw [if_neg (hne _ (by simp)), if_neg (hne _ (by simp)),
    if_neg fun hmarker => hne '$' (by simp) hmarker.1]

theorem closingBrace_nil (h : RestAt text position []) :
    closingBrace (utf8 text) depth position = some none := by
  rw [closingBrace, if_neg (by rw [← h.eq_length]; exact Nat.lt_irrefl _)]

theorem closingBrace_open (h : RestAt text position ('\x7b' :: rest)) :
    closingBrace (utf8 text) depth position
      = closingBrace (utf8 text) (depth + 1) (position + 1) := by
  conv_lhs => rw [closingBrace, if_pos h.lt_length, h.getElem?_ascii (by decide)]
  rfl

theorem closingBrace_close_zero (h : RestAt text position ('\x7d' :: rest)) :
    closingBrace (utf8 text) 0 position = some (some position) := by
  rw [closingBrace, if_pos h.lt_length, h.getElem?_ascii (by decide)]
  rfl

theorem closingBrace_close_succ (h : RestAt text position ('\x7d' :: rest)) :
    closingBrace (utf8 text) (depth + 1) position = closingBrace (utf8 text) depth (position + 1) := by
  conv_lhs => rw [closingBrace, if_pos h.lt_length, h.getElem?_ascii (by decide)]
  rfl

theorem closingBrace_quote (h : RestAt text position ('"' :: rest)) :
    closingBrace (utf8 text) depth position = (stringEnd (utf8 text) (position + 1)).bind fun behind =>
      if position < behind then closingBrace (utf8 text) depth behind else none := by
  conv_lhs => rw [closingBrace, if_pos h.lt_length, h.getElem?_ascii (by decide)]
  rfl

theorem stringEnd_of_length_le {bytes : List UInt8} (h : bytes.length ≤ position) :
    stringEnd bytes position = some bytes.length := by
  rw [stringEnd, if_neg (by omega)]

theorem stringEnd_escape (h : RestAt text position ('\\' :: rest)) :
    stringEnd (utf8 text) position = stringEnd (utf8 text) (position + 2) := by
  conv_lhs => rw [stringEnd, if_pos h.lt_length, h.getElem?_ascii (by decide)]
  rfl

theorem stringEnd_quote (h : RestAt text position ('"' :: rest)) :
    stringEnd (utf8 text) position = some (position + 1) := by
  rw [stringEnd, if_pos h.lt_length, h.getElem?_ascii (by decide)]
  rfl

theorem stringEnd_marker (h : RestAt text position ('$' :: '\x7b' :: rest)) :
    stringEnd (utf8 text) position = (closingBrace (utf8 text) 0 (position + 2)).bind fun close =>
      match close with
      | some close => if position ≤ close then stringEnd (utf8 text) (close + 1) else none
      | none => some (utf8 text).length := by
  have hnext : (utf8 text)[position + 1]? = some (asciiByte '\x7b') :=
    (h.right ['$']).getElem?_ascii (by decide)
  conv_lhs => rw [stringEnd, if_pos h.lt_length, h.getElem?_ascii (by decide)]
  simp only [Option.bind_eq_bind, Option.bind_some]
  rw [if_neg (by decide), if_neg (by decide), if_pos ⟨trivial, hnext⟩]

theorem stringEnd_dollar (h : RestAt text position ('$' :: rest))
    (hrest : ∀ more, rest ≠ '\x7b' :: more) :
    stringEnd (utf8 text) position = stringEnd (utf8 text) (position + 1) := by
  have hnext : (utf8 text)[position + 1]? ≠ some (asciiByte '\x7b') := by
    have hright : RestAt text (position + 1) rest := h.right ['$']
    cases rest with
    | nil =>
      rw [hright.eq_length, List.getElem?_eq_none (Nat.le_refl _)]
      exact nofun
    | cons c more =>
      rw [Ne, hright.getElem?_eq_asciiByte (by decide)]
      rintro rfl
      exact hrest more rfl
  conv_lhs => rw [stringEnd, if_pos h.lt_length, h.getElem?_ascii (by decide)]
  simp only [Option.bind_eq_bind, Option.bind_some]
  rw [if_neg (by decide), if_neg (by decide), if_neg fun hmarker => hnext hmarker.2]

end Next

/-! ### The scan on a text -/

/-- The byte offset behind the first part of a split of what stands at a position. -/
def behindSplit (position : Nat) (split : List Char × List Char) : Nat :=
  position + byteLength split.1

theorem map_consFst_behindSplit (position : Nat) (c : Char)
    (split : Option (List Char × List Char)) : (split.map (consFst c)).map (behindSplit position)
      = split.map (behindSplit (position + c.utf8Size)) := by
  cases split with
  | none => rfl
  | some s =>
    simp only [Option.map_some, behindSplit, consFst, byteLength_cons, Nat.add_assoc]

theorem map_prepend_behindSplit (position : Nat) (front : List Char)
    (split : Option (List Char × List Char)) : (split.map (prepend front)).map (behindSplit position)
      = split.map (behindSplit (position + byteLength front)) := by
  cases split with
  | none => rfl
  | some s =>
    simp only [Option.map_some, behindSplit, prepend, byteLength_append, Nat.add_assoc]

/-- What is behind the closing delimiters is shorter than the text, and stands behind their split. -/
theorem length_le_of_closing? {frames : List Frame} {rest inside behind : List Char}
    (h : closing? frames rest = some (inside, behind)) : behind.length ≤ rest.length := by
  rw [closing?_append h, List.length_append]
  exact Nat.le_add_left _ _

theorem restAt_of_closing? {text rest inside behind : List Char} {frames : List Frame}
    {position : Nat} (hrest : RestAt text position rest)
    (h : closing? frames rest = some (inside, behind)) :
    RestAt text (position + byteLength inside) behind := by
  rw [closing?_append h] at hrest
  exact hrest.right inside

mutual

/-- **The scan for a brace** finds the one that closes all open frames. -/
theorem closingBrace_utf8 {text : List Char} : ∀ {rest : List Char} {position : Nat} (depth : Nat),
    RestAt text position rest → closingBrace (utf8 text) depth position
      = some (((closing? (List.replicate (depth + 1) .brace) rest).map (behindSplit position)).map
          (· - 1))
  | [], position, depth, h => by
    rw [closingBrace_nil h, List.replicate_succ, closing?]
    rfl
  | c :: rest, position, depth, h => by
    by_cases hopen : c = '\x7b'
    · subst hopen
      have hright : RestAt text (position + 1) rest := h.right ['\x7b']
      rw [List.replicate_succ, closing?_brace_open, map_consFst_behindSplit,
        closingBrace_open h, closingBrace_utf8 (depth + 1) hright]
      rfl
    by_cases hclose : c = '\x7d'
    · subst hclose
      have hright : RestAt text (position + 1) rest := h.right ['\x7d']
      rw [List.replicate_succ, closing?_brace_close, map_consFst_behindSplit]
      cases depth with
      | zero =>
        rw [closingBrace_close_zero h, List.replicate_zero, closing?]
        rfl
      | succ depth =>
        rw [closingBrace_close_succ h, closingBrace_utf8 depth hright]
        rfl
    by_cases hquote : c = '"'
    · subst hquote
      have hright : RestAt text (position + 1) rest := h.right ['"']
      have hframes := closing?_frames_append [.quote] (List.replicate (depth + 1) .brace) rest
      rw [List.replicate_succ, closing?_brace_quote, map_consFst_behindSplit,
        closingBrace_quote h, stringEnd_utf8 hright]
      rw [List.singleton_append, List.replicate_succ] at hframes
      rw [hframes]
      cases hclosing : closing? [.quote] rest with
      | none =>
        have hlt : position < byteLength text := by
          rw [← length_utf8]
          exact h.lt_length
        simp only [Option.map_none, Option.getD_none, Option.bind_some, Option.bind_none, if_pos hlt]
        exact closingBrace_nil (restAt_byteLength text)
      | some split =>
        obtain ⟨inside, behind⟩ := split
        have hbehind := restAt_of_closing? hright hclosing
        have hlength := length_le_of_closing? hclosing
        simp only [Option.map_some, Option.getD_some, Option.bind_some]
        rw [map_prepend_behindSplit, behindSplit, if_pos (by omega),
          closingBrace_utf8 depth hbehind, List.replicate_succ]
        rfl
    · have hright : RestAt text (position + c.utf8Size) rest := h.right [c]
      have hother : closingBrace (utf8 text) depth position
          = closingBrace (utf8 text) depth (position + c.utf8Size) :=
        (passes_closingBrace (utf8 text) depth).char braceDelimiters_ascii h
          (by simp [hopen, hclose, hquote])
      rw [hother, closingBrace_utf8 depth hright, List.replicate_succ,
        closing?_brace_other _ _ hopen hclose hquote, map_consFst_behindSplit]
termination_by rest => rest.length
decreasing_by all_goals (simp only [List.length_cons]; omega)

/-- **The scan for the end of a quoted string** finds the quote that closes it, or the end of the
text. -/
theorem stringEnd_utf8 {text : List Char} : ∀ {rest : List Char} {position : Nat},
    RestAt text position rest → stringEnd (utf8 text) position
      = some (((closing? [.quote] rest).map (behindSplit position)).getD (byteLength text))
  | [], position, h => by
    rw [stringEnd_of_length_le (Nat.le_of_eq h.eq_length.symm), length_utf8, closing?]
    rfl
  | c :: rest, position, h => by
    have hpasses := passes_stringEnd (utf8 text)
    by_cases hescape : c = '\\'
    · subst hescape
      have hright : RestAt text (position + 1) rest := h.right ['\\']
      rw [stringEnd_escape h]
      cases hrest : rest with
      | nil =>
        rw [hrest] at hright
        rw [closing?_quote_other _ _ (fun _ => rfl) (fun _ hc => by simp at hc) (by decide), closing?,
          stringEnd_of_length_le (by rw [← hright.eq_length]; omega), length_utf8]
        rfl
      | cons d more =>
        rw [hrest] at hright
        have hlength : more.length < rest.length := by rw [hrest]; exact Nat.lt_succ_self _
        have hmore : RestAt text (position + 1 + d.utf8Size) more := hright.right [d]
        -- the jump may end inside of `d`
        have hjump : stringEnd (utf8 text) (position + 2)
            = stringEnd (utf8 text) (position + 1 + d.utf8Size) :=
          hpasses.jump stringDelimiters_ascii hright
        rw [hjump, stringEnd_utf8 hmore, closing?_quote_escape, map_consFst_behindSplit,
          map_consFst_behindSplit]
        rfl
    by_cases hquote : c = '"'
    · subst hquote
      rw [stringEnd_quote h, closing?_quote_close, closing?]
      rfl
    by_cases hmarker : c = '$' ∧ ∃ more, rest = '\x7b' :: more
    · obtain ⟨hdollar, more, hmore⟩ := hmarker
      have hlength : more.length < rest.length := by rw [hmore]; exact Nat.lt_succ_self _
      rw [hdollar, hmore] at h ⊢
      have hright : RestAt text (position + 2) more := h.right ['$', '\x7b']
      have hframes : closing? [.brace, .quote] more = (closing? [.brace] more).bind fun split =>
          (closing? [.quote] split.2).map (prepend split.1) :=
        closing?_frames_append [.brace] [.quote] more
      rw [stringEnd_marker h, closingBrace_utf8 0 hright, closing?_quote_marker,
        map_consFst_behindSplit, map_consFst_behindSplit, hframes, List.replicate_one]
      cases hclosing : closing? [.brace] more with
      | none => rw [length_utf8]; rfl
      | some split =>
        obtain ⟨inside, behind⟩ := split
        have hbehind := restAt_of_closing? hright hclosing
        have hsplit := length_le_of_closing? hclosing
        have hclose : behindSplit (position + 2) (inside, behind) - 1 + 1
            = position + 2 + byteLength inside := by
          simp only [behindSplit]
          omega
        simp only [Option.map_some, Option.bind_some]
        rw [map_prepend_behindSplit, if_pos (by simp only [behindSplit]; omega), hclose,
          stringEnd_utf8 hbehind]
        rfl
    · have hright : RestAt text (position + c.utf8Size) rest := h.right [c]
      have hother : stringEnd (utf8 text) position
          = stringEnd (utf8 text) (position + c.utf8Size) := by
        by_cases hdollar : c = '$'
        · subst hdollar
          exact stringEnd_dollar h fun more hmore => hmarker ⟨rfl, more, hmore⟩
        · exact hpasses.char stringDelimiters_ascii h (by simp [hescape, hquote, hdollar])
      rw [hother, stringEnd_utf8 hright, closing?_quote_other _ _ (fun hc => absurd hc hescape)
        (fun more hc hmore => hmarker ⟨hc, more, hmore⟩) hquote, map_consFst_behindSplit]
termination_by rest => rest.length
decreasing_by all_goals (simp only [List.length_cons]; omega)

end

/-! ### The ranges of a text -/

section Ranges

variable {text rest : List Char} {position : Nat}

theorem interpolations_of_length_le {bytes : List UInt8} (h : bytes.length ≤ position) :
    interpolations bytes position = some [] := by
  rw [interpolations, if_neg (by omega)]

theorem passes_interpolations (bytes : List UInt8) : Passes bytes ['$'] (interpolations bytes) := by
  intro position byte hbyte hne
  obtain ⟨hlt, rfl⟩ := List.getElem?_eq_some_iff.1 hbyte
  have hdollar : asciiByte '$' ≠ bytes[position] := (hne '$' (by simp)).symm
  conv_lhs => rw [interpolations, if_pos hlt, listBetween_length (Nat.le_of_lt hlt),
    List.drop_eq_getElem_cons hlt]
  simp only [Option.bind_eq_bind, Option.bind_some, List.cons_prefix_cons]
  rw [if_neg fun h => hdollar h.1, if_pos fun h => hdollar h.1]

/-- One step of the scan, by the characters at its position. -/
theorem interpolations_step (h : RestAt text position rest) (hlt : position < (utf8 text).length) :
    interpolations (utf8 text) position
      = if ['$', '$', '\x7b'] <+: rest then interpolations (utf8 text) (position + 3)
        else if ¬ ['$', '\x7b'] <+: rest then interpolations (utf8 text) (position + 1)
        else (closingBrace (utf8 text) 0 (position + 2)).bind fun close =>
          if position ≤ close.getD (utf8 text).length then
            (interpolations (utf8 text) (close.getD (utf8 text).length + 1)).map
              (⟨position + 2, close.getD (utf8 text).length⟩ :: ·)
          else none := by
  have hescaped : [asciiByte '$', asciiByte '$', asciiByte '\x7b'] <+: utf8 rest
      ↔ ['$', '$', '\x7b'] <+: rest := isPrefix_utf8 ['$', '$', '\x7b'] rest (by simp)
  have hmarker : [asciiByte '$', asciiByte '\x7b'] <+: utf8 rest ↔ ['$', '\x7b'] <+: rest :=
    isPrefix_utf8 ['$', '\x7b'] rest (by simp)
  conv_lhs => rw [interpolations, if_pos hlt, listBetween_length (Nat.le_of_lt hlt), h.drop]
  simp only [Option.bind_eq_bind, Option.bind_some, hescaped, hmarker, Option.map_eq_bind]
  rfl

/-- **The scan for interpolations** finds the bodies of a text. -/
theorem interpolations_utf8 (h : RestAt text position rest) :
    interpolations (utf8 text) position = some ((bodiesFrom position rest).map Body.span) := by
  fun_induction bodiesFrom position rest with
  | case1 position => exact interpolations_of_length_le (Nat.le_of_eq h.eq_length.symm)
  | case2 position rest ih =>
    rw [interpolations_step h h.lt_length, if_pos ⟨rest, rfl⟩]
    exact ih (h.right ['$', '$', '\x7b'])
  | case3 position rest hbody =>
    have hright : RestAt text (position + 2) rest := h.right ['$', '\x7b']
    have hlength : (utf8 text).length = position + 2 + byteLength rest := by
      rw [length_utf8, hright.byteLength_eq]
    have hclosing : closing? [.brace] rest = none := Option.map_eq_none_iff.1 hbody
    rw [interpolations_step h h.lt_length, if_neg (by simp), if_neg fun hne => hne ⟨rest, rfl⟩,
      closingBrace_utf8 0 hright, List.replicate_one, hclosing]
    simp only [Option.map_none, Option.bind_some, Option.getD_none, hlength]
    rw [if_pos (by omega), interpolations_of_length_le (by omega)]
    rfl
  | case4 position rest inside behind hbody ih =>
    have hright : RestAt text (position + 2) rest := h.right ['$', '\x7b']
    have hbehind : RestAt text (position + 2 + byteLength inside + 1) behind := by
      rw [eq_of_body? hbody] at hright
      exact (hright.right inside).right ['\x7d']
    have hstop : behindSplit (position + 2) (inside ++ ['\x7d'], behind) - 1
        = position + 2 + byteLength inside := by
      have hbrace : Char.utf8Size '\x7d' = 1 := rfl
      simp only [behindSplit, byteLength_append, byteLength_cons, byteLength_nil, hbrace]
      omega
    rw [interpolations_step h h.lt_length, if_neg (by simp), if_neg fun hne => hne ⟨rest, rfl⟩,
      closingBrace_utf8 0 hright, List.replicate_one, closing?_of_body? hbody]
    simp only [Option.map_some, Option.bind_some, Option.getD_some, hstop]
    rw [if_pos (by omega), ih hbehind]
    rfl
  | case5 position c rest hescaped hmarker ih =>
    have hright : RestAt text (position + c.utf8Size) rest := h.right [c]
    by_cases hdollar : c = '$'
    · subst hdollar
      rw [interpolations_step h h.lt_length, if_neg, if_pos]
      · exact ih hright
      · rintro ⟨more, hmore⟩
        exact hmarker more rfl (List.cons.inj hmore).2.symm
      · rintro ⟨more, hmore⟩
        exact hescaped more rfl (List.cons.inj hmore).2.symm
    · rw [(passes_interpolations (utf8 text)).char (by simp) h (by simp [hdollar])]
      exact ih hright

end Ranges

end ConfigRefs.Checked
