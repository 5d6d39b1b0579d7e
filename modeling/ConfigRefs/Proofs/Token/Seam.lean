import ConfigRefs.Proofs.Interpolation.Quoted
import ConfigRefs.Proofs.Token.Nesting
import ConfigRefs.Proofs.Token.Spelling

/-!
# Token: places between tokens

A seam divides a text at a place that is inside of no token (`Seam`). White space at a seam changes no
token in front of it: the lexer may look on behind a token, but white space makes nothing longer
(`classify_seam`). What is in front of a seam in a body is read as a whole by the scan for braces
(`Seam.exists_reads`). A place between tokens, behind which no quoted string goes on, is a seam
(`seam_of_tokensFrom`).
-/

namespace ConfigRefs.Token

open ConfigRefs.Text ConfigRefs.Interpolation

/-! ### Longer punctuation -/

/-- What makes punctuation longer behind its first character. -/
def continuations : Char → List (List Char)
  | '.' => [['.', '.'], ['*']]
  | '=' => [['>'], ['=']]
  | '!' => [['=']]
  | '<' => [['=']]
  | '>' => [['=']]
  | '&' => [['&']]
  | '|' => [['|']]
  | _ => []

section Punctuation

variable {c : Char} {more rest : List Char}

theorem isBlank_of_mem_continuations (h : more ∈ continuations c) :
    ∀ d ∈ more, isBlank d = false := by
  revert more
  fun_cases continuations c <;>
    simp only [List.forall_mem_cons, List.not_mem_nil, false_implies, implies_true, and_true] <;>
    decide

theorem punctuation_long (h : more ∈ continuations c) (rest : List Char) :
    punctuation c (more ++ rest) = ((punctuation c more).1, more.length) := by
  revert more
  fun_cases continuations c <;>
    simp only [List.forall_mem_cons, List.not_mem_nil, false_implies, implies_true, and_true]
  case case1 => exact ⟨rfl, rfl⟩
  case case2 => exact ⟨rfl, rfl⟩
  all_goals rfl

theorem punctuation_short (h : ∀ more ∈ continuations c, ¬ more <+: rest) :
    punctuation c rest = ((punctuation c []).1, 0) := by
  fun_cases punctuation c rest
  case case29 => simp_all [punctuation]
  all_goals first | rfl | simp [continuations] at h

end Punctuation

/-! ### White space behind a token -/

section Classify

variable {c : Char} {piece ahead front behind : List Char} {kind : Kind}

/-- A word or a number ends at white space, and at whatever it ended at before. -/
theorem length_takeWhile_seam {accept : Char → Bool}
    (hreject : ∀ d, isBlank d = true → accept d = false)
    (h : ((piece ++ ahead).takeWhile accept).length = piece.length) (hfront : front <+: ahead)
    (hbehind : ∀ d ∈ behind.head?, isBlank d = true) :
    ((piece ++ (front ++ behind)).takeWhile accept).length = piece.length := by
  have hpiece : ∀ d ∈ piece, accept d = true := by
    have htake : (piece ++ ahead).takeWhile accept = piece := by
      have hprefix := List.takeWhile_prefix accept (l := piece ++ ahead)
      exact (List.prefix_of_prefix_length_le hprefix (List.prefix_append _ _) h.le).eq_of_length h
    intro d hd
    rw [← htake] at hd
    exact List.mem_takeWhile_imp hd
  rw [List.takeWhile_append_of_pos hpiece, List.length_append] at h ⊢
  have hahead : ahead.takeWhile accept = [] := List.length_eq_zero_iff.1 (by omega)
  have hnone : (front ++ behind).takeWhile accept = [] := by
    rcases front with _ | ⟨d, front⟩
    · rcases behind with _ | ⟨d, behind⟩
      · rfl
      · exact List.takeWhile_cons_of_neg (by simp [hreject d (hbehind d rfl)])
    · obtain ⟨rest, rfl⟩ := hfront
      refine List.takeWhile_cons_of_neg fun hd => ?_
      rw [List.cons_append, List.takeWhile_cons_of_pos hd] at hahead
      cases hahead
  rw [hnone, List.length_nil, Nat.add_zero]

/-- Punctuation is not longer in front of white space, and not shorter in front of less of what was
behind it. -/
theorem punctuation_seam (h : punctuation c (piece ++ ahead) = (kind, piece.length))
    (hfront : front <+: ahead) (hbehind : ∀ d ∈ behind.head?, isBlank d = true) :
    punctuation c (piece ++ (front ++ behind)) = (kind, piece.length) := by
  by_cases hlong : ∃ more ∈ continuations c, more <+: piece ++ ahead
  · obtain ⟨more, hmore, rest, hrest⟩ := hlong
    rw [← hrest, punctuation_long hmore] at h
    obtain ⟨hkind, hlength⟩ := Prod.mk.inj h
    obtain rfl : more = piece := (List.append_inj hrest hlength).1
    rw [punctuation_long hmore, hkind]
  · have hnone : ∀ more ∈ continuations c, ¬ more <+: piece ++ ahead := fun more hmore hprefix =>
      hlong ⟨more, hmore, hprefix⟩
    rw [punctuation_short hnone] at h
    obtain ⟨hkind, hlength⟩ := Prod.mk.inj h
    obtain rfl : piece = [] := List.length_eq_zero_iff.1 hlength.symm
    rw [List.nil_append, punctuation_short, hkind]
    · rfl
    intro more hmore hprefix
    rcases List.prefix_or_prefix_of_prefix hprefix (List.prefix_append front behind) with
      hshort | ⟨others, rfl⟩
    · exact hnone more hmore (hshort.trans hfront)
    · -- white space is part of no punctuation, so nothing of `more` lies behind the seam
      cases others with
      | nil => exact hnone _ hmore (by rwa [List.append_nil])
      | cons d others =>
        obtain ⟨rest, rfl⟩ := (List.prefix_append_right_inj front).1 hprefix
        have hd := isBlank_of_mem_continuations hmore d (by simp)
        rw [hbehind d rfl] at hd
        cases hd

/-- **White space makes no token longer**, and a token is no other one in front of less of what was
behind it. -/
theorem classify_seam (h : classify c (piece ++ ahead) = (kind, piece.length))
    (hquoted : kind = .str → IsQuoted (c :: piece)) (hfront : front <+: ahead)
    (hbehind : ∀ d ∈ behind.head?, isBlank d = true) :
    classify c (piece ++ (front ++ behind)) = (kind, piece.length) := by
  rcases classify_eq c with ⟨-, heq⟩ | ⟨-, heq⟩ | ⟨-, heq⟩ | heq
  · rw [heq] at h ⊢
    obtain ⟨rfl, hlength⟩ := Prod.mk.inj h
    rw [length_takeWhile_seam (fun d hd => ?_) hlength hfront hbehind]
    exact eq_false_of_ne_true fun hword => by
      rw [isBlank_of_continuesWord hword] at hd
      cases hd
  · rw [heq] at h ⊢
    obtain ⟨rfl, hlength⟩ := Prod.mk.inj h
    rw [length_takeWhile_seam (fun d hd => ?_) hlength hfront hbehind]
    exact eq_false_of_ne_true fun hdigit => by
      rw [isBlank_of_isDigit hdigit] at hd
      cases hd
  · rw [heq] at h ⊢
    obtain ⟨rfl, -⟩ := Prod.mk.inj h
    obtain ⟨inside, hinside, hclosing⟩ := hquoted rfl
    obtain ⟨-, rfl⟩ := List.cons.inj hinside
    rw [quotedLength_of_closed (closing?_replace hclosing _)]
  · rw [heq] at h ⊢
    exact punctuation_seam h hfront hbehind

end Classify

/-- The lexer takes no more than there is. -/
theorem classify_le (c : Char) (rest : List Char) : (classify c rest).2 ≤ rest.length := by
  rcases classify_eq c with ⟨-, heq⟩ | ⟨-, heq⟩ | ⟨-, heq⟩ | heq
  · rw [heq]
    exact (List.takeWhile_prefix continuesWord).length_le
  · rw [heq]
    exact (List.takeWhile_prefix Char.isDigit).length_le
  · rw [heq]
    cases h : closing? [.quote] rest with
    | none => rw [quotedLength_of_unclosed h]
    | some split =>
      rw [quotedLength_of_closed h, closing?_append h, List.length_append]
      exact Nat.le_add_right _ _
  · rw [heq]
    fun_cases punctuation c rest <;> simp

/-! ### Seams -/

/-- A seam divides a text inside of no token, with all quoted strings in front of it closed. -/
inductive Seam : (front back : List Char) → Prop where
  | start {back : List Char} : Seam [] back
  | blank {c : Char} {front back : List Char} : isBlank c = true → Seam front back →
    Seam (c :: front) back
  | token {c : Char} {piece front back : List Char} {kind : Kind} : isBlank c = false →
    classify c (piece ++ (front ++ back)) = (kind, piece.length) →
      (kind = .str → IsQuoted (c :: piece)) → Seam front back → Seam (c :: (piece ++ front)) back

theorem reads_append {depth between after : Nat} {a b : List Char} (ha : Reads depth a between)
    (hb : Reads between b after) : Reads depth (a ++ b) after := fun rest => by
  rw [List.append_assoc, ha, hb, map_prepend_map_prepend]

/-- **What is in front of a seam in a body is read as a whole** by the scan for braces. -/
theorem Seam.exists_reads {front back : List Char} (h : Seam front back) {closed : Bool} :
    ∀ {depth : Nat}, EndsBody closed depth (front ++ back) → ∃ after, Reads depth front after := by
  induction h with
  | start => exact fun {depth} _ => ⟨depth, reads_plain fun _ hmem => nomatch hmem⟩
  | @blank c front back hblank _ ih =>
    intro depth hend
    have hread : Reads depth [c] depth := reads_plain (by simpa using isPlain_of_isBlank hblank)
    have hend : EndsBody closed depth ([c] ++ (front ++ back)) := hend
    obtain ⟨after, hafter⟩ := ih (hend.of_reads hread)
    exact ⟨after, reads_append hread hafter⟩
  | @token c piece front back kind hblank hclassify hquoted _ ih =>
    intro depth hend
    rw [List.cons_append, List.append_assoc, ← List.cons_append] at hend
    suffices hread : ∃ between, Reads depth (c :: piece) between by
      obtain ⟨between, hread⟩ := hread
      obtain ⟨after, hafter⟩ := ih (hend.of_reads hread)
      exact ⟨after, reads_append hread hafter⟩
    rcases classify_cases c (piece ++ (front ++ back)) with
      ⟨rfl, heq⟩ | ⟨rfl, heq⟩ | ⟨rfl, heq⟩ | ⟨hplain, -⟩
    · obtain ⟨-, hlength⟩ := Prod.mk.inj (hclassify.symm.trans heq)
      obtain rfl : piece = [] := List.length_eq_zero_iff.1 hlength
      exact ⟨depth + 1, reads_open depth⟩
    · obtain ⟨-, hlength⟩ := Prod.mk.inj (hclassify.symm.trans heq)
      obtain rfl : piece = [] := List.length_eq_zero_iff.1 hlength
      cases depth with
      | zero => exact absurd hend (EndsBody.not_close _)
      | succ depth => exact ⟨depth, reads_close depth⟩
    · obtain ⟨hkind, -⟩ := Prod.mk.inj (hclassify.symm.trans heq)
      exact ⟨depth, reads_quoted (hquoted hkind)⟩
    · rw [hclassify, List.take_left] at hplain
      exact ⟨depth, reads_plain hplain⟩

/-- What is in front of a place behind the first token begins with that token. -/
theorem exists_behind_first {c : Char} {rest front back : List Char} {more : Nat}
    (htext : front ++ back = c :: rest)
    (hle : byteLength (c :: rest.take more) ≤ byteLength front) :
    ∃ others, front = c :: (rest.take more ++ others) ∧ others ++ back = rest.drop more := by
  have hsplit := cons_take_append_drop c rest more
  obtain ⟨others, rfl⟩ : c :: rest.take more <+: front :=
    isPrefix_of_byteLength_le ⟨rest.drop more, hsplit⟩ ⟨back, htext⟩ hle
  refine ⟨others, rfl, ?_⟩
  rw [← hsplit, List.append_assoc] at htext
  exact List.append_cancel_left htext

/-- **A place between tokens is a seam**, if the quoted strings in front of it are closed. -/
theorem seam_of_tokensFrom {offset : Nat} {front back : List Char}
    (hfree : ∀ token ∈ tokensFrom offset (front ++ back),
      token.stop ≤ offset + byteLength front ∨ offset + byteLength front ≤ token.start)
    (hquoted : ∀ token ∈ tokensFrom offset (front ++ back),
      token.stop ≤ offset + byteLength front → token.kind = .str → IsQuoted token.text) :
    Seam front back := by
  generalize htext : front ++ back = text at hfree hquoted
  fun_induction tokensFrom offset text generalizing front with
  | case1 =>
    obtain ⟨rfl, rfl⟩ := List.append_eq_nil_iff.1 htext
    exact .start
  | case2 offset c rest hblank ih =>
    cases front with
    | nil => exact .start
    | cons d front =>
      rw [List.cons_append] at htext
      obtain ⟨rfl, hrest⟩ := List.cons.inj htext
      rw [byteLength_cons, ← Nat.add_assoc] at hfree hquoted
      exact .blank hblank (ih hrest hfree hquoted)
  | case3 offset c rest hblank kind more hclassify piece =>
    rename_i ih
    rw [List.forall_mem_cons] at hfree hquoted
    rcases hfree.1 with hstop | hstart
    · obtain ⟨others, rfl, hothers⟩ := exists_behind_first htext
        (Nat.le_of_add_le_add_left hstop : byteLength piece ≤ byteLength front)
      have hmore : more ≤ rest.length := by
        have hle := classify_le c rest
        rwa [hclassify] at hle
      have hplace : offset + byteLength (c :: (rest.take more ++ others))
          = offset + byteLength piece + byteLength others := by
        rw [← List.cons_append, byteLength_append, Nat.add_assoc]
      have hseam := ih hothers (hplace ▸ hfree.2) (hplace ▸ hquoted.2)
      refine .token (by simpa using hblank) ?_ (hquoted.1 hstop) hseam
      rw [hothers, List.take_append_drop, hclassify, List.length_take_of_le hmore]
    · obtain rfl : front = [] := by
        refine eq_nil_of_byteLength_eq_zero ?_
        simp only at hstart
        omega
      exact .start

end ConfigRefs.Token
