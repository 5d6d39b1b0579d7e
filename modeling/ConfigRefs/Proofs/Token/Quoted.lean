import ConfigRefs.Proofs.Interpolation.Quoted
import ConfigRefs.Proofs.Token.Nesting
import ConfigRefs.Traversal.Basic
import Mathlib.Data.List.Infix

/-!
# Token: quoted strings are skipped

The scans for braces and for the end of a string and the lexer all pass a quoted string as a whole
(`SkippedAt`), if it is one also to a reader who does not know the escaped marker. If it is not, the
scan for its end goes wrong wherever something is behind it (`quoted_skipped_iff`).
-/

namespace ConfigRefs.Token

open ConfigRefs.Text ConfigRefs.Interpolation

/-- A quoted string is skipped: whatever reads it goes on right behind it. -/
structure SkippedAt (input : String) (start : Nat) (text : List Char) : Prop where
  /-- The scan for the end of the string, from behind its first quote. -/
  stringEnd : Checked.stringEnd (utf8 input.toList) (start + 1) = some (start + byteLength text)
  /-- The scan for a closing brace, however many braces are open. -/
  closingBrace : ∀ depth, Checked.closingBrace (utf8 input.toList) depth start
    = Checked.closingBrace (utf8 input.toList) depth (start + byteLength text)
  /-- The lexer, in any range that the string lies in. -/
  tokenize : ∀ stop, start + byteLength text ≤ stop → IsBoundary input.toList stop →
    tokenize input ⟨start, stop⟩ = ⟨.str, start, text⟩ :: tokenize input ⟨start + byteLength text, stop⟩

/-! ### Strings that are skipped -/

section Skipped

variable {whole text : List Char} {start : Nat}

/-- A quoted string is one token. -/
theorem tokensFrom_quoted (h : IsQuoted text) (offset : Nat) (behind : List Char) :
    tokensFrom offset (text ++ behind)
      = ⟨.str, offset, text⟩ :: tokensFrom (offset + byteLength text) behind := by
  obtain ⟨inside, rfl, hinside⟩ := h
  have hclassify : classify '"' (inside ++ behind) = (.str, inside.length) := by
    rw [← quotedLength_of_closed (closing?_replace hinside behind)]
    rfl
  have hblank : isBlank '"' = false := by decide
  rw [List.cons_append, tokensFrom_cons hblank, hclassify, List.take_left, List.drop_left]

/-- **A quoted string is skipped** wherever it stands. -/
theorem skippedAt_of_isQuoted {input : String} (h : IsQuoted text)
    (hstands : StandsAt input.toList start text) : SkippedAt input start text := by
  have hend : Checked.stringEnd (utf8 input.toList) (start + 1)
      = some (start + byteLength text) := by
    obtain ⟨inside, rfl, hinside⟩ := h
    exact stringEnd_of_closed hstands hinside
  refine ⟨hend, fun depth => ?_, fun stop hle hstop => ?_⟩
  · obtain ⟨inside, rfl, -⟩ := h
    obtain ⟨behind, hrest⟩ := hstands.exists_restAt
    have hpos : 0 < byteLength ('"' :: inside) := byteLength_pos
    have hlt : start < start + byteLength ('"' :: inside) := by omega
    rw [List.cons_append] at hrest
    rw [Checked.closingBrace_quote hrest, hend, Option.bind_some, if_pos hlt]
  · have hslice : slice input.toList start stop
        = text ++ slice input.toList (start + byteLength text) stop := by
      rw [← slice_append_slice (Nat.le_add_right _ _) hle hstands.isBoundary_start
        hstands.isBoundary_stop hstop, hstands.slice]
    rw [Token.tokenize, Token.tokenize, hslice]
    exact tokensFrom_quoted h start _

/-- A text at whose end the scan ends, with something behind it, is a quoted string for the scan. -/
theorem isQuoted_of_stringEnd {c : Char} {inside behind : List Char}
    (hrest : RestAt whole start ('"' :: inside ++ c :: behind))
    (hend : Checked.stringEnd (utf8 whole) (start + 1)
      = some (start + byteLength ('"' :: inside))) : IsQuoted ('"' :: inside) := by
  have hright : RestAt whole (start + 1) (inside ++ c :: behind) := hrest.right ['"']
  have hquote : byteLength ('"' :: inside) = 1 + byteLength inside := rfl
  rw [Checked.stringEnd_utf8 hright] at hend
  cases hclosing : closing? [.quote] (inside ++ c :: behind) with
  | none =>
    -- an unclosed string goes on up to the end of the text, and that is further on
    have hlength := hright.byteLength_eq
    have hpos : 0 < byteLength (c :: behind) := byteLength_pos
    rw [byteLength_append] at hlength
    rw [hclosing, Option.map_none, Option.getD_none, Option.some.injEq] at hend
    omega
  | some split =>
    obtain ⟨front, back⟩ := split
    rw [hclosing, Option.map_some, Option.getD_some, Checked.behindSplit, Option.some.injEq] at hend
    have hlength : byteLength front = byteLength inside := by simp only at hend; omega
    have hfront : front = inside := by
      have htake := takeBytes_append front back
      rw [← closing?_append hclosing, hlength, takeBytes_append] at htake
      exact htake.symm
    rw [hfront] at hclosing
    exact isQuoted_of_closing? hclosing

end Skipped

/-! ### The escaped marker -/

/-- **A quoted string is skipped** wherever it stands, if it is one also without the escape of the marker
of a template. Otherwise the scan for its end goes wrong wherever something is behind the string. Only
a string that the escape is written in can be such a one. -/
theorem quoted_skipped_iff {inside : List Char} (h : Fills true .quote inside) :
    (Fills false .quote inside → ∀ (input : String) (start : Nat),
        StandsAt input.toList start (quoted inside) → SkippedAt input start (quoted inside)) ∧
      (¬ Fills false .quote inside → ∀ (input : String) (start : Nat) (c : Char) (behind : List Char),
        RestAt input.toList start (quoted inside ++ c :: behind) →
          Checked.stringEnd (utf8 input.toList) (start + 1)
            ≠ some (start + byteLength (quoted inside))) ∧
      (¬ ['$', '$', '\x7b'] <:+: inside → Fills false .quote inside) := by
  refine ⟨fun hplain input start hstands => ?_, fun hescaped input start c behind hrest hend => ?_,
    fun hnone => h.of_not_infix hnone⟩
  · exact skippedAt_of_isQuoted (isQuoted_iff_fills.2 hplain) hstands
  · exact hescaped (isQuoted_iff_fills.1 (isQuoted_of_stringEnd hrest hend))

/-- A string with an escaped quote, a dollar sign, a template that holds a string with a brace, and a
character of two bytes is skipped; one that is nothing but the escaped marker is not. -/
theorem quoted_skipped_nested :
    let inside := "\\\"$é$\x7bg(\"\x7d\", \x7bk = 1\x7d)\x7d".toList
    let input := "$\x7bf(\"\\\"$é$\x7bg(\"\x7d\", \x7bk = 1\x7d)\x7d\", \"$$\x7b\")\x7d"
    Fills true .quote inside ∧ ¬ ['$', '$', '\x7b'] <:+: inside ∧
      StandsAt input.toList 4 (quoted inside) ∧ SkippedAt input 4 (quoted inside) ∧
      Fills true .quote ['$', '$', '\x7b'] ∧ ¬ Fills false .quote ['$', '$', '\x7b'] ∧
      Checked.stringEnd (utf8 input.toList) 32 ≠ some 36 := by
  intro inside input
  have hnone : ¬ ['$', '$', '\x7b'] <:+: inside := by decide
  have hplain : Fills false .quote inside := by decide
  have hfills : Fills true .quote inside := hplain.of_not_infix hnone
  have hstands : StandsAt input.toList 4 (quoted inside) :=
    ⟨input.toList.take 4, input.toList.drop 28, by decide, by decide⟩
  have hescape : Fills true .quote ['$', '$', '\x7b'] := .escape rfl (.empty .quote)
  have hescaped : ¬ Fills false .quote ['$', '$', '\x7b'] := by decide
  have hrest : RestAt input.toList 31 (quoted ['$', '$', '\x7b'] ++ [')', '\x7d']) :=
    ⟨input.toList.take 30, by decide, by decide⟩
  obtain ⟨hskip, -, hwithout⟩ := quoted_skipped_iff hfills
  obtain ⟨-, hwrong, -⟩ := quoted_skipped_iff hescape
  exact ⟨hfills, hnone, hstands, hskip (hwithout hnone) input 4 hstands, hescape, hescaped,
    hwrong hescaped input 31 ')' ['\x7d'] hrest⟩

/-- The escaped marker in a quoted string is taken for a template, which swallows the rest of the text:
the body of the interpolation is not closed, and the traversal behind the string is lost. -/
theorem quoted_escape_misread :
    let input := "$\x7bf(\"$$\x7b\", var.a)\x7d"
    Fills true .quote ['$', '$', '\x7b'] ∧
      StandsAt input.toList 4 (quoted ['$', '$', '\x7b']) ∧
      4 + byteLength (quoted ['$', '$', '\x7b']) = 9 ∧
      Checked.stringEnd (utf8 input.toList) 5 = some 18 ∧
      (bodies input.toList).map Body.closed = [false] ∧
      (Traversal.traversals input).map Traversal.render = ["f"] := by
  intro input
  have hrest : RestAt input.toList 5 "$$\x7b\", var.a)\x7d".toList :=
    ⟨input.toList.take 5, by decide, by decide⟩
  refine ⟨.escape rfl (.empty .quote), ⟨input.toList.take 4, input.toList.drop 9, by decide, by decide⟩,
    rfl, ?_, ?_, ?_⟩
  · rw [Checked.stringEnd_utf8 hrest]
    decide
  · unfold input
    decide +kernel
  · unfold input
    decide +kernel

end ConfigRefs.Token
