import ConfigRefs.Proofs.Checked.Interpolation
import ConfigRefs.Proofs.Token.Path
import ConfigRefs.Proofs.Token.Place

/-!
# Checked: tokens

The lexer cuts the rest of a body out of the text before each token, twice, reads a quoted string as
bytes up to the end of the body, and looks behind some characters. With a check on each of these it
reads the tokens of the body, by their kinds and ends (`tokenize_standsAt`).
-/

namespace ConfigRefs.Checked

open ConfigRefs.Text ConfigRefs.Interpolation ConfigRefs.Token

/-- A token by its kind and its ends. -/
structure Lexeme where
  kind : Token.Kind
  start : Nat
  stop : Nat

/-- The kind and the ends of a token. -/
def Lexeme.of (token : Token) : Lexeme := ⟨token.kind, token.start, token.stop⟩

/-- The text of a lexeme, cut out of the text that it was found in. -/
def Lexeme.text (text : List Char) (lexeme : Lexeme) : Option (List Char) :=
  textBetween text lexeme.start lexeme.stop

/-- The text behind a first character, which is cut out where the character may begin a comparison. -/
def behindFirst (c : Char) (behind : List Char) : Option (List Char) :=
  if c = '!' ∨ c = '<' ∨ c = '>' then textBetween (c :: behind) 1 (byteLength (c :: behind))
  else some behind

/-- The kind and the number of bytes of the token that begins at a position with a character and ends
before `stop`. -/
def classify (text : List Char) (position stop : Nat) (c : Char) (behind : List Char) :
    Option (Token.Kind × Nat) :=
  if beginsWord c then some (.ident, byteLength ((c :: behind).takeWhile continuesWord))
  else if c.isDigit then some (.number, byteLength ((c :: behind).takeWhile Char.isDigit))
  else if c = '"' then do
    let bytes ← listBetween (utf8 text) 0 stop
    let close ← stringEnd bytes (position + 1)
    let length ← subtract close position
    some (.str, length)
  else do
    let next ← behindFirst c behind
    some ((punctuation c next).1, c.utf8Size + (punctuation c next).2)

/-- The first token between two positions. -/
def nextToken (text : List Char) (position stop : Nat) : Option (Option Lexeme) := do
  let rest ← textBetween text position stop
  let skipped ← subtract (byteLength rest) (byteLength (rest.dropWhile isBlank))
  let rest ← textBetween text (position + skipped) stop
  match rest with
  | [] => some none
  | c :: behind => do
    let (kind, length) ← classify text (position + skipped) stop c behind
    some (some ⟨kind, position + skipped, position + skipped + length⟩)

/-- The tokens between two positions. -/
def tokenize (text : List Char) (position stop : Nat) : Option (List Lexeme) := do
  let next ← nextToken text position stop
  match next with
  | none => some []
  | some lexeme =>
    if position < lexeme.stop ∧ lexeme.stop ≤ stop then do
      let further ← tokenize text lexeme.stop stop
      some (lexeme :: further)
    else none
termination_by stop - position
decreasing_by omega

/-! ### One token -/

theorem behindFirst_eq (c : Char) (behind : List Char) : behindFirst c behind = some behind := by
  unfold behindFirst
  split
  · next hc =>
    have hsize : c.utf8Size = 1 := by rcases hc with rfl | rfl | rfl <;> rfl
    have hbehind : StandsAt (c :: behind) 1 behind := ⟨[c], [], by simp, hsize⟩
    rw [byteLength_cons, hsize, textBetween_standsAt hbehind]
  · rfl

section Classify

variable {text behind : List Char} {position : Nat} {c : Char}

/-- **The end of a quoted string** is found in the bytes before the end of the body. -/
theorem stringEnd_standsAt (h : StandsAt text position ('"' :: behind)) :
    ((listBetween (utf8 text) 0 (position + byteLength ('"' :: behind))).bind
        (stringEnd · (position + 1)))
      = some (position + byteLength ('"' :: behind.take (quotedLength behind))) := by
  obtain ⟨before, after, rfl, rfl⟩ := h
  have htake : listBetween (utf8 (before ++ '"' :: behind ++ after)) 0
      (byteLength before + byteLength ('"' :: behind)) = some (utf8 (before ++ '"' :: behind)) := by
    rw [← byteLength_append, ← length_utf8, utf8_append _ after, listBetween_zero (by simp),
      List.take_left]
  have hrest : RestAt (before ++ '"' :: behind) (byteLength before) ('"' :: behind) :=
    ⟨before, rfl, rfl⟩
  have hbehind : RestAt (before ++ '"' :: behind) (byteLength before + 1) behind := hrest.right ['"']
  rw [htake, Option.bind_some, stringEnd_utf8 hbehind, quotedLength]
  cases hclosing : closing? [.quote] behind with
  | none =>
    rw [Option.map_none, Option.getD_none, hrest.byteLength_eq]
    simp only [List.take_length]
  | some split =>
    obtain ⟨inside, after⟩ := split
    have htext := closing?_append hclosing
    simp only [Option.map_some, Option.getD_some, htext, List.take_left, behindSplit, byteLength_cons,
      Nat.add_assoc]
    rfl

/-- **The checked length of a token** is the one of the token. -/
theorem classify_standsAt (h : StandsAt text position (c :: behind)) :
    classify text position (position + byteLength (c :: behind)) c behind
      = some ((Token.classify c behind).1,
          byteLength (c :: behind.take (Token.classify c behind).2)) := by
  unfold classify Token.classify
  by_cases hword : beginsWord c = true
  · rw [if_pos hword, if_pos hword, take_length_takeWhile,
      List.takeWhile_cons_of_pos (continuesWord_of_beginsWord hword)]
  rw [if_neg hword, if_neg hword]
  by_cases hdigit : c.isDigit = true
  · rw [if_pos hdigit, if_pos hdigit, take_length_takeWhile, List.takeWhile_cons_of_pos hdigit]
  rw [if_neg hdigit, if_neg hdigit]
  by_cases hquote : c = '"'
  · subst hquote
    have hend := stringEnd_standsAt h
    rw [if_pos rfl, if_pos rfl]
    obtain ⟨bytes, hbytes, hclose⟩ := Option.bind_eq_some_iff.1 hend
    simp only [Option.bind_eq_bind, hbytes, Option.bind_some, hclose]
    rw [subtract_of_le (Nat.le_add_right _ _), Nat.add_sub_cancel_left]
    rfl
  rw [if_neg hquote, if_neg hquote]
  simp only [behindFirst_eq, Option.bind_eq_bind, Option.bind_some]
  rw [byteLength_cons, byteLength_take_punctuation]

end Classify

/-! ### All tokens -/

section Tokenize

variable {text rest : List Char} {position : Nat}

/-- The first token of a rest stands behind the white space at its beginning. -/
theorem nextToken_standsAt (h : StandsAt text position rest) :
    nextToken text position (position + byteLength rest) = match rest.dropWhile isBlank with
      | [] => some none
      | c :: behind => some (some
          { kind := (Token.classify c behind).1
            start := position + byteLength (rest.takeWhile isBlank)
            stop := position + byteLength (rest.takeWhile isBlank)
              + byteLength (c :: behind.take (Token.classify c behind).2) }) := by
  have hsplit : rest.takeWhile isBlank ++ rest.dropWhile isBlank = rest :=
    List.takeWhile_append_dropWhile
  have hlength : byteLength rest
      = byteLength (rest.takeWhile isBlank) + byteLength (rest.dropWhile isBlank) := by
    rw [← byteLength_append, hsplit]
  have htrimmed : StandsAt text (position + byteLength (rest.takeWhile isBlank))
      (rest.dropWhile isBlank) := by
    rw [← hsplit] at h
    exact h.right _
  have hstop : position + byteLength rest = position + byteLength (rest.takeWhile isBlank)
      + byteLength (rest.dropWhile isBlank) := by omega
  have hskipped : byteLength rest - byteLength (rest.dropWhile isBlank)
      = byteLength (rest.takeWhile isBlank) := by omega
  unfold nextToken
  simp only [Option.bind_eq_bind]
  rw [textBetween_standsAt h, Option.bind_some, subtract_of_le (by omega), Option.bind_some, hskipped,
    hstop, textBetween_standsAt htrimmed, Option.bind_some]
  cases hrest : rest.dropWhile isBlank with
  | nil => rfl
  | cons c behind =>
    rw [hrest] at htrimmed
    simp only [classify_standsAt htrimmed, Option.bind_some]

/-- Behind white space the lexer is further on, so what it goes forward to from there it also does
from here. -/
theorem tokenize_blank {c : Char} {found : List Lexeme} (h : StandsAt text position (c :: rest))
    (hc : isBlank c = true)
    (hfound : tokenize text (position + c.utf8Size) (position + c.utf8Size + byteLength rest)
      = some found) :
    tokenize text position (position + byteLength (c :: rest)) = some found := by
  have hright : StandsAt text (position + c.utf8Size) rest := h.right [c]
  have hstop : position + byteLength (c :: rest) = position + c.utf8Size + byteLength rest := by
    rw [byteLength_cons, Nat.add_assoc]
  have hnext : nextToken text position (position + byteLength (c :: rest))
      = nextToken text (position + c.utf8Size) (position + c.utf8Size + byteLength rest) := by
    rw [nextToken_standsAt h, nextToken_standsAt hright, List.dropWhile_cons_of_pos hc,
      List.takeWhile_cons_of_pos hc, byteLength_cons, Nat.add_assoc]
  rw [tokenize] at hfound ⊢
  rw [hnext, hstop]
  cases hfirst : nextToken text (position + c.utf8Size)
      (position + c.utf8Size + byteLength rest) with
  | none => rw [hfirst] at hfound; cases hfound
  | some next =>
    rw [hfirst] at hfound
    cases next with
    | none => exact hfound
    | some lexeme =>
      simp only [Option.bind_eq_bind, Option.bind_some] at hfound ⊢
      split at hfound
      · next hforward => rw [if_pos ⟨by omega, hforward.2⟩, hfound]
      · cases hfound

/-- In front of a token the lexer reads it. -/
theorem nextToken_of_not_blank {c : Char} {kind : Kind} {more : Nat}
    (h : StandsAt text position (c :: rest)) (hc : ¬ isBlank c = true)
    (hclassify : Token.classify c rest = (kind, more)) :
    nextToken text position (position + byteLength (c :: rest))
      = some (some ⟨kind, position, position + byteLength (c :: rest.take more)⟩) := by
  rw [nextToken_standsAt h, List.dropWhile_cons_of_neg hc, List.takeWhile_cons_of_neg hc]
  simp only [hclassify, byteLength_nil, Nat.add_zero]

/-- **The checked tokens of a body** are its tokens. -/
theorem tokenize_standsAt (h : StandsAt text position rest) :
    tokenize text position (position + byteLength rest)
      = some ((tokensFrom position rest).map Lexeme.of) := by
  fun_induction tokensFrom position rest with
  | case1 position =>
    rw [tokenize, nextToken_standsAt h]
    rfl
  | case2 position c rest hc ih => exact tokenize_blank h hc (ih (h.right [c]))
  | case3 position c rest hc kind more hclassify piece ih =>
    have hpiece : 0 < byteLength piece := byteLength_pos
    have hsplit : piece ++ rest.drop more = c :: rest := cons_take_append_drop c rest more
    have hstop : position + byteLength (c :: rest)
        = position + byteLength piece + byteLength (rest.drop more) := by
      rw [← hsplit, byteLength_append, Nat.add_assoc]
    have hbehind : StandsAt text (position + byteLength piece) (rest.drop more) := by
      rw [← hsplit] at h
      exact h.right piece
    have hnext : nextToken text position (position + byteLength (c :: rest))
        = some (some ⟨kind, position, position + byteLength piece⟩) :=
      nextToken_of_not_blank h hc hclassify
    rw [tokenize, hnext]
    simp only [Option.bind_eq_bind, Option.bind_some]
    rw [if_pos ⟨by omega, by omega⟩, hstop, ih hbehind]
    rfl

end Tokenize

end ConfigRefs.Checked
