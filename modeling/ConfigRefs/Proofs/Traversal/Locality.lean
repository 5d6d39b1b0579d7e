import ConfigRefs.Proofs.Interpolation.Locality
import ConfigRefs.Proofs.Traversal.Place
import ConfigRefs.Proofs.Traversal.SetAside
import ConfigRefs.Traversal.Basic

/-!
# Traversal: one text behind another

What comprehensions set aside and how tokens form chains depends on the kinds and the texts of tokens,
not on their places (`marked_map`, `chains_map`). So the traversals of a text whose bodies are all
closed are the same with another text behind it, and those of that text follow with their places moved
by its length (`scan_append`).
-/

namespace ConfigRefs

open ConfigRefs.Text

/-- A token some bytes further on. -/
def Token.shift (distance : Nat) (token : Token) : Token :=
  { token with start := token.start + distance }

/-- A segment some bytes further on. -/
def Segment.shift (distance : Nat) (segment : Segment) : Segment :=
  { segment with start := segment.start + distance, stop := segment.stop + distance }

namespace Traversal

open ConfigRefs.Interpolation ConfigRefs.Token
open ConfigRefs.Checked (isKeyword isColon clause?_eq clauseIntervals)

/-- A traversal with each of its segments changed. -/
def mapSegments (change : Segment → Segment) (traversal : Traversal) : Traversal :=
  { traversal with head := change traversal.head, steps := traversal.steps.map change }

/-- A traversal some bytes further on. -/
def shift (distance : Nat) (traversal : Traversal) : Traversal :=
  traversal.mapSegments (Segment.shift distance)

/-- Tokens are moved: nothing but their places changes. -/
structure Moves (move : Token → Token) : Prop where
  kind : ∀ token, (move token).kind = token.kind
  text : ∀ token, (move token).text = token.text

/-! ### What comprehensions set aside -/

section SetAside

variable {move : Token → Token} (h : Moves move)
include h

theorem Moves.isWord (token : Token) (word : String) :
    (move token).isWord word = token.isWord word := by
  rw [Token.isWord, Token.isWord, h.kind, h.text]

theorem Moves.opensComprehension (token : Token) :
    Traversal.opensComprehension (move token) = Traversal.opensComprehension token := by
  rw [Traversal.opensComprehension, Traversal.opensComprehension, h.kind]

theorem Moves.depthBehind? (depth : Nat) (token : Token) :
    Traversal.depthBehind? depth (move token) = Traversal.depthBehind? depth token := by
  rw [Traversal.depthBehind?, Traversal.depthBehind?, h.kind]

theorem Moves.isStep (mark : Token × Bool) :
    Traversal.isStep (Prod.map move id mark) = Traversal.isStep mark := by
  rw [Traversal.isStep, Traversal.isStep, Prod.map_fst, Prod.map_snd, h.kind, id_eq]

theorem group_map (depth : Nat) (tokens : List Token) :
    group depth (tokens.map move) = (group depth tokens).map (Prod.map move id) := by
  induction tokens generalizing depth with
  | nil => rfl
  | cons token rest ih =>
    rw [List.map_cons, group_cons, group_cons, h.depthBehind?]
    cases Traversal.depthBehind? depth token with
    | none => rfl
    | some next => exact congrArg _ (ih next)

theorem clause?_map (tokens : List Token) : clause? (tokens.map move) = clause? tokens := by
  have hkeyword : isKeyword ∘ Prod.map move id = isKeyword := by
    funext mark
    simp [isKeyword, h.isWord]
  have hcolon : isColon ∘ Prod.map move id = isColon := by
    funext mark
    simp [isColon, h.kind]
  rw [clause?_eq, clause?_eq, group_map h]
  simp only [← List.map_drop, List.findIdx?_map, hkeyword, hcolon, List.length_map]

theorem setAsideFrom_map (position : Nat) (previous : Option Token) (tokens : List Token) :
    setAsideFrom position (previous.map move) (tokens.map move)
      = setAsideFrom position previous tokens := by
  induction tokens generalizing position previous with
  | nil => rfl
  | cons token rest ih =>
    have hopens : (previous.map move).any Traversal.opensComprehension
        = previous.any Traversal.opensComprehension := by
      cases previous with
      | none => rfl
      | some before => exact h.opensComprehension before
    have hrest := ih (position + 1) (some token)
    rw [Option.map_some] at hrest
    rw [List.map_cons, setAsideFrom_cons, setAsideFrom_cons, hopens, h.isWord, clauseIntervals,
      clauseIntervals, clause?_map h, hrest]

/-- **What is set aside** does not depend on the places of the tokens. -/
theorem marked_map (tokens : List Token) :
    marked (tokens.map move) = (marked tokens).map (Prod.map move id) := by
  have hintervals := setAsideFrom_map h 0 none tokens
  rw [Option.map_none] at hintervals
  rw [marked_eq, marked_eq, hintervals, markedBy, markedBy, List.zipIdx_map, List.map_map,
    List.map_map]
  rfl

end SetAside

/-! ### Chains -/

section Chains

variable {move : Token → Token} {change : Segment → Segment} (h : Moves move)
  (hsegment : ∀ token, segmentOf (move token) = change (segmentOf token))
include h hsegment

theorem splitSteps_map (marks : List (Token × Bool)) :
    splitSteps (marks.map (Prod.map move id))
      = ((splitSteps marks).1.map change, (splitSteps marks).2.map (Prod.map move id)) := by
  have hdot (mark : Token × Bool) : (Prod.map move id mark).1.kind = mark.1.kind := h.kind mark.1
  have hstep := h.isStep
  fun_induction splitSteps marks with
  | case1 dot name rest hdotted steps behind hsplit ih =>
    rw [hsplit] at ih
    rw [List.map_cons, List.map_cons, splitSteps, hdot, hstep, if_pos hdotted, ih, List.map_cons,
      ← hsegment]
    rfl
  | case2 dot name rest hdotted =>
    rw [List.map_cons, List.map_cons, splitSteps, hdot, hstep, if_neg hdotted]
    rfl
  | case3 rest hshort =>
    rcases rest with _ | ⟨first, _ | ⟨second, more⟩⟩
    · rfl
    · rfl
    · exact (hshort _ _ _ rfl).elim

theorem chainsFrom_map (afterDot : Bool) (marks : List (Token × Bool)) :
    chainsFrom afterDot (marks.map (Prod.map move id))
      = (chainsFrom afterDot marks).map (mapSegments change) := by
  have hkind (mark : Token × Bool) : (Prod.map move id mark).1.kind = mark.1.kind := h.kind mark.1
  have haside (mark : Token × Bool) : (Prod.map move id mark).2 = mark.2 := rfl
  fun_induction chainsFrom afterDot marks with
  | case1 => rw [List.map_nil, chainsFrom, List.map_nil]
  | case2 afterDot mark rest hname split ih =>
    -- of the token behind the chain only the kind is kept
    have hbehind : (split.2.map (Prod.map move id)).head?.map (·.1.kind)
        = split.2.head?.map (·.1.kind) := by
      rw [List.head?_map, Option.map_map]
      exact congrArg (Option.map · _) (funext hkind)
    rw [List.map_cons, chainsFrom, hkind, haside, if_pos hname, splitSteps_map h hsegment, List.map_cons,
      ← ih, mapSegments, ← hsegment, ← hbehind]
    rfl
  | case3 afterDot mark rest hname ih =>
    rw [List.map_cons, chainsFrom, hkind, haside, if_neg hname, ih]

/-- **How tokens form chains** does not depend on their places. -/
theorem chains_map (tokens : List Token) :
    chains (tokens.map move) = (chains tokens).map (mapSegments change) := by
  rw [chains, chains, marked_map h, chainsFrom_map h hsegment]

end Chains

/-! ### A text that begins further on -/

theorem moves_shift (distance : Nat) : Moves (Token.shift distance) := ⟨fun _ => rfl, fun _ => rfl⟩

theorem segmentOf_shift (distance : Nat) (token : Token) :
    segmentOf (token.shift distance) = (segmentOf token).shift distance := by
  rw [segmentOf, segmentOf, Segment.shift, Token.stop, Token.stop, Token.shift, Nat.add_right_comm]

/-- Where a text begins is where its tokens count from. -/
theorem tokensFrom_add (offset distance : Nat) (text : List Char) :
    tokensFrom (offset + distance) text = (tokensFrom offset text).map (Token.shift distance) := by
  fun_induction tokensFrom offset text with
  | case1 => rw [tokensFrom, List.map_nil]
  | case2 offset c rest hblank ih => rw [tokensFrom, if_pos hblank, Nat.add_right_comm, ih]
  | case3 offset c rest hblank kind more hclassify piece ih =>
    rw [tokensFrom, if_neg hblank, hclassify, List.map_cons, ← ih, Token.shift, Nat.add_right_comm]

theorem chains_shift (distance : Nat) (body : Body) :
    chains (tokensFrom (body.shift distance).start (body.shift distance).text)
      = (chains (tokensFrom body.start body.text)).map (shift distance) := by
  rw [Body.shift, tokensFrom_add, chains_map (moves_shift distance) (segmentOf_shift distance)]
  rfl

/-! ### One text behind another -/

/-- **Scanning is local.** If all interpolations of a text are closed by a brace and it does not end
with a dollar sign, they are the same with another text behind it, and those of that text follow with
their offsets moved by the byte length of the first one. If both texts begin with an interpolation, the
same holds of the traversals. -/
theorem scan_append {a b : String}
    (hclosed : ∀ span ∈ interpolations a, StandsAt a.toList span.stop ['\x7d'])
    (hdollar : a.toList.getLast? ≠ some '$') :
    interpolations (a ++ b)
        = interpolations a ++ (interpolations b).map (Span.shift (byteLength a.toList)) ∧
      (['$', '\x7b'] <+: a.toList → ['$', '\x7b'] <+: b.toList →
        traversals (a ++ b) = traversals a ++ (traversals b).map (shift (byteLength a.toList))) := by
  have hall : ∀ body ∈ bodies a.toList, body.closed = true := fun body hmem =>
    (closed_iff_of_mem_bodies hmem).2 (hclosed _ (List.mem_map_of_mem hmem))
  have happend : bodies (a ++ b).toList
      = bodies a.toList ++ (bodies b.toList).map (Body.shift (byteLength a.toList)) := by
    rw [String.toList_append, bodies_append hall hdollar]
  constructor
  · rw [interpolations, happend, List.map_append, List.map_map, interpolations, interpolations,
      List.map_map]
    exact congrArg _ (List.map_congr_left fun body _ => body.span_shift _)
  · intro ha hb
    have hab : ['$', '\x7b'] <+: (a ++ b).toList := by
      rw [String.toList_append]
      exact ha.trans (List.prefix_append _ _)
    rw [traversals_of_marker ha, traversals_of_marker hb, traversals_of_marker hab, happend,
      List.flatMap_append, List.flatMap_map, List.map_flatMap]
    simp only [chains_shift]

/-- A text with a comprehension, a string that holds a brace and an interpolation, an escaped marker and
an arrow of three bytes, and behind it one that is never closed. -/
theorem scan_append_comprehension :
    let a := "$\x7b[for é in f(\"\x7d$\x7bx\x7d\").0 : é]\x7d→$$\x7b$\x7bvar.a\x7d"
    let b := "$\x7bé.1.d[0] + \"\x7d"
    (∀ span ∈ interpolations a, StandsAt a.toList span.stop ['\x7d']) ∧
      a.toList.getLast? ≠ some '$' ∧
      ['$', '\x7b'] <+: a.toList ∧ ['$', '\x7b'] <+: b.toList ∧
      interpolations (a ++ b) = [⟨2, 31⟩, ⟨40, 45⟩] ++ [⟨2 + 46, 16 + 46⟩] ∧
      (traversals (a ++ b)).map render = ["f", "var.a"] ++ ["é.1.d"] := by
  intro a b
  have hinterpolations : interpolations a = [⟨2, 31⟩, ⟨40, 45⟩] := by
    unfold a
    decide +kernel
  have hclosed : ∀ span ∈ interpolations a, StandsAt a.toList span.stop ['\x7d'] := by
    rw [hinterpolations]
    simp only [List.forall_mem_cons]
    exact ⟨⟨a.toList.take 29, a.toList.drop 30, by decide, by decide⟩,
      ⟨a.toList.take 41, a.toList.drop 42, by decide, by decide⟩, fun _ h => by cases h⟩
  have hdollar : a.toList.getLast? ≠ some '$' := by decide
  have hmarker : ['$', '\x7b'] <+: a.toList := by decide
  have hmarker' : ['$', '\x7b'] <+: b.toList := by decide
  obtain ⟨hscan, htraversals⟩ := scan_append (b := b) hclosed hdollar
  refine ⟨hclosed, hdollar, hmarker, hmarker', ?_, ?_⟩
  · rw [hscan, hinterpolations]
    unfold a b
    decide +kernel
  · rw [htraversals hmarker hmarker', List.map_append]
    unfold a b
    decide +kernel

end Traversal

end ConfigRefs
