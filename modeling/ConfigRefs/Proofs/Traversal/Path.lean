import ConfigRefs.Traversal.Basic
import ConfigRefs.Proofs.Interpolation.Place
import ConfigRefs.Proofs.Token.Path

/-!
# Traversal: the chain of a dotted path

A text that is one interpolation of a dotted path has exactly one traversal, the segments of the path
at their places with nothing behind it (`traversals_path`).
-/

namespace ConfigRefs.Traversal

open ConfigRefs.Text ConfigRefs.Token ConfigRefs.Interpolation

/-- Nothing is set aside in a body in which no comprehension can begin. -/
theorem setAsideFrom_eq_nil : ∀ {tokens : List Token} (position : Nat) {previous : Option Token},
    previous.any opensComprehension = false → (∀ token ∈ tokens, opensComprehension token = false) →
      setAsideFrom position previous tokens = []
  | [], _, _, _, _ => rfl
  | token :: rest, position, previous, hprevious, h => by
    rw [setAsideFrom, hprevious, Bool.false_and, if_neg Bool.false_ne_true, List.nil_append]
    exact setAsideFrom_eq_nil (position + 1) (h token List.mem_cons_self)
      fun other hother => h other (List.mem_cons_of_mem token hother)

theorem marked_eq_map {tokens : List Token} (h : ∀ token ∈ tokens, opensComprehension token = false) :
    marked tokens = tokens.map fun token => (token, false) := by
  rw [marked, setAsideFrom_eq_nil 0 rfl h]
  simp only [List.any_nil]
  calc tokens.zipIdx.map (fun mark => (mark.1, false))
      = (tokens.zipIdx.map Prod.fst).map fun token => (token, false) := by
        rw [List.map_map]; rfl
    _ = tokens.map fun token => (token, false) := by rw [List.zipIdx_map_fst]

/-- The segments of steps that begin at a byte offset, each behind a dot. -/
def stepSegments (offset : Nat) : List String → List Segment
  | [] => []
  | name :: names => ⟨name, offset + 1, offset + 1 + byteLength name.toList, false⟩
      :: stepSegments (offset + 1 + byteLength name.toList) names

theorem splitSteps_steps : ∀ (names : List String) (offset : Nat),
    splitSteps ((stepTokens offset names).map fun token => (token, false))
      = (stepSegments offset names, [])
  | [], _ => rfl
  | name :: names, offset => by
    simp only [stepTokens, List.map_cons, splitSteps, isStep]
    rw [splitSteps_steps names, stepSegments]
    simp [segmentOf, Token.stop]

theorem map_text_stepSegments : ∀ (names : List String) (offset : Nat),
    (stepSegments offset names).map Segment.text = names
  | [], _ => rfl
  | name :: names, offset => by rw [stepSegments, List.map_cons, map_text_stepSegments names]

theorem numeric_stepSegments : ∀ {names : List String} {offset : Nat},
    ∀ segment ∈ stepSegments offset names, segment.numeric = false
  | name :: names, offset, segment, h => by
    rw [stepSegments, List.mem_cons] at h
    rcases h with rfl | h
    · rfl
    · exact numeric_stepSegments segment h

/-- The last segment ends where the text of the path does. -/
theorem getLast?_path : ∀ (names : List String) (head : Segment),
    ((head :: stepSegments head.stop names).getLast?).map Segment.stop
      = some (head.stop + byteLength (names.flatMap fun n => '.' :: n.toList))
  | [], head => rfl
  | name :: names, head => by
    rw [stepSegments, List.getLast?_cons_cons]
    have ih := getLast?_path names
      ⟨name, head.stop + 1, head.stop + 1 + byteLength name.toList, false⟩
    have hdot : Char.utf8Size '.' = 1 := rfl
    simp only [List.flatMap_cons, byteLength_append, byteLength_cons, hdot] at ih ⊢
    rw [ih]
    congr 1
    omega

theorem not_opensComprehension_steps : ∀ {names : List String} {offset : Nat},
    ∀ token ∈ stepTokens offset names, opensComprehension token = false
  | name :: names, offset, token, h => by
    rw [stepTokens, List.mem_cons, List.mem_cons] at h
    rcases h with rfl | rfl | h
    · rfl
    · rfl
    · exact not_opensComprehension_steps token h

/-- The text that interpolates a dotted path and holds nothing else. -/
def interpolated (path : List String) : String := "$\x7b" ++ joinDots path ++ "\x7d"

theorem toList_interpolated (path : List String) :
    (interpolated path).toList = '$' :: '\x7b' :: ((joinDots path).toList ++ ['\x7d']) := by
  simp [interpolated]

theorem byteLength_interpolated (path : List String) :
    byteLength (interpolated path).toList = 2 + byteLength (joinDots path).toList + 1 := by
  have hopen : Char.utf8Size '\x7b' = 1 := rfl
  have hclose : Char.utf8Size '\x7d' = 1 := rfl
  have hdollar : Char.utf8Size '$' = 1 := rfl
  simp only [toList_interpolated, byteLength_cons, byteLength_append, byteLength_nil, hopen, hclose,
    hdollar]
  omega

/-- A path of names has no braces and no quotes. -/
theorem isPlain_of_mem_joinDots {name : String} {names : List String} (hname : IsName name)
    (h : ∀ n ∈ names, IsName n) : ∀ c ∈ (joinDots (name :: names)).toList, IsPlain c := by
  rw [toList_joinDots_cons]
  intro c hc
  rcases List.mem_append.1 hc with hc | hc
  · exact isPlain_of_continuesWord (hname.continuesWord c hc)
  · obtain ⟨n, hn, hc⟩ := List.mem_flatMap.1 hc
    rcases List.mem_cons.1 hc with rfl | hc
    · exact ⟨by decide, by decide, by decide⟩
    · exact isPlain_of_continuesWord ((h n hn).continuesWord c hc)

/-- The body of a text that is one interpolation without braces and quotes in it. -/
theorem bodies_of_plain {text : List Char} (h : ∀ c ∈ text, IsPlain c) :
    bodies ('$' :: '\x7b' :: (text ++ ['\x7d'])) = [⟨2, text, true⟩] := by
  rw [bodies, bodiesFrom_closed 0 (body?_plain h []), bodiesFrom]

/-- The traversal of a path whose first name begins at a byte offset. -/
def pathTraversal (offset : Nat) (name : String) (names : List String) : Traversal :=
  { head := ⟨name, offset, offset + byteLength name.toList, false⟩
    steps := stepSegments (offset + byteLength name.toList) names
    followedBy := none }

theorem chains_path (name : String) (names : List String) (offset : Nat) :
    chains (⟨.ident, offset, name.toList⟩ :: stepTokens (offset + byteLength name.toList) names)
      = [pathTraversal offset name names] := by
  have hmarked : ∀ token ∈ (⟨.ident, offset, name.toList⟩ : Token)
      :: stepTokens (offset + byteLength name.toList) names, opensComprehension token = false := by
    intro token htoken
    rcases List.mem_cons.1 htoken with rfl | htoken
    · rfl
    · exact not_opensComprehension_steps token htoken
  rw [chains, marked_eq_map hmarked, List.map_cons, chainsFrom, splitSteps_steps]
  simp only [beq_self_eq_true, Bool.not_false, Bool.and_self, if_true, List.head?_nil,
    Option.map_none]
  rw [chainsFrom]
  simp [pathTraversal, segmentOf, Token.stop]

/-- **The traversal of an interpolated path.** -/
theorem traversals_path {name : String} {names : List String} (hname : IsName name)
    (h : ∀ n ∈ names, IsName n) :
    traversals (interpolated (name :: names)) = [pathTraversal 2 name names] := by
  have hbodies := bodies_of_plain (isPlain_of_mem_joinDots hname h)
  simp only [traversals, toList_interpolated, hbodies, List.flatMap_cons, List.flatMap_nil,
    List.append_nil, tokensFrom_joinDots hname h, chains_path]

section Path

variable (offset : Nat) (name : String) (names : List String)

theorem texts_pathTraversal : (pathTraversal offset name names).texts = name :: names := by
  unfold texts segments pathTraversal
  rw [List.map_cons, map_text_stepSegments]

theorem numeric_pathTraversal :
    ∀ segment ∈ (pathTraversal offset name names).segments, segment.numeric = false := by
  intro segment hsegment
  rcases List.mem_cons.1 hsegment with rfl | hsegment
  · rfl
  · exact numeric_stepSegments segment hsegment

/-- The last segment ends where the text of the path does. -/
theorem getLast?_pathTraversal :
    (pathTraversal offset name names).segments.getLast?.map Segment.stop
      = some (offset + byteLength (joinDots (name :: names)).toList) := by
  have hlast := getLast?_path names (pathTraversal offset name names).head
  rw [toList_joinDots_cons, byteLength_append, ← Nat.add_assoc]
  exact hlast

end Path

end ConfigRefs.Traversal
