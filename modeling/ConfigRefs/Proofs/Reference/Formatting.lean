import ConfigRefs.Proofs.Reference.Place
import ConfigRefs.Proofs.Traversal.Insertion

/-!
# Reference: formatting

White space between the tokens of an interpolation changes no reference and no error
(`references_insert`): what stands behind it lies further on, and all else stays as it is.
-/

namespace ConfigRefs

open ConfigRefs.Text ConfigRefs.Declaration

/-- A reference in a text with more bytes at a place. -/
def Reference.makeRoom (place distance : Nat) (reference : Reference) : Reference :=
  { reference with
    start := if place ≤ reference.start then reference.start + distance else reference.start
    stop := if place < reference.stop then reference.stop + distance else reference.stop }

/-- The same error in another input. -/
def ResolveError.withInput (input : String) : ResolveError → ResolveError
  | .unresolvable reference _ inScope => .unresolvable reference input inScope

/-! ### Results that are changed -/

section Changed

variable {ε ε' α α' β β' : Type}

/-- A result with what is made, or the error, changed. -/
def changed (made : β → β') (failed : ε → ε') : Except ε β → Except ε' β'
  | .ok y => .ok (made y)
  | .error e => .error (failed e)

/-- **A run over changed members**, each of which gives a changed result, gives the changed result. -/
theorem mapM_changed {f : α → Except ε β} {g : α' → Except ε' β'} {change : α → α'} {made : β → β'}
    {failed : ε → ε'} : ∀ {xs : List α}, (∀ x ∈ xs, g (change x) = changed made failed (f x)) →
      (xs.map change).mapM g = changed (List.map made) failed (xs.mapM f)
  | [], _ => rfl
  | x :: xs, h => by
    rw [List.map_cons, List.mapM_cons, List.mapM_cons, h x List.mem_cons_self,
      mapM_changed fun y hy => h y (List.mem_cons_of_mem x hy)]
    cases f x with
    | error e => rfl
    | ok y => cases xs.mapM f <;> rfl

end Changed

namespace Traversal

variable {traversal : Traversal} {place distance : Nat}

/-! ### One traversal -/

theorem segments_makeRoom (place distance : Nat) (traversal : Traversal) :
    (traversal.makeRoom place distance).segments
      = traversal.segments.map (Segment.makeRoom place distance) := rfl

theorem numeric_makeRoom (place distance : Nat) (segment : Segment) :
    (segment.makeRoom place distance).numeric = segment.numeric := by
  rw [Segment.makeRoom]
  split <;> rfl

theorem text_makeRoom (place distance : Nat) (segment : Segment) :
    (segment.makeRoom place distance).text = segment.text := by
  rw [Segment.makeRoom]
  split <;> rfl

theorem texts_makeRoom (place distance : Nat) (traversal : Traversal) :
    (traversal.makeRoom place distance).texts = traversal.texts := by
  rw [texts, segments_makeRoom, List.map_map]
  exact List.map_congr_left fun segment _ => text_makeRoom place distance segment

theorem start_makeRoom (place distance : Nat) (segment : Segment) :
    (segment.makeRoom place distance).start
      = if place ≤ segment.start then segment.start + distance else segment.start := by
  rw [Segment.makeRoom]
  split <;> rfl

/-- A segment that does not reach across the place ends further on iff it ends behind it. -/
theorem stop_makeRoom {segment : Segment} (hlt : segment.start < segment.stop)
    (houtside : segment.stop ≤ place ∨ place ≤ segment.start) :
    (segment.makeRoom place distance).stop
      = if place < segment.stop then segment.stop + distance else segment.stop := by
  rw [Segment.makeRoom]
  split
  · next hle => exact (if_pos (Nat.lt_of_le_of_lt hle hlt)).symm
  · next hnot => exact (if_neg (Nat.not_lt.2 (houtside.resolve_right hnot))).symm

theorem isLive_makeRoom (place distance : Nat) (traversal : Traversal) :
    (traversal.makeRoom place distance).isLive = traversal.isLive := by
  simp [isLive, makeRoom, mapSegments, text_makeRoom]

theorem canonical_makeRoom (place distance : Nat) (traversal : Traversal) :
    (traversal.makeRoom place distance).canonical
      = traversal.canonical.map (Segment.makeRoom place distance) := by
  have hnumeric : Segment.numeric ∘ Segment.makeRoom place distance = Segment.numeric :=
    funext (numeric_makeRoom place distance)
  rw [canonical, canonical, segments_makeRoom, List.findIdx?_map, hnumeric]
  cases traversal.segments.findIdx? Segment.numeric with
  | none => rfl
  | some position => exact List.map_take.symm

/-- **The reference of a traversal in a text with more bytes** between its segments. -/
theorem toReference_makeRoom (hnumeric : traversal.head.numeric = false)
    (hsegments : ∀ segment ∈ traversal.segments, segment.start < segment.stop ∧
      (segment.stop ≤ place ∨ place ≤ segment.start)) (id : String) :
    (traversal.makeRoom place distance).toReference id
      = (traversal.toReference id).makeRoom place distance := by
  obtain ⟨steps, hcanonical, hsteps⟩ := exists_canonical hnumeric
  obtain ⟨last, hlast⟩ : ∃ last, (traversal.head :: steps).getLast? = some last :=
    ⟨_, List.getLast?_eq_some_getLast (List.cons_ne_nil _ _)⟩
  have hfront : traversal.head :: steps <+: traversal.segments :=
    List.cons_prefix_cons.2 ⟨rfl, hsteps⟩
  obtain ⟨hlt, houtside⟩ := hsegments last (hfront.subset (List.mem_of_getLast? hlast))
  have htexts : ((traversal.head :: steps).map (Segment.makeRoom place distance)).map Segment.text
      = (traversal.head :: steps).map Segment.text := by
    rw [List.map_map]
    exact List.map_congr_left fun segment _ => text_makeRoom place distance segment
  have hstep : (traversal.makeRoom place distance).hasNumericStep = traversal.hasNumericStep := by
    rw [hasNumericStep, hasNumericStep, segments_makeRoom, List.any_map]
    exact congrArg _ (funext (numeric_makeRoom place distance))
  rw [toReference, toReference, canonical_makeRoom, hcanonical, htexts, hstep, List.getLast?_map,
    hlast, List.length_map, Reference.makeRoom]
  simp only [List.map_cons, List.head?_cons, Option.map_some, Option.getD_some, start_makeRoom,
    stop_makeRoom hlt houtside]
  rfl

/-- What a traversal makes in a text with more bytes between its segments. -/
theorem resolve_makeRoom {input output : String} {index : Index} {scope : Scope}
    (hnumeric : traversal.head.numeric = false)
    (hsegments : ∀ segment ∈ traversal.segments, segment.start < segment.stop ∧
      (segment.stop ≤ place ∨ place ≤ segment.start)) :
    (traversal.makeRoom place distance).resolve output index scope
      = changed (Option.map (Reference.makeRoom place distance)) (ResolveError.withInput output)
          (traversal.resolve input index scope) := by
  rw [resolve, resolve, isLive_makeRoom, texts_makeRoom, render, render, texts_makeRoom]
  cases traversal.isLive with
  | false => rfl
  | true =>
    cases index.lookup? traversal.texts with
    | some id =>
      simp only [toReference_makeRoom hnumeric hsegments]
      rfl
    | none => cases (scope.lookup? traversal.texts).isSome <;> rfl

end Traversal

/-! ### All references -/

/-- **Formatting does not change references.** White space between the tokens of an interpolation, in
front of them, or behind them in front of the closing brace leaves the references as they are. Starts at
or behind the white space and ends behind it are increased by its byte length. An error is the same but
for the input. -/
theorem references_insert {input : String} {span : Span} {before after blank : List Char}
    (hmarker : ['$', '\x7b'] <+: input.toList) (hinput : input.toList = before ++ after)
    (hblank : ∀ c ∈ blank, isBlank c = true)
    (hplace : Traversal.IsBetween input span (byteLength before)) (index : Index) (scope : Scope) :
    let output := String.ofList (before ++ (blank ++ after))
    references output index scope = match references input index scope with
      | .ok found =>
        .ok (found.map (Reference.makeRoom (byteLength before) (byteLength blank)))
      | .error error => .error (error.withInput output) := by
  intro output
  have hresolve (traversal : Traversal) (hmem : traversal ∈ Traversal.traversals input) :
      (traversal.makeRoom (byteLength before) (byteLength blank)).resolve output index scope
        = changed (Option.map (Reference.makeRoom (byteLength before) (byteLength blank)))
            (ResolveError.withInput output) (traversal.resolve input index scope) :=
    Traversal.resolve_makeRoom (Traversal.head_numeric_of_mem_traversals hmem)
      fun segment hsegment => ⟨(Traversal.isPlaced_of_mem_traversals hmem hsegment).start_lt_stop,
        Traversal.outside_of_mem_traversals hplace hmem segment hsegment⟩
  rw [references, references, Traversal.traversals_insert hmarker hinput hblank hplace,
    mapM_changed hresolve]
  cases (Traversal.traversals input).mapM fun traversal => traversal.resolve input index scope with
  | error error => rfl
  | ok resolved =>
    exact congrArg Except.ok (List.filterMap_map.trans List.map_filterMap.symm)

/-- White space of four bytes in front of a dot, in the collection of a comprehension. -/
theorem references_insert_comprehension :
    let input := "$\x7b[for k in b.y.0 : k] + a.x.c\x7d"
    let before := "$\x7b[for k in b".toList
    let blank := ['\u3000', '\n']
    let after := ".y.0 : k] + a.x.c\x7d".toList
    ['$', '\x7b'] <+: input.toList ∧ input.toList = before ++ after ∧
      (∀ c ∈ blank, isBlank c = true) ∧ Traversal.IsBetween input ⟨2, 30⟩ (byteLength before) ∧
      references (String.ofList (before ++ (blank ++ after))) (Index.ofList ["a.x", "b.y"]) ⟨[]⟩
        = .ok [⟨12, 15 + 4, "b.y", "b.y", true⟩, ⟨25 + 4, 30 + 4, "a.x", "a.x.c", false⟩] := by
  intro input before blank after
  have htraversals : Traversal.traversals input
      = [⟨⟨"b", 12, 13, false⟩, [⟨"y", 14, 15, false⟩, ⟨"0", 16, 17, true⟩], some .colon⟩,
        ⟨⟨"a", 25, 26, false⟩, [⟨"x", 27, 28, false⟩, ⟨"c", 29, 30, false⟩], none⟩] := by
    unfold input
    decide +kernel
  have hspan : (⟨2, 30⟩ : Span) ∈ Interpolation.interpolations input := by
    have hspans : Interpolation.interpolations input = [⟨2, 30⟩] := by
      unfold input
      decide +kernel
    rw [hspans]
    exact List.mem_singleton_self _
  have htokens : (Token.tokenize input ⟨2, 30⟩).all (fun token =>
      token.stop ≤ byteLength before || byteLength before ≤ token.start) = true := by
    unfold input before
    decide +kernel
  have hmarker : ['$', '\x7b'] <+: input.toList := by decide
  have hinput : input.toList = before ++ after := by decide
  have hblank : ∀ c ∈ blank, isBlank c = true := by
    simp only [blank, List.forall_mem_cons]
    exact ⟨by decide, by decide, List.forall_mem_nil _⟩
  have hplace : Traversal.IsBetween input ⟨2, 30⟩ (byteLength before) := by
    refine ⟨hspan, by decide, by decide, fun token htoken => ?_, Or.inl ?_⟩
    · simpa using List.all_eq_true.1 htokens token htoken
    · exact ⟨input.toList.take 30, input.toList.drop 31, by decide, by decide⟩
  refine ⟨hmarker, hinput, hblank, hplace, ?_⟩
  rw [references_insert hmarker hinput hblank hplace, references, htraversals]
  rfl

end ConfigRefs
