import ConfigRefs.Proofs.Declaration.Matching
import ConfigRefs.Proofs.Reference.Identifier

/-!
# Reference: resolution and the matching rule

Among canonical identifiers it is the matching rule that decides what a traversal makes
(`Traversal.resolve_eq_error_iff_isUnknown`, `Traversal.resolve_eq_some_iff_isLongestMatch`). So the
references of a text cannot be found iff some traversal that can refer to a declaration is matched by
no identifier and by no loop variable. Otherwise there is one for each that an identifier matches, which
has the longest such identifier and stands where the traversal stands (`references_matching`).
-/

namespace ConfigRefs

open ConfigRefs.Text ConfigRefs.Declaration

namespace Traversal

/-- A traversal has two segments or more, it is not spread, and it does not begin with one of the names
that every repeated block defines. -/
def CanRefer (traversal : Traversal) : Prop :=
  2 ≤ traversal.texts.length ∧ traversal.followedBy ≠ some .ellipsis ∧
    traversal.texts.head? ≠ some "count" ∧ traversal.texts.head? ≠ some "each"

instance : DecidablePred CanRefer := fun traversal =>
  inferInstanceAs (Decidable (2 ≤ traversal.texts.length ∧ _ ∧ _ ∧ _))

/-- An identifier matches a traversal that can refer to one. -/
def IsDeclared (known : List String) (traversal : Traversal) : Prop :=
  traversal.CanRefer ∧ ∃ id ∈ known, matchesSegments id traversal.texts = true

instance (known : List String) : DecidablePred (IsDeclared known) := fun traversal =>
  inferInstanceAs (Decidable (traversal.CanRefer ∧ _))

/-- No identifier and no loop variable matches a traversal that can refer to one. -/
def IsUnknown (known : List String) (scope : Scope) (traversal : Traversal) : Prop :=
  traversal.CanRefer ∧ (∀ id ∈ known, matchesSegments id traversal.texts = false) ∧
    ∀ name ∈ scope.names, matchesSegments name traversal.texts = false

instance (known : List String) (scope : Scope) : DecidablePred (IsUnknown known scope) :=
  fun traversal => inferInstanceAs (Decidable (traversal.CanRefer ∧ _ ∧ _))

theorem isLive_iff_canRefer (traversal : Traversal) :
    traversal.isLive = true ↔ traversal.CanRefer := by
  have hlength : traversal.steps.isEmpty = false ↔ 2 ≤ traversal.texts.length := by
    rw [texts, segments, List.length_map, List.length_cons, List.isEmpty_eq_false_iff,
      ← List.length_pos_iff]
    omega
  have hhead : traversal.texts.head? = some traversal.head.text := rfl
  simp only [isLive, CanRefer, hhead, ← hlength, Bool.and_eq_true, Bool.not_eq_true', bne_iff_ne,
    ne_eq, Option.some.injEq, and_assoc]

/-! ### One traversal -/

section Step

variable {known : List String} {input : String} {scope : Scope} {traversal : Traversal}

theorem isCanonical_of_mem_ofList (hcanonical : ∀ id ∈ known, IsCanonical id) :
    ∀ id ∈ (Index.ofList known).identifiers, IsCanonical id := fun id hid =>
  hcanonical id ((Index.mem_ofList known id).1 hid)

theorem lookup?_eq_some_iff_isLongestMatch (hcanonical : ∀ id ∈ known, IsCanonical id)
    {path : List String} {id : String} :
    (Index.ofList known).lookup? path = some id ↔ IsLongestMatch known path id := by
  rw [(ConsistentIndex.ofList known).lookup?_eq_some_iff_isLongestMatch
    (isCanonical_of_mem_ofList hcanonical)]
  simp only [IsLongestMatch, Index.mem_ofList]

theorem lookup?_eq_none_iff_matching (hcanonical : ∀ id ∈ known, IsCanonical id)
    {path : List String} :
    (Index.ofList known).lookup? path = none ↔ ∀ id ∈ known, matchesSegments id path = false := by
  rw [(ConsistentIndex.ofList known).lookup?_eq_none_iff_matching
    (isCanonical_of_mem_ofList hcanonical)]
  simp only [Index.mem_ofList]

/-- **A traversal is an error iff nothing matches it.** -/
theorem resolve_eq_error_iff_isUnknown (hcanonical : ∀ id ∈ known, IsCanonical id)
    {error : ResolveError} :
    traversal.resolve input (Index.ofList known) scope = .error error ↔
      traversal.IsUnknown known scope ∧
        error = .unresolvable (joinDots traversal.texts) input scope.names := by
  rw [resolve_eq_error_iff, isLive_iff_canRefer, lookup?_eq_none_iff_matching hcanonical,
    Scope.lookup?_eq_none_iff_matching, IsUnknown, and_assoc, and_assoc]
  rfl

/-- **A traversal is a reference iff an identifier matches it**, and then to the longest match. -/
theorem resolve_eq_some_iff_isLongestMatch (hcanonical : ∀ id ∈ known, IsCanonical id)
    {reference : Reference} :
    traversal.resolve input (Index.ofList known) scope = .ok (some reference) ↔
      traversal.CanRefer ∧
        ∃ id, IsLongestMatch known traversal.texts id ∧ reference = traversal.toReference id := by
  simp only [resolve_eq_some_iff, isLive_iff_canRefer, lookup?_eq_some_iff_isLongestMatch hcanonical]

theorem exists_resolve_eq_ok_iff (hcanonical : ∀ id ∈ known, IsCanonical id) :
    (∃ made, traversal.resolve input (Index.ofList known) scope = .ok made) ↔
      ¬ traversal.IsUnknown known scope := by
  have herror (error : ResolveError) :
      traversal.resolve input (Index.ofList known) scope = .error error ↔ _ :=
    resolve_eq_error_iff_isUnknown hcanonical
  cases hresolve : traversal.resolve input (Index.ofList known) scope with
  | error error =>
    exact iff_of_false nofun (not_not_intro ((herror error).1 hresolve).1)
  | ok made =>
    refine iff_of_true ⟨made, rfl⟩ fun hunknown => ?_
    cases hresolve.symm.trans ((herror _).2 ⟨hunknown, rfl⟩)

/-- What a traversal makes is there iff an identifier matches it. -/
theorem isSome_iff_isDeclared (hcanonical : ∀ id ∈ known, IsCanonical id) {made : Option Reference}
    (h : traversal.resolve input (Index.ofList known) scope = .ok made) :
    made.isSome = true ↔ traversal.IsDeclared known := by
  cases made with
  | none =>
    refine iff_of_false nofun fun ⟨hrefers, id, hid, hmatches⟩ => ?_
    have hnone := (resolve_eq_none_iff.1 h ((isLive_iff_canRefer traversal).2 hrefers)).1
    rw [(lookup?_eq_none_iff_matching hcanonical).1 hnone id hid] at hmatches
    cases hmatches
  | some reference =>
    obtain ⟨hrefers, id, ⟨hid, hmatches, -⟩, -⟩ :=
      (resolve_eq_some_iff_isLongestMatch hcanonical).1 h
    exact iff_of_true rfl ⟨hrefers, id, hid, hmatches⟩

end Step

end Traversal

/-! ### The references of a text -/

section References

variable {known : List String} {input : String} {scope : Scope} {found : List Reference}

/-- References cannot be found because of the first traversal that is unknown. -/
theorem references_eq_error_iff (hcanonical : ∀ id ∈ known, IsCanonical id) {error : ResolveError} :
    references input (Index.ofList known) scope = .error error ↔
      ∃ before first behind, Traversal.traversals input = before ++ first :: behind ∧
        (∀ traversal ∈ before, ¬ traversal.IsUnknown known scope) ∧
        first.IsUnknown known scope ∧
        error = .unresolvable (joinDots first.texts) input scope.names := by
  rw [references, map_eq_error_iff, mapM_eq_error_iff]
  simp only [Traversal.exists_resolve_eq_ok_iff hcanonical,
    Traversal.resolve_eq_error_iff_isUnknown hcanonical]

/-- References cannot be found iff a traversal is unknown. -/
theorem exists_references_eq_error_iff (hcanonical : ∀ id ∈ known, IsCanonical id) :
    (∃ error, references input (Index.ofList known) scope = .error error) ↔
      ∃ traversal ∈ Traversal.traversals input, traversal.IsUnknown known scope := by
  constructor
  · rintro ⟨error, h⟩
    obtain ⟨before, first, behind, hsplit, -, hunknown, -⟩ :=
      (references_eq_error_iff hcanonical).1 h
    refine ⟨first, ?_, hunknown⟩
    rw [hsplit]
    exact List.mem_append_right before List.mem_cons_self
  · rintro ⟨traversal, hmem, hunknown⟩
    cases hfound : references input (Index.ofList known) scope with
    | error error => exact ⟨error, rfl⟩
    | ok found =>
      obtain ⟨resolved, hresolved, -⟩ := references_eq_ok_iff_forall₂.1 hfound
      obtain ⟨made, -, hmade⟩ := exists_ok_of_mem hresolved hmem
      exact absurd hunknown ((Traversal.exists_resolve_eq_ok_iff hcanonical).1 ⟨made, hmade⟩)

/-- A reference is written as a traversal: it begins where that begins and ends where one of its
segments ends, and its path is a beginning of it. But for the identifier, the traversal determines it. -/
structure Reference.IsWrittenAs (reference : Reference) (traversal : Traversal) : Prop where
  start_eq : reference.start = traversal.span.start
  stop_mem : reference.stop ∈ traversal.segments.map Segment.stop
  isPrefix_full : segments reference.full <+: traversal.texts
  eq_toReference : reference = traversal.toReference reference.id

theorem Traversal.isWrittenAs_toReference {traversal : Traversal}
    (hmem : traversal ∈ Traversal.traversals input) (id : String) :
    (traversal.toReference id).IsWrittenAs traversal := by
  obtain ⟨last, hlast, hstart, hstop⟩ :=
    Traversal.exists_of_toReference (Traversal.head_numeric_of_mem_traversals hmem) id
  refine ⟨hstart, List.mem_map.2 ⟨last, hlast, hstop.symm⟩, ?_, rfl⟩
  rw [Traversal.segments_toReference hmem]
  exact (Traversal.canonical_isPrefix traversal).map Segment.text

/-- References that are found are those of the traversals that are declared, one for each. -/
theorem forall₂_of_references (hcanonical : ∀ id ∈ known, IsCanonical id)
    (h : references input (Index.ofList known) scope = .ok found) :
    List.Forall₂ (fun traversal reference => IsLongestMatch known traversal.texts reference.id ∧
        reference.IsWrittenAs traversal)
      ((Traversal.traversals input).filter (·.IsDeclared known)) found := by
  obtain ⟨resolved, hresolved, rfl⟩ := references_eq_ok_iff_forall₂.1 h
  have hdeclared (traversal : Traversal) (made : Option Reference)
      (hmade : traversal.resolve input (Index.ofList known) scope = .ok made) :
      made.isSome = true ↔ decide (traversal.IsDeclared known) = true := by
    rw [Traversal.isSome_iff_isDeclared hcanonical hmade, decide_eq_true_iff]
  have hwritten : ∀ traversal ∈ (Traversal.traversals input).filter (·.IsDeclared known),
      traversal ∈ Traversal.traversals input := fun _ hmem => List.mem_of_mem_filter hmem
  refine ((List.forall₂_and_left _ _).2
    ⟨hwritten, forall₂_filterMap_id hresolved hdeclared⟩).imp fun traversal reference hmade => ?_
  obtain ⟨-, id, hlongest, rfl⟩ := (Traversal.resolve_eq_some_iff_isLongestMatch hcanonical).1 hmade.2
  exact ⟨hlongest, Traversal.isWrittenAs_toReference hmade.1 id⟩

/-- The traversals of a text are in the order in which they are written. -/
theorem Traversal.pairwise_span (input : String) :
    (Traversal.traversals input).Pairwise fun a b => a.span.stop ≤ b.span.start := by
  have hpairwise := (List.pairwise_flatMap.1 (Traversal.pairwise_traversals input)).2
  refine hpairwise.imp fun {a b} hle => hle _ ?_ _ List.mem_cons_self
  exact List.getLastD_mem_cons

/-- **Resolution fails exactly when the matching rule does.** The references of a text cannot be found
iff some traversal is unknown, and the error is of the first one in the text. Otherwise there is one
reference for each traversal that an identifier matches, in their order. It is written as the traversal,
and its identifier is the longest match. -/
theorem references_matching (hcanonical : ∀ id ∈ known, IsCanonical id) (input : String)
    (scope : Scope) :
    let index := Index.ofList known
    let written := Traversal.traversals input
    written.Pairwise (fun a b => a.span.stop ≤ b.span.start) ∧
      ((∃ error, references input index scope = .error error) ↔
        ∃ traversal ∈ written, traversal.IsUnknown known scope) ∧
      (∀ error, references input index scope = .error error →
        ∃ before first behind, written = before ++ first :: behind ∧
          (∀ traversal ∈ before, ¬ traversal.IsUnknown known scope) ∧
          first.IsUnknown known scope ∧
          error = .unresolvable (joinDots first.texts) input scope.names) ∧
      ((¬ ∃ traversal ∈ written, traversal.IsUnknown known scope) →
        ∃ found, references input index scope = .ok found ∧
          List.Forall₂ (fun traversal reference =>
              IsLongestMatch known traversal.texts reference.id ∧ reference.IsWrittenAs traversal)
            (written.filter (·.IsDeclared known)) found) := by
  intro index written
  refine ⟨Traversal.pairwise_span input, exists_references_eq_error_iff hcanonical,
    fun error h => (references_eq_error_iff hcanonical).1 h, fun hnone => ?_⟩
  cases hfound : references input index scope with
  | error error =>
    exact absurd ((exists_references_eq_error_iff hcanonical).1 ⟨error, hfound⟩) hnone
  | ok found => exact ⟨found, rfl, forall₂_of_references hcanonical hfound⟩

end References

/-- Two identifiers match one traversal of a text, a loop variable another one and an identifier of one
segment the last. In a second text a path of data is too short, and what follows it is unknown too. -/
theorem references_matching_mixed :
    let known := ["rule", "data.aws_ami.ubuntu", "rule.port"]
    let scope : Scope := ⟨["eth"]⟩
    let text := "$\x7brule.port.to + count.i + eth.v\x7d-$\x7brule.x\x7d"
    let unknown := "$\x7beth.v + data.aws_ami + net.a\x7d"
    (∀ id ∈ known, IsCanonical id) ∧
      references text (Index.ofList known) scope = .ok
        [⟨2, 14, "rule.port", "rule.port.to", false⟩, ⟨36, 42, "rule", "rule.x", true⟩] ∧
      references unknown (Index.ofList known) scope
        = .error (.unresolvable "data.aws_ami" unknown ["eth"]) := by
  intro known scope text unknown
  have hcanonical : ∀ id ∈ known, IsCanonical id := by decide +kernel
  have htext : Traversal.traversals text = [⟨⟨"rule", 2, 6, false⟩,
      [⟨"port", 7, 11, false⟩, ⟨"to", 12, 14, false⟩], some .operator⟩,
      ⟨⟨"count", 17, 22, false⟩, [⟨"i", 23, 24, false⟩], some .operator⟩,
      ⟨⟨"eth", 27, 30, false⟩, [⟨"v", 31, 32, false⟩], none⟩,
      ⟨⟨"rule", 36, 40, false⟩, [⟨"x", 41, 42, false⟩], none⟩] := by
    unfold text
    decide +kernel
  have hunknown : Traversal.traversals unknown = [⟨⟨"eth", 2, 5, false⟩, [⟨"v", 6, 7, false⟩],
      some .operator⟩, ⟨⟨"data", 10, 14, false⟩, [⟨"aws_ami", 15, 22, false⟩], some .operator⟩,
      ⟨⟨"net", 25, 28, false⟩, [⟨"a", 29, 30, false⟩], none⟩] := by
    unfold unknown
    decide +kernel
  refine ⟨hcanonical, ?_, ?_⟩
  · obtain ⟨-, -, -, hfinds⟩ := references_matching hcanonical text scope
    have hdeclared : (Traversal.traversals text).filter (·.IsDeclared known)
        = [⟨⟨"rule", 2, 6, false⟩, [⟨"port", 7, 11, false⟩, ⟨"to", 12, 14, false⟩], some .operator⟩,
          ⟨⟨"rule", 36, 40, false⟩, [⟨"x", 41, 42, false⟩], none⟩] := by
      rw [htext]
      decide +kernel
    have hport : IsLongestMatch known ["rule", "port", "to"] "rule.port" := by decide +kernel
    have hrule : IsLongestMatch known ["rule", "x"] "rule" := by decide +kernel
    obtain ⟨found, hfound, hmatches⟩ := hfinds (by rw [htext]; decide +kernel)
    rw [hdeclared] at hmatches
    obtain _ | ⟨⟨hfirst, hwritten⟩, _ | ⟨⟨hsecond, hwritten'⟩, _ | _⟩⟩ := hmatches
    rw [hfound, hwritten.eq_toReference, hwritten'.eq_toReference, hfirst.unique hport,
      hsecond.unique hrule]
    rfl
  · obtain ⟨-, hfails, herrors, -⟩ := references_matching hcanonical unknown scope
    rw [hunknown] at hfails herrors
    obtain ⟨error, herror⟩ := hfails.2 (by decide +kernel)
    obtain ⟨before, first, behind, hsplit, hbefore, hfirst, rfl⟩ := herrors error herror
    -- only the second traversal can be the first one that is unknown
    rcases before with _ | ⟨_, _ | ⟨_, before⟩⟩
    · obtain ⟨rfl, -⟩ := List.cons.inj hsplit
      exact absurd hfirst (by decide +kernel)
    · obtain ⟨-, hsplit⟩ := List.cons.inj hsplit
      obtain ⟨rfl, -⟩ := List.cons.inj hsplit
      exact herror
    · obtain ⟨-, hsplit⟩ := List.cons.inj hsplit
      obtain ⟨rfl, -⟩ := List.cons.inj hsplit
      exact absurd (by decide +kernel) (hbefore _ (List.mem_cons_of_mem _ List.mem_cons_self))

end ConfigRefs
