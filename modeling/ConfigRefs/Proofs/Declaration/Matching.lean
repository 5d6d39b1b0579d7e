import ConfigRefs.Proofs.Declaration.Lookup
import ConfigRefs.Proofs.Declaration.Scope
import Mathlib.Data.Finset.Max

/-!
# Declaration: lookups and the matching rule

The descent in the prefix tree and the rule for an identifier and a traversal are written
independently of each other. A canonical identifier matches the traversals that begin with its
segments (`matchesSegments_iff_isPrefix`), and in an index of canonical identifiers a lookup finds the
longest one of those that match (`lookup?_matching`).
-/

namespace ConfigRefs.Declaration

open ConfigRefs.Text

/-! ### Canonical identifiers -/

/-- An identifier of data has three segments; any other one has two, or only the first of these. -/
def IsCanonical (identifier : String) : Prop :=
  if (segments identifier).head? = some "data" then (segments identifier).length = 3
  else (segments identifier).length = 1 ∨ (segments identifier).length = 2

instance : DecidablePred IsCanonical := fun identifier =>
  inferInstanceAs (Decidable (if (segments identifier).head? = some "data" then _ else _ ∨ _))

section Canonical

variable {identifier first : String} {parts path : List String}

theorem segments_ne_nil (name : String) : segments name ≠ [] := fun h =>
  splitDots_ne_nil name.toList (List.map_eq_nil_iff.1 h)

theorem size_ofSegment (first : String) :
    (Kind.ofSegment first).size = if first = "data" then 3 else 2 := by
  by_cases hdata : first = "data"
  · rw [if_pos hdata, (ofSegment_eq_dataKind_iff first).2 hdata]
    rfl
  · rw [if_neg hdata]
    cases hkind : Kind.ofSegment first with
    | dataKind => exact absurd ((ofSegment_eq_dataKind_iff first).1 hkind) hdata
    | _ => rfl

theorem isCanonical_iff (hsegments : segments identifier = first :: parts) :
    IsCanonical identifier ↔ if first = "data" then parts.length = 2 else parts.length ≤ 1 := by
  simp only [IsCanonical, hsegments, List.head?_cons, Option.some.injEq, List.length_cons]
  split_ifs
  · omega
  · omega

/-- A canonical identifier has no more segments than its kind. -/
theorem IsCanonical.length_le (h : IsCanonical identifier)
    (hsegments : segments identifier = first :: parts) :
    parts.length ≤ (Kind.ofSegment first).size - 1 := by
  rw [isCanonical_iff hsegments] at h
  rw [size_ofSegment]
  split_ifs at h ⊢
  · exact Nat.le_of_eq h
  · exact h

/-- A canonical identifier of data has all segments of its kind. -/
theorem IsCanonical.length_eq (h : IsCanonical identifier)
    (hsegments : segments identifier = first :: parts) (hkind : Kind.ofSegment first = .dataKind) :
    parts.length = (Kind.ofSegment first).size - 1 := by
  rw [isCanonical_iff hsegments, if_pos ((ofSegment_eq_dataKind_iff first).1 hkind)] at h
  rw [hkind, h]
  rfl

/-- A traversal begins with a canonical identifier within the segments that a lookup goes down. -/
theorem IsCanonical.isPrefix_iff (h : IsCanonical identifier) :
    segments identifier <+: first :: path ↔ ∃ taken, segments identifier = first :: taken ∧
      taken <+: path.take ((Kind.ofSegment first).size - 1) := by
  constructor
  · intro hstarts
    obtain ⟨head, taken, hsegments⟩ := List.exists_cons_of_ne_nil (segments_ne_nil identifier)
    rw [hsegments] at hstarts
    obtain ⟨rfl, hbegins⟩ := List.cons_prefix_cons.1 hstarts
    exact ⟨taken, hsegments, List.prefix_take_iff.2 ⟨hbegins, h.length_le hsegments⟩⟩
  · rintro ⟨taken, hsegments, hbegins⟩
    rw [hsegments]
    exact List.cons_prefix_cons.2 ⟨rfl, (List.prefix_take_iff.1 hbegins).1⟩

/-- **A canonical identifier matches what begins with its segments.** -/
theorem matchesSegments_iff_isPrefix (h : IsCanonical identifier) :
    matchesSegments identifier path = true ↔ segments identifier <+: path := by
  obtain ⟨first, parts, hsegments⟩ := List.exists_cons_of_ne_nil (segments_ne_nil identifier)
  have hkind : Kind.of identifier = .dataKind ↔ first = "data" := by
    rw [Kind.of, hsegments, List.headD_cons, ofSegment_eq_dataKind_iff]
  rw [isCanonical_iff hsegments] at h
  simp only [matchesSegments, hsegments, Bool.and_eq_true, Bool.or_eq_true, bne_iff_ne, ne_eq, hkind,
    beq_iff_eq]
  by_cases hdata : first = "data"
  · rw [if_pos hdata] at h
    obtain ⟨second, third, rfl⟩ := List.length_eq_two.1 h
    rcases path with _ | ⟨p, _ | ⟨q, _ | ⟨r, path⟩⟩⟩ <;>
      simp [hdata, List.cons_prefix_cons, and_assoc]
  · rw [if_neg hdata] at h
    rcases parts with _ | ⟨second, _ | ⟨third, parts⟩⟩
    · cases path <;> simp [hdata, List.cons_prefix_cons]
    · rcases path with _ | ⟨p, _ | ⟨q, path⟩⟩ <;> simp [hdata, List.cons_prefix_cons]
    · simp only [List.length_cons] at h
      omega

end Canonical

/-- Two identifiers with equally many segments that a path begins with are the same. -/
theorem eq_of_isPrefix {a b : String} {path : List String} (ha : segments a <+: path)
    (hb : segments b <+: path) (hlength : (segments a).length = (segments b).length) : a = b :=
  segments_injective
    ((List.prefix_of_prefix_length_le ha hb (Nat.le_of_eq hlength)).eq_of_length hlength)

/-- An identifier matches a traversal, and it has more segments than every other one that does. -/
def IsLongestMatch (known path : List String) (identifier : String) : Prop :=
  identifier ∈ known ∧ matchesSegments identifier path = true ∧
    ∀ other ∈ known, matchesSegments other path = true → other ≠ identifier →
      (segments other).length < (segments identifier).length

instance (known path : List String) : DecidablePred (IsLongestMatch known path) := fun identifier =>
  inferInstanceAs (Decidable (identifier ∈ known ∧ _ ∧ _))

/-- There is at most one longest match. -/
theorem IsLongestMatch.unique {known path : List String} {a b : String}
    (ha : IsLongestMatch known path a) (hb : IsLongestMatch known path b) : a = b := by
  by_contra hne
  have hlt := ha.2.2 b hb.1 hb.2.1 (Ne.symm hne)
  have hgt := hb.2.2 a ha.1 ha.2.1 hne
  omega

namespace ConsistentIndex

variable {identifier : String} {path : List String}

/-- **A lookup among canonical identifiers** finds the longest one that the traversal begins with. -/
theorem lookup?_eq_some_iff_longest (index : ConsistentIndex)
    (hcanonical : ∀ known ∈ index.identifiers, IsCanonical known) :
    index.lookup? path = some identifier ↔
      identifier ∈ index.identifiers ∧ segments identifier <+: path ∧
        ∀ other ∈ index.identifiers, segments other <+: path → other ≠ identifier →
          (segments other).length < (segments identifier).length := by
  cases path with
  | nil =>
    refine iff_of_false nofun fun ⟨_, hstarts, _⟩ => ?_
    exact segments_ne_nil identifier (List.prefix_nil.1 hstarts)
  | cons first path =>
    rw [lookup?_eq_some_iff]
    constructor
    · rintro ⟨hmem, taken, unmatched, hsegments, happ, -, hlonger⟩
      refine ⟨hmem, (hcanonical _ hmem).isPrefix_iff.2 ⟨taken, hsegments, unmatched, happ⟩, ?_⟩
      intro other hother hstarts hne
      obtain ⟨longer, hsegments', hbegins⟩ := (hcanonical _ hother).isPrefix_iff.1 hstarts
      by_contra hge
      -- another one that is as long goes on behind the one that was found
      have hlength : taken.length ≤ longer.length := by
        rw [hsegments, hsegments', List.length_cons, List.length_cons] at hge
        omega
      obtain ⟨more, rfl⟩ := List.prefix_of_prefix_length_le ⟨unmatched, happ⟩ hbegins hlength
      have hmore : more ≠ [] := by
        rintro rfl
        rw [List.append_nil, ← hsegments] at hsegments'
        exact hne (segments_injective hsegments')
      rw [← happ, List.prefix_append_right_inj] at hbegins
      exact hlonger more hmore hbegins other hother hsegments'
    · rintro ⟨hmem, hstarts, hlongest⟩
      obtain ⟨taken, hsegments, unmatched, happ⟩ := (hcanonical _ hmem).isPrefix_iff.1 hstarts
      refine ⟨hmem, taken, unmatched, hsegments, happ, fun hkind => ?_, ?_⟩
      · have hwhole := (hcanonical _ hmem).length_eq hsegments hkind
        have hlength := List.length_take_le ((Kind.ofSegment first).size - 1) path
        rw [← happ, List.length_append] at hlength
        exact List.length_eq_zero_iff.1 (by omega)
      · intro more hmore hbegins known hknown hsegments'
        rw [← List.prefix_append_right_inj taken, happ] at hbegins
        have hlt := hlongest known hknown
          ((hcanonical _ hknown).isPrefix_iff.2 ⟨_, hsegments', hbegins⟩) (by
            rintro rfl
            exact hmore (by simpa using hsegments.symm.trans hsegments'))
        rw [hsegments, hsegments', List.length_cons, List.length_cons, List.length_append] at hlt
        omega

/-- If the traversal begins with a known canonical identifier, a lookup finds one. -/
theorem exists_lookup?_eq_some (index : ConsistentIndex)
    (hcanonical : ∀ known ∈ index.identifiers, IsCanonical known)
    (hmem : identifier ∈ index.identifiers) (hstarts : segments identifier <+: path) :
    ∃ found, index.lookup? path = some found := by
  obtain ⟨found, hfound, hmax⟩ := Finset.exists_max_image
    (index.identifiers.filter (segments · <+: path)).toFinset (fun known => (segments known).length)
    ⟨identifier, by simp [hmem, hstarts]⟩
  simp only [List.mem_toFinset, List.mem_filter, decide_eq_true_eq] at hfound hmax
  refine ⟨found, (index.lookup?_eq_some_iff_longest hcanonical).2 ⟨hfound.1, hfound.2, ?_⟩⟩
  intro other hother hbegins hne
  refine Nat.lt_of_le_of_ne (hmax other ⟨hother, hbegins⟩) fun hlength => hne ?_
  exact eq_of_isPrefix hbegins hfound.2 hlength

/-- **A lookup among canonical identifiers** finds the longest match. -/
theorem lookup?_eq_some_iff_isLongestMatch (index : ConsistentIndex)
    (hcanonical : ∀ known ∈ index.identifiers, IsCanonical known) :
    index.lookup? path = some identifier ↔ IsLongestMatch index.identifiers path identifier := by
  rw [lookup?_eq_some_iff_longest index hcanonical]
  refine and_congr_right fun hmem => ?_
  rw [matchesSegments_iff_isPrefix (hcanonical identifier hmem)]
  refine and_congr_right fun _ => forall₂_congr fun other hother => ?_
  rw [matchesSegments_iff_isPrefix (hcanonical other hother)]

/-- **A lookup among canonical identifiers** finds nothing iff nothing matches. -/
theorem lookup?_eq_none_iff_matching (index : ConsistentIndex)
    (hcanonical : ∀ known ∈ index.identifiers, IsCanonical known) :
    index.lookup? path = none ↔
      ∀ known ∈ index.identifiers, matchesSegments known path = false := by
  constructor
  · intro hnone known hknown
    rw [← Bool.not_eq_true, matchesSegments_iff_isPrefix (hcanonical known hknown)]
    intro hstarts
    obtain ⟨found, hfound⟩ := index.exists_lookup?_eq_some hcanonical hknown hstarts
    rw [hnone] at hfound
    cases hfound
  · intro hnone
    refine Option.eq_none_iff_forall_ne_some.2 fun found hfound => ?_
    obtain ⟨hmem, hmatches, -⟩ := (index.lookup?_eq_some_iff_isLongestMatch hcanonical).1 hfound
    rw [hnone found hmem] at hmatches
    cases hmatches

end ConsistentIndex

namespace Index

/-- **The prefix tree implements the matching rule.** Among canonical identifiers a lookup finds one
iff one matches, and what it finds is the one that matches with more segments than all others. -/
theorem lookup?_matching {inserted : List String} (h : ∀ known ∈ inserted, IsCanonical known)
    (path : List String) :
    (((ofList inserted).lookup? path).isSome = true ↔
        ∃ known ∈ inserted, matchesSegments known path = true) ∧
      ∀ identifier, (ofList inserted).lookup? path = some identifier ↔
        identifier ∈ inserted ∧ matchesSegments identifier path = true ∧
          ∀ other ∈ inserted, matchesSegments other path = true → other ≠ identifier →
            (segments other).length < (segments identifier).length := by
  have hcanonical : ∀ known ∈ (ofList inserted).identifiers, IsCanonical known := fun known hknown =>
    h known ((mem_ofList inserted known).1 hknown)
  have hfinds (identifier : String) : (ofList inserted).lookup? path = some identifier ↔
      identifier ∈ inserted ∧ segments identifier <+: path ∧
        ∀ other ∈ inserted, segments other <+: path → other ≠ identifier →
          (segments other).length < (segments identifier).length := by
    simpa only [mem_ofList] using
      (ConsistentIndex.ofList inserted).lookup?_eq_some_iff_longest hcanonical
  have hrule : ∀ known ∈ inserted,
      (matchesSegments known path = true ↔ segments known <+: path) := fun known hknown =>
    matchesSegments_iff_isPrefix (h known hknown)
  constructor
  · rw [Option.isSome_iff_exists]
    constructor
    · rintro ⟨found, hfound⟩
      obtain ⟨hmem, hstarts, -⟩ := (hfinds found).1 hfound
      exact ⟨found, hmem, (hrule found hmem).2 hstarts⟩
    · rintro ⟨known, hknown, hmatches⟩
      exact (ConsistentIndex.ofList inserted).exists_lookup?_eq_some hcanonical
        ((mem_ofList inserted known).2 hknown) ((hrule known hknown).1 hmatches)
  · intro identifier
    rw [hfinds]
    refine and_congr_right fun hmem => and_congr (hrule identifier hmem).symm ?_
    exact forall₂_congr fun other hother => by rw [hrule other hother]

/-- A name of one segment gives way to one that goes on, and data needs its third segment. -/
theorem lookup?_matching_rule :
    let inserted := ["ingress", "data.aws_ami.ubuntu", "ingress.rule", "var.x", "ingress.value"]
    (∀ known ∈ inserted, IsCanonical known) ∧
      matchesSegments "ingress" ["ingress", "rule", "port"] = true ∧
      (ofList inserted).lookup? ["ingress", "rule", "port"] = some "ingress.rule" ∧
      ((ofList inserted).lookup? ["data", "aws_ami"]).isSome = false := by
  intro inserted
  have hcanonical : ∀ known ∈ inserted, IsCanonical known := by decide +kernel
  refine ⟨hcanonical, by decide +kernel, ?_, ?_⟩
  · exact ((lookup?_matching hcanonical ["ingress", "rule", "port"]).2 "ingress.rule").2
      (by decide +kernel)
  · rw [Bool.eq_false_iff, Ne, (lookup?_matching hcanonical ["data", "aws_ami"]).1]
    decide +kernel

end Index

end ConfigRefs.Declaration
