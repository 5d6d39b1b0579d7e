import ConfigRefs.Proofs.Declaration.Lookup
import ConfigRefs.Proofs.Reference.Place
import ConfigRefs.Proofs.Traversal.Name
import Mathlib.Data.List.Infix

/-!
# Reference: identifier and path

The path of a reference and its identifier are both beginnings of one traversal: the path its canonical
segments (`segments_toReference`), the identifier as many as were matched (`segments_isPrefix_texts`). The
path is the whole traversal, or its segments before the first number and at most two of these. So it goes
on where the identifier ends, unless a number cuts it short before that (`identifier_isPrefix_path`).
-/

namespace ConfigRefs

open ConfigRefs.Text ConfigRefs.Token ConfigRefs.Declaration

/-! ### Identifiers along a traversal -/

namespace Declaration.ConsistentIndex

variable {id : String} {path : List String}

/-- **What is found for a traversal** is a beginning of it. -/
theorem segments_isPrefix_texts (index : ConsistentIndex) (hlookup : index.lookup? path = some id) :
    segments id <+: path := by
  cases path with
  | nil => cases hlookup
  | cons first path =>
    obtain ⟨-, taken, unmatched, hsegments, happ, -⟩ := index.lookup?_eq_some_iff.1 hlookup
    have htaken : taken <+: path.take ((Kind.ofSegment first).size - 1) := ⟨unmatched, happ⟩
    rw [hsegments, List.cons_prefix_cons]
    exact ⟨rfl, htaken.trans (List.take_prefix _ _)⟩

/-- **A shorter traversal finds the same**, as long as it has all segments of what was found. -/
theorem lookup?_of_isPrefix (index : ConsistentIndex) (hlookup : index.lookup? path = some id)
    {front : List String} (hid : segments id <+: front) (hfront : front <+: path) :
    index.lookup? front = some id := by
  cases path with
  | nil => cases hlookup
  | cons first path =>
    obtain ⟨hmem, taken, unmatched, hsegments, happ, hwhole, hlonger⟩ :=
      index.lookup?_eq_some_iff.1 hlookup
    rw [hsegments] at hid
    obtain ⟨more, rfl⟩ := hid
    rw [List.cons_append] at hfront ⊢
    rw [List.cons_prefix_cons] at hfront
    -- the shorter traversal leaves a beginning of what was left unmatched
    have htaken : taken.length ≤ (Kind.ofSegment first).size - 1 := by
      have := congrArg List.length happ
      rw [List.length_append, List.length_take] at this
      omega
    have hmore : more.take ((Kind.ofSegment first).size - 1 - taken.length) <+: unmatched := by
      have htake := hfront.2.take ((Kind.ofSegment first).size - 1)
      rw [← happ, List.take_append, List.take_of_length_le htaken] at htake
      exact (List.prefix_append_right_inj taken).1 htake
    refine index.lookup?_eq_some_iff.2 ⟨hmem, taken, _, hsegments, ?_, fun hdata => ?_,
      fun longer hne hlong => hlonger longer hne (hlong.trans hmore)⟩
    · rw [List.take_append, List.take_of_length_le htaken]
    · rw [hwhole hdata] at hmore
      exact List.prefix_nil.1 hmore

end Declaration.ConsistentIndex

/-! ### The path of a traversal -/

namespace Traversal

/-- A number cuts the path of a traversal off before the end of an identifier. -/
def CutsShort (traversal : Traversal) (id : String) : Prop :=
  ∃ position ∈ traversal.segments.findIdx? Segment.numeric,
    min position 2 < (Text.segments id).length

instance (traversal : Traversal) (id : String) : Decidable (traversal.CutsShort id) :=
  inferInstanceAs (Decidable (∃ position ∈ _, _))

variable {input : String} {traversal : Traversal}

/-- Canonical segments stand before any number. -/
theorem numeric_of_mem_canonical {segment : Segment} (h : segment ∈ traversal.canonical) :
    segment.numeric = false := by
  unfold canonical at h
  split at h
  · next position hposition =>
    obtain ⟨i, hi, rfl⟩ := List.getElem_of_mem h
    rw [List.length_take] at hi
    rw [List.getElem_take]
    obtain ⟨hlt, -, hbefore⟩ := List.findIdx?_eq_some_iff_getElem.1 hposition
    exact Bool.eq_false_iff.2 (hbefore i (by omega))
  · next hnone => exact List.findIdx?_eq_none_iff.1 hnone segment h

/-- **The canonical segments** are those before the first number and at most two, or all if there is no
number. -/
theorem map_text_canonical (traversal : Traversal) :
    (∀ position ∈ traversal.segments.findIdx? Segment.numeric,
        traversal.canonical.map Segment.text = traversal.texts.take (min position 2)) ∧
      (traversal.segments.findIdx? Segment.numeric = none →
        traversal.canonical.map Segment.text = traversal.texts) := by
  unfold canonical texts
  cases traversal.segments.findIdx? Segment.numeric with
  | none => exact ⟨nofun, fun _ => rfl⟩
  | some first =>
    refine ⟨fun position hposition => ?_, nofun⟩
    obtain rfl := Option.some.inj hposition
    exact List.map_take

theorem canonical_isPrefix (traversal : Traversal) :
    traversal.canonical <+: traversal.segments := by
  unfold canonical
  split
  · exact List.take_prefix _ _
  · exact List.prefix_refl _

/-- **The canonical segments are names.** -/
theorem isName_of_mem_canonical (hmem : traversal ∈ traversals input) {segment : Segment}
    (h : segment ∈ traversal.canonical) : IsName segment.text :=
  isName_of_mem_segments hmem ((canonical_isPrefix traversal).subset h) (numeric_of_mem_canonical h)

/-- **The path of a reference** has the canonical segments of its traversal. -/
theorem segments_toReference (hmem : traversal ∈ traversals input) (id : String) :
    Text.segments (traversal.toReference id).full = traversal.canonical.map Segment.text := by
  obtain ⟨steps, hcanonical, -⟩ := exists_canonical (head_numeric_of_mem_traversals hmem)
  refine segments_joinDots (by rw [hcanonical]; exact List.cons_ne_nil _ _) fun text htext => ?_
  obtain ⟨segment, hsegment, rfl⟩ := List.mem_map.1 htext
  exact (isName_of_mem_canonical hmem hsegment).dotFree

/-- **An identifier is a beginning of the path** iff no number cuts the path short. -/
theorem isPrefix_canonical_iff {id : String} (h : Text.segments id <+: traversal.texts) :
    Text.segments id <+: traversal.canonical.map Segment.text ↔ ¬ traversal.CutsShort id := by
  unfold canonical CutsShort
  split
  · next position hposition =>
    have htexts : traversal.segments.map Segment.text = traversal.texts := rfl
    rw [List.map_take, List.prefix_take_iff, htexts, and_iff_right h]
    simp [hposition]
  · next hnone => exact iff_of_true h (by simp [hnone])

end Traversal

/-- **The path of a reference goes on where its identifier ends**, unless a number in the traversal cuts
it short. The path is the segments of the traversal if none of them is a number; else it is those before
the first number, and at most two of them. Two references to the same path, neither of which is cut
short, are to the same declaration. -/
theorem identifier_isPrefix_path {known : List String} {input other : String} {scope inner : Scope}
    {found others : List Reference}
    (h : references input (Index.ofList known) scope = .ok found)
    (hothers : references other (Index.ofList known) inner = .ok others) :
    (∀ reference ∈ found, ∃ traversal ∈ Traversal.traversals input,
        reference = traversal.toReference reference.id ∧
        segments reference.id <+: traversal.texts ∧
        segments reference.full <+: traversal.texts ∧
        (∀ position ∈ traversal.segments.findIdx? Segment.numeric,
          segments reference.full = traversal.texts.take (min position 2)) ∧
        (traversal.segments.findIdx? Segment.numeric = none →
          segments reference.full = traversal.texts) ∧
        (segments reference.id <+: segments reference.full ↔
          ¬ traversal.CutsShort reference.id)) ∧
      ∀ a ∈ found, ∀ b ∈ others, a.full = b.full → segments a.id <+: segments a.full →
        segments b.id <+: segments b.full → a.id = b.id := by
  constructor
  · intro reference hmem
    obtain ⟨traversal, htraversal, -, id, hlookup, rfl⟩ := exists_of_mem_references h hmem
    have hid : segments id <+: traversal.texts :=
      (ConsistentIndex.ofList known).segments_isPrefix_texts hlookup
    obtain ⟨hcut, hall⟩ := Traversal.map_text_canonical traversal
    refine ⟨traversal, htraversal, rfl, hid, ?_⟩
    rw [Traversal.segments_toReference htraversal]
    exact ⟨(Traversal.canonical_isPrefix traversal).map Segment.text, hcut, hall,
      Traversal.isPrefix_canonical_iff hid⟩
  · -- what is found for a path that has all of the identifier is found for the traversal
    have hfind {text : String} {scope : Scope} {found : List Reference}
        (h : references text (Index.ofList known) scope = .ok found) {reference : Reference}
        (hmem : reference ∈ found) (hid : segments reference.id <+: segments reference.full) :
        (Index.ofList known).lookup? (segments reference.full) = some reference.id := by
      obtain ⟨traversal, htraversal, -, id, hlookup, rfl⟩ := exists_of_mem_references h hmem
      refine (ConsistentIndex.ofList known).lookup?_of_isPrefix hlookup hid ?_
      rw [Traversal.segments_toReference htraversal]
      exact (Traversal.canonical_isPrefix traversal).map Segment.text
    intro a ha b hb hfull hida hidb
    have hlookup := hfind h ha hida
    rw [hfull, hfind hothers hb hidb] at hlookup
    exact (Option.some.inj hlookup).symm

/-- A data source, one path that is written twice, once before a number, and an identifier with a number
in it. -/
theorem identifier_isPrefix_path_repeated :
    let known := ["data.ami.linux", "net.a", "net", "net.0"]
    let input := "$\x7bdata.ami.linux.id + net.a.0.id\x7d-$\x7bnet.a + net.0.id\x7d"
    let found : List Reference := [⟨2, 19, "data.ami.linux", "data.ami.linux.id", false⟩,
      ⟨22, 27, "net.a", "net.a", true⟩, ⟨36, 41, "net.a", "net.a", true⟩,
      ⟨44, 47, "net.0", "net", true⟩]
    references input (Index.ofList known) ⟨[]⟩ = .ok found ∧
      (∀ reference ∈ found, ∃ traversal ∈ Traversal.traversals input,
        (∀ position ∈ traversal.segments.findIdx? Segment.numeric,
          segments reference.full = traversal.texts.take (min position 2)) ∧
        (traversal.segments.findIdx? Segment.numeric = none →
          segments reference.full = traversal.texts) ∧
        (segments reference.id <+: segments reference.full ↔
          ¬ traversal.CutsShort reference.id)) ∧
      ∀ a ∈ found, ∀ b ∈ found, a.full = b.full → segments a.id <+: segments a.full →
        segments b.id <+: segments b.full → a.id = b.id := by
  intro known input found
  have hfound : references input (Index.ofList known) ⟨[]⟩ = .ok found := by
    unfold input known found
    decide +kernel
  obtain ⟨hbegins, hsame⟩ := identifier_isPrefix_path hfound hfound
  refine ⟨hfound, fun reference hmem => ?_, hsame⟩
  obtain ⟨traversal, htraversal, -, -, -, hcut, hall, hiff⟩ := hbegins reference hmem
  exact ⟨traversal, htraversal, hcut, hall, hiff⟩

/-- A number behind the name of a data source cuts the name off, so two data sources of one type have
the same path. -/
theorem path_shorter_than_identifier :
    references "$\x7b[data.ami.linux.0.id, data.ami.debian.0.id]\x7d"
        (Index.ofList ["data.ami.linux", "data.ami.debian"]) ⟨[]⟩
      = .ok [⟨3, 11, "data.ami.linux", "data.ami", true⟩,
          ⟨24, 32, "data.ami.debian", "data.ami", true⟩] ∧
      ¬ segments "data.ami.linux" <+: segments "data.ami" ∧
      ¬ segments "data.ami.debian" <+: segments "data.ami" :=
  ⟨by decide +kernel, by decide, by decide⟩

end ConfigRefs
