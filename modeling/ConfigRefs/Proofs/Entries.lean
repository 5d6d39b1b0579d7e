import ConfigRefs.Entries
import Mathlib.Data.List.Induction
import Mathlib.Data.List.Nodup
import Mathlib.Data.List.Perm.Basic

/-!
# Entries: what many settings leave

Setting pairs in turn leaves the last value of every key (`lookup_ofList`). If no key is set twice then
the pairs are left as they are (`ofList_of_nodup`), and what is read does not depend on their order
(`ofList_perm`).
-/

namespace ConfigRefs.Entries

variable {α : Type}

theorem ofList_concat (pairs : List (String × α)) (pair : String × α) :
    ofList (pairs ++ [pair]) = set pair.1 pair.2 (ofList pairs) := by
  rw [ofList, List.foldl_append]
  rfl

/-- **The last value of a key is the one that is read.** -/
theorem lookup_ofList (pairs : List (String × α)) (key : String) :
    (ofList pairs).lookup key = pairs.reverse.lookup key := by
  induction pairs using List.reverseRecOn with
  | nil => rfl
  | append_singleton pairs pair ih =>
    rw [ofList_concat, lookup_set, List.reverse_append, List.reverse_singleton, List.singleton_append,
      List.lookup_cons, ih]
    cases key == pair.1 <;> rfl

/-! ### Keys that are set once -/

theorem set_of_not_mem {key : String} {value : α} : ∀ {entries : Entries α},
    key ∉ entries.map Prod.fst → set key value entries = entries ++ [(key, value)]
  | [], _ => rfl
  | entry :: rest, h => by
    rw [List.map_cons, List.mem_cons, not_or] at h
    rw [set, if_neg (by simpa using h.1), set_of_not_mem h.2, List.cons_append]

theorem ofList_of_nodup {pairs : List (String × α)} (h : (pairs.map Prod.fst).Nodup) :
    ofList pairs = pairs := by
  induction pairs using List.reverseRecOn with
  | nil => rfl
  | append_singleton pairs pair ih =>
    rw [List.map_append, List.map_singleton] at h
    have hnew : pair.1 ∉ pairs.map Prod.fst := fun hmem =>
      List.disjoint_of_nodup_append h hmem (List.mem_singleton_self _)
    have hsame : ofList pairs = pairs := ih (List.Nodup.of_append_left h)
    rw [ofList_concat, hsame, set_of_not_mem hnew]

theorem lookup_eq_some_iff_mem {entries : Entries α} (h : (entries.map Prod.fst).Nodup)
    {key : String} {value : α} : entries.lookup key = some value ↔ (key, value) ∈ entries := by
  rw [List.lookup_eq_some_iff]
  constructor
  · rintro ⟨before, after, rfl, -⟩
    exact List.mem_append_right _ List.mem_cons_self
  · intro hmem
    obtain ⟨before, after, rfl⟩ := List.append_of_mem hmem
    refine ⟨before, after, rfl, fun entry hentry => ?_⟩
    rw [List.map_append, List.map_cons] at h
    have hne : key ≠ entry.1 := fun heq =>
      List.disjoint_of_nodup_append h (List.mem_map.2 ⟨entry, hentry, rfl⟩) (heq ▸ List.mem_cons_self)
    exact bne_iff_ne.2 hne

/-- **What is read does not depend on the order**, if no key is there twice. -/
theorem lookup_perm {a b : Entries α} (hperm : a.Perm b) (h : (a.map Prod.fst).Nodup) (key : String) :
    a.lookup key = b.lookup key := by
  have hb : (b.map Prod.fst).Nodup := (hperm.map Prod.fst).nodup_iff.1 h
  refine Option.ext fun value => ?_
  rw [lookup_eq_some_iff_mem h, lookup_eq_some_iff_mem hb, hperm.mem_iff]

theorem ofList_perm {a b : List (String × α)} (hperm : a.Perm b) (h : (a.map Prod.fst).Nodup) :
    (ofList a).Perm (ofList b) ∧ ∀ key, (ofList a).lookup key = (ofList b).lookup key := by
  have hb : (b.map Prod.fst).Nodup := (hperm.map Prod.fst).nodup_iff.1 h
  rw [ofList_of_nodup h, ofList_of_nodup hb]
  exact ⟨hperm, lookup_perm hperm h⟩

end ConfigRefs.Entries
