import ConfigRefs.Proofs.Configuration.Latest
import ConfigRefs.Proofs.Configuration.Naming
import ConfigRefs.Proofs.Declaration.Lookup

/-!
# Configuration: the order in which documents are loaded

Documents that are inserted in another order declare the same things in another order. A lookup finds
the same identifiers (`lookup?_index_perm`), so each declaration has the same references and dynamic
blocks as before, and if no identifier is declared twice these are what is kept for the identifier
(`results_ofInserts_perm`).
-/

namespace ConfigRefs.Documents

open ConfigRefs.Declaration ConfigRefs.Configuration

section Reordered

variable {a b : Documents}

theorem lookup?_index_perm (hperm : a.declarations.Perm b.declarations) :
    a.index.lookup? = b.index.lookup? := by
  refine ConsistentIndex.lookup?_congr (.ofList _) (.ofList _) fun id => ?_
  rw [Index.mem_ofList, Index.mem_ofList]
  exact (hperm.map _).mem_iff

theorem map_fst_referenceEntries {index : Index} {declarations : List Declared}
    {entries : Entries (List Reference)} (h : List.Forall₂
      (fun declared entry => referenceEntry index declared = .ok entry) declarations entries) :
    entries.map Prod.fst = declarations.map (·.id) := by
  induction h with
  | nil => rfl
  | cons hentry _ ih => rw [List.map_cons, List.map_cons, ih, (referenceEntry_eq_ok_iff.1 hentry).1]

/-- If references are found in one order then they are found in every order, the same for every
identifier. -/
theorem references_perm (hperm : a.declarations.Perm b.declarations) (hnodup : a.ids.Nodup)
    {results : Entries (List Reference)} (h : a.references = .ok results) :
    ∃ others, b.references = .ok others ∧ results.Perm others ∧
      ∀ id, results.lookup id = others.lookup id := by
  obtain ⟨entries, rfl, hentries⟩ := references_eq_ok_iff.1 h
  have hsame : referenceEntry b.index = referenceEntry a.index := by
    funext declared
    rw [referenceEntry, referenceEntry, Value.usedReferences_congr (lookup?_index_perm hperm)]
  obtain ⟨reordered, hreordered, hentriesPerm⟩ := List.perm_comp_forall₂ hperm.symm hentries
  refine ⟨Entries.ofList reordered, references_eq_ok_iff.2 ⟨reordered, rfl, by rwa [hsame]⟩, ?_⟩
  refine Entries.ofList_perm hentriesPerm.symm ?_
  rwa [map_fst_referenceEntries hentries]

theorem dynamicBlocks_perm (hperm : a.declarations.Perm b.declarations) (hnodup : a.ids.Nodup) :
    a.dynamicBlocks.Perm b.dynamicBlocks ∧
      ∀ id, a.dynamicBlocks.lookup id = b.dynamicBlocks.lookup id := by
  have hkeys : ((blockEntries a.declarations).map Prod.fst).Nodup := by
    refine (List.filter_sublist.map Prod.fst).nodup ?_
    rwa [List.map_map]
  exact Entries.ofList_perm ((hperm.map blockEntry).filter _) hkeys

end Reordered

/-- **The order in which documents are loaded does not matter**, if no identifier is declared twice.
References are found in both orders or in neither, and the references and the dynamic blocks are the
same for every identifier. -/
theorem results_ofInserts_perm {inserts reordered : List (Value × Option String)}
    (hperm : inserts.Perm reordered) (hnodup : (ofInserts inserts).ids.Nodup) :
    ((∃ error error', (ofInserts inserts).references = .error error ∧
        (ofInserts reordered).references = .error error') ∨
      ∃ results others, (ofInserts inserts).references = .ok results ∧
        (ofInserts reordered).references = .ok others ∧ results.Perm others ∧
          ∀ id, results.lookup id = others.lookup id) ∧
    (ofInserts inserts).dynamicBlocks.Perm (ofInserts reordered).dynamicBlocks ∧
      ∀ id, (ofInserts inserts).dynamicBlocks.lookup id
        = (ofInserts reordered).dynamicBlocks.lookup id := by
  have hdeclared : (ofInserts inserts).declarations.Perm (ofInserts reordered).declarations := by
    rw [declarations_ofInserts, declarations_ofInserts]
    exact hperm.flatMap_right declaredBy
  refine ⟨?_, dynamicBlocks_perm hdeclared hnodup⟩
  cases hresults : (ofInserts inserts).references with
  | ok results =>
    obtain ⟨others, hothers, hsame⟩ := references_perm hdeclared hnodup hresults
    exact Or.inr ⟨results, others, rfl, hothers, hsame⟩
  | error error =>
    cases hothers : (ofInserts reordered).references with
    | error error' => exact Or.inl ⟨error, error', rfl, rfl⟩
    | ok others =>
      -- the other way round the first order would have results, too
      have hnodup' : (ofInserts reordered).ids.Nodup := (hdeclared.map _).nodup_iff.1 hnodup
      obtain ⟨results, hfound, -⟩ := references_perm hdeclared.symm hnodup' hothers
      rw [hresults] at hfound
      cases hfound

/-- A local value is loaded before the variable that it refers to, and behind it. -/
theorem results_ofInserts_perm_swap :
    let locals : Value × Option String :=
      (.object [("locals", .object [("name", .string "$\x7bvar.x\x7d")])], some "a.tf")
    let inputs : Value × Option String :=
      (.array [.object [("variable", .object [("x", .null)])]], some "b.tf")
    [locals, inputs].Perm [inputs, locals] ∧ (ofInserts [locals, inputs]).ids.Nodup ∧
      ∃ results, (ofInserts [inputs, locals]).references = .ok results ∧
        results.lookup "local.name" = some [⟨2, 7, "var.x", "var.x", true⟩] ∧
        results.lookup "var.x" = some [] := by
  intro locals inputs
  have hindex : (ofInserts [locals, inputs]).index = Index.ofList ["local.name", "var.x"] := rfl
  have hname : (Value.string "$\x7bvar.x\x7d").usedReferences (ofInserts [locals, inputs]).index
      = .ok [⟨2, 7, "var.x", "var.x", true⟩] := by
    rw [Value.usedReferences_string, hindex]
    decide +kernel
  let results : Entries (List Reference) :=
    [("local.name", [⟨2, 7, "var.x", "var.x", true⟩]), ("var.x", [])]
  have hreferences : (ofInserts [locals, inputs]).references = .ok results :=
    references_eq_ok_iff.2 ⟨results, by decide +kernel,
      .cons (referenceEntry_eq_ok_iff.2 ⟨rfl, hname⟩)
        (.cons (referenceEntry_eq_ok_iff.2 ⟨rfl, Value.usedReferences_null _⟩) .nil)⟩
  have hperm : [locals, inputs].Perm [inputs, locals] := List.Perm.swap _ _ _
  have hnodup : (ofInserts [locals, inputs]).ids.Nodup := by decide +kernel
  refine ⟨hperm, hnodup, ?_⟩
  obtain ⟨⟨error, -, herror, -⟩ | ⟨found, others, hfound, hothers, -, hsame⟩, -⟩ :=
    results_ofInserts_perm hperm hnodup
  · rw [hreferences] at herror
    cases herror
  · obtain rfl := Except.ok.inj (hreferences.symm.trans hfound)
    exact ⟨others, hothers, (hsame "local.name").symm, (hsame "var.x").symm⟩

end ConfigRefs.Documents
