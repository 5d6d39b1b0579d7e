import ConfigRefs.Configuration.Documents
import ConfigRefs.Proofs.Entries
import ConfigRefs.Proofs.Results
import ConfigRefs.Proofs.Value.References

/-!
# Configuration: which declaration the results of an identifier are of

The references and the dynamic blocks of declarations are kept by identifier. Where an identifier is
declared more than once the last declaration replaces the results of the others, for dynamic blocks
the last one that has any (`results_of_latest`). Nothing is lost if no identifier is declared twice.
-/

namespace ConfigRefs.Documents

open ConfigRefs.Text ConfigRefs.Declaration ConfigRefs.Configuration

/-- The last declaration of an identifier. -/
def latest? (documents : Documents) (id : String) : Option Declared :=
  documents.declarations.reverse.find? (·.id == id)

/-- The last declaration of an identifier that has dynamic blocks. -/
def latestDynamic? (documents : Documents) (id : String) : Option Declared :=
  documents.declarations.reverse.find? fun declared =>
    declared.id == id && !declared.body.dynamicBlocks.isEmpty

/-! ### References -/

/-- The references in the body of a declaration, under its identifier. -/
def referenceEntry (index : Index) (declared : Declared) :
    Except ResolveError (String × List Reference) :=
  (declared.id, ·) <$> declared.body.usedReferences index

theorem referenceEntry_eq_ok_iff {index : Index} {declared : Declared}
    {entry : String × List Reference} :
    referenceEntry index declared = .ok entry
      ↔ entry.1 = declared.id ∧ declared.body.usedReferences index = .ok entry.2 := by
  rw [referenceEntry, map_eq_ok_iff]
  constructor
  · rintro ⟨found, hfound, rfl⟩
    exact ⟨rfl, hfound⟩
  · rintro ⟨hid, hfound⟩
    exact ⟨entry.2, hfound, by rw [← hid]⟩

/-- **References are found for all declarations or for none.** -/
theorem references_eq_ok_iff {documents : Documents} {results : Entries (List Reference)} :
    documents.references = .ok results ↔ ∃ entries, results = Entries.ofList entries ∧
      List.Forall₂ (fun declared entry => referenceEntry documents.index declared = .ok entry)
        documents.declarations entries := by
  have hmap : documents.references
      = Entries.ofList <$> documents.declarations.mapM (referenceEntry documents.index) := rfl
  rw [hmap, map_eq_ok_iff]
  constructor
  · rintro ⟨entries, hentries, rfl⟩
    exact ⟨entries, rfl, mapM_eq_ok_iff.1 hentries⟩
  · rintro ⟨entries, rfl, hentries⟩
    exact ⟨entries, mapM_eq_ok_iff.2 hentries, rfl⟩

/-- The entry that is read for an identifier is that of the first declaration of it. -/
theorem lookup_referenceEntries {index : Index} {declarations : List Declared}
    {entries : Entries (List Reference)} (h : List.Forall₂
      (fun declared entry => referenceEntry index declared = .ok entry) declarations entries)
    (id : String) : entries.lookup id = (declarations.find? (·.id == id)).bind fun declared =>
      (declared.body.usedReferences index).toOption := by
  induction h with
  | nil => rfl
  | @cons declared entry declarations entries hentry _ ih =>
    obtain ⟨hid, hfound⟩ := referenceEntry_eq_ok_iff.1 hentry
    obtain ⟨_, found⟩ := entry
    subst hid
    rw [List.lookup_cons, List.find?_cons, Bool.beq_comm, ih]
    cases declared.id == id with
    | true => rw [Option.bind_some, hfound]; rfl
    | false => rfl

theorem exists_usedReferences {documents : Documents} {results : Entries (List Reference)}
    (h : documents.references = .ok results) {declared : Declared}
    (hmem : declared ∈ documents.declarations) :
    ∃ found, declared.body.usedReferences documents.index = .ok found := by
  obtain ⟨entries, -, hentries⟩ := references_eq_ok_iff.1 h
  obtain ⟨entry, -, hentry⟩ := exists_ok_of_mem hentries hmem
  exact ⟨entry.2, (referenceEntry_eq_ok_iff.1 hentry).2⟩

theorem lookup_references {documents : Documents} {results : Entries (List Reference)}
    (h : documents.references = .ok results) (id : String) :
    results.lookup id = (documents.latest? id).bind fun latest =>
      (latest.body.usedReferences documents.index).toOption := by
  obtain ⟨entries, rfl, hentries⟩ := references_eq_ok_iff.1 h
  rw [Entries.lookup_ofList, lookup_referenceEntries (List.forall₂_reverse_iff.2 hentries), latest?]

/-! ### Dynamic blocks -/

/-- The dynamic blocks in the body of a declaration, under its identifier. -/
def blockEntry (declared : Declared) : String × List DynamicBlock :=
  (declared.id, declared.body.dynamicBlocks)

/-- The dynamic blocks of the declarations that have any. -/
def blockEntries (declarations : List Declared) : Entries (List DynamicBlock) :=
  (declarations.map blockEntry).filter fun entry => !entry.2.isEmpty

theorem dynamicBlocks_eq (documents : Documents) :
    documents.dynamicBlocks = Entries.ofList (blockEntries documents.declarations) := rfl

theorem lookup_blockEntries (declarations : List Declared) (id : String) :
    (blockEntries declarations).lookup id = (declarations.find? fun declared =>
      declared.id == id && !declared.body.dynamicBlocks.isEmpty).map (·.body.dynamicBlocks) := by
  unfold blockEntries
  induction declarations with
  | nil => rfl
  | cons declared declarations ih =>
    rw [List.map_cons, List.filter_cons, List.find?_cons, blockEntry]
    cases hempty : declared.body.dynamicBlocks.isEmpty with
    | true => simpa using ih
    | false =>
      simp only [Bool.not_false, if_true, Bool.and_true]
      rw [List.lookup_cons, Bool.beq_comm, ih]
      cases declared.id == id <;> rfl

theorem lookup_dynamicBlocks (documents : Documents) (id : String) :
    documents.dynamicBlocks.lookup id
      = (documents.latestDynamic? id).map (·.body.dynamicBlocks) := by
  have hreverse : (blockEntries documents.declarations).reverse
      = blockEntries documents.declarations.reverse := by
    rw [blockEntries, ← List.filter_reverse, ← List.map_reverse, blockEntries]
  rw [dynamicBlocks_eq, Entries.lookup_ofList, hreverse, lookup_blockEntries, latestDynamic?]

/-! ### Declarations that keep their results -/

/-- The only declaration of an identifier is found, if it is looked for. -/
theorem find?_of_nodup_ids {documents : Documents} (h : documents.ids.Nodup) {declared : Declared}
    (hmem : declared ∈ documents.declarations) {test : Declared → Bool} (htest : test declared = true)
    (hid : ∀ other, test other = true → other.id = declared.id) :
    documents.declarations.reverse.find? test = some declared := by
  cases hfind : documents.declarations.reverse.find? test with
  | none => exact absurd htest (List.find?_eq_none.1 hfind declared (List.mem_reverse.2 hmem))
  | some other =>
    have hother : other ∈ documents.declarations := List.mem_reverse.1 (List.mem_of_find?_eq_some hfind)
    have hsame : other.id = declared.id := hid other (List.find?_some hfind)
    exact congrArg some (List.inj_on_of_nodup_map h hother hmem hsame)

theorem latest?_of_nodup {documents : Documents} (h : documents.ids.Nodup) {declared : Declared}
    (hmem : declared ∈ documents.declarations) : documents.latest? declared.id = some declared :=
  find?_of_nodup_ids h hmem (beq_self_eq_true _) fun _ hother => beq_iff_eq.1 hother

theorem latestDynamic?_of_nodup {documents : Documents} (h : documents.ids.Nodup)
    {declared : Declared} (hmem : declared ∈ documents.declarations)
    (hblocks : declared.body.dynamicBlocks ≠ []) :
    documents.latestDynamic? declared.id = some declared := by
  refine find?_of_nodup_ids h hmem ?_ fun other hother => ?_
  · simpa using hblocks
  · exact beq_iff_eq.1 (Bool.and_eq_true_iff.1 hother).1

/-- **What the results of an identifier are.** Its references are those of its last declaration, and its
dynamic blocks are those of its last declaration that has any. So every declaration keeps its results
if no identifier is declared twice. -/
theorem results_of_latest (documents : Documents) :
    (∀ results, documents.references = .ok results →
      (∀ declared ∈ documents.declarations,
        ∃ found, declared.body.usedReferences documents.index = .ok found) ∧
      ∀ id, results.lookup id = (documents.latest? id).bind fun latest =>
        (latest.body.usedReferences documents.index).toOption) ∧
    (∀ id, documents.dynamicBlocks.lookup id
      = (documents.latestDynamic? id).map (·.body.dynamicBlocks)) ∧
    (documents.ids.Nodup → ∀ declared ∈ documents.declarations,
      (∀ results found, documents.references = .ok results →
        declared.body.usedReferences documents.index = .ok found →
          results.lookup declared.id = some found) ∧
      (declared.body.dynamicBlocks ≠ [] →
        documents.dynamicBlocks.lookup declared.id = some declared.body.dynamicBlocks)) := by
  refine ⟨fun results h => ⟨fun declared hmem => exists_usedReferences h hmem, lookup_references h⟩,
    lookup_dynamicBlocks documents, fun hnodup declared hmem => ⟨?_, ?_⟩⟩
  · intro results found hresults hfound
    rw [lookup_references hresults, latest?_of_nodup hnodup hmem, Option.bind_some, hfound]
    rfl
  · intro hblocks
    rw [lookup_dynamicBlocks, latestDynamic?_of_nodup hnodup hmem hblocks, Option.map_some]

/-- A resource with one dynamic block and a variable, each declared once. -/
theorem results_of_latest_once :
    let body : Value := .object [("dynamic", .object [("rule", .object
      [("for_each", .string "$\x7bvar.x\x7d")])])]
    let documents := ofValue (.object [("variable", .object [("x", .null)]),
      ("resource", .object [("aws_sg", .object [("web", body)])])])
    let results : Entries (List Reference) :=
      [("var.x", []), ("aws_sg.web", [⟨2, 7, "var.x", "var.x", true⟩])]
    documents.ids.Nodup ∧ documents.references = .ok results ∧
      results.lookup "aws_sg.web" = some [⟨2, 7, "var.x", "var.x", true⟩] ∧
      documents.dynamicBlocks.lookup "aws_sg.web"
        = some [⟨"rule", .string "$\x7bvar.x\x7d", .null, "rule"⟩] := by
  intro body documents results
  have hindex : documents.index = Index.ofList ["var.x", "aws_sg.web"] := rfl
  have hbody : body.usedReferences documents.index = .ok [⟨2, 7, "var.x", "var.x", true⟩] := by
    have hreported : body.whole.reported = [([0, 0, 0], "$\x7bvar.x\x7d")] := by decide +kernel
    rw [Value.usedReferences_of_reported hreported, hindex]
    decide +kernel
  have hreferences : documents.references = .ok results :=
    references_eq_ok_iff.2 ⟨results, by decide +kernel,
      .cons (referenceEntry_eq_ok_iff.2 ⟨rfl, Value.usedReferences_null _⟩)
        (.cons (referenceEntry_eq_ok_iff.2 ⟨rfl, hbody⟩) .nil)⟩
  have hnodup : documents.ids.Nodup := by decide +kernel
  have hkept := (results_of_latest documents).2.2 hnodup ⟨none, "aws_sg.web", body⟩
    (List.mem_cons_of_mem _ List.mem_cons_self)
  exact ⟨hnodup, hreferences, hkept.1 results _ hreferences hbody, hkept.2 (List.cons_ne_nil _ _)⟩

/-- The reference of a local value is lost when the value is declared again in another document. -/
theorem references_lost_by_redeclaration :
    let documents := (empty.insert (.object [("variable", .object [("x", .null)]),
        ("locals", .object [("name", .string "$\x7bvar.x\x7d")])]) (some "a.tf")).insert
      (.object [("locals", .object [("name", .string "web")])]) (some "b.tf")
    ⟨some "a.tf", "local.name", .string "$\x7bvar.x\x7d"⟩ ∈ documents.declarations ∧
      (Value.string "$\x7bvar.x\x7d").usedReferences documents.index
        = .ok [⟨2, 7, "var.x", "var.x", true⟩] ∧
      documents.references = .ok [("var.x", []), ("local.name", [])] := by
  intro documents
  have hindex : documents.index = Index.ofList ["var.x", "local.name", "local.name"] := rfl
  have hlost : (Value.string "$\x7bvar.x\x7d").usedReferences documents.index
      = .ok [⟨2, 7, "var.x", "var.x", true⟩] := by
    rw [Value.usedReferences_string, hindex]
    decide +kernel
  have hkept : (Value.string "web").usedReferences documents.index = .ok [] := by
    rw [Value.usedReferences_string]
    rfl
  refine ⟨List.mem_cons_of_mem _ List.mem_cons_self, hlost, ?_⟩
  exact references_eq_ok_iff.2 ⟨[("var.x", []),
    ("local.name", [⟨2, 7, "var.x", "var.x", true⟩]), ("local.name", [])], by decide +kernel,
    .cons (referenceEntry_eq_ok_iff.2 ⟨rfl, Value.usedReferences_null _⟩)
      (.cons (referenceEntry_eq_ok_iff.2 ⟨rfl, hlost⟩)
        (.cons (referenceEntry_eq_ok_iff.2 ⟨rfl, hkept⟩) .nil))⟩

end ConfigRefs.Documents
