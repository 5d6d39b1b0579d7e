import ConfigRefs.Proofs.Configuration.Naming

/-!
# Checked: documents

A declaration is kept with the position of its document among those that were inserted, and the path
that it comes from is read from that position. With a check on the position this finds the
declarations of the documents, each with the path of the document that it stands in
(`declared?_ofInserts`).
-/

namespace ConfigRefs.Checked

open ConfigRefs.Configuration ConfigRefs.Documents

/-- Documents whose declarations hold the position of the document they stand in. -/
structure Documents where
  sources : List (Option String)
  declarations : List (Nat × String × Value)

namespace Documents

/-- No documents. -/
def empty : Documents := ⟨[], []⟩

/-- Adds a document behind the others, and its declarations with the position of the document. -/
def insert (documents : Documents) (document : Value) (source : Option String) : Documents :=
  { sources := documents.sources ++ [source]
    declarations := documents.declarations
      ++ (declarationsOf document).map fun declaration => (documents.sources.length, declaration) }

/-- A declaration with the path at its position. -/
def declaredAt? (sources : List (Option String)) : Nat × String × Value → Option Declared
  | (position, id, body) => sources[position]?.map fun source => ⟨source, id, body⟩

/-- The declarations, each with the path at its position. -/
def declared? (documents : Documents) : Option (List Declared) :=
  documents.declarations.mapM (declaredAt? documents.sources)

/-- The documents after a sequence of insertions, each with the path that it comes from. -/
def ofInserts (inserts : List (Value × Option String)) : Documents :=
  inserts.foldl (fun documents insert => documents.insert insert.1 insert.2) empty

variable {documents : Documents} {declarations : List Declared}

theorem declaredAt?_append {sources : List (Option String)} {found : Nat × String × Value}
    {declared : Declared} (h : declaredAt? sources found = some declared)
    (further : List (Option String)) : declaredAt? (sources ++ further) found = some declared := by
  obtain ⟨source, hsource, rfl⟩ := Option.map_eq_some_iff.1 h
  rw [declaredAt?, List.getElem?_append_left (List.getElem?_eq_some_iff.1 hsource).1, hsource]
  rfl

/-- A position keeps its path when documents are added. -/
theorem mapM_declaredAt?_append {sources : List (Option String)}
    {found : List (Nat × String × Value)} (further : List (Option String))
    (h : found.mapM (declaredAt? sources) = some declarations) :
    found.mapM (declaredAt? (sources ++ further)) = some declarations := by
  induction found generalizing declarations with
  | nil => exact h
  | cons first found ih =>
    rw [List.mapM_cons] at h ⊢
    obtain ⟨declared, hfirst, h⟩ := Option.bind_eq_some_iff.1 h
    obtain ⟨others, hothers, h⟩ := Option.bind_eq_some_iff.1 h
    rw [declaredAt?_append hfirst, ih hothers]
    exact h

theorem mapM_declaredAt?_last (sources : List (Option String)) (source : Option String) :
    ∀ found : Entries Value,
      (found.map (sources.length, ·)).mapM (declaredAt? (sources ++ [source]))
        = some (found.map fun (id, body) => ⟨source, id, body⟩)
  | [] => rfl
  | first :: found => by
    have hfirst : declaredAt? (sources ++ [source]) (sources.length, first)
        = some ⟨source, first.1, first.2⟩ := by
      rw [declaredAt?, List.getElem?_concat_length]
      rfl
    rw [List.map_cons, List.mapM_cons, hfirst, mapM_declaredAt?_last sources source found]
    rfl

theorem declared?_insert (h : documents.declared? = some declarations) (document : Value)
    (source : Option String) : (documents.insert document source).declared?
      = some (declarations ++ declaredBy (document, source)) := by
  rw [declared?, insert, List.mapM_append, mapM_declaredAt?_append [source] h,
    mapM_declaredAt?_last]
  rfl

/-- **The positions lead to the paths.** After a sequence of insertions the declarations are found with
the path of the document that each of them stands in. -/
theorem declared?_ofInserts (inserts : List (Value × Option String)) :
    (ofInserts inserts).declared? = some (ConfigRefs.Documents.ofInserts inserts).declarations := by
  rw [declarations_ofInserts]
  unfold ofInserts
  induction inserts using List.reverseRecOn with
  | nil => rfl
  | append_singleton inserts insert ih =>
    rw [List.foldl_append, List.flatMap_append, List.flatMap_singleton]
    exact declared?_insert ih insert.1 insert.2

end Documents

end ConfigRefs.Checked
