import ConfigRefs.Configuration.Documents
import ConfigRefs.Proofs.Declaration.Lookup
import ConfigRefs.Proofs.Reference.Path

/-!
# Configuration: names of declarations in texts

`Declares document parts body` says that a document declares something under the parts of a name, and
`mem_declarationsOf` that these are the declarations that are collected from it. An attribute of a
declaration whose parts are names is found in a text and converted, whatever else was loaded
(`convert_attribute`).
-/

namespace ConfigRefs

open ConfigRefs.Text ConfigRefs.Token ConfigRefs.Declaration ConfigRefs.Traversal

namespace Documents

/-! ### What a document declares -/

/-- A document declares something under the parts of a name. -/
inductive Declares (document : Value) : List String → Value → Prop where
  | ofResource {blocks labels body : Value} {type name : String} :
    ("resource", blocks) ∈ document.entries → (type, labels) ∈ blocks.entries →
      (name, body) ∈ labels.entries → Declares document [type, name] body
  | ofData {blocks labels body : Value} {type name : String} :
    ("data", blocks) ∈ document.entries → (type, labels) ∈ blocks.entries →
      (name, body) ∈ labels.entries → Declares document ["data", type, name] body
  | ofVariable {blocks body : Value} {name : String} :
    ("variable", blocks) ∈ document.entries → (name, body) ∈ blocks.entries →
      Declares document ["var", name] body
  | ofLocals {blocks body : Value} {name : String} :
    ("locals", blocks) ∈ document.entries → (name, body) ∈ blocks.entries →
      Declares document ["local", name] body
  | ofModule {blocks body : Value} {name : String} :
    ("module", blocks) ∈ document.entries → (name, body) ∈ blocks.entries →
      Declares document ["module", name] body

theorem mem_named {start : String} {blocks body : Value} {id : String} :
    (id, body) ∈ named start blocks
      ↔ ∃ name, (name, body) ∈ blocks.entries ∧ id = start ++ "." ++ name := by
  simp only [named, List.mem_map, Prod.mk.injEq, Prod.exists]
  constructor
  · rintro ⟨name, _, hmem, rfl, rfl⟩
    exact ⟨name, hmem, rfl⟩
  · rintro ⟨name, hmem, rfl⟩
    exact ⟨name, body, hmem, rfl, rfl⟩

theorem mem_typed {start : String → String} {blocks body : Value} {id : String} :
    (id, body) ∈ typed start blocks ↔ ∃ type labels name, (type, labels) ∈ blocks.entries ∧
      (name, body) ∈ labels.entries ∧ id = start type ++ "." ++ name := by
  simp only [typed, List.mem_flatMap, Prod.exists, mem_named]
  constructor
  · rintro ⟨type, labels, htype, name, hname, rfl⟩
    exact ⟨type, labels, name, htype, hname, rfl⟩
  · rintro ⟨type, labels, name, htype, hname, rfl⟩
    exact ⟨type, labels, htype, name, hname, rfl⟩

/-- **What is collected from a document is what it declares.** -/
theorem mem_declarationsOf {document body : Value} {id : String} :
    (id, body) ∈ declarationsOf document
      ↔ ∃ parts, Declares document parts body ∧ id = joinDots parts := by
  simp only [declarationsOf, List.mem_flatMap, Prod.exists]
  constructor
  · rintro ⟨type, blocks, hblocks, hmem⟩
    unfold declarationsOfBlocks at hmem
    split at hmem
    · next htype =>
      subst htype
      obtain ⟨type, labels, name, htype, hname, rfl⟩ := mem_typed.1 hmem
      exact ⟨_, .ofResource hblocks htype hname, (joinDots_pair type name).symm⟩
    split at hmem
    · next htype =>
      subst htype
      obtain ⟨type, labels, name, htype, hname, rfl⟩ := mem_typed.1 hmem
      exact ⟨_, .ofData hblocks htype hname, (joinDots_triple "data" type name).symm⟩
    split at hmem
    · next htype =>
      subst htype
      obtain ⟨name, hname, rfl⟩ := mem_named.1 hmem
      exact ⟨_, .ofVariable hblocks hname, (joinDots_pair "var" name).symm⟩
    split at hmem
    · next htype =>
      subst htype
      obtain ⟨name, hname, rfl⟩ := mem_named.1 hmem
      exact ⟨_, .ofLocals hblocks hname, (joinDots_pair "local" name).symm⟩
    split at hmem
    · next htype =>
      subst htype
      obtain ⟨name, hname, rfl⟩ := mem_named.1 hmem
      exact ⟨_, .ofModule hblocks hname, (joinDots_pair "module" name).symm⟩
    · cases hmem
  · rintro ⟨parts, hdeclares, rfl⟩
    cases hdeclares with
    | ofResource hblocks htype hname =>
      exact ⟨"resource", _, hblocks, mem_typed.2 ⟨_, _, _, htype, hname, joinDots_pair _ _⟩⟩
    | ofData hblocks htype hname =>
      exact ⟨"data", _, hblocks, mem_typed.2 ⟨_, _, _, htype, hname, joinDots_triple _ _ _⟩⟩
    | ofVariable hblocks hname =>
      exact ⟨"variable", _, hblocks, mem_named.2 ⟨_, hname, joinDots_pair _ _⟩⟩
    | ofLocals hblocks hname =>
      exact ⟨"locals", _, hblocks, mem_named.2 ⟨_, hname, joinDots_pair _ _⟩⟩
    | ofModule hblocks hname =>
      exact ⟨"module", _, hblocks, mem_named.2 ⟨_, hname, joinDots_pair _ _⟩⟩

/-- The documents after a sequence of insertions, each with the path that it comes from. -/
def ofInserts (inserts : List (Value × Option String)) : Documents :=
  inserts.foldl (fun documents insert => documents.insert insert.1 insert.2) empty

/-- What a document that comes from a path declares. -/
def declaredBy (insert : Value × Option String) : List Configuration.Declared :=
  (declarationsOf insert.1).map fun (id, body) => ⟨insert.2, id, body⟩

theorem declarations_foldl_insert : ∀ (inserts : List (Value × Option String))
    (documents : Documents),
    (inserts.foldl (fun documents insert => documents.insert insert.1 insert.2)
        documents).declarations = documents.declarations ++ inserts.flatMap declaredBy
  | [], documents => (List.append_nil _).symm
  | insert :: inserts, documents => by
    rw [List.foldl_cons, declarations_foldl_insert inserts, List.flatMap_cons, ← List.append_assoc]
    rfl

/-- **The declarations after a sequence of insertions** are those of the documents, in their order. -/
theorem declarations_ofInserts (inserts : List (Value × Option String)) :
    (ofInserts inserts).declarations = inserts.flatMap declaredBy :=
  declarations_foldl_insert inserts empty

theorem mem_declarations_ofInserts {inserts : List (Value × Option String)}
    {declared : Configuration.Declared} : declared ∈ (ofInserts inserts).declarations ↔
      ∃ document, (document, declared.source) ∈ inserts ∧
        (declared.id, declared.body) ∈ declarationsOf document := by
  simp only [declarations_ofInserts, List.mem_flatMap, declaredBy, List.mem_map, Prod.exists]
  constructor
  · rintro ⟨document, source, hinsert, id, body, hmem, rfl⟩
    exact ⟨document, hinsert, hmem⟩
  · rintro ⟨document, hinsert, hmem⟩
    exact ⟨document, declared.source, hinsert, declared.id, declared.body, hmem, rfl⟩

/-! ### Attributes in texts -/

/-- The name of a declaration has as many parts as its kind takes, unless a resource has the type
`data`. -/
theorem Declares.length_eq {document body : Value} {parts : List String}
    (h : Declares document parts body) (hdata : ∀ name, parts ≠ ["data", name]) :
    ∃ first path, parts = first :: path ∧ path ≠ [] ∧
      path.length + 1 = (Kind.ofSegment first).size := by
  cases h with
  | @ofResource _ _ _ type name _ _ _ =>
    have hne : type ≠ "data" := fun htype => hdata name (by rw [htype])
    refine ⟨type, [name], rfl, List.cons_ne_nil _ _, ?_⟩
    unfold Kind.ofSegment
    split_ifs <;> rfl
  | ofData => exact ⟨_, _, rfl, List.cons_ne_nil _ _, rfl⟩
  | ofVariable => exact ⟨_, _, rfl, List.cons_ne_nil _ _, rfl⟩
  | ofLocals => exact ⟨_, _, rfl, List.cons_ne_nil _ _, rfl⟩
  | ofModule => exact ⟨_, _, rfl, List.cons_ne_nil _ _, rfl⟩

theorem mem_index_ofInserts {inserts : List (Value × Option String)} {document body : Value}
    {source : Option String} {parts : List String} (hinsert : (document, source) ∈ inserts)
    (hdeclares : Declares document parts body) :
    ⟨source, joinDots parts, body⟩ ∈ (ofInserts inserts).declarations ∧
      joinDots parts ∈ (ofInserts inserts).index.identifiers := by
  have hmem : (⟨source, joinDots parts, body⟩ : Configuration.Declared)
      ∈ (ofInserts inserts).declarations :=
    mem_declarations_ofInserts.2 ⟨document, hinsert, mem_declarationsOf.2 ⟨parts, hdeclares, rfl⟩⟩
  refine ⟨hmem, ?_⟩
  rw [index, Index.mem_ofList]
  exact List.mem_map.2 ⟨_, hmem, rfl⟩

/-- **Loading, resolution and conversion agree on names.** A text that interpolates an attribute of a
declared thing has exactly the reference to it, over the whole of its body, and is converted to the
expression of that reference, whatever else is loaded and whatever loop variables are in scope. -/
theorem convert_attribute {inserts : List (Value × Option String)} {document body : Value}
    {source : Option String} {parts attributes : List String} {scope : Scope}
    (hinsert : (document, source) ∈ inserts) (hdeclares : Declares document parts body)
    (hparts : ∀ part ∈ parts, IsName part)
    (hmeta : parts.head? ≠ some "count" ∧ parts.head? ≠ some "each")
    (hdata : ∀ name, parts ≠ ["data", name])
    (hne : attributes ≠ []) (hattributes : ∀ member ∈ attributes, IsName member)
    (hscope : ∀ name ∈ scope.names, DotFree name) :
    ⟨source, joinDots parts, body⟩ ∈ (ofInserts inserts).declarations ∧
      ConfigRefs.references (interpolated (parts ++ attributes)) (ofInserts inserts).index scope
        = .ok [{ start := 2
                 stop := byteLength (interpolated (parts ++ attributes)).toList - 1
                 id := joinDots parts
                 full := joinDots (parts ++ attributes)
                 useFqn := false }] ∧
      Expr.convert (interpolated (parts ++ attributes)) (ofInserts inserts).index scope
        = .ok (Expr.ofReference
            { start := 2
              stop := byteLength (interpolated (parts ++ attributes)).toList - 1
              id := joinDots parts
              full := joinDots (parts ++ attributes)
              useFqn := false }) := by
  obtain ⟨hmem, hknown⟩ := mem_index_ofInserts hinsert hdeclares
  obtain ⟨first, path, rfl, hpath, hsize⟩ := hdeclares.length_eq hdata
  have hsegments : segments (joinDots (first :: path)) = first :: path :=
    segments_joinDots (List.cons_ne_nil _ _) fun part hpart => (hparts part hpart).dotFree
  have hlookup : (ofInserts inserts).index.lookup? (first :: (path ++ attributes))
      = some (joinDots (first :: path)) :=
    ConsistentIndex.lookup?_append (.ofList _) hknown hsegments hsize attributes
  have hlength : 2 ≤ (path ++ attributes).length := by
    have := List.length_pos_iff.2 hpath
    have := List.length_pos_iff.2 hne
    rw [List.length_append]
    omega
  have hnames : ∀ name ∈ path ++ attributes, IsName name := by
    intro name hname
    rcases List.mem_append.1 hname with hname | hname
    · exact hparts name (List.mem_cons_of_mem first hname)
    · exact hattributes name hname
  have hreferences : ConfigRefs.references (interpolated (first :: (path ++ attributes)))
      (ofInserts inserts).index scope
        = .ok [pathReference (joinDots (first :: path)) (first :: (path ++ attributes))] :=
    references_path (hparts first List.mem_cons_self) hnames hlength
      (fun h => hmeta.1 (by rw [h]; rfl)) (fun h => hmeta.2 (by rw [h]; rfl)) hlookup
  -- an identifier has a dot, a loop variable has none
  have hid : joinDots (first :: path) ∉ scope.names := by
    intro hmem
    obtain ⟨next, path, rfl⟩ := List.exists_cons_of_ne_nil hpath
    refine hscope _ hmem ?_
    rw [toList_joinDots_cons, List.flatMap_cons]
    simp
  exact ⟨hmem, hreferences, convert_path hreferences hid⟩

/-- The name of a data source is written with letters beyond ASCII, and a resource whose identifier
ends like the one of the data source is loaded first. -/
theorem convert_attribute_of_data :
    let blocks : Value := .object [("aws_ami", .array [.object [("größe-1", .null)]])]
    let inserts : List (Value × Option String) :=
      [(.object [("resource", blocks)], none), (.array [.object [("data", blocks)]], some "main.tf")]
    let reference : Reference :=
      { start := 2, stop := 33, id := "data.aws_ami.größe-1", full := "data.aws_ami.größe-1.image_id"
        useFqn := false }
    Declares (.array [.object [("data", blocks)]]) ["data", "aws_ami", "größe-1"] .null
      ∧ (∀ part ∈ ["data", "aws_ami", "größe-1", "image_id"], IsName part)
      ∧ ConfigRefs.references "$\x7bdata.aws_ami.größe-1.image_id\x7d" (ofInserts inserts).index
          ⟨["data", "größe-1"]⟩ = .ok [reference]
      ∧ Expr.convert "$\x7bdata.aws_ami.größe-1.image_id\x7d" (ofInserts inserts).index
          ⟨["data", "größe-1"]⟩ = .ok (Expr.ofReference reference) := by
  intro blocks inserts reference
  have hdeclares : Declares (.array [.object [("data", blocks)]]) ["data", "aws_ami", "größe-1"]
      .null :=
    @Declares.ofData _ blocks (.array [.object [("größe-1", .null)]]) _ _ _
      List.mem_cons_self List.mem_cons_self List.mem_cons_self
  have hnames : ∀ part ∈ ["data", "aws_ami", "größe-1", "image_id"], IsName part := by decide
  have hinsert : (.array [.object [("data", blocks)]], some "main.tf") ∈ inserts :=
    List.mem_cons_of_mem _ List.mem_cons_self
  obtain ⟨-, hreferences, hconvert⟩ := @convert_attribute _ _ _ _ _ ["image_id"]
    ⟨["data", "größe-1"]⟩ hinsert hdeclares
    (fun part hpart => hnames part (List.mem_append_left ["image_id"] hpart))
    ⟨by decide, by decide⟩ (fun name h => by simp at h) (List.cons_ne_nil _ _)
    (fun member hmember =>
      hnames member (List.mem_append_right ["data", "aws_ami", "größe-1"] hmember))
    (show ∀ name ∈ ["data", "größe-1"], DotFree name by decide)
  have hid : joinDots ["data", "aws_ami", "größe-1"] = "data.aws_ami.größe-1" := by decide
  have hfull : joinDots (["data", "aws_ami", "größe-1"] ++ ["image_id"])
      = "data.aws_ami.größe-1.image_id" := by decide
  have hinput : interpolated (["data", "aws_ami", "größe-1"] ++ ["image_id"])
      = "$\x7bdata.aws_ami.größe-1.image_id\x7d" := by decide
  have hlength : byteLength "$\x7bdata.aws_ami.größe-1.image_id\x7d".toList - 1 = 33 := by decide
  rw [hid, hfull, hinput, hlength] at hreferences hconvert
  exact ⟨hdeclares, hnames, hreferences, hconvert⟩

end Documents

end ConfigRefs
