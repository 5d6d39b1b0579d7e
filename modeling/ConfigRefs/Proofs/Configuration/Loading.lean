import ConfigRefs.Configuration.Loading
import ConfigRefs.Proofs.Checked.Documents
import ConfigRefs.Proofs.Configuration.Naming
import Mathlib.Data.List.Sort
import Mathlib.Data.String.Basic

/-!
# Configuration: loading

While the files stay as they are, a call of `insert`, `loadFile` or `loadDirectory` adds documents that
do not depend on those that are there, and gives a result that does not either (`outcome_perform`).
So calls only append, and a declaration keeps the path of the document that it was added with
(`loading_appends`).
-/

namespace ConfigRefs

namespace Documents

/-- The documents with further ones behind them. -/
def insertAll (documents : Documents) (inserts : List (Value × Option String)) : Documents :=
  inserts.foldl (fun documents insert => documents.insert insert.1 insert.2) documents

theorem declarations_insertAll (documents : Documents) (inserts : List (Value × Option String)) :
    (documents.insertAll inserts).declarations
      = documents.declarations ++ inserts.flatMap declaredBy :=
  declarations_foldl_insert inserts documents

theorem sources_insertAll (documents : Documents) (inserts : List (Value × Option String)) :
    (documents.insertAll inserts).sources = documents.sources ++ inserts.map Prod.snd := by
  induction inserts generalizing documents with
  | nil => exact (List.append_nil _).symm
  | cons insert inserts ih =>
    rw [insertAll, List.foldl_cons, List.map_cons, List.append_cons]
    exact ih (documents.insert insert.1 insert.2)

end Documents

end ConfigRefs

namespace ConfigRefs.Configuration

/-! ### Steps of loading -/

section Outcome

variable {α β : Type}

/-- What loading into documents gives, and the documents that it leaves. -/
def outcome (load : Load Id α) (documents : Documents) : Except LoadError α × Documents :=
  (load.run.run documents).run

variable {load : Load Id α} {documents after : Documents}

theorem outcome_bind_of_ok {value : α} (h : outcome load documents = (.ok value, after))
    (next : α → Load Id β) : outcome (load >>= next) documents = outcome (next value) after := by
  unfold outcome at h ⊢
  rw [ExceptT.run_bind, StateT.run_bind, Id.run_bind, h]

theorem outcome_bind_of_error {error : LoadError}
    (h : outcome load documents = (.error error, after)) (next : α → Load Id β) :
    outcome (load >>= next) documents = (.error error, after) := by
  unfold outcome at h ⊢
  rw [ExceptT.run_bind, StateT.run_bind, Id.run_bind, h]
  rfl

theorem outcome_ask_of_some {answer : Id (Option α)} {value : α} (h : answer.run = some value)
    (documents : Documents) : outcome (ask answer) documents = (.ok value, documents) := by
  obtain rfl : answer = some value := h
  rfl

theorem outcome_ask_of_none {answer : Id (Option α)} (h : answer.run = none)
    (documents : Documents) : outcome (ask answer) documents = (.error .unreadable, documents) := by
  obtain rfl : answer = none := h
  rfl

end Outcome

/-! ### What a call adds -/

section Effect

variable (files : FileSystem Id) (formats : Formats) (directory : Place)

/-- The document that a file holds, with the path it comes from. -/
def readDocument (path : String) : Except LoadError (Value × Option String) :=
  match (files.resolve directory path).run with
  | none => .error .unreadable
  | some place => match (files.read place).run with
    | none => .error .unreadable
    | some contents => match String.fromUTF8? contents with
      | none => .error .unreadable
      | some text => (·, some place.render) <$> formats.parse (place.getLastD "") text

/-- What a call adds, and what it gives. -/
structure Effect where
  inserted : List (Value × Option String)
  result : Except LoadError Unit

/-- The result of a call that has an effect, and the documents that it leaves. -/
def Effect.apply (effect : Effect) (documents : Documents) : Except LoadError Unit × Documents :=
  (effect.result, documents.insertAll effect.inserted)

/-- The effect of a call that adds nothing and fails. -/
def Effect.failure (error : LoadError) : Effect := ⟨[], .error error⟩

/-- The effect of loading files one after another, up to the first that fails. -/
def filesEffect : List String → Effect
  | [] => ⟨[], .ok ()⟩
  | path :: paths => match readDocument files formats directory path with
    | .ok insert => { filesEffect paths with inserted := insert :: (filesEffect paths).inserted }
    | .error error => .failure error

/-- The effect of loading a directory. -/
def directoryEffect (path : String) : Effect :=
  match (files.resolve directory path).run with
  | none => .failure .unreadable
  | some place => match (files.list place).run with
    | none => .failure .unreadable
    | some items =>
      if configurationNames items = [] then .failure .noFilesFound
      else filesEffect files formats place (configurationNames items)

/-- A call that adds documents. -/
inductive Operation where
  | insert (document : Value) (source : Option String)
  | loadFile (path : String)
  | loadDirectory (path : String)

/-- The steps of a call. -/
def Operation.perform : Operation → Load Id Unit
  | insert document source => modify fun documents => documents.insert document source
  | loadFile path => Configuration.loadFile files formats directory path
  | loadDirectory path => Configuration.loadDirectory files formats directory path

/-- The effect of a call. -/
def Operation.effect : Operation → Effect
  | insert document source => ⟨[(document, source)], .ok ()⟩
  | loadFile path => filesEffect files formats directory [path]
  | loadDirectory path => directoryEffect files formats directory path

/-- The documents after a sequence of calls, whether they fail or not. -/
def performAll (operations : List Operation) (documents : Documents) : Documents :=
  operations.foldl
    (fun documents operation => (outcome (operation.perform files formats directory) documents).2)
    documents

/-- The documents that a sequence of calls adds, with the paths they come from. -/
def insertedBy (operations : List Operation) : List (Value × Option String) :=
  operations.flatMap fun operation => (operation.effect files formats directory).inserted

variable {files formats directory}

theorem outcome_loadFile (path : String) (documents : Documents) :
    outcome (loadFile files formats directory path) documents
      = (filesEffect files formats directory [path]).apply documents := by
  unfold loadFile filesEffect readDocument
  cases hplace : (files.resolve directory path).run with
  | none => exact outcome_bind_of_error (outcome_ask_of_none hplace documents) _
  | some place =>
    rw [outcome_bind_of_ok (outcome_ask_of_some hplace documents)]
    dsimp only
    cases hcontents : (files.read place).run with
    | none => exact outcome_bind_of_error (outcome_ask_of_none hcontents documents) _
    | some contents =>
      rw [outcome_bind_of_ok (outcome_ask_of_some hcontents documents)]
      dsimp only
      cases String.fromUTF8? contents with
      | none => rfl
      | some text =>
        dsimp only
        cases formats.parse (place.getLastD "") text with
        | error error => rfl
        | ok document => rfl

theorem outcome_loadFile_of_ok {path : String} {insert : Value × Option String}
    (h : readDocument files formats directory path = .ok insert) (documents : Documents) :
    outcome (loadFile files formats directory path) documents
      = (.ok (), documents.insert insert.1 insert.2) := by
  rw [outcome_loadFile, filesEffect, h]
  rfl

theorem outcome_loadFile_of_error {path : String} {error : LoadError}
    (h : readDocument files formats directory path = .error error) (documents : Documents) :
    outcome (loadFile files formats directory path) documents = (.error error, documents) := by
  rw [outcome_loadFile, filesEffect, h]
  rfl

/-- Loading files in a loop: the loop goes on from the documents that the first file leaves. -/
theorem outcome_forM_loadFile (paths : List String) (documents : Documents) :
    outcome (paths.forM (loadFile files formats directory)) documents
      = (filesEffect files formats directory paths).apply documents := by
  induction paths generalizing documents with
  | nil => rfl
  | cons path paths ih =>
    rw [filesEffect]
    cases hread : readDocument files formats directory path with
    | error error => exact outcome_bind_of_error (outcome_loadFile_of_error hread documents) _
    | ok insert =>
      exact (outcome_bind_of_ok (outcome_loadFile_of_ok hread documents) _).trans (ih _)

theorem outcome_loadDirectory (path : String) (documents : Documents) :
    outcome (loadDirectory files formats directory path) documents
      = (directoryEffect files formats directory path).apply documents := by
  unfold loadDirectory directoryEffect
  cases hplace : (files.resolve directory path).run with
  | none => exact outcome_bind_of_error (outcome_ask_of_none hplace documents) _
  | some place =>
    rw [outcome_bind_of_ok (outcome_ask_of_some hplace documents)]
    dsimp only
    cases hitems : (files.list place).run with
    | none => exact outcome_bind_of_error (outcome_ask_of_none hitems documents) _
    | some items =>
      rw [outcome_bind_of_ok (outcome_ask_of_some hitems documents)]
      dsimp only
      cases hnames : configurationNames items with
      | nil => rfl
      | cons name names =>
        rw [if_neg (List.cons_ne_nil name names)]
        exact outcome_forM_loadFile (name :: names) documents

/-- **A call has its effect**, whatever was loaded before. -/
theorem outcome_perform (operation : Operation) (documents : Documents) :
    outcome (operation.perform files formats directory) documents
      = (operation.effect files formats directory).apply documents := by
  cases operation with
  | insert document source => rfl
  | loadFile path => exact outcome_loadFile path documents
  | loadDirectory path => exact outcome_loadDirectory path documents

/-- **Calls one after another** add the documents that each of them adds. -/
theorem performAll_eq_insertAll (operations : List Operation) (documents : Documents) :
    performAll files formats directory operations documents
      = documents.insertAll (insertedBy files formats directory operations) := by
  induction operations generalizing documents with
  | nil => rfl
  | cons operation operations ih =>
    rw [performAll, List.foldl_cons, outcome_perform, insertedBy, List.flatMap_cons,
      Documents.insertAll, List.foldl_append]
    exact ih _

end Effect

/-! ### The files of a directory -/

section Names

/-- A name ends as those of configuration files do. -/
def HasConfigurationEnding (name : String) : Prop :=
  ∃ stem : String, name = stem ++ ".tf" ∨ name = stem ++ ".tf.json"

theorem isSuffixOf_toList_iff {ending name : String} :
    ending.toList.isSuffixOf name.toList = true ↔ ∃ stem : String, name = stem ++ ending := by
  rw [List.isSuffixOf_iff_suffix]
  constructor
  · rintro ⟨stem, hstem⟩
    exact ⟨String.ofList stem, String.toList_injective (by simp [← hstem])⟩
  · rintro ⟨stem, rfl⟩
    exact ⟨stem.toList, by simp⟩

theorem isConfigurationName_iff {name : String} :
    isConfigurationName name = true ↔ HasConfigurationEnding name := by
  rw [isConfigurationName, Bool.or_eq_true, isSuffixOf_toList_iff, isSuffixOf_toList_iff,
    HasConfigurationEnding, exists_or]

variable {items others : List (String × Bool)} {name : String}

theorem pairwise_configurationNames : (configurationNames items).Pairwise (· ≤ ·) :=
  (List.pairwise_mergeSort (fun a b c => by simpa using le_trans)
    (fun a b => by simpa using le_total a b) _).imp of_decide_eq_true

theorem configurationNames_perm_filter : (configurationNames items).Perm
    ((items.filter fun item => item.2 && isConfigurationName item.1).map (·.1)) :=
  List.mergeSort_perm _ _

/-- Items in another order have the same names in ascending order. -/
theorem configurationNames_of_perm (h : items.Perm others) :
    configurationNames items = configurationNames others := by
  refine List.Perm.eq_of_pairwise (fun a b _ _ => le_antisymm) pairwise_configurationNames
    pairwise_configurationNames ?_
  exact configurationNames_perm_filter.trans
    (((h.filter _).map _).trans configurationNames_perm_filter.symm)

theorem hasConfigurationEnding_of_mem (h : name ∈ configurationNames items) :
    HasConfigurationEnding name := by
  obtain ⟨item, hitem, rfl⟩ := List.mem_map.1 (configurationNames_perm_filter.mem_iff.1 h)
  exact isConfigurationName_iff.1 (Bool.and_eq_true_iff.1 (List.mem_filter.1 hitem).2).2

theorem count_configurationNames (h : HasConfigurationEnding name) :
    (configurationNames items).count name = items.count (name, true) := by
  rw [configurationNames_perm_filter.count_eq, List.count, List.countP_map, List.countP_filter,
    List.count]
  refine List.countP_congr fun item _ => ?_
  simp only [Function.comp_apply, Bool.and_eq_true, beq_iff_eq, Prod.ext_iff]
  constructor
  · rintro ⟨rfl, hregular, -⟩
    exact ⟨rfl, hregular⟩
  · rintro ⟨rfl, hregular⟩
    exact ⟨rfl, hregular, isConfigurationName_iff.2 h⟩

end Names

/-- Files are loaded one after another, until one fails. -/
inductive LoadsInOrder (files : FileSystem Id) (formats : Formats) (directory : Place) :
    List String → Documents → Except LoadError Unit → Documents → Prop where
  | done {documents : Documents} :
    LoadsInOrder files formats directory [] documents (.ok ()) documents
  | next {path : String} {paths : List String} {documents between after : Documents}
    {result : Except LoadError Unit} :
    outcome (loadFile files formats directory path) documents = (.ok (), between) →
      LoadsInOrder files formats directory paths between result after →
      LoadsInOrder files formats directory (path :: paths) documents result after
  | failed {path : String} {paths : List String} {documents after : Documents} {error : LoadError} :
    outcome (loadFile files formats directory path) documents = (.error error, after) →
      LoadsInOrder files formats directory (path :: paths) documents (.error error) after

/-- File systems that differ only in the order in which directories are listed. -/
structure SameButOrder (files others : FileSystem Id) : Prop where
  resolve : files.resolve = others.resolve
  list (place : Place) : Option.Rel List.Perm (files.list place).run (others.list place).run
  read : files.read = others.read

section Directories

variable {files others : FileSystem Id} {formats : Formats} {directory : Place}

theorem loadsInOrder_filesEffect (paths : List String) (documents : Documents) :
    LoadsInOrder files formats directory paths documents
      (filesEffect files formats directory paths).result
      (documents.insertAll (filesEffect files formats directory paths).inserted) := by
  induction paths generalizing documents with
  | nil => exact .done
  | cons path paths ih =>
    rw [filesEffect]
    cases hread : readDocument files formats directory path with
    | error error => exact .failed (outcome_loadFile_of_error hread documents)
    | ok insert => exact .next (outcome_loadFile_of_ok hread documents) (ih _)

theorem directoryEffect_of_list {path : String} {place : Place} {items : List (String × Bool)}
    (hplace : files.resolve directory path = some place) (hitems : files.list place = some items) :
    directoryEffect files formats directory path
      = if configurationNames items = [] then .failure .noFilesFound
        else filesEffect files formats place (configurationNames items) := by
  have hplace' : (files.resolve directory path).run = some place := hplace
  have hitems' : (files.list place).run = some items := hitems
  rw [directoryEffect, hplace']
  dsimp only
  rw [hitems']

theorem readDocument_of_sameButOrder (h : SameButOrder files others) (path : String) :
    readDocument files formats directory path = readDocument others formats directory path := by
  rw [readDocument, readDocument, h.resolve, h.read]

theorem filesEffect_of_sameButOrder (h : SameButOrder files others) (paths : List String) :
    filesEffect files formats directory paths = filesEffect others formats directory paths := by
  induction paths with
  | nil => rfl
  | cons path paths ih => rw [filesEffect, filesEffect, readDocument_of_sameButOrder h, ih]

/-- The order in which a directory is listed has no effect. -/
theorem directoryEffect_of_sameButOrder (h : SameButOrder files others) (path : String) :
    directoryEffect files formats directory path
      = directoryEffect others formats directory path := by
  rw [directoryEffect, directoryEffect, h.resolve]
  cases (others.resolve directory path).run with
  | none => rfl
  | some place =>
    dsimp only
    have hlist := h.list place
    revert hlist
    generalize (files.list place).run = listed, (others.list place).run = listed'
    rintro (hperm | -)
    · dsimp only
      rw [configurationNames_of_perm hperm, filesEffect_of_sameButOrder h]
    · rfl

end Directories

/-- **Loading only appends, and errors keep what was there.** While the files stay as they are, the
declarations and paths before a call are the first of those after it. After a sequence of calls, failed
or not, the declarations are those of the added documents, in order, each with the path of its
document, which is also the path at the position that is kept with it. A file that fails changes
nothing. A directory that can be listed is loaded as its configuration files are, in ascending order up
to the first that fails, whatever the order in which they are listed. -/
theorem loading_appends (files : FileSystem Id) (formats : Formats) (directory : Place) :
    (∀ (operation : Operation) (documents : Documents),
      let after := (outcome (operation.perform files formats directory) documents).2
      documents.declarations <+: after.declarations ∧ documents.sources <+: after.sources) ∧
    (∀ operations : List Operation,
      let after := performAll files formats directory operations .empty
      let inserted := insertedBy files formats directory operations
      after = .ofInserts inserted ∧
        after.declarations = inserted.flatMap Documents.declaredBy ∧
        after.sources = inserted.map Prod.snd ∧
        after.sourceCount = inserted.length ∧
        (Checked.Documents.ofInserts inserted).declared? = some after.declarations) ∧
    (∀ (path : String) (documents after : Documents) (error : LoadError),
      outcome (loadFile files formats directory path) documents = (.error error, after) →
        after = documents) ∧
    (∀ (path : String) (place : Place) (items : List (String × Bool)) (documents : Documents),
      files.resolve directory path = some place → files.list place = some items →
      let names := configurationNames items
      names.Pairwise (· ≤ ·) ∧ (∀ name ∈ names, HasConfigurationEnding name) ∧
        (∀ name, HasConfigurationEnding name → names.count name = items.count (name, true)) ∧
        (names = [] → outcome (loadDirectory files formats directory path) documents
          = (.error .noFilesFound, documents)) ∧
        (names ≠ [] → ∃ result after, LoadsInOrder files formats place names documents result after ∧
          outcome (loadDirectory files formats directory path) documents = (result, after))) ∧
    ∀ others : FileSystem Id, SameButOrder files others →
      ∀ (path : String) (documents : Documents),
        outcome (loadDirectory others formats directory path) documents
          = outcome (loadDirectory files formats directory path) documents := by
  refine ⟨fun operation documents => ?_, fun operations => ?_, fun path documents after error h => ?_,
    fun path place items documents hplace hitems => ⟨pairwise_configurationNames,
      fun name => hasConfigurationEnding_of_mem, fun name => count_configurationNames, ?_, ?_⟩,
    fun others hsame path documents => ?_⟩
  · rw [outcome_perform]
    exact ⟨⟨_, (Documents.declarations_insertAll _ _).symm⟩,
      ⟨_, (Documents.sources_insertAll _ _).symm⟩⟩
  · rw [performAll_eq_insertAll]
    have hsources :=
      Documents.sources_insertAll .empty (insertedBy files formats directory operations)
    refine ⟨rfl, Documents.declarations_ofInserts _, hsources, ?_,
      Checked.Documents.declared?_ofInserts _⟩
    exact (congrArg List.length hsources).trans (List.length_map Prod.snd)
  · cases hread : readDocument files formats directory path with
    | error _ => exact (Prod.mk.inj ((outcome_loadFile_of_error hread documents).symm.trans h)).2.symm
    | ok insert => cases (outcome_loadFile_of_ok hread documents).symm.trans h
  · intro hnone
    rw [outcome_loadDirectory, directoryEffect_of_list hplace hitems, if_pos hnone]
    rfl
  · intro hsome
    refine ⟨_, _, loadsInOrder_filesEffect _ documents, ?_⟩
    rw [outcome_loadDirectory, directoryEffect_of_list hplace hitems, if_neg hsome]
    rfl
  · rw [outcome_loadDirectory, outcome_loadDirectory, directoryEffect_of_sameButOrder hsame]

/-- The second of three configuration files cannot be read. The file behind it is not loaded, nor are a
directory and a file that are named otherwise, in whatever order all of them are listed. -/
theorem loading_appends_failed :
    let document (name : String) : Value := .object [("variable", .object [(name, .null)])]
    let formats : Formats := ⟨fun text => some (document text), fun _ => none⟩
    let items : List (String × Bool) :=
      [("c.tf", true), ("b.tf.json", true), ("notes.txt", true), ("d.tf", false), ("a.tf", true)]
    let files : FileSystem Id :=
      { resolve := fun place path => some (place ++ [path])
        list := fun _ => some items
        read := fun place => some (place.getLastD "").toUTF8 }
    let others : FileSystem Id := { files with list := fun _ => some items.reverse }
    let before : Documents := Documents.empty.insert (document "z") none
    let after : Documents := before.insert (document "a.tf") (some "/infra/a.tf")
    files.resolve [] "infra" = some ["infra"] ∧ files.list ["infra"] = some items ∧
      SameButOrder files others ∧
      outcome (loadDirectory others formats [] "infra") before = (.error .notJson, after) ∧
      LoadsInOrder files formats ["infra"] ["a.tf", "b.tf.json", "c.tf"] before (.error .notJson)
        after ∧
      outcome (loadFile files formats ["infra"] "b.tf.json") after = (.error .notJson, after) ∧
      (Checked.Documents.ofInserts (insertedBy files formats []
        [.insert (document "z") none, .loadDirectory "infra", .loadFile "infra/b.tf.json"])).declared?
        = some [⟨none, "var.z", .null⟩, ⟨some "/infra/a.tf", "var.a.tf", .null⟩] := by
  intro document formats items files others before after
  have hresolve : files.resolve [] "infra" = some ["infra"] := rfl
  have hlist : files.list ["infra"] = some items := rfl
  have hsame : SameButOrder files others :=
    ⟨rfl, fun _ => .some (List.reverse_perm items).symm, rfl⟩
  have hnames : configurationNames items = ["a.tf", "b.tf.json", "c.tf"] :=
    List.Perm.eq_of_pairwise (fun a b _ _ => le_antisymm) pairwise_configurationNames (by decide)
      (configurationNames_perm_filter.trans (by decide))
  have heffect : directoryEffect files formats [] "infra"
      = ⟨[(document "a.tf", some "/infra/a.tf")], .error .notJson⟩ := by
    rw [directoryEffect_of_list hresolve hlist, hnames]
    rfl
  have houtcome : outcome (loadDirectory files formats [] "infra") before
      = (.error .notJson, after) := by
    rw [outcome_loadDirectory, heffect]
    rfl
  obtain ⟨-, hrun, -, hdirectory, horder⟩ := loading_appends files formats []
  obtain ⟨-, hchecked⟩ := (hrun _).2.2.2
  obtain ⟨-, -, -, -, hloads⟩ := hdirectory "infra" ["infra"] items before hresolve hlist
  obtain ⟨result, left, hloads, heq⟩ := hloads (by rw [hnames]; exact List.cons_ne_nil _ _)
  obtain ⟨rfl, rfl⟩ := Prod.mk.inj (houtcome.symm.trans heq)
  rw [hnames] at hloads
  have hfile : outcome (loadFile files formats ["infra"] "b.tf.json") after
      = (.error .notJson, after) := rfl
  refine ⟨hresolve, hlist, hsame, (horder others hsame "infra" before).trans houtcome, hloads, hfile,
    hchecked.trans (congrArg some ?_)⟩
  rw [performAll_eq_insertAll, insertedBy, List.flatMap_cons, List.flatMap_cons, Operation.effect,
    Operation.effect, heffect]
  rfl

end ConfigRefs.Configuration
