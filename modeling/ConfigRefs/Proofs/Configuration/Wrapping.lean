import ConfigRefs.Configuration.Documents
import ConfigRefs.Proofs.Value.Address
import Mathlib.Data.List.Forall2

/-!
# Configuration: how the levels of blocks are wrapped

A level of blocks may be an object, or its entries may be spread over a list of any depth
(`IsLevel`). This concerns a document, the blocks of one type in it and, for resources and data, those
of one type of these, but not the bodies. `SameDocument` relates two documents that differ in nothing
else, and these declare the same things (`insert_of_sameDocument`).
-/

namespace ConfigRefs

namespace Value

/-- A value is a level of blocks with the given entries: an object, or a list of levels read from left
to right. Any other value has no entries. -/
inductive IsLevel : Value → Entries Value → Prop where
  | object (fields : List (String × Value)) : IsLevel (.object fields) fields
  | noItem : IsLevel (.array []) []
  | item {item : Value} {items : List Value} {first rest : Entries Value} :
    IsLevel item first → IsLevel (.array items) rest → IsLevel (.array (item :: items)) (first ++ rest)
  | scalar {value : Value} : value.isCompound = false → IsLevel value []

theorem IsLevel.entries_eq {value : Value} {level : Entries Value} (h : IsLevel value level) :
    value.entries = level := by
  induction h with
  | object fields => rfl
  | noItem => rfl
  | item _ _ ihItem ihItems =>
    rw [entries] at ihItems ⊢
    rw [entriesOfAll, ihItem, ihItems]
  | @scalar value hscalar =>
    cases value with
    | array _ | object _ => cases hscalar
    | _ => rfl

/-- Two levels have the same keys from left to right, and related values under them. -/
def SameLevel (related : String → Value → Value → Prop) (a b : Value) : Prop :=
  ∃ level other, IsLevel a level ∧ IsLevel b other ∧
    List.Forall₂ (fun entry entry' => entry.1 = entry'.1 ∧ related entry.1 entry.2 entry'.2) level other

/-- What is made from the entries of a level does not depend on how it is wrapped. -/
theorem SameLevel.flatMap_entries {related : String → Value → Value → Prop} {a b : Value}
    (h : SameLevel related a b) {α : Type} {f : String → Value → List α}
    (hf : ∀ key value other, related key value other → f key value = f key other) :
    (a.entries.flatMap fun entry => f entry.1 entry.2)
      = b.entries.flatMap fun entry => f entry.1 entry.2 := by
  obtain ⟨level, other, ha, hb, hrelated⟩ := h
  rw [ha.entries_eq, hb.entries_eq]
  clear ha hb
  induction hrelated with
  | nil => rfl
  | @cons entry entry' level other hentry _ ih =>
    obtain ⟨key, value⟩ := entry
    obtain ⟨key', value'⟩ := entry'
    obtain ⟨rfl, hvalue⟩ := hentry
    rw [List.flatMap_cons, List.flatMap_cons, hf key value value' hvalue, ih]

end Value

namespace Documents

open ConfigRefs.Value

/-- Two levels have the same bodies under the same labels. -/
def SameLabels : Value → Value → Prop := SameLevel fun _ body body' => body = body'

/-- The blocks of one type in two documents differ only in how levels are wrapped. Resources and data
have a level of types above that of the labels. -/
def SameBlocks (type : String) : Value → Value → Prop :=
  if type = "resource" ∨ type = "data" then SameLevel fun _ => SameLabels else SameLabels

/-- Two documents differ only in how levels of blocks are wrapped. -/
def SameDocument : Value → Value → Prop := SameLevel SameBlocks

theorem SameLabels.entries_eq {a b : Value} (h : SameLabels a b) : a.entries = b.entries := by
  have hsame := h.flatMap_entries (f := fun label body => [(label, body)])
    fun label _ _ hbody => by rw [hbody]
  rwa [List.flatMap_singleton', List.flatMap_singleton'] at hsame

theorem named_of_sameLabels (start : String) {a b : Value} (h : SameLabels a b) :
    named start a = named start b := by
  rw [named, named, h.entries_eq]

theorem typed_of_sameLevel (start : String → String) {a b : Value}
    (h : SameLevel (fun _ => SameLabels) a b) : typed start a = typed start b :=
  h.flatMap_entries (f := fun type labels => named (start type) labels)
    fun type _ _ hlabels => named_of_sameLabels (start type) hlabels

theorem declarationsOfBlocks_of_sameBlocks {type : String} {a b : Value} (h : SameBlocks type a b) :
    declarationsOfBlocks type a = declarationsOfBlocks type b := by
  by_cases hlevels : type = "resource" ∨ type = "data"
  · rw [SameBlocks, if_pos hlevels] at h
    rcases hlevels with rfl | rfl
    · exact typed_of_sameLevel id h
    · exact typed_of_sameLevel ("data." ++ ·) h
  · rw [SameBlocks, if_neg hlevels] at h
    obtain ⟨hresource, hdata⟩ := not_or.1 hlevels
    simp only [declarationsOfBlocks, if_neg hresource, if_neg hdata, named_of_sameLabels _ h]

/-- **Documents that differ only in how levels are wrapped declare the same**, in the same order. -/
theorem declarationsOf_of_sameDocument {a b : Value} (h : SameDocument a b) :
    declarationsOf a = declarationsOf b :=
  h.flatMap_entries (f := declarationsOfBlocks)
    fun _ _ _ hblocks => declarationsOfBlocks_of_sameBlocks hblocks

/-- **The encoding of declaration blocks does not matter.** Inserting either of two documents that
differ only in how levels are wrapped gives the same declarations in the same order, each with its
identifier, body and source, and so the same identifiers, index, references and dynamic blocks. -/
theorem insert_of_sameDocument (documents : Documents) (source : Option String) {a b : Value}
    (h : SameDocument a b) :
    (documents.insert a source).declarations = (documents.insert b source).declarations ∧
      (documents.insert a source).ids = (documents.insert b source).ids ∧
      (documents.insert a source).index = (documents.insert b source).index ∧
      (documents.insert a source).references = (documents.insert b source).references ∧
      (documents.insert a source).dynamicBlocks = (documents.insert b source).dynamicBlocks := by
  have hinsert : documents.insert a source = documents.insert b source := by
    rw [insert, insert, declarationsOf_of_sameDocument h]
  rw [hinsert]
  exact ⟨rfl, rfl, rfl, rfl, rfl⟩

/-- Every level of a document is split in another way, and the list that is a body stays one body. -/
theorem insert_of_sameDocument_split :
    let body : Value := .array [.object [("ami", .string "$\x7bvar.ami\x7d")]]
    let split : Value := .array [
      .object [("resource", .array [.object [("aws_instance", .array [
        .object [("web", body)], .null, .array [.object [("db", .null)]]])]])],
      .array [.string "note", .object [("variable", .object [("ami", .null)])]]]
    let merged : Value := .object [
      ("resource", .object [("aws_instance", .object [("web", body), ("db", .null)])]),
      ("variable", .array [.object [("ami", .null)]])]
    let documents := ofValue (.object [("module", .object [("vpc", .null)])])
    SameDocument split merged ∧
      (documents.insert split (some "main.tf.json")).declarations
        = (documents.insert merged (some "main.tf.json")).declarations ∧
      (documents.insert split (some "main.tf.json")).ids
        = ["module.vpc", "aws_instance.web", "aws_instance.db", "var.ami"] := by
  intro body split merged documents
  have hinstances : SameLabels
      (.array [.object [("web", body)], .null, .array [.object [("db", .null)]]])
      (.object [("web", body), ("db", .null)]) :=
    ⟨_, _, .item (.object _) (.item (.scalar rfl) (.item (.item (.object _) .noItem) .noItem)),
      .object _, .cons ⟨rfl, rfl⟩ (.cons ⟨rfl, rfl⟩ .nil)⟩
  have hresources : SameBlocks "resource"
      (.array [.object [("aws_instance", .array [
        .object [("web", body)], .null, .array [.object [("db", .null)]]])]])
      (.object [("aws_instance", .object [("web", body), ("db", .null)])]) :=
    ⟨_, _, .item (.object _) .noItem, .object _, .cons ⟨rfl, hinstances⟩ .nil⟩
  have hvariables : SameBlocks "variable" (.object [("ami", .null)])
      (.array [.object [("ami", .null)]]) :=
    ⟨_, _, .object _, .item (.object _) .noItem, .cons ⟨rfl, rfl⟩ .nil⟩
  have hsame : SameDocument split merged :=
    ⟨_, _, .item (.object _) (.item (.item (.scalar rfl) (.item (.object _) .noItem)) .noItem),
      .object _, .cons ⟨rfl, hresources⟩ (.cons ⟨rfl, hvariables⟩ .nil)⟩
  obtain ⟨hdeclarations, hids, -⟩ :=
    insert_of_sameDocument documents (some "main.tf.json") hsame
  exact ⟨hsame, hdeclarations, hids.trans (by decide)⟩

end Documents

end ConfigRefs
