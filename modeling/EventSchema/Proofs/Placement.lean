import EventSchema.Proofs.Items
import EventSchema.Proofs.Prune

/-!
Where generated files go. A path is a file name, or the id of a module and a file name, all of them
plain; so it leads down from the output folder of its target, no two files share a path, and each
file can be told from hand-written ones by its first line.
-/

set_option autoImplicit false

namespace EventSchema

open Disk (OutputFolders)

def Target.extension : Target → String
  | .backend => ".rs"
  | .frontend => ".ts"

def IsPlainName (name : String) : Prop :=
  name ≠ "" ∧ ∀ c ∈ name.toList, c.isLower = true ∨ c.isDigit = true ∨ c = '_'

theorem IsPlainName.of_all {name : String} (hn : name ≠ "")
    (h : name.toList.all Check.isModuleIdChar = true) : IsPlainName name := by
  simp only [List.all_eq_true, Check.isModuleIdChar, Bool.or_eq_true, beq_iff_eq, or_assoc] at h
  exact ⟨hn, h⟩

theorem IsPlainName.append {a b : String} (ha : IsPlainName a) (hb : IsPlainName b) :
    IsPlainName (a ++ b) := by
  refine ⟨by simp [ha.1], ?_⟩
  rw [String.toList_append, List.forall_mem_append]
  exact ⟨ha.2, hb.2⟩

theorem Check.isPlainName_of_isModuleId {id : String} (h : Check.isModuleId id = true) :
    IsPlainName id := by
  unfold Check.isModuleId at h
  split at h
  · cases h
  · next c rest he =>
    simp only [Bool.and_eq_true] at h
    refine .of_all ?_ ?_
    · rintro rfl
      cases he
    · simp [he, isModuleIdChar, h.1.1.1, h.1.1.2]

/-- A plain file name with the ending of its target, or one in the folder of a module. -/
def Artifact.IsSpelled (ids : List String) (file : Artifact) : Prop :=
  ∃ stem, IsPlainName stem ∧ (file.path = stem ++ file.target.extension ∨
    ∃ id ∈ ids, IsPlainName id ∧ file.path = id ++ "/" ++ (stem ++ file.target.extension))

structure Artifact.IsPlaced (ids : List String) (file : Artifact) : Prop where
  spelled : file.IsSpelled ids
  relative : (Disk.Path.ofText file.path).isAbsolute = false
  /-- The file is written below the folder of its target, without steps up. -/
  inside : ∀ o : OutputFolders, ∃ names : List String, names ≠ [] ∧ ".." ∉ names ∧
    o.locationOf file = (o.folder file.target).names ++ names
  headed : (Text.lines file.content.toList).head? = some Artifact.header.toList
  recognized : Disk.isGenerated file.content = true

namespace Section

theorem isPlainName_stem (part : Section) : IsPlainName part.stem := by
  cases part <;> exact .of_all (by decide) (by decide)

theorem isSpelled_file {ids : List String} {id text : String} (hm : id ∈ ids)
    (h : IsPlainName id) (part : Section) :
    (⟨part.target, part.path id, text⟩ : Artifact).IsSpelled ids := by
  have hmark : IsPlainName "_" := .of_all (by decide) (by decide)
  have hstem := isPlainName_stem part
  cases part with
  | types | commands | events | rest =>
    refine ⟨_, hstem, .inr ⟨id, hm, h, ?_⟩⟩
    simp [path, target, Target.extension, String.append_assoc]
  | client | commandForms =>
    refine ⟨_, (h.append hmark).append hstem, .inl ?_⟩
    simp [path, target, Target.extension]

end Section

theorem Glue.isSpelled_of_mem {layout : Layout} {modules : List (String × List Section)}
    {ids : List String} (hmem : ∀ m ∈ modules, m.1 ∈ ids) (hids : ∀ id ∈ ids, IsPlainName id)
    {file : Artifact} (h : file ∈ Glue.files layout modules) : file.IsSpelled ids := by
  cases layout with
  | tree =>
    have hstem : IsPlainName "mod" := .of_all (by decide) (by decide)
    rcases List.mem_cons.1 h with rfl | h
    · exact ⟨"mod", hstem, .inl rfl⟩
    · obtain ⟨m, hm, rfl⟩ := List.mem_map.1 h
      refine ⟨"mod", hstem, .inr ⟨m.1, hmem m hm, hids _ (hmem m hm), ?_⟩⟩
      simp [treeModule, Target.extension, String.append_assoc]
  | wrapper =>
    rw [List.mem_singleton.1 h]
    exact ⟨"eventkit_generated", .of_all (by decide) (by decide), .inl rfl⟩

namespace SchemaSet

variable {config : Config} {s : SchemaSet} {files : List Artifact}

theorem isSpelled_of_generate (h : s.generate config = .ok files) {file : Artifact}
    (hf : file ∈ files) : file.IsSpelled (s.modules.map SchemaModule.id) := by
  have hids : ∀ id ∈ s.modules.map SchemaModule.id, IsPlainName id := by
    refine List.forall_mem_map.2 fun m hm => ?_
    exact Check.isPlainName_of_isModuleId (isModuleId_of_generate h hm)
  obtain ⟨emitted, he, rfl⟩ := generate_eq h
  rcases List.mem_append.1 hf with hf | hf
  · obtain ⟨-, rfl⟩ := emits_of_emit he
    obtain ⟨m, hm, hf⟩ := List.mem_flatMap.1 hf
    obtain ⟨part, -, text, -, rfl⟩ := SchemaModule.mem_sectionFiles.1 hf
    have hid : m.id ∈ s.modules.map SchemaModule.id := List.mem_map_of_mem hm
    exact Section.isSpelled_file hid (hids _ hid) part
  · refine Glue.isSpelled_of_mem (fun x hx => ?_) hids hf
    obtain ⟨id, hid, rfl⟩ := List.mem_map.1 hx
    exact Text.mem_sortNames.1 hid

/-- Generated files have paths of their own and keep to their output folders, and their headers
tell them from other files. -/
theorem generated_files_placed (h : s.generate config = .ok files)
    (hids : (s.modules.map SchemaModule.id).Nodup) :
    (files.map fun file => (file.target, file.path)).Nodup ∧
      ∀ file ∈ files, file.IsPlaced (s.modules.map SchemaModule.id) := by
  have ha : Disk.AreArtifacts files := {
    names := fun _ hf => areNames_of_generate h hf
    distinct := pieces_nodup_of_generate h hids
    generated := isGenerated_of_generate h }
  refine ⟨Artifact.places_nodup (paths_nodup_of_generate h hids), fun file hf => ?_⟩
  have hn := ha.names file hf
  exact {
    spelled := isSpelled_of_generate h hf
    relative := Disk.isAbsolute_of_areNames hn
    inside := fun o => ⟨_, hn.1, fun hup => (hn.2 _ hup).isIdle.2 rfl, Disk.locationOf_eq ha hf⟩
    headed := Disk.isGenerated_iff.1 (ha.generated file hf)
    recognized := ha.generated file hf }

end SchemaSet

namespace Sample

def accounts : SchemaModule where
  id := "accounts"
  types := { endpoints := [⟨.get, "/", "list", "public", none, none, none⟩] }
  commands := [⟨"account.open", "Open", "public", none, none, []⟩]
  events := [⟨"account.opened", []⟩]

def books : SchemaModule where
  id := "books"
  types := { types := [⟨"Book", .node "object" none (some []) false⟩] }

theorem exists_files (layout : Layout) :
    ∃ files, SchemaSet.generate { layout } ⟨[books, accounts]⟩ = .ok files := by
  have hmodules : ∀ m ∈ [books, accounts], (m.check ⟨[books, accounts]⟩).isOk = true := by
    decide +kernel
  refine SchemaSet.generate_of_drafts _ (SchemaSet.check_of_modules hmodules (by cbv)) ?_
  cases layout <;> decide +kernel

end Sample

theorem SchemaSet.generated_files_placed_accounts : ∃ tree wrapped : List Artifact,
    generate {} ⟨[Sample.books, Sample.accounts]⟩ = .ok tree ∧
    generate { layout := .wrapper } ⟨[Sample.books, Sample.accounts]⟩ = .ok wrapped ∧
    ∀ files ∈ [tree, wrapped], (files.map fun file => (file.target, file.path)).Nodup ∧
      ∀ file ∈ files, file.IsPlaced ["books", "accounts"] := by
  obtain ⟨tree, ht⟩ := Sample.exists_files .tree
  obtain ⟨wrapped, hw⟩ := Sample.exists_files .wrapper
  refine ⟨tree, wrapped, ht, hw, List.forall_mem_cons.2 ⟨?_, List.forall_mem_singleton.2 ?_⟩⟩
  · exact generated_files_placed ht (by decide)
  · exact generated_files_placed hw (by decide)

end EventSchema
