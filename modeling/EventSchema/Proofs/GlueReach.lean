import EventSchema.Proofs.GlueReader
import EventSchema.Proofs.Placement

/-!
What the joining files lead to. From the root of the tree one comes to a file for every module, and
from there to the files of its sections; the wrapper takes them in itself. Either way these are all
other files of the backend, each of them once.
-/

set_option autoImplicit false

namespace EventSchema

namespace Glue

def backendPaths (files : List Artifact) : List String :=
  (files.filter (·.target == .backend)).map Artifact.path

def mentionsAt? (files : List Artifact) (path : String) : Option (List Mention) :=
  (files.find? fun file => (file.target, file.path) == (.backend, path)).bind fun file =>
    mentions? file.content

def filedSections (files : List Artifact) (id : String) : List Section :=
  Section.backend.filter fun part => (backendPaths files).contains (part.path id)

/-- The joining files say that there are these modules, with the sections that have a file. -/
def Describes (files : List Artifact) (ids : List String) : Layout → Prop
  | .tree => mentionsAt? files "mod.rs" = some (ids.map fun id => .file [id]) ∧
    ∀ id ∈ ids, mentionsAt? files (id ++ "/mod.rs") =
      some ((filedSections files id).map fun part => .file [part.stem])
  | .wrapper => mentionsAt? files wrapperPath = some (ids.flatMap fun id =>
    .block [id] :: (filedSections files id).flatMap (sectionMentions id))

def paths (ids : List String) : Layout → List String
  | .tree => "mod.rs" :: ids.map (· ++ "/mod.rs")
  | .wrapper => [wrapperPath]

def Mention.declared? : Mention → Option String
  | .file [name] => some name
  | _ => none

/-- Where a file that is taken in is in the output folder. -/
def Mention.taken? : Mention → Option String
  | .included _ path => (after? "/" path.toList).map String.ofList
  | _ => none

def declaredIn? (files : List Artifact) (path : String) : Option (List String) :=
  (mentionsAt? files path).bind fun said => said.mapM Mention.declared?

/-- The paths that the joining files lead to. -/
def reached? (files : List Artifact) : Layout → Option (List String)
  | .tree => (declaredIn? files "mod.rs").bind fun ids =>
    (ids.mapM fun id => (declaredIn? files (id ++ "/mod.rs")).map fun stems =>
      stems.map fun stem => id ++ "/" ++ stem ++ ".rs").map List.flatten
  | .wrapper => (mentionsAt? files wrapperPath).map (·.filterMap Mention.taken?)

/-- The joining files name the modules in order and lead to all other files of the backend, to each
of them once and to nothing else. -/
structure Joins (files : List Artifact) (ids : List String) (layout : Layout) : Prop where
  sorted : ids.Pairwise (· < ·)
  describes : Describes files ids layout
  distinct : (backendPaths files).Nodup
  reaches : ∃ reached, reached? files layout = some reached ∧
    (backendPaths files).Perm (paths ids layout ++ reached)

theorem path_of_mem_backend (id : String) {part : Section} (h : part ∈ Section.backend) :
    part.path id = id ++ "/" ++ part.stem ++ ".rs" := by
  cases part with
  | types | commands | events | rest => rfl
  | client | commandForms => simp [Section.backend] at h

theorem declaredIn?_of_mentions {α : Type} {files : List Artifact} {path : String}
    {name : α → String} {xs : List α}
    (h : mentionsAt? files path = some (xs.map fun x => .file [name x])) :
    declaredIn? files path = some (xs.map name) := by
  rw [declaredIn?, h, Option.bind_some, List.mapM_map]
  exact Outcome.mapM_eq_some_map fun _ _ => rfl

theorem filterMap_taken? (id : String) (parts : List Section) :
    (Mention.block [id] :: parts.flatMap (sectionMentions id)).filterMap Mention.taken? =
      parts.map fun part => id ++ "/" ++ part.stem ++ ".rs" := by
  have htaken : ∀ part : Section, (sectionMentions id part).filterMap Mention.taken? =
      [id ++ "/" ++ part.stem ++ ".rs"] := by
    intro part
    have hpath : ("/" ++ id ++ "/" ++ part.stem ++ ".rs").toList =
        "/".toList ++ (id ++ "/" ++ part.stem ++ ".rs").toList := by simp
    simp only [sectionMentions, List.filterMap_cons, Mention.taken?, hpath, after?_append,
      Option.map_some, String.ofList_toList, List.filterMap_nil]
  rw [List.filterMap_cons]
  simp [Mention.taken?, List.filterMap_flatMap, htaken, List.map_eq_flatMap]

theorem reached?_of_describes {files : List Artifact} {ids : List String} {layout : Layout}
    (h : Describes files ids layout) :
    reached? files layout =
      some (ids.flatMap fun id => (filedSections files id).map fun part => part.path id) := by
  have hpath : (fun id => (filedSections files id).map fun part => part.path id) =
      fun id => (filedSections files id).map fun part => id ++ "/" ++ part.stem ++ ".rs" :=
    funext fun id => List.map_congr_left fun part hp =>
      path_of_mem_backend id (List.mem_filter.1 hp).1
  rw [hpath]
  cases layout with
  | tree =>
    obtain ⟨hroot, hmodules⟩ := h
    have hids := declaredIn?_of_mentions hroot
    rw [List.map_id'] at hids
    have hparts : ∀ id ∈ ids, (declaredIn? files (id ++ "/mod.rs")).map (fun stems =>
        stems.map fun stem => id ++ "/" ++ stem ++ ".rs") =
          some ((filedSections files id).map fun part => id ++ "/" ++ part.stem ++ ".rs") := by
      intro id hid
      rw [declaredIn?_of_mentions (hmodules id hid), Option.map_some, List.map_map]
      rfl
    rw [reached?, hids, Option.bind_some, Outcome.mapM_eq_some_map hparts, List.flatMap_def]
    rfl
  | wrapper =>
    have hsaid : mentionsAt? files wrapperPath = some _ := h
    simp [reached?, hsaid, List.filterMap_flatMap, filterMap_taken?]

variable {layout : Layout} {modules : List (String × List Section)}

theorem target_of_mem {file : Artifact} (h : file ∈ files layout modules) :
    file.target = .backend := by
  cases layout with
  | tree =>
    rcases List.mem_cons.1 h with rfl | h
    · rfl
    · obtain ⟨m, -, rfl⟩ := List.mem_map.1 h
      rfl
  | wrapper =>
    rw [List.mem_singleton.1 h]
    rfl

theorem map_path_files (layout : Layout) (modules : List (String × List Section)) :
    (files layout modules).map Artifact.path = paths (modules.map Prod.fst) layout := by
  cases layout with
  | tree => simp [files, paths, treeRoot, treeModule, Function.comp_def]
  | wrapper => rfl

theorem backendPaths_append (emitted : List Artifact) :
    backendPaths (emitted ++ files layout modules) =
      backendPaths emitted ++ paths (modules.map Prod.fst) layout := by
  have hall : (files layout modules).filter (·.target == .backend) = files layout modules :=
    List.filter_eq_self.2 fun file hf => by simp [target_of_mem hf]
  rw [backendPaths, List.filter_append, List.map_append, hall, map_path_files]
  rfl

theorem path_not_mem_paths {ids : List String} (hids : ∀ id ∈ ids, '/' ∉ id.toList) {id : String}
    (hid : '/' ∉ id.toList) (part : Section) (layout : Layout) :
    part.path id ∉ paths ids layout := by
  have hpaths := map_path_files layout (ids.map fun id => (id, []))
  rw [List.map_map, Function.comp_def, List.map_id'] at hpaths
  rw [← hpaths]
  intro hm
  obtain ⟨file, hf, hp⟩ := List.mem_map.1 hm
  have hpieces := List.mem_map_of_mem (f := fun file => (Disk.Path.ofText file.path).pieces) hf
  rw [map_pieces_files layout (List.forall_mem_map.2 hids), hp,
    Section.pieces_ofText hid] at hpieces
  exact not_mem_pieces _ _ _ _ hpieces

theorem mentionsAt?_of_mem {files : List Artifact} (hn : (files.map Artifact.path).Nodup)
    {file : Artifact} (hf : file ∈ files) (ht : file.target = .backend) :
    mentionsAt? files file.path = mentions? file.content := by
  have hfind := Outcome.find?_of_mem (Artifact.places_nodup hn) hf
  rw [ht] at hfind
  rw [mentionsAt?, hfind, Option.bind_some]

end Glue

theorem Section.mem_backend {part : Section} (h : part.target = .backend) :
    part ∈ Section.backend := by
  cases part with
  | types | commands | events | rest => decide
  | client | commandForms => cases h

namespace SchemaSet

open Glue

variable {config : Config} {s : SchemaSet} {files : List Artifact}

theorem mem_backendPaths_of_emit {emitted : List Artifact} (h : s.emit config = .ok emitted)
    {path : String} : path ∈ backendPaths emitted ↔ ∃ m ∈ s.modules,
      ∃ part ∈ Section.backend, part.isPresent m = true ∧ part.path m.id = path := by
  obtain ⟨hemits, rfl⟩ := emits_of_emit h
  simp only [backendPaths, List.mem_map, List.mem_filter, List.mem_flatMap, beq_iff_eq]
  constructor
  · rintro ⟨file, ⟨⟨m, hm, hf⟩, ht⟩, rfl⟩
    obtain ⟨part, hp, text, -, rfl⟩ := SchemaModule.mem_sectionFiles.1 hf
    exact ⟨m, hm, part, Section.mem_backend ht, hp, rfl⟩
  · rintro ⟨m, hm, part, hb, hp, rfl⟩
    obtain ⟨text, hc⟩ := hemits m hm part hp
    have hf := SchemaModule.mem_sectionFiles.2 ⟨part, hp, text, hc, rfl⟩
    refine ⟨_, ⟨⟨m, hm, hf⟩, ?_⟩, rfl⟩
    simp only [Section.backend, List.mem_cons, List.not_mem_nil, or_false] at hb
    rcases hb with rfl | rfl | rfl | rfl <;> rfl

def sortedIds (s : SchemaSet) : List String :=
  Text.sortNames (s.modules.map SchemaModule.id)

theorem isModuleId_of_mem_sortedIds (h : s.generate config = .ok files) {id : String}
    (hid : id ∈ s.sortedIds) : Check.isModuleId id = true := by
  obtain ⟨m, hm, rfl⟩ := List.mem_map.1 (Text.mem_sortNames.1 hid)
  exact isModuleId_of_generate h hm

theorem slash_not_mem_sortedIds (h : s.generate config = .ok files) {id : String}
    (hid : id ∈ s.sortedIds) : '/' ∉ id.toList :=
  (Check.chars_of_isModuleId (isModuleId_of_mem_sortedIds h hid)).2

theorem map_fst_sections (s : SchemaSet) (files : List Artifact) :
    (Glue.sections s files).map Prod.fst = s.sortedIds := by
  simp [Glue.sections, sortedIds, Function.comp_def]

theorem backendPaths_of_emitted {emitted : List Artifact}
    (hf : files = emitted ++ Glue.files config.layout (Glue.sections s emitted)) :
    backendPaths files = backendPaths emitted ++ Glue.paths s.sortedIds config.layout := by
  rw [hf, backendPaths_append, map_fst_sections]

theorem sections_of_generate {emitted : List Artifact} (h : s.generate config = .ok files)
    (hf : files = emitted ++ Glue.files config.layout (Glue.sections s emitted)) :
    Glue.sections s emitted = s.sortedIds.map fun id => (id, filedSections files id) := by
  have hids : ∀ id ∈ s.sortedIds, '/' ∉ id.toList := fun id hid => slash_not_mem_sortedIds h hid
  refine List.map_congr_left fun id hid => ?_
  simp only [filedSections, Prod.mk.injEq, true_and]
  refine List.filter_congr fun part _ => ?_
  have hother := path_not_mem_paths hids (hids id hid) part config.layout
  rw [backendPaths_of_emitted hf, List.contains_append]
  simp [hother, backendPaths]

theorem describes_of_generate (h : s.generate config = .ok files)
    (hids : (s.modules.map SchemaModule.id).Nodup) :
    Glue.Describes files s.sortedIds config.layout := by
  obtain ⟨emitted, -, hf⟩ := generate_eq h
  have hglue : ∀ file ∈ Glue.files config.layout (Glue.sections s emitted),
      mentionsAt? files file.path = mentions? file.content := fun file hm =>
    mentionsAt?_of_mem (paths_nodup_of_generate h hids) (hf ▸ List.mem_append_right _ hm)
      (target_of_mem hm)
  rw [sections_of_generate h hf] at hglue
  have hnames : ∀ x ∈ s.sortedIds.map fun id => (id, filedSections files id),
      Naming.isIdentifier x.1 = true := List.forall_mem_map.2 fun id hid =>
    Backend.isIdentifier_of_isModuleId (isModuleId_of_mem_sortedIds h hid)
  cases hl : config.layout with
  | tree =>
    rw [hl] at hglue
    constructor
    · have hroot := hglue _ (List.mem_cons_self ..)
      rwa [mentions?_treeRoot hnames, List.map_map] at hroot
    · intro id hid
      have hmem := List.mem_map_of_mem (f := treeModule)
        (List.mem_map_of_mem (f := fun id => (id, filedSections files id)) hid)
      have hmodule := hglue _ (List.mem_cons_of_mem _ hmem)
      rwa [mentions?_treeModule] at hmodule
  | wrapper =>
    rw [hl] at hglue
    have hwrapper := hglue _ (List.mem_singleton_self _)
    rwa [mentions?_wrapper hnames, List.flatMap_map] at hwrapper

theorem paths_of_sections_nodup {ids : List String} (hids : ids.Nodup)
    (hnames : ∀ id ∈ ids, '/' ∉ id.toList) {parts : String → List Section}
    (hparts : ∀ id ∈ ids, (parts id).Nodup) :
    (ids.flatMap fun id => (parts id).map fun part => part.path id).Nodup := by
  have hkeyed : (ids.flatMap fun id => (parts id).map fun part => (id, part)).Nodup :=
    nodup_keyed (by rwa [List.map_id']) hparts
  have hpaths : (ids.flatMap fun id => (parts id).map fun part => part.path id) =
      (ids.flatMap fun id => (parts id).map fun part => (id, part)).map fun x => x.2.path x.1 := by
    simp [List.map_flatMap, Function.comp_def]
  have hname : ∀ x ∈ ids.flatMap fun id => (parts id).map fun part => (id, part),
      '/' ∉ x.1.toList := by
    intro x hx
    obtain ⟨id, hid, hx⟩ := List.mem_flatMap.1 hx
    obtain ⟨part, -, rfl⟩ := List.mem_map.1 hx
    exact hnames id hid
  rw [hpaths]
  exact List.Nodup.map_on (fun a ha b hb he => Section.path_inj (hname a ha) (hname b hb) he) hkeyed

theorem mem_backendPaths_emitted {emitted : List Artifact} (h : s.generate config = .ok files)
    (he : s.emit config = .ok emitted)
    (hf : files = emitted ++ Glue.files config.layout (Glue.sections s emitted)) {path : String} :
    path ∈ backendPaths emitted ↔ path ∈ s.sortedIds.flatMap fun id =>
      (filedSections files id).map fun part => part.path id := by
  have hnames : ∀ id ∈ s.sortedIds, '/' ∉ id.toList := fun id hid => slash_not_mem_sortedIds h hid
  have hsplit := backendPaths_of_emitted hf
  constructor
  · intro hp
    obtain ⟨m, hm, part, hb, -, rfl⟩ := (mem_backendPaths_of_emit he).1 hp
    have hfiled : part ∈ filedSections files m.id := by
      rw [filedSections, List.mem_filter, List.contains_iff_mem, hsplit]
      exact ⟨hb, List.mem_append_left _ hp⟩
    exact List.mem_flatMap.2
      ⟨m.id, Text.mem_sortNames.2 (List.mem_map_of_mem hm), List.mem_map_of_mem hfiled⟩
  · intro hp
    obtain ⟨id, hid, hp⟩ := List.mem_flatMap.1 hp
    obtain ⟨part, hpart, rfl⟩ := List.mem_map.1 hp
    have hany := List.contains_iff_mem.1 (List.mem_filter.1 hpart).2
    rw [hsplit, List.mem_append] at hany
    exact hany.resolve_right (path_not_mem_paths hnames (hnames id hid) part _)

/-- A file of the backend joins others or is that of a section, and every such path occurs once. -/
theorem backendPaths_perm_of_generate (h : s.generate config = .ok files)
    (hids : (s.modules.map SchemaModule.id).Nodup) :
    (backendPaths files).Nodup ∧
      (backendPaths files).Perm (Glue.paths s.sortedIds config.layout ++
        s.sortedIds.flatMap fun id => (filedSections files id).map fun part => part.path id) := by
  have hnodup : (backendPaths files).Nodup :=
    (paths_nodup_of_generate h hids).sublist (List.filter_sublist.map _)
  refine ⟨hnodup, ?_⟩
  obtain ⟨emitted, he, hf⟩ := generate_eq h
  rw [backendPaths_of_emitted hf] at hnodup ⊢
  refine List.perm_append_comm.trans (List.Perm.append_left _ ?_)
  -- Neither list has repeats, so it is enough that they have the same items.
  have hsections : (s.sortedIds.flatMap fun id =>
      (filedSections files id).map fun part => part.path id).Nodup :=
    paths_of_sections_nodup (Text.nodup_sortNames _) (fun id hid => slash_not_mem_sortedIds h hid)
      fun id _ => List.Nodup.filter _ (by decide)
  exact (List.perm_ext_iff_of_nodup hnodup.of_append_left hsections).2 fun _ =>
    mem_backendPaths_emitted h he hf

/-- The joining files name the modules in order, and lead from them to all other files of the
backend. -/
theorem glue_reaches_sections (h : s.generate config = .ok files)
    (hids : (s.modules.map SchemaModule.id).Nodup) :
    ∃ ids, ids.Perm (s.modules.map SchemaModule.id) ∧ Glue.Joins files ids config.layout := by
  have hdescribes := describes_of_generate h hids
  obtain ⟨hnodup, hperm⟩ := backendPaths_perm_of_generate h hids
  refine ⟨s.sortedIds, ?_, {
    sorted := Text.pairwise_sortNames _
    describes := hdescribes
    distinct := hnodup
    reaches := ⟨_, reached?_of_describes hdescribes, hperm⟩ }⟩
  exact (List.perm_ext_iff_of_nodup (Text.nodup_sortNames _) hids).2 fun _ => Text.mem_sortNames

theorem glue_reaches_sections_accounts : ∃ tree wrapped : List Artifact,
    generate {} ⟨[Sample.books, Sample.accounts]⟩ = .ok tree ∧
    generate { layout := .wrapper } ⟨[Sample.books, Sample.accounts]⟩ = .ok wrapped ∧
    Glue.Joins tree ["accounts", "books"] .tree ∧
    Glue.Joins wrapped ["accounts", "books"] .wrapper := by
  have hsorted : ∀ ids : List String, ids.Perm ["books", "accounts"] → ids.Pairwise (· < ·) →
      ids = ["accounts", "books"] := fun ids hp hs =>
    (hp.trans (List.Perm.swap _ _ _)).eq_of_pairwise (fun _ _ _ _ ha hb => (ha.asymm hb).elim) hs
      (by decide)
  obtain ⟨tree, ht⟩ := Sample.exists_files .tree
  obtain ⟨wrapped, hw⟩ := Sample.exists_files .wrapper
  obtain ⟨ids, hp, htree⟩ := glue_reaches_sections ht (by decide)
  obtain ⟨others, ho, hwrapped⟩ := glue_reaches_sections hw (by decide)
  refine ⟨tree, wrapped, ht, hw, ?_, ?_⟩
  · exact hsorted ids hp htree.sorted ▸ htree
  · exact hsorted others ho hwrapped.sorted ▸ hwrapped

end SchemaSet

end EventSchema
