import EventSchema.Proofs.Placement
import EventSchema.Proofs.Runs

/-!
Output folders that overlap. Paths are compared as they are spelled, and the two output folders are
walked one after the other. If one folder leads into the other, an orphan can be found twice, and
pruning ends when it comes to it again. If the spellings do not show that the folders overlap, a
file that was just written can be found under another path, and is taken for an orphan.
-/

set_option autoImplicit false

namespace EventSchema

namespace Disk

open FileTree Outcome

variable {t : FileTree} {o : OutputFolders} {files : List Artifact}

namespace OutputFolders

/-- The two folders are spelled alike, or neither is at or below the place of the other. -/
def Separate (o : OutputFolders) : Prop :=
  o.backend.names = o.frontend.names ∨
    (¬ o.backend.place <+: o.frontend.place ∧ ¬ o.frontend.place <+: o.backend.place)

instance (o : OutputFolders) : Decidable o.Separate :=
  inferInstanceAs (Decidable (_ ∨ _))

/-- If one folder is at or below the place of the other, its spelling goes on from that of the
other. -/
def ShowsOverlap (o : OutputFolders) : Prop :=
  ∀ a b rel, (o.folder a).place = (o.folder b).place ++ rel →
    (o.folder a).names = (o.folder b).names ++ rel

/-- From an output folder the file has a path that can be opened, and that is not spelled like the
path of any file of the run. -/
def Strays (o : OutputFolders) (t : FileTree) (files : List Artifact) (file : Artifact) : Prop :=
  ∃ root ∈ o.roots t, ∃ rel, rel ≠ [] ∧ root.place ++ rel = (o.pathOf file).place ∧
    checkSpelling (rel.foldl Path.child root) = .ok () ∧
    ∀ other ∈ files, (o.pathOf other).names ≠ root.names ++ rel

end OutputFolders

section Nodup

variable {stale : List StaleFile}

end Nodup

section Sample

def projectTree : FileTree :=
  ⟨[(["out"], .folder), (["out", "web"], .folder), (["schema"], .folder), (["x"], .folder)]⟩

def leftoverTree : FileTree :=
  projectTree.put ["out", "web", "old.ts"] (.text (Artifact.header ++ "\n"))

theorem proper_projectTree : projectTree.Proper where
  sorted := by decide
  rooted := by simp [projectTree, FileTree.get?, List.lookup]
  names := by simp +decide [projectTree, FileTree.IsName]

theorem proper_leftoverTree : leftoverTree.Proper := by
  refine proper_projectTree.put ?_ ?_ ?_
  · simp [projectTree, FileTree.get?, List.lookup]
  · simp [projectTree, FileTree.get?, List.lookup]
  · simp +decide [FileTree.IsName]

theorem not_read_projectTree (path : Path) (content : String) :
    projectTree.read path ≠ .ok content := by
  intro hr
  have hm := proper_projectTree.mem_entries_of_file (read_eq_ok_iff.1 hr).2 (by simp)
  simp [projectTree] at hm

def detourFolders : OutputFolders :=
  ⟨⟨["", "x"]⟩, ⟨["", "x", "..", "out"]⟩⟩

def nestedFolders : OutputFolders :=
  ⟨⟨["", "out"]⟩, ⟨["", "out", "web"]⟩⟩

def aliasFolders : OutputFolders :=
  ⟨⟨["", "out"]⟩, ⟨["", "x", "..", "out"]⟩⟩

theorem separate_detourFolders : detourFolders.Separate := by
  simp [OutputFolders.Separate, detourFolders, Path.names, Path.place, Path.isIdle, Path.step]

end Sample

section Kept

variable {u v : FileTree} {stale : List StaleFile}

theorem place_pathOf (ha : AreArtifacts files) {file : Artifact} (hf : file ∈ files) :
    (o.pathOf file).place = (o.folder file.target).place ++ (Path.ofText file.path).pieces := by
  have hn := ha.names file hf
  rw [OutputFolders.pathOf, Path.place_join (isAbsolute_of_areNames hn), names_of_areNames hn,
    Path.foldl_step fun piece hp => (hn.2 piece hp).isIdle.2]

/-- A file of the run is taken for an orphan just if it strays. -/
theorem mem_orphan_places_iff (hu : u.Proper) (hs : staleFiles u o files = .ok stale)
    {file : Artifact} (hg : u.get? (o.pathOf file).place = some (.text file.content))
    (hheader : isGenerated file.content = true) :
    (o.pathOf file).place ∈ (orphanPaths stale).map Path.place ↔ o.Strays u files file := by
  simp only [List.mem_map, mem_orphanPaths_iff hu hs]
  constructor
  · rintro ⟨path, ⟨⟨content, root, hroot, rel, hrel, hfound, -, rfl, hspelled⟩, hnew⟩, hplace⟩
    obtain ⟨hnames, hbelow⟩ := hu.spells_child hfound root
    rw [hnames] at hnew
    exact ⟨root, hroot, rel, hrel, hbelow.symm.trans hplace, hspelled, hnew⟩
  · rintro ⟨root, hroot, rel, hrel, hplace, hspelled, hnew⟩
    rw [← hplace] at hg ⊢
    obtain ⟨hnames, hbelow⟩ := hu.spells_child hg root
    rw [← hnames] at hnew
    exact ⟨rel.foldl Path.child root,
      ⟨⟨file.content, root, hroot, rel, hrel, hg, hheader, rfl, hspelled⟩, hnew⟩, hbelow⟩

theorem read_of_pruneOrphans (hu : u.Proper) (ha : AreArtifacts files)
    (hw : ∀ file ∈ files, u.locate (o.pathOf file) = .ok (o.pathOf file).place ∧
      u.fileAt (o.pathOf file).place = some (.text file.content)) {removed : List Path}
    (h : pruneOrphans u o files = (v, .ok removed)) {file : Artifact} (hf : file ∈ files) :
    v.read (o.pathOf file) = .ok file.content ↔ ¬ o.Strays v files file := by
  obtain ⟨stale, hs, hloses⟩ := loses_of_pruneOrphans hu h
  obtain ⟨hl, hfile⟩ := hw file hf
  have hg := (fileAt_eq_some_iff.1 hfile).1
  have hstrays : o.Strays v files file ↔ o.Strays u files file := by
    rw [OutputFolders.Strays, OutputFolders.Strays, roots_congr hloses.folders]
  rw [read_eq_ok_iff, locate_congr hloses.folders, and_iff_right hl, hloses.get, hstrays,
    ← mem_orphan_places_iff hu hs hg (ha.generated file hf)]
  split
  · next hm => simp [hm]
  · next hm => simp [hm, hg]

namespace OutputFolders

theorem not_strays (ho : o.ShowsOverlap) (ha : AreArtifacts files) {file : Artifact}
    (hf : file ∈ files) (t : FileTree) : ¬ o.Strays t files file := by
  rintro ⟨root, hroot, rel, -, hplace, -, hnew⟩
  obtain ⟨⟨target, rfl⟩, -⟩ := mem_roots hroot
  have hnames : (o.pathOf file).names = (o.folder file.target).names ++ _ := locationOf_eq ha hf
  rw [place_pathOf ha hf] at hplace
  refine hnew file hf ?_
  -- Both folders are above the file, so one of them is at or below the other.
  rcases List.append_eq_append_iff.1 hplace with ⟨between, hfolder, hrel⟩ | ⟨between, hfolder, hrel⟩
  · rw [hnames, ho _ _ between hfolder, hrel, List.append_assoc]
  · rw [hnames, ho _ _ between hfolder, hrel, List.append_assoc]

theorem showsOverlap_of_isDirect (h : ∀ target, (o.folder target).IsDirect) : o.ShowsOverlap := by
  intro a b rel hplace
  rwa [(h a).place_eq, (h b).place_eq] at hplace

theorem Separate.showsOverlap (h : o.Separate) : o.ShowsOverlap := by
  intro a b rel hplace
  have hnames : (o.folder a).names = (o.folder b).names := by
    have hbelow : (o.folder b).place <+: (o.folder a).place := ⟨rel, hplace.symm⟩
    cases a <;> cases b <;> simp only [folder] at hbelow ⊢
    · exact h.resolve_right fun hn => hn.2 hbelow
    · exact (h.resolve_right fun hn => hn.1 hbelow).symm
  have hrel : rel = [] := by
    rw [Path.place, Path.place, hnames] at hplace
    simpa using hplace
  rw [hnames, hrel, List.append_nil]

end OutputFolders

end Kept

end Disk

section Places

open Disk

theorem IsPlainName.slash_not_mem {name : String} (h : IsPlainName name) : '/' ∉ name.toList := by
  intro hm
  rcases h.2 _ hm with hc | hc | hc
  · exact absurd hc (by decide)
  · exact absurd hc (by decide)
  · exact absurd hc (by decide)

theorem Artifact.IsSpelled.getLast?_pieces {ids : List String} {file : Artifact}
    (h : file.IsSpelled ids) :
    ∃ stem, (Path.ofText file.path).pieces.getLast? = some (stem ++ file.target.extension) := by
  obtain ⟨stem, hstem, hpath⟩ := h
  have hname : '/' ∉ (stem ++ file.target.extension).toList := by
    cases file.target <;> simp [Target.extension, hstem.slash_not_mem]
  refine ⟨stem, ?_⟩
  rcases hpath with hpath | ⟨id, -, hid, hpath⟩
  · rw [hpath, Path.pieces_ofText_name hname]
    rfl
  · rw [hpath, Path.pieces_ofText_slash hid.slash_not_mem hname]
    rfl

/-- Wherever the output folders are, no two files are written to one place: files of different
targets have different endings. -/
theorem CommandLine.Plan.IsSound.nodup_places {plan : CommandLine.Plan} (h : plan.IsSound)
    (o : OutputFolders) : (plan.files.map fun file => (o.pathOf file).place).Nodup := by
  have ha := h.areArtifacts
  refine List.Nodup.map_on (fun a hma b hmb he => ?_) (.of_map _ ha.distinct)
  rw [place_pathOf ha hma, place_pathOf ha hmb] at he
  obtain ⟨stem, hstem⟩ := (SchemaSet.isSpelled_of_generate h.generated hma).getLast?_pieces
  obtain ⟨other, hother⟩ := (SchemaSet.isSpelled_of_generate h.generated hmb).getLast?_pieces
  have hlast := congrArg List.getLast? he
  rw [List.getLast?_append_of_ne_nil _ (ha.names a hma).1,
    List.getLast?_append_of_ne_nil _ (ha.names b hmb).1, hstem, hother, Option.some.injEq] at hlast
  have htarget : a.target = b.target := by
    cases hta : a.target <;> cases htb : b.target <;> simp only [hta, htb] at hlast ⊢
    · exact absurd hlast.symm (script_ne_rust other stem)
    · exact absurd hlast (script_ne_rust stem other)
  rw [htarget] at he
  exact List.inj_on_of_nodup_map ha.distinct hma hmb (List.append_cancel_left he)

end Places

namespace CommandLine.Plan

open Disk Outcome

variable {t u : FileTree}

/-- After a run that prunes and succeeds, a file of the run can be read back just if it does not
stray. None does if the spellings of the output folders show where they overlap. -/
theorem pruned_run_keeps_files (ht : t.Proper) {cwd : Path} {elapsed : String} {paths : PathOptions}
    (h : (CommandLine.generate t cwd elapsed paths true).problem = none) :
    ∃ plan, load t cwd paths = .ok plan ∧
      (∀ file ∈ plan.files,
        (CommandLine.generate t cwd elapsed paths true).tree.read
            (plan.settings.output.pathOf file) = .ok file.content ↔
          ¬ plan.settings.output.Strays (CommandLine.generate t cwd elapsed paths true).tree
            plan.files file) ∧
      (plan.settings.output.ShowsOverlap → ∀ file ∈ plan.files,
        (CommandLine.generate t cwd elapsed paths true).tree.read
          (plan.settings.output.pathOf file) = .ok file.content) := by
  obtain ⟨plan, removed, hl, hsound, ha⟩ := apply_of_generate ht h
  obtain ⟨made, hw, hpruned⟩ := apply_eq_ok ha
  obtain ⟨hmade, hwritten, -⟩ := writeFiles_ok ht (hsound.nodup_places _) hw
  have hkept := fun file (hf : file ∈ plan.files) =>
    read_of_pruneOrphans hmade hsound.areArtifacts hwritten hpruned hf
  exact ⟨plan, hl, hkept, fun ho file hf => (hkept file hf).2
    (OutputFolders.not_strays ho hsound.areArtifacts hf _)⟩

section Sample

def foldersAt (backend frontend : String) : PathOptions :=
  { backendFolder := some backend, frontendFolder := some frontend }

/-- A run in the root, of a schema without modules, that succeeds and leaves this tree. -/
structure Ran (t : FileTree) (backend frontend : String) (o : OutputFolders) (u : FileTree) :
    Prop where
  loaded : load t ⟨["", ""]⟩ (foldersAt backend frontend) = .ok (emptyPlan o)
  succeeded :
    (CommandLine.generate t ⟨["", ""]⟩ "" (foldersAt backend frontend) true).problem = none
  left : (CommandLine.generate t ⟨["", ""]⟩ "" (foldersAt backend frontend) true).tree = u

theorem ran_of_apply {backend frontend : String} {o : OutputFolders} (removed : List Path)
    (h : (Settings.resolve t ⟨["", ""]⟩ (foldersAt backend frontend)).toOption =
        some (emptyPlan o).settings ∧
      (loadSchema t (emptyPlan o).settings.schemaFolder).toOption = some ⟨[]⟩ ∧
      (((emptyPlan o).apply t true).1, ((emptyPlan o).apply t true).2.toOption) =
        (u, some removed)) : Ran t backend frontend o u := by
  obtain ⟨hresolve, hschema, hpair⟩ := h
  have hr := eq_ok_of_toOption hresolve
  have hs := eq_ok_of_toOption hschema
  have ha := pair_eq_ok_of_toOption hpair
  have hg : SchemaSet.generate (emptyPlan o).settings.config ⟨[]⟩ = .ok (emptyPlan o).files :=
    (runsIn_emptyPlan o).generated
  have hl : load t ⟨["", ""]⟩ (foldersAt backend frontend) = .ok (emptyPlan o) := by
    simp only [load, loadSettings, hr, hs, hg, Except.mapError, bind, Except.bind]
    rfl
  exact ⟨hl, by simp [CommandLine.generate, hl, ha], by simp [CommandLine.generate, hl, ha]⟩

/-- One folder in the other, folders beside each other, and two spellings of one folder: there what
was written is found under the other spelling, and taken away. -/
theorem sample_runs :
    Ran projectTree "out" "out/web" nestedFolders
      (projectTree.put ["out", "mod.rs"] (.text (Glue.treeRoot []).content)) ∧
    Ran leftoverTree "x" "x/../out" detourFolders
      (projectTree.put ["x", "mod.rs"] (.text (Glue.treeRoot []).content)) ∧
    Ran projectTree "out" "x/../out" aliasFolders projectTree := by
  refine ⟨ran_of_apply [] ?_, ran_of_apply [⟨["", "x", "..", "out", "web", "old.ts"]⟩] ?_,
    ran_of_apply [⟨["", "x", "..", "out", "mod.rs"]⟩] ?_⟩
  · decide +kernel
  · decide +kernel
  · decide +kernel

theorem pruned_run_keeps_files_project :
    (∀ file ∈ (emptyPlan nestedFolders).files,
      (CommandLine.generate projectTree ⟨["", ""]⟩ "" (foldersAt "out" "out/web") true).tree.read
        (nestedFolders.pathOf file) = .ok file.content) ∧
    ∀ file ∈ (emptyPlan detourFolders).files,
      (CommandLine.generate leftoverTree ⟨["", ""]⟩ "" (foldersAt "x" "x/../out") true).tree.read
        (detourFolders.pathOf file) = .ok file.content := by
  obtain ⟨hnested, hdetour, -⟩ := sample_runs
  have hdirect : ∀ target, (nestedFolders.folder target).IsDirect := by
    unfold Path.IsDirect
    intro target
    cases target <;> decide
  constructor
  · obtain ⟨plan, hl, -, hkept⟩ := pruned_run_keeps_files proper_projectTree hnested.succeeded
    obtain rfl := Except.ok.inj (hnested.loaded.symm.trans hl)
    rw [(runsIn_emptyPlan nestedFolders).output] at hkept
    exact hkept (OutputFolders.showsOverlap_of_isDirect hdirect)
  · obtain ⟨plan, hl, -, hkept⟩ := pruned_run_keeps_files proper_leftoverTree hdetour.succeeded
    obtain rfl := Except.ok.inj (hdetour.loaded.symm.trans hl)
    rw [(runsIn_emptyPlan detourFolders).output] at hkept
    exact hkept separate_detourFolders.showsOverlap

/-- A run that succeeds and leaves none of its files, as the folder has two spellings. -/
theorem pruned_run_loses_files : projectTree.Proper ∧
    (CommandLine.generate projectTree ⟨["", ""]⟩ "" (foldersAt "out" "x/../out") true).problem =
      none ∧
    ∃ plan, load projectTree ⟨["", ""]⟩ (foldersAt "out" "x/../out") = .ok plan ∧
      plan.files ≠ [] ∧ ∀ file ∈ plan.files,
        (CommandLine.generate projectTree ⟨["", ""]⟩ "" (foldersAt "out" "x/../out")
          true).tree.read (plan.settings.output.pathOf file) ≠ .ok file.content := by
  obtain ⟨-, -, halias⟩ := sample_runs
  refine ⟨proper_projectTree, halias.succeeded, _, halias.loaded, ?_, fun file hf => ?_⟩
  · simp [emptyPlan, ofSchema, Glue.files]
  · rw [halias.left]
    exact not_read_projectTree _ _

end Sample

end CommandLine.Plan

end EventSchema
