import EventSchema.Disk.Output
import EventSchema.Proofs.Walks

/-!
What is out of date on disk, and what removing the orphans leaves. A file is reported just if it is
missing, differs from what would be generated, or is a generated one that no file of the run has
the path of. Paths are compared as they are spelled, so two orphans can be the same file: removing
them all succeeds just if they lie at different places.
-/

set_option autoImplicit false

namespace EventSchema.Disk

open FileTree Outcome

variable {t u : FileTree} {o : OutputFolders} {files : List Artifact}

section Roots

theorem mem_roots {root : Path} (h : root ∈ o.roots t) :
    (∃ target, root = o.folder target) ∧ t.isFolder root = true := by
  unfold OutputFolders.roots at h
  split at h
  · cases h
  · next hb _ =>
    rw [List.mem_singleton.1 h]
    exact ⟨⟨.backend, rfl⟩, hb⟩
  · next _ hf =>
    rw [List.mem_singleton.1 h]
    exact ⟨⟨.frontend, rfl⟩, hf⟩
  · next hb hf =>
    have hall : root = o.backend ∨ root = o.frontend := by
      split at h
      · exact .inr (List.mem_singleton.1 h)
      · split at h
        · simpa using h
        · simpa [or_comm] using h
    rcases hall with rfl | rfl
    · exact ⟨⟨.backend, rfl⟩, hb⟩
    · exact ⟨⟨.frontend, rfl⟩, hf⟩

theorem exists_root {target : Target} (h : t.isFolder (o.folder target) = true) :
    ∃ root ∈ o.roots t, root.names = (o.folder target).names := by
  unfold OutputFolders.roots
  cases target with
  | backend =>
    have hb : t.isFolder o.backend = true := h
    cases hf : t.isFolder o.frontend with
    | false => exact ⟨o.backend, by simp [hb], rfl⟩
    | true =>
      simp only [hb]
      split
      · next ha => exact ⟨o.frontend, by simp, (Path.alike_iff.1 ha).symm⟩
      · split
        · exact ⟨o.backend, by simp, rfl⟩
        · exact ⟨o.backend, by simp, rfl⟩
  | frontend =>
    have hf : t.isFolder o.frontend = true := h
    cases hb : t.isFolder o.backend with
    | false => exact ⟨o.frontend, by simp [hf], rfl⟩
    | true =>
      simp only [hf]
      split
      · exact ⟨o.frontend, by simp, rfl⟩
      · split
        · exact ⟨o.frontend, by simp, rfl⟩
        · exact ⟨o.frontend, by simp, rfl⟩

end Roots

namespace OutputFolders

/-- A generated file below an output folder that is there. Its path goes on from the folder, and
can be opened. -/
def Finds (o : OutputFolders) (t : FileTree) (path : Path) (content : String) : Prop :=
  ∃ root ∈ o.roots t, ∃ rel, rel ≠ [] ∧ t.get? (root.place ++ rel) = some (.text content) ∧
    isGenerated content = true ∧ path = rel.foldl Path.child root ∧ checkSpelling path = .ok ()

def Walkable (o : OutputFolders) (t : FileTree) : Prop :=
  ∀ root ∈ o.roots t, ∀ rel, t.get? (root.place ++ rel) = some .folder →
    checkSpelling (rel.foldl Path.child root) = .ok ()

end OutputFolders

section Found

variable {found : List (Path × String)} {path : Path} {content : String}

theorem visit_eq_some_iff {place path : Path} {entry : Entry} {content : String} :
    visit t (place, entry) = .ok (some (path, content)) ↔ entry ≠ .folder ∧
      t.read place = .ok content ∧ isGenerated content = true ∧ path = place := by
  have hfile : generatedFile? t place = some (path, content) ↔
      t.read place = .ok content ∧ isGenerated content = true ∧ path = place := by
    unfold generatedFile?
    split
    · next text hr =>
      rw [hr, Except.ok.injEq]
      constructor
      · intro h
        split at h
        · next hg =>
          cases h
          exact ⟨rfl, hg, rfl⟩
        · cases h
      · rintro ⟨rfl, hg, rfl⟩
        rw [if_pos hg]
    · next hr => simp [hr]
  cases entry with
  | folder => cases hs : checkSpelling place <;> simp [visit, hs]
  | text _ => simpa [visit] using hfile
  | binary _ => simpa [visit] using hfile

theorem mem_generatedFiles (ht : t.Proper) (h : generatedFiles t o = .ok found) :
    (path, content) ∈ found ↔ o.Finds t path content := by
  obtain ⟨visited, hv, h⟩ := bind_eq_ok.1 h
  cases h
  simp only [List.mem_filterMap, id_eq, exists_eq_right, mem_iff_of_mapM_eq_ok hv,
    List.mem_flatMap, Prod.exists]
  constructor
  · rintro ⟨place, entry, ⟨root, hroot, hmem⟩, hvisit⟩
    obtain ⟨hfile, hread, hheader, rfl⟩ := visit_eq_some_iff.1 hvisit
    have hfolder := (mem_roots hroot).2
    rcases (ht.mem_walk_iff hfolder).1 hmem with ⟨-, rfl⟩ | ⟨rel, hrel, hg, -, rfl⟩
    · exact absurd rfl hfile
    · obtain ⟨rfl, hs⟩ := (ht.read_below_iff hfolder hg).1 hread
      exact ⟨root, hroot, rel, hrel, hg, hheader, rfl, hs⟩
  · rintro ⟨root, hroot, rel, hrel, hg, hheader, rfl, hs⟩
    have hfolder := (mem_roots hroot).2
    refine ⟨rel.foldl Path.child root, .text content, ⟨root, hroot, ?_⟩, ?_⟩
    · have hup := hs
      rw [Path.foldl_child_eq _ hrel] at hup
      exact (ht.mem_walk_iff hfolder).2 (.inr ⟨rel, hrel, hg, checkSpelling_of_child hup, rfl⟩)
    · have hread := (ht.read_below_iff hfolder hg).2 ⟨rfl, hs⟩
      exact visit_eq_some_iff.2 ⟨by simp, hread, hheader, rfl⟩

theorem OutputFolders.Finds.read (h : o.Finds t path content) (ht : t.Proper) :
    t.read path = .ok content := by
  obtain ⟨root, hroot, rel, -, hg, -, rfl, hs⟩ := h
  exact (ht.read_below_iff (mem_roots hroot).2 hg).2 ⟨rfl, hs⟩

theorem visit_eq_ok_iff {entry : Entry} : (∃ result, visit t (path, entry) = .ok result) ↔
    (entry = .folder → checkSpelling path = .ok ()) := by
  cases entry with
  | folder => cases hs : checkSpelling path <;> simp [visit, hs]
  | text _ => simp [visit]
  | binary _ => simp [visit]

theorem generatedFiles_ok_iff (ht : t.Proper) :
    (∃ found, generatedFiles t o = .ok found) ↔ o.Walkable t := by
  have hvisits : (∃ found, generatedFiles t o = .ok found) ↔
      ∀ root ∈ o.roots t, ∀ path, (path, .folder) ∈ t.walk root → checkSpelling path = .ok () := by
    have hbind : (∃ found, generatedFiles t o = .ok found) ↔
        ∃ visited, ((o.roots t).flatMap t.walk).mapM (visit t) = .ok visited := by
      simp [generatedFiles, bind_eq_ok]
    rw [hbind, exists_mapM_eq_ok]
    simp only [List.mem_flatMap, Prod.forall, visit_eq_ok_iff]
    constructor
    · intro h root hroot path hm
      exact h path .folder ⟨root, hroot, hm⟩ rfl
    · rintro h path entry ⟨root, hroot, hm⟩ rfl
      exact h root hroot path hm
  rw [hvisits]
  constructor
  · -- A folder is visited if the one that it is in can be opened.
    intro h root hroot rel
    have hfolder := (mem_roots hroot).2
    induction rel using List.reverseRecOn with
    | nil => exact fun _ => h root hroot root ((ht.mem_walk_iff hfolder).2 (.inl ⟨rfl, rfl⟩))
    | append_singleton front name ih =>
      intro hg
      have hne : front ++ [name] ≠ [] := by simp
      have hup : t.get? (root.place ++ front) = some .folder :=
        ht.get?_of_append (List.cons_ne_nil name []) (by rwa [List.append_assoc])
      refine h root hroot _ ((ht.mem_walk_iff hfolder).2 (.inr ⟨_, hne, hg, ?_, rfl⟩))
      rw [List.dropLast_concat]
      exact ih hup
  · intro h root hroot path hm
    rcases (ht.mem_walk_iff (mem_roots hroot).2).1 hm with ⟨rfl, -⟩ | ⟨rel, -, hg, -, rfl⟩
    · exact h path hroot [] (by
        rw [List.append_nil]
        exact (isFolder_iff_place.1 (mem_roots hroot).2).2)
    · exact h root hroot rel hg

end Found

section Compared

variable {path : Path} {expected : String} {old : StaleFile}

theorem read_eq_missing_iff : t.read path = .error .missing ↔ t.find path = .error .missing := by
  unfold FileTree.read
  rw [bind_eq_error]
  refine or_iff_left ?_
  rintro ⟨found, -, he⟩
  split at he <;> cases he

theorem compareFile_eq_some_iff : compareFile t path expected = .ok (some old) ↔
    (t.read path = .error .missing ∧ old = ⟨path, .missing expected⟩) ∨
      ∃ actual, t.read path = .ok actual ∧ actual ≠ expected ∧
        old = ⟨path, .changed expected actual⟩ := by
  unfold compareFile
  split
  · next actual hr =>
    by_cases he : actual = expected
    · simp [hr, he]
    · simp [hr, he, Ne.symm he, eq_comm]
  · next hr => simp [hr, eq_comm]
  · next fault hne hr => simpa [hr] using fun hm => absurd hm hne

theorem compareFile_ok_iff : (∃ result, compareFile t path expected = .ok result) ↔
    ∀ fault, t.read path = .error fault → fault = .missing := by
  unfold compareFile
  split
  · next hr => simp [hr]
  · next hr => simp [hr]
  · next fault hne hr => simpa [hr] using hne

end Compared

section Stale

variable {stale : List StaleFile}

/-- The report of a file is right. -/
def IsStale (t : FileTree) (o : OutputFolders) (files : List Artifact) (old : StaleFile) : Prop :=
  match old.status with
  | .missing expected => t.find old.path = .error .missing ∧
      ∃ file ∈ files, o.pathOf file = old.path ∧ file.content = expected
  | .changed expected actual => t.read old.path = .ok actual ∧ actual ≠ expected ∧
      ∃ file ∈ files, o.pathOf file = old.path ∧ file.content = expected
  | .orphaned actual => o.Finds t old.path actual ∧
      ∀ file ∈ files, (o.pathOf file).names ≠ old.path.names

theorem mem_orphans_iff {found : List (Path × String)} {old : StaleFile} :
    old ∈ orphans o files found ↔ ∃ content, (old.path, content) ∈ found ∧
      (∀ file ∈ files, (o.pathOf file).names ≠ old.path.names) ∧ old.status = .orphaned content := by
  have hnew : ∀ path : Path, (!files.any fun file => (o.pathOf file).alike path) = true ↔
      ∀ file ∈ files, (o.pathOf file).names ≠ path.names := by
    simp [Path.alike_iff]
  obtain ⟨path, status⟩ := old
  simp only [orphans, List.mem_map, List.mem_filter, hnew, Prod.exists, StaleFile.mk.injEq]
  constructor
  · rintro ⟨p, content, ⟨hm, hf⟩, rfl, rfl⟩
    exact ⟨content, hm, hf, rfl⟩
  · rintro ⟨content, hm, hf, rfl⟩
    exact ⟨path, content, ⟨hm, hf⟩, rfl, rfl⟩

theorem mem_staleFiles_iff (ht : t.Proper) (h : staleFiles t o files = .ok stale)
    {old : StaleFile} : old ∈ stale ↔ IsStale t o files old := by
  obtain ⟨compared, hc, h⟩ := bind_eq_ok.1 h
  obtain ⟨found, hfound, h⟩ := bind_eq_ok.1 h
  cases h
  rw [List.mem_append, mem_orphans_iff]
  simp only [List.mem_filterMap, id_eq, exists_eq_right, mem_iff_of_mapM_eq_ok hc,
    compareFile_eq_some_iff, read_eq_missing_iff, mem_generatedFiles ht hfound]
  obtain ⟨path, status⟩ := old
  cases status with
  | missing expected =>
    simp only [IsStale, StaleFile.mk.injEq, Staleness.missing.injEq, reduceCtorEq, and_false,
      exists_false, or_false]
    constructor
    · rintro ⟨file, hf, hm, rfl, rfl⟩
      exact ⟨hm, file, hf, rfl, rfl⟩
    · rintro ⟨hm, file, hf, rfl, rfl⟩
      exact ⟨file, hf, hm, rfl, rfl⟩
  | changed expected actual =>
    simp only [IsStale, StaleFile.mk.injEq, Staleness.changed.injEq, reduceCtorEq, and_false,
      exists_false, or_false, false_or]
    constructor
    · rintro ⟨file, hf, other, hr, hne, rfl, rfl, rfl⟩
      exact ⟨hr, hne, file, hf, rfl, rfl⟩
    · rintro ⟨hr, hne, file, hf, rfl, rfl⟩
      exact ⟨file, hf, actual, hr, hne, rfl, rfl, rfl⟩
  | orphaned actual =>
    simp only [IsStale, StaleFile.mk.injEq, Staleness.orphaned.injEq, reduceCtorEq, and_false,
      exists_false, or_false, false_or]
    constructor
    · rintro ⟨content, hfinds, hnew, rfl⟩
      exact ⟨hfinds, hnew⟩
    · rintro ⟨hfinds, hnew⟩
      exact ⟨actual, hfinds, hnew, rfl⟩

theorem staleFiles_ok_iff (ht : t.Proper) : (∃ stale, staleFiles t o files = .ok stale) ↔
    (∀ file ∈ files, ∀ fault, t.read (o.pathOf file) = .error fault → fault = .missing) ∧
      o.Walkable t := by
  rw [← generatedFiles_ok_iff ht]
  have hbind : (∃ stale, staleFiles t o files = .ok stale) ↔
      (∃ compared, (files.mapM fun file => compareFile t (o.pathOf file) file.content) =
        .ok compared) ∧ ∃ found, generatedFiles t o = .ok found := by
    simp [staleFiles, bind_eq_ok]
  rw [hbind, exists_mapM_eq_ok]
  simp only [compareFile_ok_iff]

end Stale

section Removed

def LeadsToFile (t : FileTree) (path : Path) : Prop :=
  t.locate path = .ok path.place ∧ t.get? path.place ≠ some .folder

theorem remove_of_missing {path : Path} (h : t.locate path = .ok path.place)
    (hg : t.get? path.place = none) : t.remove path = .error .missing := by
  rw [FileTree.remove, FileTree.find, h]
  simp [bind, Except.bind, hg]

theorem remove_of_file {path : Path} (h : t.locate path = .ok path.place) {entry : Entry}
    (hg : t.get? path.place = some entry) (he : entry ≠ .folder) : ∃ u, t.remove path = .ok u := by
  have hf := find_eq_ok_iff.2 ⟨h, rfl, hg⟩
  rw [FileTree.remove, hf]
  cases entry with
  | folder => exact absurd rfl he
  | text _ => exact ⟨_, rfl⟩
  | binary _ => exact ⟨_, rfl⟩

/-- What is at the places of the paths is gone, and nothing else. No folder was there. -/
structure Loses (t u : FileTree) (paths : List Path) : Prop where
  proper : u.Proper
  get : ∀ other, u.get? other = if other ∈ paths.map Path.place then none else t.get? other
  folders : ∀ other, u.get? other = some .folder ↔ t.get? other = some .folder

theorem Loses.cons {v : FileTree} {path : Path} {rest : List Path} (hr : t.remove path = .ok u)
    (ht : t.Proper) (h : Loses u v rest) : Loses t v (path :: rest) := by
  obtain ⟨-, hget, hfolders⟩ := ht.remove hr
  refine ⟨h.proper, fun other => ?_, fun other => (h.folders other).trans (hfolders other)⟩
  rw [h.get, hget]
  by_cases hm : other ∈ rest.map Path.place
  · simp only [List.map_cons, List.mem_cons, hm, or_true, if_true]
  · simp only [List.map_cons, List.mem_cons, hm, or_false, if_false]

/-- Removing files in turn takes all of them away, if each is there and no two are at one place;
else it ends at one that is missing. -/
theorem removeFiles_cases (ht : t.Proper) {paths : List Path}
    (hp : ∀ path ∈ paths, LeadsToFile t path) (removed : List Path) :
    (∃ u, removeFiles removed t paths = (u, .ok (removed.reverse ++ paths)) ∧ Loses t u paths ∧
      (paths.map Path.place).Nodup ∧ ∀ path ∈ paths, t.get? path.place ≠ none) ∨
    ∃ u, ∃ path ∈ paths, removeFiles removed t paths = (u, .error (.write path .missing)) ∧
      ¬ ((paths.map Path.place).Nodup ∧ ∀ path ∈ paths, t.get? path.place ≠ none) := by
  induction paths generalizing t removed with
  | nil =>
    refine .inl ⟨t, by simp [removeFiles], ⟨ht, by simp, fun _ => .rfl⟩, by simp, by simp⟩
  | cons path rest ih =>
    obtain ⟨⟨hl, hfile⟩, hrest⟩ := List.forall_mem_cons.1 hp
    cases hg : t.get? path.place with
    | none =>
      refine .inr ⟨t, path, by simp, ?_, fun hall => hall.2 path (by simp) hg⟩
      rw [removeFiles, remove_of_missing hl hg]
    | some entry =>
      obtain ⟨u, hr⟩ := remove_of_file hl hg fun he => hfile (he ▸ hg)
      obtain ⟨hu, hget, hfolders⟩ := ht.remove hr
      have hkeeps : KeepsFolders t u := fun location hf => (hfolders location).2 hf
      have hnext : ∀ other ∈ rest, LeadsToFile u other := fun other ho =>
        ⟨hkeeps.locate (hrest other ho).1, fun hf => (hrest other ho).2 ((hfolders _).1 hf)⟩
      have hthere : (∀ other ∈ rest, u.get? other.place ≠ none) ↔
          path.place ∉ rest.map Path.place ∧ ∀ other ∈ rest, t.get? other.place ≠ none := by
        constructor
        · intro hall
          refine ⟨fun hm => ?_, fun other ho hnone => hall other ho ?_⟩
          · obtain ⟨other, ho, he⟩ := List.mem_map.1 hm
            exact hall other ho (by rw [hget, if_pos he])
          · rw [hget, hnone, ite_self]
        · rintro ⟨hnew, hall⟩ other ho
          rw [hget, if_neg fun he => hnew (List.mem_map.2 ⟨other, ho, he⟩)]
          exact hall other ho
      have hstep : removeFiles removed t (path :: rest) = removeFiles (path :: removed) u rest := by
        rw [removeFiles, hr]
      rw [hstep]
      rcases ih hu hnext (path :: removed) with
        ⟨v, hv, hloses, hn, hall⟩ | ⟨v, other, ho, hv, hno⟩
      · refine .inl ⟨v, by simp [hv], hloses.cons hr ht, ?_, ?_⟩
        · exact List.nodup_cons.2 ⟨(hthere.1 hall).1, hn⟩
        · exact List.forall_mem_cons.2 ⟨by simp [hg], (hthere.1 hall).2⟩
      · refine .inr ⟨v, other, List.mem_cons_of_mem _ ho, hv, ?_⟩
        rintro ⟨hnodup, hall⟩
        obtain ⟨hnew, hnodup⟩ := List.nodup_cons.1 hnodup
        exact hno ⟨hnodup, hthere.2 ⟨hnew, (List.forall_mem_cons.1 hall).2⟩⟩

def orphanPaths (stale : List StaleFile) : List Path :=
  (stale.filter (·.status.isOrphaned)).map StaleFile.path

variable {stale : List StaleFile}

theorem mem_orphanPaths_iff (ht : t.Proper) (h : staleFiles t o files = .ok stale) {path : Path} :
    path ∈ orphanPaths stale ↔ (∃ content, o.Finds t path content) ∧
      ∀ file ∈ files, (o.pathOf file).names ≠ path.names := by
  simp only [orphanPaths, List.mem_map, List.mem_filter, mem_staleFiles_iff ht h]
  constructor
  · rintro ⟨⟨path, status⟩, ⟨hold, horphan⟩, rfl⟩
    cases status with
    | missing _ => cases horphan
    | changed _ _ => cases horphan
    | orphaned content => exact ⟨⟨content, hold.1⟩, hold.2⟩
  · rintro ⟨⟨content, hfinds⟩, hnew⟩
    exact ⟨⟨path, .orphaned content⟩, ⟨⟨hfinds, hnew⟩, rfl⟩, rfl⟩

theorem leadsToFile_of_orphan (ht : t.Proper) (h : staleFiles t o files = .ok stale) {path : Path}
    (hm : path ∈ orphanPaths stale) : LeadsToFile t path ∧ t.get? path.place ≠ none := by
  obtain ⟨⟨content, hfinds⟩, -⟩ := (mem_orphanPaths_iff ht h).1 hm
  obtain ⟨hl, hg⟩ := read_eq_ok_iff.1 (hfinds.read ht)
  simp [LeadsToFile, hl, hg]

/-- Pruning takes away the orphans if no two are at one place; else it ends at one that it has
taken away before. -/
theorem pruneOrphans_cases (ht : t.Proper) (h : staleFiles t o files = .ok stale) :
    (∃ u, pruneOrphans t o files = (u, .ok (orphanPaths stale)) ∧ Loses t u (orphanPaths stale) ∧
      ((orphanPaths stale).map Path.place).Nodup) ∨
    ∃ u, ∃ path ∈ orphanPaths stale,
      pruneOrphans t o files = (u, .error (.write path .missing)) ∧
      ¬ ((orphanPaths stale).map Path.place).Nodup := by
  have hfiles := fun path (hm : path ∈ orphanPaths stale) => leadsToFile_of_orphan ht h hm
  have heq : pruneOrphans t o files = removeFiles [] t (orphanPaths stale) := by
    rw [pruneOrphans, h]
    rfl
  rw [heq]
  rcases removeFiles_cases ht (fun path hm => (hfiles path hm).1) [] with
    ⟨u, hu, hloses, hn, -⟩ | ⟨u, path, hm, hu, hno⟩
  · exact .inl ⟨u, hu, hloses, hn⟩
  · exact .inr ⟨u, path, hm, hu, fun hn => hno ⟨hn, fun path hm => (hfiles path hm).2⟩⟩

theorem loses_of_pruneOrphans (ht : t.Proper) {removed : List Path}
    (h : pruneOrphans t o files = (u, .ok removed)) :
    ∃ stale, staleFiles t o files = .ok stale ∧ Loses t u (orphanPaths stale) := by
  cases hs : staleFiles t o files with
  | error failure =>
    rw [pruneOrphans, hs] at h
    cases h
  | ok stale =>
    refine ⟨stale, rfl, ?_⟩
    rcases pruneOrphans_cases ht hs with ⟨v, hv, hloses, -⟩ | ⟨v, path, -, hv, -⟩
    · rw [hv] at h
      cases h
      exact hloses
    · rw [hv] at h
      cases h

theorem locate_congr (h : ∀ other, u.get? other = some .folder ↔ t.get? other = some .folder)
    {path : Path} {found : Location} : u.locate path = .ok found ↔ t.locate path = .ok found := by
  have hut : KeepsFolders u t := fun location => (h location).1
  have htu : KeepsFolders t u := fun location => (h location).2
  exact ⟨hut.locate, htu.locate⟩

theorem roots_congr (h : ∀ other, u.get? other = some .folder ↔ t.get? other = some .folder) :
    o.roots u = o.roots t := by
  have hfolder : ∀ path, u.isFolder path = t.isFolder path := by
    intro path
    rw [Bool.eq_iff_iff, isFolder_iff_place, isFolder_iff_place, locate_congr h, h]
  rw [OutputFolders.roots, OutputFolders.roots, hfolder, hfolder]

theorem settled_of_loses (ht : t.Proper) (hs : staleFiles t o files = .ok stale)
    (h : Loses t u (orphanPaths stale)) : o.Walkable u ∧ ∀ path content, o.Finds u path content →
      ∃ file ∈ files, (o.pathOf file).names = path.names := by
  have hroots : o.roots u = o.roots t := roots_congr h.folders
  refine ⟨?_, ?_⟩
  · intro root hroot rel hg
    exact ((staleFiles_ok_iff ht).1 ⟨stale, hs⟩).2 root (hroots ▸ hroot) rel ((h.folders _).1 hg)
  · rintro path content ⟨root, hroot, rel, hrel, hg, hheader, rfl, hspelled⟩
    by_contra hnew
    rw [h.get] at hg
    split at hg
    · cases hg
    · next hplace =>
      have hfinds : o.Finds t (rel.foldl Path.child root) content :=
        ⟨root, hroots ▸ hroot, rel, hrel, hg, hheader, rfl, hspelled⟩
      refine hplace (List.mem_map.2 ⟨_, (mem_orphanPaths_iff ht hs).2 ⟨⟨content, hfinds⟩, ?_⟩, ?_⟩)
      · exact fun file hf he => hnew ⟨file, hf, he⟩
      · exact (ht.spells_child hg root).2

end Removed

end EventSchema.Disk
