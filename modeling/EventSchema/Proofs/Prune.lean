import EventSchema.Proofs.Artifacts
import EventSchema.Proofs.Staleness

/-!
What a run leaves on disk. Writing puts the files of the run at their locations; pruning takes away
the generated files below the output folders that the run did not write. All other files stay as
they are, and nothing is out of date afterwards.
-/

set_option autoImplicit false

namespace EventSchema.Disk

open FileTree Outcome

/-- Output folders that are spelled without steps up and do not lie in each other; they may be the
same folder. -/
structure OutputFolders.Apart (o : OutputFolders) : Prop where
  direct : ∀ target, (o.folder target).IsDirect
  apart : o.backend.names = o.frontend.names ∨
    (¬ o.backend.names <+: o.frontend.names ∧ ¬ o.frontend.names <+: o.backend.names)

namespace OutputFolders

def Covers (o : OutputFolders) (location : Location) : Prop :=
  ∃ target rel, rel ≠ [] ∧ location = (o.folder target).names ++ rel

/-- The paths that lead to the location from output folders are not too long to be opened. -/
def Opens (o : OutputFolders) (location : Location) : Prop :=
  ∀ target rel, rel ≠ [] → location = (o.folder target).names ++ rel →
    checkSpelling (rel.foldl Path.child (o.folder target)) = .ok ()

def locationOf (o : OutputFolders) (file : Artifact) : Location :=
  (o.pathOf file).names

end OutputFolders

/-- The file is text and starts with the header of generated files. -/
def HasHeader (file : Option Entry) : Prop :=
  ∃ content, file = some (.text content) ∧ isGenerated content = true

/-- Files that can be told apart by their paths and from hand-written ones by their headers. -/
structure AreArtifacts (files : List Artifact) : Prop where
  names : ∀ file ∈ files, AreNames (Path.ofText file.path).pieces
  distinct : (files.map fun file => (Path.ofText file.path).pieces).Nodup
  generated : ∀ file ∈ files, isGenerated file.content = true

section Locations

theorem isAbsolute_of_areNames {p : Path} (h : AreNames p.pieces) : p.isAbsolute = false := by
  unfold Path.isAbsolute
  split
  · next he =>
    have hempty := h.2 "" (by rw [he]; exact List.mem_cons_self)
    obtain ⟨c, rest, hc, -⟩ := hempty
    cases hc
  · rfl

theorem names_of_areNames {p : Path} (h : AreNames p.pieces) : p.names = p.pieces := by
  refine List.filter_eq_self.2 fun piece hp => ?_
  simp [(h.2 piece hp).isIdle.1]

variable {o : OutputFolders} {files : List Artifact}

theorem locationOf_eq (h : AreArtifacts files) {file : Artifact} (hf : file ∈ files) :
    o.locationOf file = (o.folder file.target).names ++ (Path.ofText file.path).pieces := by
  have hn := h.names file hf
  rw [OutputFolders.locationOf, OutputFolders.pathOf, Path.names_join (isAbsolute_of_areNames hn),
    names_of_areNames hn]

theorem covers_locationOf (h : AreArtifacts files) {file : Artifact} (hf : file ∈ files) :
    o.Covers (o.locationOf file) :=
  ⟨file.target, _, (h.names file hf).1, locationOf_eq h hf⟩

theorem isDirect_pathOf (ho : o.Apart) (h : AreArtifacts files) {file : Artifact}
    (hf : file ∈ files) : (o.pathOf file).IsDirect := by
  have hn := h.names file hf
  exact (ho.direct _).join (fun piece hp => (hn.2 piece hp).isIdle.2) (isAbsolute_of_areNames hn)

theorem last_pathOf (h : AreArtifacts files) {file : Artifact} (hf : file ∈ files) :
    ∀ piece ∈ (o.pathOf file).pieces.getLast?, Path.isIdle piece = false := by
  have hn := h.names file hf
  obtain ⟨front, he, -⟩ := Path.pieces_join (o.folder file.target) (isAbsolute_of_areNames hn)
  intro piece hp
  rw [OutputFolders.pathOf, he, List.getLast?_append_of_ne_nil _ hn.1] at hp
  exact (hn.2 piece (List.mem_of_getLast? hp)).isIdle.1

theorem locationOf_inj (ho : o.Apart) (h : AreArtifacts files) {a b : Artifact} (ha : a ∈ files)
    (hb : b ∈ files) (he : o.locationOf a = o.locationOf b) : a = b := by
  refine List.inj_on_of_nodup_map h.distinct ha hb ?_
  rw [locationOf_eq h ha, locationOf_eq h hb] at he
  have hpre := List.prefix_or_prefix_of_prefix
    (List.prefix_append (o.folder a.target).names (Path.ofText a.path).pieces)
    (he ▸ List.prefix_append (o.folder b.target).names (Path.ofText b.path).pieces)
  have hfolder : (o.folder a.target).names = (o.folder b.target).names := by
    cases hta : a.target <;> cases htb : b.target <;>
      simp only [hta, htb, OutputFolders.folder] at hpre ⊢
    · exact ho.apart.resolve_right fun hn => hpre.elim hn.1 hn.2
    · exact (ho.apart.resolve_right fun hn => hpre.elim hn.2 hn.1).symm
  rw [hfolder] at he
  exact List.append_cancel_left he

end Locations

section Writing

variable {t u : FileTree} {o : OutputFolders} {files : List Artifact}

theorem proper_prepareFolder (ht : t.Proper) (path : Path) :
    (prepareFolder t path).1.Proper ∧
      (∀ other, (prepareFolder t path).1.fileAt other = t.fileAt other) ∧
      KeepsFolders t (prepareFolder t path).1 := by
  unfold prepareFolder
  split
  · exact ⟨ht, fun _ => rfl, .refl t⟩
  · next folder _ =>
    have hm := ht.makeFoldersFrom (folder :: folder.parents)
    rw [← makeFolders] at hm
    split
    · next he => simpa [he] using hm
    · next he => simpa [he] using hm

theorem writeFile_ok (ht : t.Proper) {path : Path} {content : String}
    (h : writeFile t path content = (u, .ok ())) :
    u.Proper ∧ u.locate path = .ok path.place ∧ u.fileAt path.place = some (.text content) ∧
      (∀ other, other ≠ path.place → u.fileAt other = t.fileAt other) ∧ KeepsFolders t u := by
  obtain ⟨hprep, hfiles, hfolders⟩ := proper_prepareFolder ht path
  unfold writeFile at h
  split at h
  · cases h
  · next made he =>
    rw [he] at hprep hfiles hfolders
    split at h
    · cases h
    · next hw =>
      cases h
      obtain ⟨hu, hl, hself, hother, hkeeps⟩ := hprep.write (by simp) hw
      exact ⟨hu, hkeeps.locate hl, hself, fun other hne => (hother other hne).trans (hfiles other),
        hfolders.trans hkeeps⟩

theorem writeFiles_ok (ht : t.Proper) (hn : (files.map fun file => (o.pathOf file).place).Nodup)
    (h : writeFiles o t files = (u, .ok ())) :
    u.Proper ∧
      (∀ file ∈ files, u.locate (o.pathOf file) = .ok (o.pathOf file).place ∧
        u.fileAt (o.pathOf file).place = some (.text file.content)) ∧
      (∀ other, (∀ file ∈ files, (o.pathOf file).place ≠ other) →
        u.fileAt other = t.fileAt other) ∧ KeepsFolders t u := by
  induction files generalizing t with
  | nil =>
    cases h
    exact ⟨ht, by simp, fun _ _ => rfl, .refl _⟩
  | cons file rest ih =>
    obtain ⟨hnew, hn⟩ := List.nodup_cons.1 hn
    rw [writeFiles] at h
    split at h
    · next made hw =>
      obtain ⟨hp, hl, hself, hother, hkeeps⟩ := writeFile_ok ht hw
      obtain ⟨hu, hwritten, hkept, hkeeps'⟩ := ih hp hn h
      refine ⟨hu, List.forall_mem_cons.2 ⟨⟨hkeeps'.locate hl, ?_⟩, hwritten⟩, ?_,
        hkeeps.trans hkeeps'⟩
      · rw [hkept]
        · exact hself
        · intro other ho he
          exact hnew (List.mem_map.2 ⟨other, ho, he⟩)
      · intro other ho
        obtain ⟨hne, ho⟩ := List.forall_mem_cons.1 ho
        rw [hkept other ho, hother other hne.symm]
    · cases h

end Writing

section Orphans

variable {t u : FileTree} {o : OutputFolders} {files : List Artifact}

variable {stale : List StaleFile}

theorem of_mem_orphanPaths (ht : t.Proper) (ho : o.Apart) (hs : staleFiles t o files = .ok stale)
    {path : Path} (h : path ∈ orphanPaths stale) :
    path.place = path.names ∧ o.Covers path.names ∧ HasHeader (t.fileAt path.names) ∧
      ∀ file ∈ files, o.locationOf file ≠ path.names := by
  obtain ⟨⟨content, root, hroot, rel, hrel, hg, hheader, rfl, -⟩, hnew⟩ :=
    (mem_orphanPaths_iff ht hs).1 h
  obtain ⟨⟨target, rfl⟩, -⟩ := mem_roots hroot
  obtain ⟨hnames, hplace⟩ := ht.spells_child hg (o.folder target)
  rw [(ho.direct target).place_eq] at hg hplace
  refine ⟨hplace.trans hnames.symm, ⟨target, rel, hrel, hnames⟩, ⟨content, ?_, hheader⟩, hnew⟩
  rw [hnames]
  exact fileAt_eq_some_iff.2 ⟨hg, by simp⟩

theorem exists_orphanPath (ht : t.Proper) (ho : o.Apart) (hs : staleFiles t o files = .ok stale)
    {location : Location} (hc : o.Covers location) (hopen : o.Opens location)
    (hh : HasHeader (t.fileAt location)) (hn : ∀ file ∈ files, o.locationOf file ≠ location) :
    ∃ path ∈ orphanPaths stale, path.place = location := by
  obtain ⟨target, rel, hrel, rfl⟩ := hc
  obtain ⟨content, hfile, hheader⟩ := hh
  have hget := (fileAt_eq_some_iff.1 hfile).1
  have hfolder := (ht.isFolder_iff (ho.direct target)).2
    ⟨checkSpelling_of_foldl (hopen target rel hrel rfl), ht.get?_of_append hrel hget⟩
  -- The walk may start at the other folder, if the two have the same names.
  obtain ⟨root, hroot, hroots⟩ := exists_root hfolder
  obtain ⟨⟨other, rfl⟩, -⟩ := mem_roots hroot
  rw [← hroots] at hget hn hopen ⊢
  obtain ⟨hnames, hplace⟩ := ht.spells_child hget (o.folder other)
  rw [← (ho.direct other).place_eq] at hget
  refine ⟨rel.foldl Path.child (o.folder other), (mem_orphanPaths_iff ht hs).2 ⟨?_, ?_⟩, ?_⟩
  · exact ⟨content, _, hroot, rel, hrel, hget, hheader, rfl, hopen other rel hrel rfl⟩
  · exact fun file hf he => hn file hf (he.trans hnames)
  · rw [hplace, (ho.direct other).place_eq]

end Orphans

section Removing

variable {u v : FileTree} {o : OutputFolders} {files : List Artifact}

/-- Pruning takes away orphans and nothing else, and leaves none that it could find. -/
theorem pruneOrphans_ok (hu : u.Proper) (ho : o.Apart) {removed : List Path}
    (h : pruneOrphans u o files = (v, .ok removed)) :
    v.Proper ∧
      (∀ location, (∀ file ∈ files, o.locationOf file ≠ location) → o.Covers location →
        o.Opens location → HasHeader (u.fileAt location) → v.fileAt location = none) ∧
      (∀ location, v.fileAt location = u.fileAt location ∨
        (∀ file ∈ files, o.locationOf file ≠ location) ∧ o.Covers location ∧
          HasHeader (u.fileAt location) ∧ v.fileAt location = none) ∧
      ∃ left, generatedFiles v o = .ok left ∧ orphans o files left = [] := by
  obtain ⟨stale, hs, hloses⟩ := loses_of_pruneOrphans hu h
  have hgone : ∀ path ∈ orphanPaths stale, v.fileAt path.place = none := by
    intro path hm
    rw [fileAt, hloses.get, if_pos (List.mem_map_of_mem hm)]
  refine ⟨hloses.proper, ?_, ?_, ?_⟩
  · intro location hloc hc hopen hh
    obtain ⟨path, hm, rfl⟩ := exists_orphanPath hu ho hs hc hopen hh hloc
    exact hgone path hm
  · intro location
    by_cases hp : location ∈ (orphanPaths stale).map Path.place
    · obtain ⟨path, hm, rfl⟩ := List.mem_map.1 hp
      obtain ⟨hplace, hc, hh, hnew⟩ := of_mem_orphanPaths hu ho hs hm
      rw [hplace]
      exact .inr ⟨hnew, hc, hh, hplace ▸ hgone path hm⟩
    · exact .inl (fileAt_congr (by rw [hloses.get, if_neg hp]))
  · obtain ⟨hwalk, hfound⟩ := settled_of_loses hu hs hloses
    obtain ⟨left, hleft⟩ := (generatedFiles_ok_iff hloses.proper).2 hwalk
    refine ⟨left, hleft, List.eq_nil_iff_forall_not_mem.2 fun old hm => ?_⟩
    obtain ⟨content, hm, hnew, -⟩ := mem_orphans_iff.1 hm
    obtain ⟨file, hf, he⟩ := hfound _ _ ((mem_generatedFiles hloses.proper hleft).1 hm)
    exact hnew file hf he

end Removing

section Runs

variable {t u v : FileTree} {o : OutputFolders} {files : List Artifact}

/-- What a run that prunes makes of a tree: the files of the run are there, the other generated
ones below the output folders are gone, if they could be opened, and all other files are as they
were. -/
structure RunsTo (o : OutputFolders) (files : List Artifact) (t u : FileTree) : Prop where
  proper : u.Proper
  spelled : ∀ file ∈ files, checkSpelling (o.pathOf file) = .ok ()
  written : ∀ file ∈ files, u.fileAt (o.locationOf file) = some (.text file.content)
  removed : ∀ location, (∀ file ∈ files, o.locationOf file ≠ location) → o.Covers location →
    o.Opens location → HasHeader (t.fileAt location) → u.fileAt location = none
  kept : ∀ location, (∀ file ∈ files, o.locationOf file ≠ location) →
    u.fileAt location = t.fileAt location ∨
      o.Covers location ∧ HasHeader (t.fileAt location) ∧ u.fileAt location = none
  settled : ∃ left, generatedFiles u o = .ok left ∧ orphans o files left = []

theorem runsTo_of_prune (ho : o.Apart) (ha : AreArtifacts files) (ht : t.Proper)
    (hw : writeFiles o t files = (u, .ok ())) {removed : List Path}
    (hp : pruneOrphans u o files = (v, .ok removed)) : RunsTo o files t v := by
  have hplace : ∀ file ∈ files, (o.pathOf file).place = o.locationOf file :=
    fun file hf => (isDirect_pathOf ho ha hf).place_eq
  have hn : (files.map fun file => (o.pathOf file).place).Nodup := by
    rw [List.map_congr_left hplace]
    exact List.Nodup.map_on (fun _ hx _ hy => locationOf_inj ho ha hx hy) (.of_map _ ha.distinct)
  obtain ⟨hu, hwritten, hkept, -⟩ := writeFiles_ok ht hn hw
  have hkept : ∀ location, (∀ file ∈ files, o.locationOf file ≠ location) →
      u.fileAt location = t.fileAt location :=
    fun location hloc => hkept location fun file hf => hplace file hf ▸ hloc file hf
  obtain ⟨hv, hgone, hleft, hsettled⟩ := pruneOrphans_ok hu ho hp
  refine ⟨hv, fun file hf => (locate_eq (hwritten file hf).1).1, ?_, ?_, ?_, hsettled⟩
  · intro file hf
    rw [← (hwritten file hf).2, hplace file hf]
    rcases hleft (o.locationOf file) with hsame | ⟨hnew, -⟩
    · exact hsame
    · exact absurd rfl (hnew file hf)
  · intro location hloc hc hopen hh
    rw [← hkept location hloc] at hh
    exact hgone location hloc hc hopen hh
  · intro location hloc
    rw [← hkept location hloc]
    exact (hleft location).imp_right And.right

theorem RunsTo.of_generated (h : RunsTo o files t u) {location : Location} {content : String}
    (hc : o.Covers location) (hopen : o.Opens location)
    (hfile : u.fileAt location = some (.text content)) (hg : isGenerated content = true) :
    ∃ file ∈ files, o.locationOf file = location ∧ file.content = content := by
  by_cases hm : ∃ file ∈ files, o.locationOf file = location
  · obtain ⟨file, hf, rfl⟩ := hm
    have hwritten := h.written file hf
    rw [hfile] at hwritten
    exact ⟨file, hf, rfl, by simpa using hwritten.symm⟩
  · have hloc : ∀ file ∈ files, o.locationOf file ≠ location :=
      fun file hf he => hm ⟨file, hf, he⟩
    have hnone : u.fileAt location = none := by
      rcases h.kept location hloc with hsame | ⟨-, -, hnone⟩
      · exact h.removed location hloc hc hopen ⟨content, hsame ▸ hfile, hg⟩
      · exact hnone
    rw [hnone] at hfile
    cases hfile

theorem RunsTo.staleFiles_eq (h : RunsTo o files t u) (ho : o.Apart) (ha : AreArtifacts files) :
    staleFiles u o files = .ok [] := by
  have hcompare : ∀ file ∈ files, compareFile u (o.pathOf file) file.content = .ok none := by
    intro file hf
    have hread := h.proper.read_eq_ok (isDirect_pathOf ho ha hf) (h.spelled file hf)
      (last_pathOf ha hf) (h.written file hf)
    simp [compareFile, hread]
  obtain ⟨left, hleft, horphans⟩ := h.settled
  have hnone : (files.map fun _ => (none : Option StaleFile)).filterMap id = [] := by simp
  rw [staleFiles, mapM_eq_ok_map hcompare, hleft]
  simp only [bind, Except.bind, hnone, horphans, List.append_nil]

end Runs

end EventSchema.Disk
