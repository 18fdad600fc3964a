import EventSchema.CommandLine.Run
import EventSchema.Proofs.Prune
import Mathlib

/-!
Runs of the generator one after the other, each with a schema of its own. Whatever the earlier ones
were, the last one settles which generated files there are; a file that is not generated keeps its
content, unless a run had a file of its own for the same place.
-/

set_option autoImplicit false

namespace EventSchema

open Disk Outcome

section Loading

theorem Disk.FileTree.WellFormed.folders_nodup {t : FileTree} (ht : t.WellFormed) {path : Path}
    {names : List String} (h : t.folders path = .ok names) : names.Nodup := by
  obtain ⟨found, -, h⟩ := bind_eq_ok.1 h
  split at h
  · cases h
    refine List.Pairwise.filterMap _ ?_ (List.pairwise_map.1 (ht.nodup_below _))
    intro a b hab c hc d hd
    split at hc
    · split at hd
      · cases hc
        cases hd
        intro he
        exact hab (by rw [he])
      · cases hd
    · cases hc
  · cases h

theorem Disk.id_of_loadModule {t : FileTree} {folder : Path} {id : String} {m : SchemaModule}
    (h : loadModule t folder id = .ok (some m)) : m.id = id := by
  obtain ⟨types, -, h⟩ := bind_eq_ok.1 h
  obtain ⟨commands, -, h⟩ := bind_eq_ok.1 h
  obtain ⟨events, -, h⟩ := bind_eq_ok.1 h
  split at h
  · cases h
  · split at h
    · cases h
      rfl
    · cases h

theorem Disk.ids_nodup_of_loadSchema {t : FileTree} (ht : t.WellFormed) {folder : Path}
    {s : SchemaSet} (h : loadSchema t folder = .ok s) :
    (s.modules.map SchemaModule.id).Nodup := by
  unfold loadSchema at h
  split at h
  · cases h
  · next names hnames =>
    obtain ⟨found, hm, h⟩ := bind_eq_ok.1 h
    cases h
    refine ((SchemaSet.perm_modules_ofList _).map _).nodup_iff.2 ?_
    -- Every module has the name of its folder as its id; some folders hold none.
    have hids := sublist_of_forall₂ (f := fun name => name) (fun _ _ => id_of_loadModule)
      (forall₂_of_mapM_eq_ok hm)
    exact hids.nodup (by simpa using ht.folders_nodup hnames)

end Loading

namespace CommandLine.Plan

structure IsSound (plan : Plan) : Prop where
  generated : plan.schema.generate plan.settings.config = .ok plan.files
  ids : (plan.schema.modules.map SchemaModule.id).Nodup

theorem isSound_of_load {t : FileTree} (ht : t.WellFormed) {cwd : Path} {paths : PathOptions}
    {plan : Plan} (h : load t cwd paths = .ok plan) : plan.IsSound := by
  obtain ⟨settings, -, h⟩ := bind_eq_ok.1 h
  obtain ⟨schema, hs, h⟩ := bind_eq_ok.1 h
  obtain ⟨files, hf, h⟩ := bind_eq_ok.1 h
  cases h
  exact ⟨mapError_eq_ok.1 hf, ids_nodup_of_loadSchema ht (mapError_eq_ok.1 hs)⟩

theorem IsSound.areArtifacts {plan : Plan} (h : plan.IsSound) : AreArtifacts plan.files where
  names _ hf := SchemaSet.areNames_of_generate h.generated hf
  distinct := SchemaSet.pieces_nodup_of_generate h.generated h.ids
  generated := SchemaSet.isGenerated_of_generate h.generated

structure RunsIn (plan : Plan) (o : OutputFolders) : Prop extends IsSound plan where
  output : plan.settings.output = o

/-- The tree after some runs, each of which prunes, if all of them succeed. -/
def applyAll : FileTree → List Plan → Except Failure FileTree
  | t, [] => .ok t
  | t, plan :: rest =>
    match plan.apply t true with
    | (made, .ok _) => applyAll made rest
    | (_, .error failure) => .error failure

section Runs

variable {o : OutputFolders} {t u v : FileTree}

theorem apply_eq_ok {plan : Plan} {removed : List Path}
    (h : plan.apply t true = (u, .ok removed)) :
    ∃ made, writeFiles plan.settings.output t plan.files = (made, .ok ()) ∧
      pruneOrphans made plan.settings.output plan.files = (u, .ok removed) := by
  unfold apply at h
  split at h
  · cases h
  · next made hw => exact ⟨made, hw, by simpa using h⟩

theorem runsTo_of_apply (ho : o.Apart) {plan : Plan} (hp : plan.RunsIn o) (ht : t.Proper)
    {removed : List Path} (h : plan.apply t true = (u, .ok removed)) :
    RunsTo o plan.files t u := by
  obtain ⟨made, hw, h⟩ := apply_eq_ok h
  rw [hp.output] at hw h
  exact runsTo_of_prune ho hp.areArtifacts ht hw h

theorem apply_of_generate (ht : t.Proper) {cwd : Path} {elapsed : String} {paths : PathOptions}
    {prune : Bool} (h : (CommandLine.generate t cwd elapsed paths prune).problem = none) :
    ∃ plan removed, load t cwd paths = .ok plan ∧ plan.IsSound ∧
      plan.apply t prune = ((CommandLine.generate t cwd elapsed paths prune).tree, .ok removed) := by
  unfold CommandLine.generate at h ⊢
  cases hl : load t cwd paths with
  | error problem => simp [hl] at h
  | ok plan =>
    have hsound := isSound_of_load ht.toWellFormed hl
    cases ha : plan.apply t prune with
    | mk made result =>
      cases result with
      | error failure => simp [hl, ha] at h
      | ok removed => exact ⟨plan, removed, rfl, hsound, by simp [ha]⟩

def Generates (o : OutputFolders) (plans : List Plan) (location : Location) : Prop :=
  ∃ plan ∈ plans, ∃ file ∈ plan.files, o.locationOf file = location

/-- What runs make of the files: one that they change is below an output folder and was generated,
or a run had a file for its location; then it is gone, or is a generated one. -/
def Changes (o : OutputFolders) (plans : List Plan) (t u : FileTree) : Prop :=
  ∀ location, u.fileAt location = t.fileAt location ∨
    (o.Covers location ∧ (u.fileAt location = none ∨ HasHeader (u.fileAt location)) ∧
      (HasHeader (t.fileAt location) ∨ Generates o plans location))

theorem changes_of_runsTo {plan : Plan} (hp : plan.RunsIn o) (h : RunsTo o plan.files t u) :
    Changes o [plan] t u := by
  intro location
  by_cases hg : ∃ file ∈ plan.files, o.locationOf file = location
  · obtain ⟨file, hf, rfl⟩ := hg
    refine .inr ⟨covers_locationOf hp.areArtifacts hf, .inr ?_, .inr ?_⟩
    · exact ⟨file.content, h.written file hf, hp.areArtifacts.generated file hf⟩
    · exact ⟨plan, by simp, file, hf, rfl⟩
  · have hloc : ∀ file ∈ plan.files, o.locationOf file ≠ location :=
      fun file hf he => hg ⟨file, hf, he⟩
    rcases h.kept location hloc with hu | ⟨hc, hh, hu⟩
    · exact .inl hu
    · exact .inr ⟨hc, .inl hu, .inl hh⟩

theorem Changes.cons {plan : Plan} {rest : List Plan} (h : Changes o [plan] t u)
    (hr : Changes o rest u v) : Changes o (plan :: rest) t v := by
  intro location
  have hfirst : Generates o [plan] location → Generates o (plan :: rest) location := by
    rintro ⟨p, hp, hf⟩
    exact ⟨p, by simp [List.mem_singleton.1 hp], hf⟩
  have hlater : Generates o rest location → Generates o (plan :: rest) location := by
    rintro ⟨p, hp, hf⟩
    exact ⟨p, List.mem_cons_of_mem _ hp, hf⟩
  rcases h location with hu | ⟨hc, hu, hsource⟩
  · rw [← hu]
    rcases hr location with hv | ⟨hc, hv, hsource⟩
    · exact .inl hv
    · exact .inr ⟨hc, hv, hsource.imp_right hlater⟩
  · refine .inr ⟨hc, ?_, hsource.imp_right hfirst⟩
    rcases hr location with hv | ⟨-, hv, -⟩
    · rwa [hv]
    · exact hv

theorem changes_of_applyAll (ho : o.Apart) {plans : List Plan} (hp : ∀ plan ∈ plans, plan.RunsIn o)
    (ht : t.Proper) (h : applyAll t plans = .ok u) : u.Proper ∧ Changes o plans t u := by
  induction plans generalizing t with
  | nil =>
    cases h
    exact ⟨ht, fun _ => .inl rfl⟩
  | cons plan rest ih =>
    obtain ⟨hplan, hrest⟩ := List.forall_mem_cons.1 hp
    rw [applyAll] at h
    split at h
    · next made removed ha =>
      have hrun := runsTo_of_apply ho hplan ht ha
      obtain ⟨hu, hchanges⟩ := ih hrest hrun.proper h
      exact ⟨hu, (changes_of_runsTo hplan hrun).cons hchanges⟩
    · cases h

theorem applyAll_concat {earlier : List Plan} {last : Plan}
    (h : applyAll t (earlier ++ [last]) = .ok u) :
    ∃ made removed, applyAll t earlier = .ok made ∧ last.apply made true = (u, .ok removed) := by
  induction earlier generalizing t with
  | nil =>
    rw [List.nil_append, applyAll] at h
    split at h
    · next made removed ha =>
      cases h
      exact ⟨t, removed, rfl, ha⟩
    · cases h
  | cons plan rest ih =>
    rw [List.cons_append, applyAll] at h
    split at h
    · next made removed ha =>
      obtain ⟨before, gone, hb, hl⟩ := ih h
      exact ⟨before, gone, by rw [applyAll, ha]; exact hb, hl⟩
    · cases h

/-- What the last run does not write is gone if it was generated before the first run, and else as
it was then, unless an earlier run wrote over it. -/
theorem fileAt_of_last {plans : List Plan} (hc : Changes o plans t u) {files : List Artifact}
    (hr : RunsTo o files u v) {location : Location} (hopen : o.Opens location)
    (hl : ∀ file ∈ files, o.locationOf file ≠ location)
    (hw : t.fileAt location = none ∨ HasHeader (t.fileAt location) ∨
      ¬ Generates o plans location) :
    (o.Covers location ∧ HasHeader (t.fileAt location) ∧ v.fileAt location = none) ∨
      (¬ (o.Covers location ∧ HasHeader (t.fileAt location)) ∧
        v.fileAt location = t.fileAt location) := by
  rcases hc location with hu | ⟨hcov, hu, hsource⟩
  · rw [← hu]
    by_cases hh : o.Covers location ∧ HasHeader (u.fileAt location)
    · exact .inl ⟨hh.1, hh.2, hr.removed location hl hh.1 hopen hh.2⟩
    · rcases hr.kept location hl with hv | ⟨hcov, hheader, -⟩
      · exact .inr ⟨hh, hv⟩
      · exact absurd ⟨hcov, hheader⟩ hh
  · have hv : v.fileAt location = none := by
      rcases hu with hu | hu
      · rcases hr.kept location hl with hv | ⟨-, -, hv⟩
        · rw [hv, hu]
        · exact hv
      · exact hr.removed location hl hcov hopen hu
    by_cases hh : HasHeader (t.fileAt location)
    · exact .inl ⟨hcov, hh, hv⟩
    · have ht : t.fileAt location = none := by
        rcases hw with ht | ht | ht
        · exact ht
        · exact absurd ht hh
        · exact absurd (hsource.resolve_left hh) ht
      exact .inr ⟨fun hboth => hh hboth.2, hv.trans ht.symm⟩

theorem runsTo_of_last (ho : o.Apart) (ht : t.Proper) {earlier : List Plan} {last : Plan}
    (he : ∀ plan ∈ earlier, plan.RunsIn o) (hl : last.RunsIn o)
    (h : applyAll t (earlier ++ [last]) = .ok u) :
    ∃ made, Changes o earlier t made ∧ RunsTo o last.files made u := by
  obtain ⟨made, removed, hmade, hlast⟩ := applyAll_concat h
  obtain ⟨hproper, hchanges⟩ := changes_of_applyAll ho he ht hmade
  exact ⟨made, hchanges, runsTo_of_apply ho hl hproper hlast⟩

theorem fileAt_eq_of_not_generated (ho : o.Apart) (ht : t.Proper) {plans : List Plan}
    (hp : ∀ plan ∈ plans, plan.RunsIn o) (h : applyAll t plans = .ok u) {location : Location}
    (hl : ¬ o.Covers location ∨
      (¬ HasHeader (t.fileAt location) ∧ ¬ Generates o plans location)) :
    u.fileAt location = t.fileAt location := by
  rcases (changes_of_applyAll ho hp ht h).2 location with hu | ⟨hc, -, hsource⟩
  · exact hu
  · rcases hl with hl | ⟨hheader, hgenerates⟩
    · exact absurd hc hl
    · exact absurd hsource (not_or.2 ⟨hheader, hgenerates⟩)

/-- Two histories that end with the same run leave the same files, but for those that the one wrote
over and the other did not. -/
theorem fileAt_eq_of_last {earlier others : List Plan} {a b : FileTree}
    (ha : Changes o earlier t a) (hb : Changes o others t b) {files : List Artifact}
    (hu : RunsTo o files a u) (hv : RunsTo o files b v) {location : Location}
    (hopen : o.Opens location)
    (hw : Generates o (earlier ++ others) location →
      (∃ file ∈ files, o.locationOf file = location) ∨ t.fileAt location = none ∨
        HasHeader (t.fileAt location)) :
    u.fileAt location = v.fileAt location := by
  by_cases hl : ∃ file ∈ files, o.locationOf file = location
  · obtain ⟨file, hf, rfl⟩ := hl
    rw [hu.written file hf, hv.written file hf]
  · have hloc : ∀ file ∈ files, o.locationOf file ≠ location :=
      fun file hf he => hl ⟨file, hf, he⟩
    have hpart : ∀ plans, (∀ plan ∈ plans, plan ∈ earlier ++ others) →
        t.fileAt location = none ∨ HasHeader (t.fileAt location) ∨
          ¬ Generates o plans location := by
      intro plans hsub
      by_cases hg : Generates o plans location
      · obtain ⟨plan, hplan, hfile⟩ := hg
        exact ((hw ⟨plan, hsub plan hplan, hfile⟩).resolve_left hl).imp_right .inl
      · exact .inr (.inr hg)
    have hleft := fileAt_of_last ha hu hopen hloc (hpart earlier (by simp +contextual))
    have hright := fileAt_of_last hb hv hopen hloc (hpart others (by simp +contextual))
    rcases hleft with ⟨hc, hh, hnone⟩ | ⟨hno, hkept⟩
    · rcases hright with ⟨-, -, hnone'⟩ | ⟨hno, -⟩
      · rw [hnone, hnone']
      · exact absurd ⟨hc, hh⟩ hno
    · rcases hright with ⟨hc, hh, -⟩ | ⟨-, hkept'⟩
      · exact absurd ⟨hc, hh⟩ hno
      · rw [hkept, hkept']

/-- After runs that all prune and succeed, the files of the last run are there, and no other
generated ones below the output folders; nothing is out of date. Files outside the output folders,
and files without the header that no run had a file for, are as before. Other earlier runs would
have left the same files, but for those without the header that an earlier run wrote over. -/
theorem pruned_runs_settle (ho : o.Apart) (ht : t.Proper) {earlier : List Plan} {last : Plan}
    (hp : ∀ plan ∈ earlier ++ [last], plan.RunsIn o)
    (h : applyAll t (earlier ++ [last]) = .ok u) :
    (∀ file ∈ last.files, o.Covers (o.locationOf file) ∧ isGenerated file.content = true ∧
      u.fileAt (o.locationOf file) = some (.text file.content)) ∧
    (∀ location content, o.Covers location → o.Opens location →
      u.fileAt location = some (.text content) → isGenerated content = true →
      ∃ file ∈ last.files, o.locationOf file = location ∧ file.content = content) ∧
    last.stale u = .ok [] ∧
    (∀ location,
      (¬ o.Covers location ∨
        (¬ HasHeader (t.fileAt location) ∧ ¬ Generates o (earlier ++ [last]) location)) →
      u.fileAt location = t.fileAt location) ∧
    ∀ others v, (∀ plan ∈ others, plan.RunsIn o) → applyAll t (others ++ [last]) = .ok v →
      ∀ location, o.Opens location →
        (Generates o (earlier ++ others) location →
          (∃ file ∈ last.files, o.locationOf file = location) ∨ t.fileAt location = none ∨
            HasHeader (t.fileAt location)) →
        u.fileAt location = v.fileAt location := by
  have hearlier : ∀ plan ∈ earlier, plan.RunsIn o := fun plan hm => hp plan (by simp [hm])
  have hlast : last.RunsIn o := hp last (by simp)
  obtain ⟨made, hchanges, hruns⟩ := runsTo_of_last ho ht hearlier hlast h
  refine ⟨?_, ?_, ?_, ?_, ?_⟩
  · intro file hf
    exact ⟨covers_locationOf hlast.areArtifacts hf, hlast.areArtifacts.generated file hf,
      hruns.written file hf⟩
  · intro location content hc hopen hfile hg
    exact hruns.of_generated hc hopen hfile hg
  · rw [stale, hlast.output]
    exact hruns.staleFiles_eq ho hlast.areArtifacts
  · intro location hl
    exact fileAt_eq_of_not_generated ho ht hp h hl
  · intro others v hothers hv location hopen hw
    obtain ⟨made', hchanges', hruns'⟩ := runsTo_of_last ho ht hothers hlast hv
    exact fileAt_eq_of_last hchanges hchanges' hruns hruns' hopen hw

end Runs

section Sample

theorem apply_of_settled {plan : Plan} {o : OutputFolders} {t u : FileTree}
    (hp : plan.settings.output = o) (hw : writeFiles o t plan.files = (u, .ok ()))
    (hs : staleFiles u o plan.files = .ok []) : plan.apply t true = (u, .ok []) := by
  rw [apply, hp, hw]
  simp [pruneOrphans, hs, removeFiles]

/-- The plan of a schema that the checks let through. -/
def ofSchema (o : OutputFolders) (s : SchemaSet) : Plan :=
  let files := (s.emit {}).toOption.getD []
  ⟨⟨⟨["", "schema"]⟩, o, {}⟩, s, files ++ Glue.files .tree (Glue.sections s files)⟩

theorem runsIn_ofSchema {o : OutputFolders} {s : SchemaSet} (hc : s.check = .ok ())
    (he : (s.emit {}).toOption.isSome = true) (hi : (s.modules.map SchemaModule.id).Nodup) :
    (ofSchema o s).RunsIn o := by
  obtain ⟨files, hf⟩ := Option.isSome_iff_exists.1 he
  refine ⟨⟨?_, hi⟩, rfl⟩
  have hemit := eq_ok_of_toOption hf
  simp [ofSchema, SchemaSet.generate, hc, hemit, bind, Except.bind, Except.toOption]

def sampleFolders : OutputFolders :=
  ⟨⟨["", "b"]⟩, ⟨["", "f"]⟩⟩

def spunPath (points : Nat) : Path :=
  ⟨"" :: List.replicate points "." ++ ["f"]⟩

theorem names_spunPath (points : Nat) : (spunPath points).names = ["f"] := by
  have hpoint : Path.isIdle "." = true := by decide
  have hname : Path.isIdle "f" = false := by decide
  have hempty : Path.isIdle "" = true := by decide
  simp [spunPath, Path.names, List.filter_append, hpoint, hname, hempty]

theorem piece_of_mem_spunPath {points : Nat} {piece : String}
    (h : piece ∈ (spunPath points).pieces) : piece = "" ∨ piece = "." ∨ piece = "f" := by
  simp only [spunPath, List.mem_append, List.mem_cons, List.mem_replicate, List.not_mem_nil,
    or_false, or_assoc] at h
  exact h.imp id (Or.imp_left And.right)

theorem isDirect_spunPath (points : Nat) : (spunPath points).IsDirect := by
  intro piece hp
  rcases piece_of_mem_spunPath hp with rfl | rfl | rfl <;> decide

theorem utf8ByteSize_spunPath (points : Nat) :
    (spunPath points).text.utf8ByteSize = 2 * points + 2 := by
  have hpoint : ".".utf8ByteSize = 1 := rfl
  have hname : "f".utf8ByteSize = 1 := rfl
  have hpoints : (Path.text ⟨"" :: List.replicate points "."⟩).utf8ByteSize = 2 * points := by
    induction points with
    | zero => rfl
    | succ points ih =>
      rw [List.replicate_succ', ← List.cons_append, FileTree.utf8ByteSize_text_concat, ih,
        if_neg (List.cons_ne_nil _ _), hpoint]
      omega
  rw [spunPath, FileTree.utf8ByteSize_text_concat, hpoints, if_neg (List.cons_ne_nil _ _), hname]

/-- The same folders, but one has a path that is too long to be opened. -/
def spunFolders : OutputFolders :=
  ⟨⟨["", "b"]⟩, spunPath 2050⟩

theorem apart_sampleFolders : sampleFolders.Apart where
  direct target := by
    unfold Path.IsDirect
    cases target <;> decide
  apart := by decide

theorem apart_spunFolders : spunFolders.Apart where
  direct target := by
    cases target with
    | backend => exact apart_sampleFolders.direct .backend
    | frontend => exact isDirect_spunPath 2050
  apart := by
    rw [spunFolders, names_spunPath]
    decide

def sampleTree : FileTree :=
  ⟨[(["b"], .folder), (["b", "m"], .folder), (["b", "m", "types.rs"], .text "by hand"),
    (["f"], .folder), (["f", "old.ts"], .text (Artifact.header ++ "\n")),
    (["notes"], .text "to do")]⟩

theorem proper_sampleTree : sampleTree.Proper where
  sorted := by decide
  rooted := by simp [sampleTree, FileTree.get?, List.lookup]
  names := by simp +decide [sampleTree, FileTree.IsName]

def modulePlan : Plan :=
  ofSchema sampleFolders ⟨[{ id := "m" }]⟩

def emptyPlan (o : OutputFolders) : Plan :=
  ofSchema o ⟨[]⟩

theorem runsIn_modulePlan : modulePlan.RunsIn sampleFolders :=
  runsIn_ofSchema (by cbv) (by decide +kernel) (by decide)

theorem runsIn_emptyPlan (o : OutputFolders) : (emptyPlan o).RunsIn o :=
  runsIn_ofSchema (by cbv) (by cbv) (by decide)

theorem applyAll_module_empty : applyAll sampleTree [modulePlan, emptyPlan sampleFolders] =
    .ok ⟨[(["b"], .folder), (["b", "m"], .folder),
      (["b", "mod.rs"], .text (Glue.treeRoot []).content), (["f"], .folder),
      (["notes"], .text "to do")]⟩ :=
  eq_ok_of_toOption (by decide +kernel)

theorem applyAll_empty : applyAll sampleTree [emptyPlan sampleFolders] =
    .ok ⟨[(["b"], .folder), (["b", "m"], .folder), (["b", "m", "types.rs"], .text "by hand"),
      (["b", "mod.rs"], .text (Glue.treeRoot []).content), (["f"], .folder),
      (["notes"], .text "to do")]⟩ :=
  eq_ok_of_toOption (by decide +kernel)

theorem applyAll_spun : applyAll sampleTree [emptyPlan spunFolders] =
    .ok ⟨[(["b"], .folder), (["b", "m"], .folder), (["b", "m", "types.rs"], .text "by hand"),
      (["b", "mod.rs"], .text (Glue.treeRoot []).content), (["f"], .folder),
      (["f", "old.ts"], .text (Artifact.header ++ "\n")), (["notes"], .text "to do")]⟩ := by
  generalize hu : (⟨_⟩ : FileTree) = u
  have hw : writeFiles spunFolders sampleTree (emptyPlan spunFolders).files = (u, .ok ()) := by
    subst hu
    exact pair_eq_ok_of_toOption (by decide +kernel)
  have hproper : u.Proper :=
    (writeFiles_ok proper_sampleTree (by decide +kernel) hw).1
  have hbackend : u.isFolder spunFolders.backend = true := by
    subst hu
    decide +kernel
  have hfrontend : u.isFolder spunFolders.frontend = false := by
    have hdirect : spunFolders.frontend.IsDirect := apart_spunFolders.direct .frontend
    rw [← Bool.not_eq_true, hproper.isFolder_iff hdirect, FileTree.checkSpelling_eq_ok]
    rintro ⟨⟨-, hshort⟩, -⟩
    rw [spunFolders, utf8ByteSize_spunPath, FileTree.pathLimit] at hshort
    omega
  have hfound : generatedFiles u spunFolders =
      .ok [(⟨["", "b", "mod.rs"]⟩, (Glue.treeRoot []).content)] := by
    rw [generatedFiles, OutputFolders.roots, hbackend, hfrontend]
    subst hu
    exact eq_ok_of_toOption (by decide +kernel)
  have hstale : staleFiles u spunFolders (emptyPlan spunFolders).files = .ok [] := by
    have hcompare : ((emptyPlan spunFolders).files.mapM fun file =>
        compareFile u (spunFolders.pathOf file) file.content) = .ok [none] := by
      subst hu
      exact eq_ok_of_toOption (by decide +kernel)
    rw [staleFiles, hcompare, hfound]
    exact eq_ok_of_toOption (by decide +kernel)
  rw [applyAll, apply_of_settled (runsIn_emptyPlan spunFolders).output hw hstale]
  rfl

theorem pruned_runs_settle_sample :
    ∃ u, applyAll sampleTree [modulePlan, emptyPlan sampleFolders] = .ok u ∧
      (emptyPlan sampleFolders).stale u = .ok [] ∧ u.fileAt ["notes"] = some (.text "to do") ∧
      ∀ location content, sampleFolders.Covers location → sampleFolders.Opens location →
        u.fileAt location = some (.text content) → isGenerated content = true →
        ∃ file ∈ (emptyPlan sampleFolders).files,
          sampleFolders.locationOf file = location ∧ file.content = content := by
  have hp : ∀ plan ∈ [modulePlan] ++ [emptyPlan sampleFolders], plan.RunsIn sampleFolders := by
    simp [runsIn_modulePlan, runsIn_emptyPlan]
  have hnotes : ¬ sampleFolders.Covers ["notes"] := by
    rintro ⟨target, rel, -, he⟩
    cases target <;> simp [sampleFolders, OutputFolders.folder, Path.names, Path.isIdle] at he
  obtain ⟨-, hall, hstale, hkept, -⟩ :=
    pruned_runs_settle apart_sampleFolders proper_sampleTree hp applyAll_module_empty
  exact ⟨_, applyAll_module_empty, hstale, hkept ["notes"] (.inl hnotes), hall⟩

/-- An earlier run shows where it wrote over a file without the header, and a generated file stays
where its folder cannot be opened. -/
theorem pruned_runs_leave_traces :
    sampleTree.Proper ∧
    (sampleFolders.Apart ∧ modulePlan.RunsIn sampleFolders ∧
      (emptyPlan sampleFolders).RunsIn sampleFolders ∧
      ∃ u v, applyAll sampleTree [modulePlan, emptyPlan sampleFolders] = .ok u ∧
        applyAll sampleTree [emptyPlan sampleFolders] = .ok v ∧
        u.fileAt ["b", "m", "types.rs"] = none ∧
        v.fileAt ["b", "m", "types.rs"] = some (.text "by hand")) ∧
    spunFolders.Apart ∧ (emptyPlan spunFolders).RunsIn spunFolders ∧
      ∃ u, applyAll sampleTree [emptyPlan spunFolders] = .ok u ∧
        spunFolders.Covers ["f", "old.ts"] ∧ HasHeader (u.fileAt ["f", "old.ts"]) ∧
        ∀ file ∈ (emptyPlan spunFolders).files, spunFolders.locationOf file ≠ ["f", "old.ts"] := by
  refine ⟨proper_sampleTree, ⟨apart_sampleFolders, runsIn_modulePlan, runsIn_emptyPlan _, _, _,
    applyAll_module_empty, applyAll_empty, rfl, rfl⟩, apart_spunFolders, runsIn_emptyPlan _, _,
    applyAll_spun, ?_, ?_, ?_⟩
  · refine ⟨.frontend, ["old.ts"], by simp, ?_⟩
    rw [OutputFolders.folder, spunFolders, names_spunPath]
    rfl
  · exact ⟨_, rfl, by decide +kernel⟩
  · decide +kernel

end Sample

end CommandLine.Plan

end EventSchema
