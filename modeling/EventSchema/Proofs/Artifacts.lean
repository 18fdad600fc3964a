import Mathlib.Data.List.Nodup
import EventSchema.Disk.Output
import EventSchema.Proofs.Checked
import EventSchema.Proofs.Words

set_option autoImplicit false

namespace EventSchema

open Outcome

section Lines

namespace Text

structure IsFirstLine (first : List Char) : Prop where
  oneLine : '\n' ∉ first
  ends : ∃ init c, first = init ++ [c] ∧ isBlank c = false

theorem IsFirstLine.lines {first : List Char} (h : IsFirstLine first) (rest : List Char) :
    lines (first ++ '\n' :: rest) = first :: lines rest := by
  obtain ⟨init, c, rfl, hc⟩ := h.ends
  have hr : c ≠ '\r' := by
    rintro rfl
    cases hc
  have hdrop : dropReturn ((init ++ [c]).reverse ++ []) = (init ++ [c]).reverse ++ [] := by
    rw [List.reverse_concat, List.append_nil, dropReturn]
    rintro tail he
    exact hr (List.cons.inj he).1
  rw [Text.lines, linesFrom_append h.oneLine, linesFrom, hdrop]
  simp [Text.lines]

theorem IsFirstLine.trimEnd {first : List Char} (h : IsFirstLine first) :
    trimEnd first = first := by
  obtain ⟨init, c, rfl, hc⟩ := h.ends
  simp [Text.trimEnd, hc]

theorem IsFirstLine.trimEnd_append {first : List Char} (h : IsFirstLine first)
    (rest : List Char) : Text.trimEnd (first ++ rest) = first ++ Text.trimEnd rest := by
  obtain ⟨init, c, rfl, hc⟩ := h.ends
  have hstop : (c :: init.reverse).dropWhile isBlank = c :: init.reverse := by simp [hc]
  simp only [Text.trimEnd, List.reverse_append, List.reverse_cons, List.reverse_nil,
    List.nil_append, List.singleton_append, List.dropWhile_append, hstop]
  split
  · next he => simp [List.isEmpty_iff.1 he]
  · simp

theorem trimEnd_prefix (cs : List Char) : trimEnd cs <+: cs := by
  rw [← List.reverse_suffix, trimEnd, List.reverse_reverse]
  exact List.dropWhile_suffix isBlank

theorem IsFirstLine.tidy {first : List Char} (h : IsFirstLine first) {text : String}
    {rest : List Char} (ht : text.toList = first ++ '\n' :: rest) :
    ∃ more, (tidy text).toList = first ++ '\n' :: more := by
  have hne : first.isEmpty = false := by
    obtain ⟨init, c, rfl, -⟩ := h.ends
    simp
  have hlines : tidyLines (Text.lines text.toList) =
      first :: tidyFrom (some first) ((Text.lines rest).map Text.trimEnd) := by
    rw [ht, h.lines, tidyLines, List.map_cons, h.trimEnd, tidyFrom, if_neg (by simp [hne])]
  rw [Text.tidy, String.toList_ofList, hlines]
  cases htail : tidyFrom (some first) ((Text.lines rest).map Text.trimEnd) with
  | nil => exact ⟨[], rfl⟩
  | cons next tail => exact ⟨joinLines (next :: tail) ++ ['\n'], by simp [joinLines]⟩

end Text

theorem Artifact.isFirstLine_header : Text.IsFirstLine header.toList where
  oneLine := by decide
  ends := ⟨"// Code generated by eventkit-codegen. DO NOT EDIT".toList, '.', by decide, by decide⟩

namespace Disk

theorem isGenerated_iff {content : String} :
    isGenerated content = true ↔
      (Text.lines content.toList).head? = some Artifact.header.toList := by
  simp [isGenerated]

theorem isGenerated_of_eq {content : String} {rest : List Char}
    (h : content.toList = Artifact.header.toList ++ '\n' :: rest) : isGenerated content = true := by
  rw [isGenerated_iff, h, Artifact.isFirstLine_header.lines]
  rfl

theorem isGenerated_append {tail : String} {rest : List Char} (h : tail.toList = '\n' :: rest) :
    isGenerated (Artifact.header ++ tail) = true :=
  isGenerated_of_eq (by rw [String.toList_append, h])

theorem isGenerated_file (paragraphs : List (List Backend.Code)) :
    isGenerated (Backend.Code.file Artifact.header paragraphs) = true := by
  have htext : (Backend.Code.renderAll 0
      (.line Artifact.header :: Backend.Code.paragraphs paragraphs)).toList =
      Artifact.header.toList ++
        '\n' :: (Backend.Code.renderAll 0 (Backend.Code.paragraphs paragraphs)).toList := by
    simp [Backend.Code.renderAll, Backend.Code.render, Backend.Code.indentation]
  obtain ⟨more, hm⟩ := Artifact.isFirstLine_header.tidy htext
  exact isGenerated_of_eq hm

theorem isGenerated_module {m : Frontend.Module} (h : m.header = Artifact.header) :
    isGenerated m.render = true := by
  obtain ⟨more, hmore⟩ : ∃ more, m.sections = (Artifact.header ++ "\n") :: more := by
    have hne : Artifact.header.isEmpty = false := by decide
    simp [Frontend.Module.sections, h, hne]
  obtain ⟨rest, hrest⟩ : ∃ rest, (String.intercalate "\n" m.sections).toList =
      Artifact.header.toList ++ '\n' :: rest := by
    rw [hmore]
    cases more with
    | nil => exact ⟨[], by rw [String.intercalate_singleton, String.toList_append]; rfl⟩
    | cons next more =>
      rw [String.intercalate_cons_cons]
      exact ⟨_, by simp only [String.toList_append, List.append_assoc]; rfl⟩
  have htrim := Artifact.isFirstLine_header.trimEnd_append ('\n' :: rest)
  rw [← hrest] at htrim
  -- Trimming leaves nothing behind the header, or a text that starts with the end of its line.
  have hkept := Text.trimEnd_prefix ('\n' :: rest)
  cases hk : Text.trimEnd ('\n' :: rest) with
  | nil =>
    rw [hk, List.append_nil] at htrim
    have hfile : m.render.toList = Artifact.header.toList ++ ['\n'] := by
      rw [Frontend.Module.render, htrim]
      simp
    exact isGenerated_of_eq hfile
  | cons c kept =>
    rw [hk] at htrim hkept
    cases (List.cons_prefix_cons.1 hkept).1
    have hfile : m.render.toList = Artifact.header.toList ++ '\n' :: (kept ++ ['\n']) := by
      rw [Frontend.Module.render, htrim]
      simp
    exact isGenerated_of_eq hfile

end Disk

end Lines

section Contents

theorem Frontend.Client.header_of_module {config : Config} {m : SchemaModule}
    {f : Frontend.Module} (h : Frontend.Client.ofModule config m = .ok f) :
    f.header = Artifact.header := by
  obtain ⟨interfaces, -, h⟩ := bind_eq_ok.1 h
  obtain ⟨functions, -, h⟩ := bind_eq_ok.1 h
  cases h
  rfl

theorem Section.isGenerated_content {config : Config} {m : SchemaModule} {part : Section}
    {text : String} (h : part.content config m = .ok text) : Disk.isGenerated text = true := by
  cases part with
  | types | commands | events | rest =>
    obtain ⟨f, -, rfl⟩ := map_eq_ok.1 h
    exact Disk.isGenerated_file _
  | client =>
    obtain ⟨f, hf, rfl⟩ := map_eq_ok.1 h
    exact Disk.isGenerated_module (Frontend.Client.header_of_module hf)
  | commandForms =>
    rw [content, Except.ok.injEq] at h
    rw [← h]
    exact Disk.isGenerated_module rfl

theorem Glue.isGenerated_of_mem {layout : Layout} {modules : List (String × List Section)}
    {file : Artifact} (h : file ∈ Glue.files layout modules) :
    Disk.isGenerated file.content = true := by
  cases layout with
  | tree =>
    rcases List.mem_cons.1 h with rfl | h
    · simp only [Glue.treeRoot, String.append_assoc]
      exact Disk.isGenerated_append (by rw [String.toList_append]; rfl)
    · obtain ⟨m, -, rfl⟩ := List.mem_map.1 h
      simp only [Glue.treeModule, String.append_assoc]
      exact Disk.isGenerated_append (by rw [String.toList_append]; rfl)
  | wrapper =>
    rw [List.mem_singleton.1 h]
    simp only [Glue.wrapper, String.append_assoc]
    exact Disk.isGenerated_append (by rw [String.toList_append]; rfl)

end Contents

section Paths

namespace Disk.Path

theorem pieces_ofText_name {name : String} (h : '/' ∉ name.toList) :
    (ofText name).pieces = [name] := by
  have hcut : ∀ c ∈ name.toList, (c == '/') = false := by
    intro c hc
    simpa using fun he : c = '/' => h (he ▸ hc)
  simp [ofText, Text.splitAt_eq_singleton hcut]

theorem pieces_ofText_slash {folder name : String} (hf : '/' ∉ folder.toList)
    (hn : '/' ∉ name.toList) : (ofText (folder ++ "/" ++ name)).pieces = [folder, name] := by
  have hcut : ∀ c ∈ folder.toList, (c == '/') = false := by
    intro c hc
    simpa using fun he : c = '/' => hf (he ▸ hc)
  have hsplit : (folder ++ "/" ++ name).toList = folder.toList ++ '/' :: name.toList := by simp
  have hname := pieces_ofText_name hn
  simp only [ofText] at hname ⊢
  rw [hsplit, Text.splitAt_append_cons hcut (by decide), List.map_cons, hname,
    String.ofList_toList]

end Disk.Path

/-- Not empty and not made of points. -/
def StartsName (name : String) : Prop :=
  ∃ c rest, name.toList = c :: rest ∧ c ≠ '.'

theorem StartsName.append {name : String} (h : StartsName name) (tail : String) :
    StartsName (name ++ tail) := by
  obtain ⟨c, rest, he, hc⟩ := h
  exact ⟨c, rest ++ tail.toList, by simp [he], hc⟩

theorem StartsName.isIdle {name : String} (h : StartsName name) :
    Disk.Path.isIdle name = false ∧ name ≠ ".." := by
  obtain ⟨c, rest, he, hc⟩ := h
  have hne : ∀ other : String, other.toList.head? ≠ some c → name ≠ other := by
    rintro other ho rfl
    exact ho (by rw [he]; rfl)
  refine ⟨?_, hne ".." (by simpa using hc.symm)⟩
  simp [Disk.Path.isIdle, hne "" (by simp), hne "." (by simpa using hc.symm)]

theorem Artifact.places_nodup {files : List Artifact} (h : (files.map Artifact.path).Nodup) :
    (files.map fun file => (file.target, file.path)).Nodup := by
  refine List.Nodup.of_map Prod.snd ?_
  rw [List.map_map]
  exact h

/-- The pieces of a path that leads down, through folders to a file. -/
def AreNames (pieces : List String) : Prop :=
  pieces ≠ [] ∧ ∀ piece ∈ pieces, StartsName piece

theorem Check.chars_of_isModuleId {id : String} (h : Check.isModuleId id = true) :
    StartsName id ∧ '/' ∉ id.toList := by
  unfold Check.isModuleId at h
  split at h
  · cases h
  · next c rest he =>
    simp only [Bool.and_eq_true, List.all_eq_true] at h
    have hc := h.1.1.1
    have hdot : c ≠ '.' := by
      rintro rfl
      cases hc
    refine ⟨⟨c, rest, he, hdot⟩, ?_⟩
    rw [he, List.mem_cons]
    rintro (rfl | hm)
    · cases hc
    · cases h.1.1.2 _ hm

theorem script_ne_rust (x y : String) : x ++ ".ts" ≠ y ++ ".rs" := by
  intro he
  have hrev := congrArg (fun name => name.toList.reverse) he
  simp at hrev

namespace Section

def pieces (moduleId : String) (s : Section) : List String :=
  match s.target with
  | .backend => [moduleId, s.stem ++ ".rs"]
  | .frontend => [moduleId ++ "_" ++ s.stem ++ ".ts"]

theorem pieces_ofText {moduleId : String} (h : '/' ∉ moduleId.toList) (s : Section) :
    (Disk.Path.ofText (s.path moduleId)).pieces = s.pieces moduleId := by
  cases s with
  | types | commands | events | rest =>
    rw [path, target, String.append_assoc]
    exact Disk.Path.pieces_ofText_slash h (by decide)
  | client | commandForms => exact Disk.Path.pieces_ofText_name (by simp [path, target, stem, h])

theorem areNames_pieces {moduleId : String} (h : StartsName moduleId) (s : Section) :
    AreNames (s.pieces moduleId) := by
  cases s with
  | types | commands | events | rest =>
    simp only [pieces, target, AreNames, List.forall_mem_cons]
    exact ⟨List.cons_ne_nil _ _, h, ⟨_, _, rfl, by decide⟩, List.forall_mem_nil _⟩
  | client | commandForms =>
    simp only [pieces, target, AreNames, List.forall_mem_cons]
    exact ⟨List.cons_ne_nil _ _, ((h.append _).append _).append _, List.forall_mem_nil _⟩

theorem pieces_inj {a b : String × Section} (h : a.2.pieces a.1 = b.2.pieces b.1) : a = b := by
  obtain ⟨id, s⟩ := a
  obtain ⟨id', s'⟩ := b
  have hends : ∀ x y : String, x ++ "_" ++ "api" ≠ y ++ "_" ++ "commands" := by
    intro x y he
    have hrev := congrArg (fun name => name.toList.reverse) he
    simp at hrev
  cases s <;> cases s' <;> simp [pieces, target, stem] at h ⊢
  case client.commandForms => exact hends _ _ h
  case commandForms.client => exact hends _ _ h.symm
  all_goals exact h

theorem path_inj {a b : String × Section} (ha : '/' ∉ a.1.toList) (hb : '/' ∉ b.1.toList)
    (h : a.2.path a.1 = b.2.path b.1) : a = b :=
  pieces_inj (by rw [← pieces_ofText ha, ← pieces_ofText hb, h])

end Section

namespace Glue

def pieces (layout : Layout) (ids : List String) : List (List String) :=
  match layout with
  | .tree => ["mod.rs"] :: ids.map fun id => [id, "mod.rs"]
  | .wrapper => [[wrapperPath]]

theorem map_pieces_files (layout : Layout) {modules : List (String × List Section)}
    (h : ∀ m ∈ modules, '/' ∉ m.1.toList) :
    (files layout modules).map (fun file => (Disk.Path.ofText file.path).pieces) =
      pieces layout (modules.map Prod.fst) := by
  cases layout with
  | wrapper =>
    have hpath : (Disk.Path.ofText wrapperPath).pieces = [wrapperPath] :=
      Disk.Path.pieces_ofText_name (by decide)
    simp [files, wrapper, pieces, hpath]
  | tree =>
    have hroot : (Disk.Path.ofText "mod.rs").pieces = ["mod.rs"] :=
      Disk.Path.pieces_ofText_name (by decide)
    have hmodule : ∀ m ∈ modules,
        (Disk.Path.ofText (treeModule m).path).pieces = [m.1, "mod.rs"] := by
      intro m hm
      have hpath : (treeModule m).path = m.1 ++ "/" ++ "mod.rs" := by
        simp [treeModule, String.append_assoc]
      rw [hpath]
      exact Disk.Path.pieces_ofText_slash (h m hm) (by decide)
    simp only [files, pieces, treeRoot, hroot, List.map_cons, List.map_map, List.cons.injEq,
      true_and]
    exact List.map_congr_left hmodule

theorem pieces_nodup (layout : Layout) {ids : List String} (h : ids.Nodup) :
    (pieces layout ids).Nodup := by
  cases layout with
  | wrapper => simp [pieces]
  | tree =>
    refine List.nodup_cons.2 ⟨by simp, h.map ?_⟩
    intro a b hab
    simpa using hab

theorem areNames_of_mem_pieces {layout : Layout} {ids : List String}
    (h : ∀ id ∈ ids, StartsName id) : ∀ names ∈ pieces layout ids, AreNames names := by
  have hroot : StartsName "mod.rs" := ⟨_, _, rfl, by decide⟩
  have hwrapper : StartsName wrapperPath := ⟨_, _, rfl, by decide⟩
  cases layout with
  | wrapper => simpa [pieces, AreNames] using hwrapper
  | tree =>
    simp only [pieces, List.forall_mem_cons, List.forall_mem_map, AreNames]
    refine ⟨⟨List.cons_ne_nil _ _, hroot, List.forall_mem_nil _⟩, fun id hid => ?_⟩
    exact ⟨List.cons_ne_nil _ _, h id hid, hroot, List.forall_mem_nil _⟩

theorem not_mem_pieces (layout : Layout) (ids : List String) (id : String) (s : Section) :
    s.pieces id ∉ pieces layout ids := by
  have hroot : ∀ x : String, x ++ ".ts" ≠ "mod.rs" := fun x => script_ne_rust x "mod"
  have hwrapper : ∀ x : String, x ++ ".ts" ≠ wrapperPath :=
    fun x => script_ne_rust x "eventkit_generated"
  cases layout with
  | wrapper => cases s <;> simp [pieces, Section.pieces, Section.target, hwrapper]
  | tree => cases s <;> simp [pieces, Section.pieces, Section.target, Section.stem, hroot]

end Glue

theorem nodup_keyed {α β κ : Type} {key : α → κ} {values : α → List β} {xs : List α}
    (h : (xs.map key).Nodup) (hv : ∀ x ∈ xs, (values x).Nodup) :
    (xs.flatMap fun x => (values x).map fun value => (key x, value)).Nodup := by
  refine List.nodup_flatMap.2 ⟨?_, ?_⟩
  · intro x hx
    refine List.Nodup.map ?_ (hv x hx)
    intro a b hab
    exact (Prod.mk.inj hab).2
  · refine (List.pairwise_map.1 h).imp ?_
    intro a b hab x ha hb
    obtain ⟨p, -, rfl⟩ := List.mem_map.1 ha
    obtain ⟨q, -, hq⟩ := List.mem_map.1 hb
    exact hab (Prod.mk.inj hq).1.symm

theorem Section.mem_all (part : Section) : part ∈ Section.all := by
  cases part <;> decide

/-- The file of a section, if the module has the section and its content can be made. -/
def Section.file? (config : Config) (m : SchemaModule) (part : Section) : Option Artifact :=
  if part.isPresent m then
    (part.content config m).toOption.map fun text => ⟨part.target, part.path m.id, text⟩
  else none

theorem Section.emit_eq_ok {config : Config} {m : SchemaModule} {part : Section}
    {own : List Artifact} (h : part.emit config m = .ok own) :
    own = (part.file? config m).toList ∧
      (part.isPresent m = true → ∃ text, part.content config m = .ok text) := by
  rw [emit] at h
  split at h
  · next hp =>
    split at h
    · next text hc =>
      cases h
      exact ⟨by simp [file?, hp, hc, Except.toOption], fun _ => ⟨text, hc⟩⟩
    · cases h
  · next hp =>
    cases h
    exact ⟨by simp [file?, hp], fun hn => absurd hn hp⟩

namespace SchemaModule

variable {config : Config} {m : SchemaModule}

def sectionFiles (config : Config) (m : SchemaModule) : List Artifact :=
  Section.all.filterMap (Section.file? config m)

/-- All sections that the module has anything to say in have a content. -/
def Emits (config : Config) (m : SchemaModule) : Prop :=
  ∀ part : Section, part.isPresent m = true → ∃ text, part.content config m = .ok text

theorem mem_sectionFiles {file : Artifact} : file ∈ m.sectionFiles config ↔
    ∃ part : Section, part.isPresent m = true ∧ ∃ text, part.content config m = .ok text ∧
      file = ⟨part.target, part.path m.id, text⟩ := by
  simp only [sectionFiles, List.mem_filterMap, Section.mem_all, true_and, Section.file?,
    Option.ite_none_right_eq_some, Option.map_eq_some_iff]
  constructor
  · rintro ⟨part, hp, text, hc, rfl⟩
    exact ⟨part, hp, text, eq_ok_of_toOption hc, rfl⟩
  · rintro ⟨part, hp, text, hc, rfl⟩
    exact ⟨part, hp, text, by rw [hc]; rfl, rfl⟩

theorem map_sectionFiles {β : Type} (h : m.Emits config) (g : Target → String → β) :
    (m.sectionFiles config).map (fun file => g file.target file.path) =
      (Section.all.filter (·.isPresent m)).map fun part => g part.target (part.path m.id) := by
  rw [sectionFiles]
  induction Section.all with
  | nil => rfl
  | cons part parts ih =>
    cases hp : part.isPresent m with
    | false => simpa [Section.file?, hp] using ih
    | true =>
      obtain ⟨text, hc⟩ := h part hp
      simpa [Section.file?, hp, hc, Except.toOption] using ih

theorem emits_of_mapM {parts : List (List Artifact)}
    (h : Section.all.mapM (Section.emit config m) = .ok parts) :
    m.Emits config ∧ parts.flatten = m.sectionFiles config := by
  constructor
  · intro part
    obtain ⟨own, -, hown⟩ := mem_of_mapM_eq_ok h part.mem_all
    exact (Section.emit_eq_ok hown).2
  · rw [sectionFiles, List.filterMap_eq_flatMap_toList, ← List.flatMap_id]
    exact flatMap_of_mapM_eq_ok h fun part _ own hown => (Section.emit_eq_ok hown).1

end SchemaModule

namespace SchemaSet

section Generated

variable {config : Config} {s : SchemaSet} {files : List Artifact}

def presentSections (s : SchemaSet) : List (String × Section) :=
  s.modules.flatMap fun m =>
    (Section.all.filter fun part => part.isPresent m).map fun part => (m.id, part)

theorem presentSections_nodup (h : (s.modules.map SchemaModule.id).Nodup) :
    s.presentSections.Nodup :=
  nodup_keyed h fun _ _ => List.Nodup.filter _ (by decide)

theorem isModuleId_of_generate (h : s.generate config = .ok files) {m : SchemaModule}
    (hm : m ∈ s.modules) : Check.isModuleId m.id = true := by
  have hc := check_of_mem (andThen_eq_ok.1 h).1 hm
  simp only [SchemaModule.check, andThen_eq_ok, Check.ensure_eq_ok] at hc
  exact hc.1

theorem slash_not_mem_of_generate (h : s.generate config = .ok files) {m : SchemaModule}
    (hm : m ∈ s.modules) : '/' ∉ m.id.toList :=
  (Check.chars_of_isModuleId (isModuleId_of_generate h hm)).2

theorem generate_eq (h : s.generate config = .ok files) : ∃ emitted, s.emit config = .ok emitted ∧
    files = emitted ++ Glue.files config.layout (Glue.sections s emitted) := by
  obtain ⟨-, h⟩ := andThen_eq_ok.1 h
  obtain ⟨emitted, he, h⟩ := bind_eq_ok.1 h
  cases h
  exact ⟨emitted, he, rfl⟩

theorem emits_of_emit {emitted : List Artifact} (h : s.emit config = .ok emitted) :
    (∀ m ∈ s.modules, m.Emits config) ∧
      emitted = s.modules.flatMap (SchemaModule.sectionFiles config) := by
  obtain ⟨perModule, hall, h⟩ := bind_eq_ok.1 h
  cases h
  constructor
  · intro m hm
    obtain ⟨parts, -, hparts⟩ := mem_of_mapM_eq_ok hall hm
    exact (SchemaModule.emits_of_mapM hparts).1
  · exact flatMap_of_mapM_eq_ok hall fun m _ parts hparts =>
      (SchemaModule.emits_of_mapM hparts).2

theorem map_pieces_of_emit {emitted : List Artifact} (h : s.emit config = .ok emitted)
    (hids : ∀ m ∈ s.modules, '/' ∉ m.id.toList) :
    emitted.map (fun file => (Disk.Path.ofText file.path).pieces) =
      s.presentSections.map fun x => x.2.pieces x.1 := by
  obtain ⟨hemits, rfl⟩ := emits_of_emit h
  rw [List.map_flatMap, presentSections, List.map_flatMap]
  refine List.flatMap_congr fun m hm => ?_
  rw [SchemaModule.map_sectionFiles (hemits m hm) fun _ path => (Disk.Path.ofText path).pieces]
  simp [Section.pieces_ofText (hids m hm)]

theorem isGenerated_of_emit {emitted : List Artifact} (h : s.emit config = .ok emitted) :
    ∀ file ∈ emitted, Disk.isGenerated file.content = true := by
  obtain ⟨-, rfl⟩ := emits_of_emit h
  intro file hf
  obtain ⟨m, -, hf⟩ := List.mem_flatMap.1 hf
  obtain ⟨part, -, text, hc, rfl⟩ := SchemaModule.mem_sectionFiles.1 hf
  exact Section.isGenerated_content hc

theorem isGenerated_of_generate (h : s.generate config = .ok files) :
    ∀ file ∈ files, Disk.isGenerated file.content = true := by
  obtain ⟨emitted, he, rfl⟩ := generate_eq h
  intro file hf
  rcases List.mem_append.1 hf with hf | hf
  · exact isGenerated_of_emit he file hf
  · exact Glue.isGenerated_of_mem hf

theorem map_pieces_of_generate (h : s.generate config = .ok files) :
    files.map (fun file => (Disk.Path.ofText file.path).pieces) =
      (s.presentSections.map fun x => x.2.pieces x.1) ++
        Glue.pieces config.layout (Text.sortNames (s.modules.map SchemaModule.id)) := by
  have hids : ∀ m ∈ s.modules, '/' ∉ m.id.toList := fun m hm => slash_not_mem_of_generate h hm
  obtain ⟨emitted, he, rfl⟩ := generate_eq h
  have hsections : (Glue.sections s emitted).map Prod.fst =
      Text.sortNames (s.modules.map SchemaModule.id) := by
    simp [Glue.sections, Function.comp_def]
  rw [List.map_append, map_pieces_of_emit he hids, Glue.map_pieces_files, hsections]
  intro x hx
  have hid : x.1 ∈ (Glue.sections s emitted).map Prod.fst := List.mem_map_of_mem hx
  rw [hsections, Text.mem_sortNames] at hid
  obtain ⟨m, hm, he⟩ := List.mem_map.1 hid
  exact he ▸ hids m hm

theorem pieces_nodup_of_generate (h : s.generate config = .ok files)
    (hids : (s.modules.map SchemaModule.id).Nodup) :
    (files.map fun file => (Disk.Path.ofText file.path).pieces).Nodup := by
  rw [map_pieces_of_generate h]
  refine List.nodup_append'.2 ⟨?_, Glue.pieces_nodup _ (Text.nodup_sortNames _), ?_⟩
  · exact (presentSections_nodup hids).map fun _ _ => Section.pieces_inj
  · intro pieces hl hr
    obtain ⟨x, -, rfl⟩ := List.mem_map.1 hl
    exact Glue.not_mem_pieces _ _ _ _ hr

theorem paths_nodup_of_generate (h : s.generate config = .ok files)
    (hids : (s.modules.map SchemaModule.id).Nodup) : (files.map Artifact.path).Nodup := by
  refine List.Nodup.of_map (fun path => (Disk.Path.ofText path).pieces) ?_
  rw [List.map_map]
  exact pieces_nodup_of_generate h hids

theorem areNames_of_generate (h : s.generate config = .ok files) {file : Artifact}
    (hf : file ∈ files) : AreNames (Disk.Path.ofText file.path).pieces := by
  have hids : ∀ m ∈ s.modules, StartsName m.id :=
    fun m hm => (Check.chars_of_isModuleId (isModuleId_of_generate h hm)).1
  have hmem : (Disk.Path.ofText file.path).pieces ∈
      files.map fun file => (Disk.Path.ofText file.path).pieces := List.mem_map_of_mem hf
  rw [map_pieces_of_generate h, List.mem_append] at hmem
  rcases hmem with hmem | hmem
  · obtain ⟨x, hx, he⟩ := List.mem_map.1 hmem
    obtain ⟨m, hm, hx⟩ := List.mem_flatMap.1 hx
    obtain ⟨part, -, rfl⟩ := List.mem_map.1 hx
    exact he ▸ Section.areNames_pieces (hids m hm) part
  · refine Glue.areNames_of_mem_pieces ?_ _ hmem
    intro id hid
    obtain ⟨m, hm, rfl⟩ := List.mem_map.1 (Text.mem_sortNames.1 hid)
    exact hids m hm

end Generated

end SchemaSet

end Paths

end EventSchema
