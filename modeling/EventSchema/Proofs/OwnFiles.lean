import EventSchema.Proofs.GlueReach

set_option autoImplicit false

namespace EventSchema

/-- A file in the folder of a module, or one of its two files for the frontend. -/
def Artifact.belongsTo (id : String) (file : Artifact) : Bool :=
  match (Disk.Path.ofText file.path).pieces with
  | [name] => decide (name = id ++ "_api.ts" ∨ name = id ++ "_commands.ts")
  | [folder, name] => decide (folder = id ∧ ".rs".toList <:+ name.toList)
  | _ => false

def Glue.ownFiles (m : String × List Section) : Layout → List Artifact
  | .tree => [treeModule m]
  | .wrapper => []

/-- All files of a module, as they follow from the module alone. -/
def SchemaModule.ownFiles (config : Config) (m : SchemaModule) : List Artifact :=
  m.sectionFiles config ++
    Glue.ownFiles (m.id, Section.backend.filter (·.isPresent m)) config.layout

theorem flatMap_of_key {α β κ : Type} [DecidableEq κ] {key : α → κ} {xs : List α}
    (h : (xs.map key).Nodup) {a : α} (ha : a ∈ xs) (g : α → List β) :
    (xs.flatMap fun x => if key x = key a then g x else []) = g a := by
  induction xs with
  | nil => cases ha
  | cons x xs ih =>
    obtain ⟨hx, hxs⟩ := List.nodup_cons.1 h
    rw [List.flatMap_cons]
    rcases List.mem_cons.1 ha with rfl | ha
    · have hrest : (xs.flatMap fun x => if key x = key a then g x else []) = [] := by
        refine List.flatMap_eq_nil_iff.2 fun x hm => if_neg fun he => hx ?_
        rw [← he]
        exact List.mem_map_of_mem hm
      rw [if_pos rfl, hrest, List.append_nil]
    · have hne : key x ≠ key a := fun he => hx (he ▸ List.mem_map_of_mem ha)
      rw [if_neg hne, List.nil_append, ih hxs ha]

section Places

variable {id other : String}

theorem client_ne_forms (x y : String) : x ++ "_api.ts" ≠ y ++ "_commands.ts" := by
  intro he
  have hrev := congrArg (fun name => name.toList.reverse) he
  simp at hrev

theorem Section.belongsTo_path (h : '/' ∉ other.toList) (part : Section) (text : String) :
    Artifact.belongsTo id ⟨part.target, part.path other, text⟩ = decide (other = id) := by
  rw [Artifact.belongsTo, part.pieces_ofText h]
  cases part with
  | types | commands | events | rest => exact decide_eq_decide.2 (and_iff_left (by decide))
  | client =>
    have hname : other ++ "_" ++ "api" ++ ".ts" = other ++ "_api.ts" := by
      rw [String.append_assoc, String.append_assoc]
      rfl
    refine decide_eq_decide.2 ?_
    simp [stem, hname, client_ne_forms]
  | commandForms =>
    have hname : other ++ "_" ++ "commands" ++ ".ts" = other ++ "_commands.ts" := by
      rw [String.append_assoc, String.append_assoc]
      rfl
    refine decide_eq_decide.2 ?_
    simp [stem, hname, (client_ne_forms _ _).symm]

theorem Glue.belongsTo_treeModule (h : '/' ∉ other.toList) (parts : List Section) :
    (treeModule (other, parts)).belongsTo id = decide (other = id) := by
  have hpath : (treeModule (other, parts)).path = other ++ "/" ++ "mod.rs" := by
    simp [treeModule, String.append_assoc]
  rw [Artifact.belongsTo, hpath, Disk.Path.pieces_ofText_slash h (by decide)]
  exact decide_eq_decide.2 (and_iff_left (by decide))

theorem Artifact.belongsTo_eq_false {file : Artifact} (stem : String)
    (hp : file.path = stem ++ ".rs") (h : '/' ∉ (stem ++ ".rs").toList) :
    file.belongsTo id = false := by
  rw [belongsTo, hp, Disk.Path.pieces_ofText_name h]
  refine decide_eq_false ?_
  rintro (he | he)
  · exact script_ne_rust (id ++ "_api") stem (by rw [he, String.append_assoc]; rfl)
  · exact script_ne_rust (id ++ "_commands") stem (by rw [he, String.append_assoc]; rfl)

end Places

theorem SchemaModule.filter_sectionFiles {config : Config} {m : SchemaModule}
    (h : '/' ∉ m.id.toList) (id : String) :
    (m.sectionFiles config).filter (·.belongsTo id) =
      if m.id = id then m.sectionFiles config else [] := by
  have hall : ∀ file ∈ m.sectionFiles config, file.belongsTo id = decide (m.id = id) := by
    intro file hf
    obtain ⟨part, -, text, -, rfl⟩ := mem_sectionFiles.1 hf
    exact part.belongsTo_path h text
  rw [List.filter_congr hall]
  split
  · next he => simp [he]
  · next hne => simp [hne]

/-- Of the joining files only one can belong to a module. -/
theorem Glue.filter_files {modules : List (String × List Section)}
    (h : ∀ m ∈ modules, '/' ∉ m.1.toList) (hn : (modules.map Prod.fst).Nodup)
    {m : String × List Section} (hm : m ∈ modules) (layout : Layout) :
    (files layout modules).filter (·.belongsTo m.1) = ownFiles m layout := by
  cases layout with
  | wrapper =>
    have hwrapper : (wrapper modules).belongsTo m.1 = false :=
      Artifact.belongsTo_eq_false "eventkit_generated" rfl (by decide)
    simp [files, ownFiles, hwrapper]
  | tree =>
    have hroot : (treeRoot modules).belongsTo m.1 = false :=
      Artifact.belongsTo_eq_false "mod" rfl (by decide)
    have hmodule : ∀ x ∈ modules, [treeModule x].filter (·.belongsTo m.1) =
        if x.1 = m.1 then [treeModule x] else [] := by
      intro x hx
      rw [List.filter_singleton, belongsTo_treeModule (h x hx)]
      split <;> simp_all
    rw [files, List.filter_cons_of_neg (by simp [hroot]), List.map_eq_flatMap,
      List.filter_flatMap, List.flatMap_congr hmodule, flatMap_of_key hn hm,
      ownFiles]

theorem SchemaSet.filedSections_of_emit {config : Config} {s : SchemaSet} {emitted : List Artifact}
    (h : s.emit config = .ok emitted) (hnames : ∀ m ∈ s.modules, '/' ∉ m.id.toList)
    (hids : (s.modules.map SchemaModule.id).Nodup) {m : SchemaModule} (hm : m ∈ s.modules) :
    Glue.filedSections emitted m.id = Section.backend.filter (·.isPresent m) := by
  refine List.filter_congr fun part hb => ?_
  rw [Bool.eq_iff_iff, List.contains_iff_mem, mem_backendPaths_of_emit h]
  constructor
  · rintro ⟨other, ho, p, -, hp, he⟩
    obtain ⟨hid, rfl⟩ := Prod.mk.inj (Section.path_inj (a := (other.id, p)) (b := (m.id, part))
      (hnames other ho) (hnames m hm) he)
    rwa [← List.inj_on_of_nodup_map hids ho hm hid]
  · intro hp
    exact ⟨m, hm, part, hb, hp, rfl⟩

namespace SchemaSet

variable {config : Config} {m : SchemaModule}

theorem filter_of_generate {s : SchemaSet} {files : List Artifact}
    (h : s.generate config = .ok files) (hids : (s.modules.map SchemaModule.id).Nodup)
    (hm : m ∈ s.modules) : files.filter (·.belongsTo m.id) = m.ownFiles config := by
  have hnames : ∀ m ∈ s.modules, '/' ∉ m.id.toList := fun m hm => slash_not_mem_of_generate h hm
  obtain ⟨emitted, he, rfl⟩ := generate_eq h
  have hsections : emitted.filter (·.belongsTo m.id) = m.sectionFiles config := by
    obtain ⟨-, rfl⟩ := emits_of_emit he
    rw [List.filter_flatMap, List.flatMap_congr fun m hm =>
      SchemaModule.filter_sectionFiles (hnames m hm) _]
    exact flatMap_of_key hids hm _
  have hmem : (m.id, Glue.filedSections emitted m.id) ∈ Glue.sections s emitted :=
    List.mem_map_of_mem (Text.mem_sortNames.2 (List.mem_map_of_mem hm))
  have hglue : ∀ x ∈ Glue.sections s emitted, '/' ∉ x.1.toList := by
    intro x hx
    exact slash_not_mem_sortedIds h (map_fst_sections s emitted ▸ List.mem_map_of_mem hx)
  have hkeys : ((Glue.sections s emitted).map Prod.fst).Nodup := by
    rw [map_fst_sections]
    exact Text.nodup_sortNames _
  rw [List.filter_append, hsections, Glue.filter_files hglue hkeys hmem,
    filedSections_of_emit he hnames hids hm, SchemaModule.ownFiles]

/-- A module that two schemas share has the same files in both. -/
theorem own_files_independent {a b : List SchemaModule} (ha : (a.map SchemaModule.id).Nodup)
    (hb : (b.map SchemaModule.id).Nodup) {files others : List Artifact}
    (hfiles : (ofList a).generate config = .ok files)
    (hothers : (ofList b).generate config = .ok others) (hma : m ∈ a) (hmb : m ∈ b) :
    files.filter (·.belongsTo m.id) = others.filter (·.belongsTo m.id) := by
  have hown : ∀ {modules : List SchemaModule} {files : List Artifact},
      (modules.map SchemaModule.id).Nodup → (ofList modules).generate config = .ok files →
        m ∈ modules → files.filter (·.belongsTo m.id) = m.ownFiles config := by
    intro modules files hids hg hm
    have hperm := perm_modules_ofList modules
    exact filter_of_generate hg ((hperm.map _).nodup_iff.2 hids) (hperm.mem_iff.2 hm)
  rw [hown ha hfiles hma, hown hb hothers hmb]

theorem own_files_independent_accounts : ∃ files others : List Artifact,
    (ofList [Sample.books, Sample.accounts]).generate {} = .ok files ∧
    (ofList [Sample.accounts]).generate {} = .ok others ∧
    files.filter (·.belongsTo "accounts") = others.filter (·.belongsTo "accounts") ∧
    (files.filter (·.belongsTo "accounts")).map Artifact.path = ["accounts/types.rs",
      "accounts/commands.rs", "accounts/events.rs", "accounts/rest.rs", "accounts_api.ts",
      "accounts_commands.ts", "accounts/mod.rs"] := by
  have hlt : ¬ Sample.books.id ≤ Sample.accounts.id := by decide
  have hboth : ofList [Sample.books, Sample.accounts] = ⟨[Sample.accounts, Sample.books]⟩ := by
    simp [ofList, List.mergeSort, hlt]
  have hone : ofList [Sample.accounts] = ⟨[Sample.accounts]⟩ := by simp [ofList]
  obtain ⟨files, hf⟩ : ∃ files, generate {} ⟨[Sample.accounts, Sample.books]⟩ = .ok files :=
    generate_of_drafts _ (check_of_modules (by decide +kernel) (by cbv)) (by decide +kernel)
  obtain ⟨others, ho⟩ : ∃ files, generate {} ⟨[Sample.accounts]⟩ = .ok files :=
    generate_of_drafts _ (check_of_modules (by decide +kernel) (by cbv)) (by decide +kernel)
  have hfiles : files.filter (·.belongsTo "accounts") = Sample.accounts.ownFiles {} :=
    filter_of_generate hf (by decide) (List.mem_cons_self ..)
  refine ⟨files, others, hboth ▸ hf, hone ▸ ho, ?_, hfiles ▸ by decide +kernel⟩
  exact own_files_independent (by decide) (by decide) (hboth ▸ hf) (hone ▸ ho)
    (List.mem_cons_of_mem _ (List.mem_singleton_self _)) (List.mem_singleton_self _)

end SchemaSet

end EventSchema
