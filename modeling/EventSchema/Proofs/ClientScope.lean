import EventSchema.Proofs.Captures
import EventSchema.Proofs.ExprReader

set_option autoImplicit false

namespace EventSchema

open Outcome

namespace Declarations

theorem nodup_of_mem_imports {d : Declarations} {moduleId : String} {i : String × List String}
    (h : i ∈ d.imports moduleId) : i.2.Nodup := by
  simp only [imports, List.mem_map] at h
  obtain ⟨_, -, rfl⟩ := h
  exact Text.nodup_sortNames _

end Declarations

theorem SchemaModule.Checked.declared_of_foreign {s : SchemaSet} {m : SchemaModule}
    (h : m.Checked s) (hm : m ∈ s.modules) {q name : String}
    (hr : ⟨some q, name⟩ ∈ m.types.references m.id) :
    ∃ target ∈ s.modules, name ∈ target.types.typeNames := by
  obtain ⟨root, hroot, hr⟩ := List.mem_flatMap.1 hr
  obtain ⟨node, hn, own, ho, he⟩ := Datatype.mem_references.1 hr
  have hname : own.name = name := congrArg CustomRef.name he
  have hnode := (h.wellFormed (List.mem_append_left _ hroot)).of_mem_walk node hn
  obtain ⟨target, ht, -, hd⟩ := SchemaSet.exists_of_resolves hm (hnode.resolves ho)
  exact ⟨target, ht, hname ▸ Declarations.declares_iff.1 hd⟩

namespace Frontend

/-- What a block of code starts with before the name that it exports. -/
def blockStarts : List String := ["export class ", "export function "]

def blockName? (code : String) : Option String :=
  (blockStarts.find? fun start => start.toList.isPrefixOf code.toList).map fun start =>
    String.ofList ((code.toList.drop start.length).takeWhile isWordPart)

namespace Module

def importedNames (c : Module) : List String :=
  c.imports.flatMap TypeImport.names

def exportedNames (c : Module) : List String :=
  c.consts.map ConstDef.name ++ c.typeNames ++ c.blocks.filterMap blockName? ++
    c.functions.map Function.name ++ c.trailer.map ConstDef.name

/-- Everything that the file binds at its top level. -/
def boundNames (c : Module) : List String :=
  c.importedNames ++ c.exportedNames

end Module

namespace Client

def blockNames : List String := ["ApiError", "defaultErrorHandler"]

theorem blockName?_of_prefix {start name code : String} (hs : start ∈ blockStarts)
    (hn : name.toList.all isWordPart = true) {mark : Char} (hm : isWordPart mark = false)
    (hc : start.toList ++ (name.toList ++ [mark]) <+: code.toList) :
    blockName? code = some name := by
  obtain ⟨rest, hc⟩ := hc
  rw [List.append_assoc, List.append_assoc, List.singleton_append] at hc
  have hfind : (blockStarts.find? fun start => start.toList.isPrefixOf code.toList) =
      some start := by
    simp only [blockStarts, List.mem_cons, List.not_mem_nil, or_false] at hs
    rcases hs with rfl | rfl
    · rw [blockStarts, List.find?_cons_of_pos (by rw [← hc]; simp)]
    · rw [blockStarts, List.find?_cons_of_neg (by rw [← hc]; simp),
        List.find?_cons_of_pos (by rw [← hc]; simp)]
  have hname : (code.toList.drop start.length).takeWhile isWordPart = name.toList := by
    rw [← hc, ← String.length_toList, List.drop_left,
      List.takeWhile_append_of_pos (List.all_eq_true.1 hn)]
    simp [hm]
  rw [blockName?, hfind, Option.map_some, hname, String.ofList_toList]

theorem prefix_of_append {start : List Char} {a b : String} (h : start <+: a.toList) :
    start <+: (a ++ b).toList := by
  rw [String.toList_append]
  exact h.trans (List.prefix_append _ _)

theorem blockName?_errorClass : blockName? errorClass = some "ApiError" := by
  have hprefix : "export class ".toList ++ ("ApiError".toList ++ [' ']) <+:
      errorClass.toList := by
    unfold errorClass
    -- only the first line counts, and the others are behind it
    iterate 12 refine prefix_of_append ?_
    decide +kernel
  exact blockName?_of_prefix (by decide) (by decide) rfl hprefix

theorem blockName?_errorHandler : blockName? errorHandler = some "defaultErrorHandler" := by
  have hprefix : "export function ".toList ++ ("defaultErrorHandler".toList ++ ['(']) <+:
      errorHandler.toList := by
    unfold errorHandler
    iterate 2 refine prefix_of_append ?_
    decide +kernel
  exact blockName?_of_prefix (by decide) (by decide) rfl hprefix

theorem blockName?_blocks : [errorClass, errorHandler].filterMap blockName? = blockNames := by
  simp [blockName?_errorClass, blockName?_errorHandler, blockNames]

variable {s : SchemaSet} {m : SchemaModule} {config : Config} {c : Module}

theorem blockNames_eq (h : ofModule config m = .ok c) :
    c.blocks.filterMap blockName? = if m.types.endpoints.isEmpty then [] else blockNames := by
  obtain ⟨interfaces, -, h⟩ := bind_eq_ok.1 h
  obtain ⟨functions, -, h⟩ := bind_eq_ok.1 h
  cases h
  by_cases he : m.types.endpoints.isEmpty
  · simp [he]
  · simpa [he] using blockName?_blocks

theorem consts_and_trailer (h : ofModule config m = .ok c) :
    c.consts.map ConstDef.name = m.types.constants.map Constant.key ∧ c.trailer = [] := by
  obtain ⟨interfaces, -, h⟩ := bind_eq_ok.1 h
  obtain ⟨functions, -, h⟩ := bind_eq_ok.1 h
  cases h
  exact ⟨List.map_map, rfl⟩

theorem exportedNames_eq (hm : m.Checked s) (h : ofModule config m = .ok c) :
    c.exportedNames = m.types.constants.map Constant.key ++
      ((if m.types.usesDatetime then [datetimeAlias] else []) ++
        (m.types.enums.map Enumeration.name ++ m.types.types.map NamedType.name)) ++
      (if m.types.endpoints.isEmpty then [] else blockNames) ++
      (m.types.enums.map (fun e => e.name ++ "Exhaustive" ++ e.digest) ++
        m.types.endpoints.flatMap fun e => [urlName e, e.name]) := by
  obtain ⟨hconsts, htrailer⟩ := consts_and_trailer h
  rw [Module.exportedNames, hconsts, htrailer, typeNames_of_ofModule hm h, blockNames_eq h,
    functionNames_eq h, List.map_nil, List.append_nil]

theorem count_ite_le {α : Type} [BEq α] (p : Prop) [Decidable p] (a : α) (xs : List α) :
    (if p then xs else []).count a ≤ xs.count a := by
  split
  · exact le_rfl
  · exact Nat.zero_le _

/-- A client exports nothing more often than the check has counted it. -/
theorem count_exportedNames_le (hm : m.Checked s) (h : ofModule config m = .ok c) (name : String) :
    c.exportedNames.count name ≤ (Check.clientExports m.types).count name := by
  have henums := (List.map_append_flatMap_perm m.types.enums Enumeration.name
    fun e => [e.name ++ "Exhaustive" ++ e.digest]).count_eq name
  have hendpoints := (List.Perm.flatMap_left m.types.endpoints
    fun e _ => List.Perm.swap (urlName e) e.name []).count_eq name
  have halias := count_ite_le (m.types.usesDatetime) name [datetimeAlias]
  have hblocks := count_ite_le (¬ m.types.endpoints.isEmpty) name blockNames
  have hbuiltins : [datetimeAlias, "ApiError", "defaultErrorHandler"] =
    [datetimeAlias] ++ blockNames := rfl
  rw [exportedNames_eq hm h, Check.clientExports, hbuiltins]
  rw [ite_not] at hblocks
  simp only [List.count_append, ← List.map_eq_flatMap] at henums hendpoints ⊢
  simp only [urlName] at hendpoints ⊢
  omega

theorem exportedNames_nodup (hm : m.Checked s) (h : ofModule config m = .ok c) :
    c.exportedNames.Nodup := by
  refine List.nodup_iff_count_le_one.2 fun name => ?_
  have hone := List.nodup_iff_count_le_one.1 hm.exports name
  exact (count_exportedNames_le hm h name).trans hone

theorem importedNames_eq (h : ofModule config m = .ok c) :
    c.importedNames = (m.types.imports m.id).flatMap Prod.snd := by
  obtain ⟨interfaces, -, h⟩ := bind_eq_ok.1 h
  obtain ⟨functions, -, h⟩ := bind_eq_ok.1 h
  cases h
  rw [Module.importedNames, List.flatMap_map]

theorem mem_importedNames (h : ofModule config m = .ok c) {name : String} :
    name ∈ c.importedNames ↔ ∃ q, ⟨some q, name⟩ ∈ m.types.references m.id := by
  rw [importedNames_eq h, List.mem_flatMap]
  constructor
  · rintro ⟨⟨q, names⟩, hi, hn⟩
    exact ⟨q, (Declarations.mem_imports_names hi).1 hn⟩
  · rintro ⟨q, hq⟩
    obtain ⟨names, hi⟩ := Declarations.exists_mem_imports hq
    exact ⟨(q, names), hi, (Declarations.mem_imports_names hi).2 hq⟩

theorem importedNames_nodup (hm : m.Checked s) (h : ofModule config m = .ok c) :
    c.importedNames.Nodup := by
  rw [importedNames_eq h, List.nodup_flatMap]
  refine ⟨fun i hi => Declarations.nodup_of_mem_imports hi, ?_⟩
  have hpairs : (m.types.imports m.id).Pairwise (·.1 ≠ ·.1) :=
    List.pairwise_map.1 Declarations.nodup_imports
  refine hpairs.imp_of_mem fun {i j} hi hj hne name hni hnj => hne ?_
  -- a name of two lines would come from two modules
  have hri := (Declarations.mem_imports_names hi).1 hni
  have hrj := (Declarations.mem_imports_names hj).1 hnj
  exact (hm.foreign hrj).2 i.1 hri

theorem importedNames_disjoint (hm : m.Checked s) (h : ofModule config m = .ok c)
    (hmem : m ∈ s.modules) (hall : ∀ target ∈ s.modules, target.Checked s) :
    c.importedNames.Disjoint (c.typeNames ++ c.blocks.filterMap blockName?) := by
  intro name hi he
  obtain ⟨q, hr⟩ := (mem_importedNames h).1 hi
  obtain ⟨target, ht, hn⟩ := hm.declared_of_foreign hmem hr
  -- the module that declares it keeps it off the names that come with its own client
  have hbuiltin : name ∉ datetimeAlias :: blockNames := (hall target ht).disjoint_builtins hn
  rcases List.mem_append.1 he with ht | hb
  · have halias : name ≠ datetimeAlias := List.ne_of_not_mem_cons hbuiltin
    exact not_mem_typeNames hm h halias (hm.foreign hr).1 ht
  · rw [blockNames_eq h] at hb
    split at hb
    · cases hb
    · exact hbuiltin (List.mem_cons_of_mem _ hb)

/-- The names of the file are distinct unless an import meets a constant or a function. -/
theorem boundNames_nodup_iff (hm : m.Checked s) (h : ofModule config m = .ok c)
    (hmem : m ∈ s.modules) (hall : ∀ target ∈ s.modules, target.Checked s) :
    c.boundNames.Nodup ↔
      c.importedNames.Disjoint (c.consts.map ConstDef.name ++ c.functions.map Function.name) := by
  have hi := importedNames_nodup hm h
  have he := exportedNames_nodup hm h
  have hd := importedNames_disjoint hm h hmem hall
  obtain ⟨-, htrailer⟩ := consts_and_trailer h
  rw [Module.boundNames, List.nodup_append', and_iff_right hi, and_iff_right he,
    Module.exportedNames, htrailer]
  simp only [List.disjoint_append_right] at hd ⊢
  simp [hd]

end Client

end Frontend

namespace SchemaSet

open Frontend Client

/-- Neither the imports of a client nor its exports bind a name twice. All together are distinct if
and only if no imported type has the name of a constant or of a function. -/
theorem client_scope_distinct_iff {config : Config} {s : SchemaSet} {files : List Artifact}
    (hg : s.generate config = .ok files) {m : SchemaModule} (hm : m ∈ s.modules) :
    ∃ c, Client.ofModule config m = .ok c ∧
      ⟨.frontend, Section.path m.id .client, c.render⟩ ∈ files ∧
      c.importedNames.Nodup ∧ c.exportedNames.Nodup ∧
      c.importedNames.Disjoint (c.typeNames ++ c.blocks.filterMap blockName?) ∧
      (c.boundNames.Nodup ↔ ∀ name ∈ c.importedNames,
        (∀ k ∈ m.types.constants, k.key ≠ name) ∧
        (∀ e ∈ m.types.enums, e.name ++ "Exhaustive" ++ e.digest ≠ name) ∧
        ∀ e ∈ m.types.endpoints, urlName e ≠ name ∧ e.name ≠ name) := by
  have hall := fun target ht => checked_of_generate (m := target) hg ht
  have hchecked := hall m hm
  obtain ⟨c, hc, hfile⟩ := client_of_generate hg hm
  refine ⟨c, hc, hfile, importedNames_nodup hchecked hc, exportedNames_nodup hchecked hc,
    importedNames_disjoint hchecked hc hm hall, ?_⟩
  rw [boundNames_nodup_iff hchecked hc hm hall, (consts_and_trailer hc).1, functionNames_eq hc]
  refine forall₂_congr fun name _ => ?_
  simp [forall_and, eq_comm]

theorem client_scope_distinct_iff_import :
    ∃ (s : SchemaSet) (files : List Artifact) (m : SchemaModule) (c : Module),
      s.generate {} = .ok files ∧ m ∈ s.modules ∧ Client.ofModule {} m = .ok c ∧
      c.importedNames = ["Item"] ∧
      c.exportedNames = ["limit", "datetimeRFC3339", "Entry", "ApiError", "defaultErrorHandler",
        "putUrl", "put"] ∧
      c.boundNames.Nodup := by
  let item := Datatype.node "b.Item" none none false
  let entry := Datatype.node "object" none (some [("at", .node "datetime" none none true)]) false
  let a : SchemaModule := {
    id := "a"
    types := {
      constants := [⟨"limit", "9"⟩]
      types := [⟨"Entry", entry⟩]
      endpoints := [⟨.put, "/", "put", "public", none, some item, none⟩] } }
  let b : SchemaModule :=
    { id := "b", types := { types := [⟨"Item", .node "object" none (some []) false⟩] } }
  let s : SchemaSet := ⟨[a, b]⟩
  have hcheck : s.check = .ok () := by cbv
  have hdraft : ∀ m ∈ s.modules, ∀ part ∈ Section.drafting,
      (part.content {} m).toOption.isSome = true := by decide +kernel
  have himported : (Client.ofModule {} a).map Module.importedNames = .ok ["Item"] :=
    eq_ok_of_toOption (by decide +kernel)
  obtain ⟨c, hclient, himported⟩ := map_eq_ok.1 himported
  obtain ⟨files, hg⟩ := generate_of_drafts {} hcheck hdraft
  have ha : a ∈ s.modules := List.mem_cons_self
  obtain ⟨c', hc', -, -, -, -, hiff⟩ := client_scope_distinct_iff hg ha
  cases hclient.symm.trans hc'
  have hexported := exportedNames_eq (checked_of_generate hg ha) hclient
  refine ⟨s, files, a, c, hg, ha, hclient, himported, hexported.trans (by decide +kernel),
    hiff.2 ?_⟩
  rw [himported]
  decide +kernel

/-- A constant and a call that have the names of imported types pass all checks. -/
theorem client_scope_clash_constant :
    ∃ (s : SchemaSet) (files : List Artifact) (m : SchemaModule) (c : Module),
      s.generate {} = .ok files ∧ m ∈ s.modules ∧ Client.ofModule {} m = .ok c ∧
      c.importedNames = ["Kind", "Limit"] ∧
      c.exportedNames = ["Limit", "ApiError", "defaultErrorHandler", "KindUrl", "Kind"] ∧
      ¬ c.boundNames.Nodup := by
  let limit := Datatype.node "b.Limit" none none false
  let kind := Datatype.node "b.Kind" none none false
  let a : SchemaModule := {
    id := "a"
    types := {
      constants := [⟨"Limit", "9"⟩]
      endpoints := [⟨.put, "/", "Kind", "public", none, some limit, some kind⟩] } }
  let b : SchemaModule := {
    id := "b"
    types := {
      types := [⟨"Limit", .node "object" none (some []) false⟩,
        ⟨"Kind", .node "object" none (some []) false⟩] } }
  let s : SchemaSet := ⟨[a, b]⟩
  have hcheck : s.check = .ok () := by cbv
  have hdraft : ∀ m ∈ s.modules, ∀ part ∈ Section.drafting,
      (part.content {} m).toOption.isSome = true := by decide +kernel
  have himported : (Client.ofModule {} a).map Module.importedNames = .ok ["Kind", "Limit"] :=
    eq_ok_of_toOption (by decide +kernel)
  obtain ⟨c, hclient, himported⟩ := map_eq_ok.1 himported
  obtain ⟨files, hg⟩ := generate_of_drafts {} hcheck hdraft
  have ha : a ∈ s.modules := List.mem_cons_self
  have hexported : c.exportedNames =
      ["Limit", "ApiError", "defaultErrorHandler", "KindUrl", "Kind"] :=
    (exportedNames_eq (checked_of_generate hg ha) hclient).trans (by decide +kernel)
  refine ⟨s, files, a, c, hg, ha, hclient, himported, hexported, ?_⟩
  rw [Module.boundNames, himported, hexported]
  decide

end SchemaSet

end EventSchema
