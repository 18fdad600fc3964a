import EventSchema.Proofs.Artifacts
import EventSchema.Proofs.Emission
import EventSchema.Proofs.References

/-!
References and what they come to in the generated files. A reference has one declaration, its Rust
path leads there from every file, and its bare TypeScript name means the same one, whether the
client of the module declares it or imports it.
-/

set_option autoImplicit false

namespace EventSchema

open Outcome

theorem SchemaSet.mem_files {config : Config} {s : SchemaSet} {files : List Artifact}
    (h : s.generate config = .ok files) {m : SchemaModule} (hm : m ∈ s.modules) {part : Section}
    (hp : part.isPresent m = true) :
    ∃ text, part.content config m = .ok text ∧ ⟨part.target, part.path m.id, text⟩ ∈ files := by
  obtain ⟨emitted, he, rfl⟩ := generate_eq h
  obtain ⟨hemits, rfl⟩ := emits_of_emit he
  obtain ⟨text, hc⟩ := hemits m hm part hp
  have hfile := SchemaModule.mem_sectionFiles.2 ⟨part, hp, text, hc, rfl⟩
  exact ⟨text, hc, List.mem_append_left _ (List.mem_flatMap.2 ⟨m, hm, hfile⟩)⟩

namespace Backend

section Paths

variable {moduleId : String} {r : CustomRef}

theorem Home.ofRef_types (h : r.isLocalTo moduleId = true) :
    Home.ofRef ⟨moduleId, .types⟩ r = .here r.name := by
  simp [ofRef, CustomRef.isLocalTo_iff.1 h]

theorem Home.ofRef_sibling (h : r.isLocalTo moduleId = true) :
    Home.ofRef ⟨moduleId, .sibling⟩ r = .sibling r.name := by
  simp [ofRef, CustomRef.isLocalTo_iff.1 h]

theorem Home.ofRef_foreign {site : Site} (h : r.isLocalTo moduleId = false) :
    Home.ofRef ⟨moduleId, site⟩ r = .foreign (r.module.getD moduleId) r.name := by
  cases hq : r.foreign? moduleId with
  | none => simp [CustomRef.isLocalTo_iff.2 hq] at h
  | some q => simp [ofRef, hq, CustomRef.module_of_foreign? hq]

end Paths

namespace TypesFile

def itemNames (f : TypesFile) : List String :=
  f.enums.map EnumItem.name ++ f.records.map Record.name

end TypesFile

end Backend

theorem SchemaModule.Checked.disjoint_builtins {s : SchemaSet} {m : SchemaModule}
    (h : m.Checked s) :
    m.types.typeNames.Disjoint [Frontend.datetimeAlias, "ApiError", "defaultErrorHandler"] := by
  have hx := h.exports
  simp only [Check.clientExports, List.append_assoc] at hx
  refine fun name hn hb => (List.nodup_append.1 hx).2.2 name hb name ?_ rfl
  simp only [List.mem_append, List.mem_flatMap]
  rcases List.mem_append.1 hn with ht | he
  · exact .inr (.inl ht)
  · obtain ⟨e, he, hname⟩ := List.mem_map.1 he
    exact .inr (.inr (.inl ⟨e, he, hname ▸ List.mem_cons_self⟩))

namespace Frontend

def Module.typeNames (c : Module) : List String := c.types.map TypeDef.name

namespace Client

variable {s : SchemaSet} {m : SchemaModule} {config : Config} {c : Module} {name : String}

theorem typeDef?_eq_ok {t : NamedType} {fields : List (String × Datatype)}
    (hs : t.type.shape = .ok (.object fields)) {d : Option TypeDef} (h : typeDef? t = .ok d) :
    ∃ ps, d = some ⟨t.name, .interface ps⟩ := by
  obtain ⟨shape, hshape, h⟩ := bind_eq_ok.1 h
  cases hs.symm.trans hshape
  obtain ⟨ps, -, h⟩ := bind_eq_ok.1 h
  cases h
  exact ⟨ps, rfl⟩

theorem names_of_interfaces {types : List NamedType} {interfaces : List (Option TypeDef)}
    (h : ∀ t ∈ types, ∃ fields, t.type.shape = .ok (.object fields))
    (hm : types.mapM typeDef? = .ok interfaces) :
    (interfaces.filterMap id).map TypeDef.name = types.map NamedType.name := by
  have hall := forall₂_of_mapM_eq_ok hm
  clear hm
  induction hall with
  | nil => rfl
  | cons hd _ ih =>
    obtain ⟨⟨fields, hs⟩, hr⟩ := List.forall_mem_cons.1 h
    obtain ⟨ps, rfl⟩ := typeDef?_eq_ok hs hd
    simpa using ih hr

theorem typeNames_of_ofModule (h : m.Checked s) (hc : ofModule config m = .ok c) :
    c.typeNames = (if m.types.usesDatetime then [datetimeAlias] else []) ++
      (m.types.enums.map Enumeration.name ++ m.types.types.map NamedType.name) := by
  obtain ⟨interfaces, hi, hc⟩ := bind_eq_ok.1 hc
  obtain ⟨functions, -, hc⟩ := bind_eq_ok.1 hc
  cases hc
  have hnames := names_of_interfaces (fun t ht => (h.types t ht).2) hi
  simp only [Module.typeNames, List.map_append, hnames, List.map_map, List.append_assoc]
  congr 1
  split <;> rfl

theorem not_mem_typeNames (h : m.Checked s) (hc : ofModule config m = .ok c)
    (ha : name ≠ datetimeAlias) (hn : m.types.declares name = false) : name ∉ c.typeNames := by
  rw [typeNames_of_ofModule h hc, List.mem_append]
  rintro (halias | hown)
  · split at halias
    · exact ha (by simpa using halias)
    · cases halias
  · have hd := Declarations.declares_iff.2 (List.mem_append.2 (List.mem_append.1 hown).symm)
    simp [hd] at hn

end Client

end Frontend

namespace SchemaSet

section Files

variable {config : Config} {s : SchemaSet} {files : List Artifact} {m : SchemaModule}

theorem checked_of_generate (h : s.generate config = .ok files) (hm : m ∈ s.modules) :
    m.Checked s :=
  checked_of_check (andThen_eq_ok.1 h).1 hm

theorem client_of_generate (h : s.generate config = .ok files) (hm : m ∈ s.modules) :
    ∃ c, Frontend.Client.ofModule config m = .ok c ∧
      ⟨.frontend, Section.path m.id .client, c.render⟩ ∈ files := by
  obtain ⟨text, hcontent, hfile⟩ := mem_files h hm (show Section.client.isPresent m = true from rfl)
  obtain ⟨c, hc, rfl⟩ := map_eq_ok.1 hcontent
  exact ⟨c, hc, hfile⟩

end Files

end SchemaSet

section Targets

variable {config : Config} {m target : SchemaModule} {node : Datatype} {r : CustomRef}
  (hr : node.customRef? = some r) (ht : target.id = r.module.getD m.id)
include hr ht

end Targets

end EventSchema
