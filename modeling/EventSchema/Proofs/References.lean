import EventSchema.Check.Imports
import EventSchema.Proofs.Checked
import Mathlib.Data.List.Nodup

set_option autoImplicit false

namespace EventSchema

open Outcome

namespace Datatype

theorem mem_walkList {node : Datatype} {fields : List (String × Datatype)} :
    node ∈ walkList fields ↔ ∃ f ∈ fields, node ∈ f.2.walk := by
  induction fields with
  | nil => simp [walkList]
  | cons f rest ih =>
    obtain ⟨key, dt⟩ := f
    simp [walkList, ih]

theorem node_of_customRef? {node : Datatype} {r : CustomRef} (h : node.customRef? = some r) :
    ∃ name nullable, node = .node name none none nullable ∧
      formOf name false false = .ok (.custom r) := by
  obtain ⟨name, of, fields, nullable⟩ := node
  have hf : formOf name of.isSome fields.isSome = .ok (.custom r) := by
    unfold customRef? at h
    split at h
    · next hf =>
      cases h
      exact hf
    · cases h
  obtain ⟨ho, hfields⟩ := parts_of_formOf hf
  obtain rfl : of = none := by simpa using ho
  obtain rfl : fields = none := by simpa using hfields
  exact ⟨name, nullable, rfl, hf⟩

theorem mem_references {moduleId : String} {dt : Datatype} {r : CustomRef} :
    r ∈ dt.references moduleId ↔
      ∃ node ∈ dt.walk, ∃ own, node.customRef? = some own ∧ own.relativeTo moduleId = r := by
  simp [references, Option.map_eq_some_iff]

variable {s : SchemaSet} {m : SchemaModule}

theorem WellFormed.of_mem_walk {dt : Datatype} (h : dt.WellFormed s m) :
    ∀ node ∈ dt.walk, node.WellFormed s m := by
  induction h with
  | primitive hf =>
    simp only [walk, walkOf, walkFields, List.append_nil, List.mem_singleton, forall_eq]
    exact .primitive hf
  | custom hf hr =>
    simp only [walk, walkOf, walkFields, List.append_nil, List.mem_singleton, forall_eq]
    exact .custom hf hr
  | list hf hi ih =>
    simp only [walk, walkOf, walkFields, List.append_nil, List.forall_mem_cons]
    exact ⟨.list hf hi, ih⟩
  | object hf hk he ih =>
    simp only [walk, walkOf, walkFields, List.nil_append, List.forall_mem_cons, mem_walkList]
    exact ⟨.object hf hk he, fun node ⟨f, hm, hn⟩ => ih f hm node hn⟩

theorem WellFormed.resolves {node : Datatype} (h : node.WellFormed s m) {r : CustomRef}
    (hr : node.customRef? = some r) : s.resolves m r = true := by
  obtain ⟨name, nullable, rfl, hf⟩ := node_of_customRef? hr
  cases h with
  | primitive hp => simp [hf] at hp
  | custom hc hs =>
    obtain rfl : r = _ := by simpa [hf] using hc
    exact hs

end Datatype

theorem CustomRef.isLocalTo_iff {r : CustomRef} {moduleId : String} :
    r.isLocalTo moduleId = true ↔ r.foreign? moduleId = none := by
  cases hr : r.module with
  | none => simp [isLocalTo, foreign?, hr]
  | some q => simp [isLocalTo, foreign?, hr]

theorem CustomRef.module_of_foreign? {r : CustomRef} {moduleId q : String}
    (h : r.foreign? moduleId = some q) : r.module = some q :=
  (Option.filter_eq_some_iff.1 h).1

theorem CustomRef.module_of_isLocalTo {r : CustomRef} {moduleId : String}
    (h : r.isLocalTo moduleId = true) : r.module.getD moduleId = moduleId := by
  cases hr : r.module with
  | none => rfl
  | some q => simpa [isLocalTo, hr] using h

theorem SchemaSet.exists_of_resolves {s : SchemaSet} {m : SchemaModule} (hm : m ∈ s.modules)
    {r : CustomRef} (h : s.resolves m r = true) :
    ∃ target ∈ s.modules, target.id = r.module.getD m.id ∧ target.types.declares r.name = true := by
  unfold resolves at h
  split at h
  · next q hq =>
    obtain ⟨target, ht, hd⟩ := (Option.any_eq_true _ _).1 h
    have hid : target.id = q := by simpa using List.find?_some ht
    refine ⟨target, List.mem_of_find?_eq_some ht, ?_, hd⟩
    rw [hid, CustomRef.module_of_foreign? hq, Option.getD_some]
  · next hl =>
    exact ⟨m, hm, (CustomRef.module_of_isLocalTo (CustomRef.isLocalTo_iff.2 hl)).symm, h⟩

namespace Declarations

theorem declares_iff {d : Declarations} {name : String} :
    d.declares name = true ↔ name ∈ d.typeNames := by
  simp [declares, findType?, findEnum?, typeNames]

variable {d : Declarations} {moduleId q name : String} {names : List String}

theorem nodup_imports : ((d.imports moduleId).map Prod.fst).Nodup := by
  simp only [imports, List.map_map, Function.comp_def, List.map_id']
  exact Text.nodup_sortNames _

theorem mem_imports_names (h : (q, names) ∈ d.imports moduleId) :
    name ∈ names ↔ ⟨some q, name⟩ ∈ d.references moduleId := by
  simp only [imports, List.mem_map, Prod.mk.injEq] at h
  obtain ⟨_, -, rfl, rfl⟩ := h
  rw [Text.mem_sortNames, List.mem_map]
  constructor
  · rintro ⟨pair, hp, rfl⟩
    obtain ⟨hp, hq⟩ := List.mem_filter.1 hp
    obtain ⟨⟨module, own⟩, hr, hm⟩ := List.mem_filterMap.1 hp
    obtain ⟨source, rfl, rfl⟩ := Option.map_eq_some_iff.1 hm
    obtain rfl : source = _ := by simpa using hq
    exact hr
  · intro hr
    exact ⟨(_, name), List.mem_filter.2 ⟨List.mem_filterMap.2 ⟨_, hr, rfl⟩, by simp⟩, rfl⟩

theorem exists_mem_imports (h : ⟨some q, name⟩ ∈ d.references moduleId) :
    ∃ names, (q, names) ∈ d.imports moduleId := by
  simp only [imports, List.mem_map, Prod.mk.injEq]
  refine ⟨_, q, ?_, rfl, rfl⟩
  rw [Text.mem_sortNames, List.mem_map]
  exact ⟨(q, name), List.mem_filterMap.2 ⟨_, h, rfl⟩, rfl⟩

end Declarations

theorem Check.importsFrom_eq_ok {d : Declarations} {table : List (String × String)}
    {refs : List CustomRef} (h : importsFrom d table refs = .ok ()) :
    ∃ final : List (String × String),
      (∀ name q, table.lookup name = some q → final.lookup name = some q) ∧
      ∀ name q, ⟨some q, name⟩ ∈ refs → d.declares name = false ∧ final.lookup name = some q := by
  induction refs generalizing table with
  | nil => exact ⟨table, fun _ _ h => h, by simp⟩
  | cons r rest ih =>
    obtain ⟨module, own⟩ := r
    cases module with
    | none =>
      obtain ⟨final, hk, hr⟩ := ih h
      exact ⟨final, hk, fun name q hm => hr name q (by simpa using hm)⟩
    | some source =>
      by_cases hd : d.declares own = true
      · simp [importsFrom, hd] at h
      have hd : d.declares own = false := by simpa using hd
      -- the table after this reference has its name, and what it had before
      obtain ⟨next, hnext, hown, hkept⟩ : ∃ next, importsFrom d next rest = .ok () ∧
          next.lookup own = some source ∧
          ∀ name q, table.lookup name = some q → next.lookup name = some q := by
        simp only [importsFrom, hd, Bool.false_eq_true, if_false] at h
        cases hl : table.lookup own with
        | none =>
          simp only [hl] at h
          refine ⟨_, h, by simp, fun name q hq => ?_⟩
          have hne : name ≠ own := by
            rintro rfl
            simp [hl] at hq
          rw [List.lookup_cons, beq_false_of_ne hne]
          exact hq
        | some other =>
          simp only [hl] at h
          split at h
          · next heq =>
            subst heq
            exact ⟨table, h, hl, fun _ _ hq => hq⟩
          · cases h
      obtain ⟨final, hk, hr⟩ := ih hnext
      refine ⟨final, fun name q hq => hk name q (hkept name q hq), fun name q hm => ?_⟩
      rcases List.mem_cons.1 hm with he | hm
      · cases he
        exact ⟨hd, hk own source hown⟩
      · exact hr name q hm

theorem SchemaModule.mem_references {m : SchemaModule} {root node : Datatype}
    (hroot : root ∈ m.types.datatypes) (hn : node ∈ root.walk) {r : CustomRef}
    (hr : node.customRef? = some r) : r.relativeTo m.id ∈ m.types.references m.id :=
  List.mem_flatMap.2 ⟨root, hroot, Datatype.mem_references.2 ⟨node, hn, r, hr, rfl⟩⟩

namespace SchemaModule.Checked

variable {s : SchemaSet} {m : SchemaModule}

theorem wellFormed (h : m.Checked s) {dt : Datatype} (hm : dt ∈ m.datatypes) :
    dt.WellFormed s m := by
  simp only [datatypes, Declarations.datatypes, List.mem_append, List.mem_map,
    List.mem_flatMap] at hm
  rcases hm with (⟨t, ht, rfl⟩ | ⟨e, he, hd⟩) | ⟨e, he, f, hf, rfl⟩
  · exact (h.types t ht).1
  · exact h.payloads e he dt (List.mem_append.2 hd)
  · exact (h.events e he f hf).2

theorem foreign (h : m.Checked s) {name q : String}
    (hr : ⟨some q, name⟩ ∈ m.types.references m.id) :
    m.types.declares name = false ∧
      ∀ other, ⟨some other, name⟩ ∈ m.types.references m.id → other = q := by
  have hsub : ∀ r ∈ m.types.references m.id,
      r ∈ m.datatypes.flatMap (Datatype.references m.id) := by
    intro r hr
    rw [datatypes, List.flatMap_append]
    exact List.mem_append_left _ hr
  obtain ⟨final, -, hf⟩ := Check.importsFrom_eq_ok h.imports
  refine ⟨(hf name q (hsub _ hr)).1, fun other ho => ?_⟩
  exact Option.some.inj ((hf name other (hsub _ ho)).2.symm.trans (hf name q (hsub _ hr)).2)

end SchemaModule.Checked

end EventSchema
