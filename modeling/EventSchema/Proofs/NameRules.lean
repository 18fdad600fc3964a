import EventSchema.Proofs.Items

set_option autoImplicit false

namespace EventSchema

open Outcome

structure SchemaModule.NamesAllowed (m : SchemaModule) : Prop where
  id : Check.isModuleId m.id = true
  enums : ∀ e ∈ m.types.enums, Check.isTypeName e.name = true ∧ e.name ∉ Check.preludeTypes ∧
    ∀ member ∈ e.members, Naming.isIdentifier member.key = true
  types : ∀ t ∈ m.types.types, Check.isTypeName t.name = true ∧ t.name ∉ Check.preludeTypes
  endpoints : ∀ e ∈ m.types.endpoints, e.name ∉ Check.clientBodyNames
  placeholders : ∀ e ∈ m.types.endpoints, ∀ names, Route.placeholders e.path = .ok names →
    names.Nodup ∧ (names.map Backend.fieldIdent?).Nodup ∧
      ∀ name ∈ names, Check.isFreePlaceholder name = true
  commands : ∀ c ∈ m.commands, c.structName ∉ Check.reservedCommandNames
  events : ∀ e ∈ m.events, e.structName ∉ Check.reservedEventNames

namespace Check

theorem typeName_eq_ok {name : String} :
    typeName name = .ok () ↔ isTypeName name = true ∧ name ∉ preludeTypes := by
  simp only [typeName, andThen_eq_ok, ensure_eq_ok]
  simp

theorem enumeration_rules {e : Enumeration} (h : enumeration e = .ok ()) :
    isTypeName e.name = true ∧ e.name ∉ preludeTypes ∧
      ∀ member ∈ e.members, Naming.isIdentifier member.key = true := by
  simp only [enumeration, andThen_eq_ok, forM_eq_ok, ensure_eq_ok, typeName_eq_ok] at h
  exact ⟨h.1.1, h.1.2, h.2.2.2.1⟩

theorem name_of_endpoint {s : SchemaSet} {m : SchemaModule} {e : Endpoint}
    (h : endpoint s m e = .ok ()) : e.name ∉ clientBodyNames := by
  simp only [endpoint, andThen_eq_ok, ensure_eq_ok] at h
  simpa using h.2.1

theorem placeholder_rules {s : SchemaSet} {m : SchemaModule} {e : Endpoint}
    (h : endpoint s m e = .ok ()) {names : List String}
    (hn : Route.placeholders e.path = .ok names) :
    names.Nodup ∧ (names.map Backend.fieldIdent?).Nodup ∧
      ∀ name ∈ names, isFreePlaceholder name = true := by
  simp only [endpoint, andThen_eq_ok] at h
  obtain ⟨-, -, -, h⟩ := h
  obtain ⟨others, ho, h⟩ := bind_eq_ok.1 h
  cases hn.symm.trans ho
  simp only [andThen_eq_ok, unique_eq_ok, forM_eq_ok, ensure_eq_ok] at h
  exact ⟨h.1, (uniqueIdents_eq_ok.1 h.2.1).2, h.2.2.1⟩

end Check

theorem SchemaModule.namesAllowed_of_check {s : SchemaSet} {m : SchemaModule}
    (h : m.check s = .ok ()) : m.NamesAllowed := by
  simp only [check, andThen_eq_ok, Check.ensure_eq_ok] at h
  obtain ⟨hid, -, hu, ht, he, -, hc, hv, -⟩ := h
  simp only [Check.enumerations, Check.namedTypes, Check.endpoints, Check.commands, Check.events,
    andThen_eq_ok, forM_eq_ok, Place.locate_eq_ok] at hu ht he hc hv
  have hend := Check.endpoint_of_endpointsFrom he.2.2
  refine {
    id := hid
    enums := fun e hm => Check.enumeration_rules (hu.2 e hm)
    types := fun t hm => Check.typeName_eq_ok.1 (andThen_eq_ok.1 (ht.2.2 t hm)).1
    endpoints := fun e hm => Check.name_of_endpoint (hend e hm)
    placeholders := fun e hm names => Check.placeholder_rules (hend e hm)
    commands := fun c hm => ?_
    events := fun e hm => ?_ }
  · have h := hc.2.2 c hm
    simp only [Check.command, andThen_eq_ok, Check.ensure_eq_ok] at h
    simpa using h.2.1
  · have h := hv.2.2 e hm
    simp only [Check.event, andThen_eq_ok, Check.ensure_eq_ok] at h
    simpa using h.2.1

theorem SchemaModule.isBindable_of_check {s : SchemaSet} {m : SchemaModule}
    (h : m.check s = .ok ()) {e : Endpoint} (he : e ∈ m.types.endpoints) :
    Check.isBindable e.name = true := by
  simp only [check, andThen_eq_ok] at h
  obtain ⟨-, -, -, -, hendpoints, -⟩ := h
  simp only [Check.endpoints, andThen_eq_ok] at hendpoints
  have hend := Check.endpoint_of_endpointsFrom hendpoints.2.2 e he
  simp only [Check.endpoint, andThen_eq_ok, Check.ensure_eq_ok] at hend
  exact hend.1

theorem SchemaSet.isBindable_of_generate {config : Config} {s : SchemaSet}
    {files : List Artifact} (h : s.generate config = .ok files) {m : SchemaModule}
    (hm : m ∈ s.modules) {e : Endpoint} (he : e ∈ m.types.endpoints) :
    Check.isBindable e.name = true :=
  SchemaModule.isBindable_of_check (check_of_mem (andThen_eq_ok.1 h).1 hm) he

theorem SchemaSet.namesAllowed_of_generate {config : Config} {s : SchemaSet}
    {files : List Artifact} (h : s.generate config = .ok files) {m : SchemaModule}
    (hm : m ∈ s.modules) : m.NamesAllowed :=
  SchemaModule.namesAllowed_of_check (check_of_mem (andThen_eq_ok.1 h).1 hm)

end EventSchema
