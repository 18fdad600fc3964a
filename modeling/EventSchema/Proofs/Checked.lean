import EventSchema.Check.Schema
import EventSchema.Proofs.Datatype
import EventSchema.Proofs.Outcome

set_option autoImplicit false

namespace EventSchema

open Outcome

theorem Place.locate_eq_ok {α : Type} {place : Place} {x : Except Fault α} {a : α} :
    place.locate x = .ok a ↔ x = .ok a := by
  cases x with
  | error fault => simp [locate]
  | ok b => simp [locate]

theorem Place.locate_eq_error {α : Type} {place : Place} {x : Except Fault α} {fault : Fault} :
    place.locate x = .error fault ↔ ∃ inner, x = .error inner ∧ fault = .within place inner := by
  cases x with
  | error inner => simp [locate, eq_comm]
  | ok b => simp [locate]

namespace Check

theorem ensure_eq_ok {condition : Bool} {fault : Fault} :
    ensure condition fault = .ok () ↔ condition = true := by
  unfold ensure
  cases condition <;> simp

theorem unique_eq_ok {kind : Kind} {names : List String} :
    unique kind names = .ok () ↔ names.Nodup := by
  rw [← Text.firstRepeat_eq_none]
  unfold unique
  cases Text.firstRepeat names <;> simp

theorem uniqueIdentsFrom_eq_ok {table : List (String × String)} {keys : List String} :
    uniqueIdentsFrom table keys = .ok () ↔
      (∀ key ∈ keys, ∃ ident, Backend.fieldIdent? key = some ident ∧ table.lookup ident = none) ∧
        (keys.map Backend.fieldIdent?).Nodup := by
  induction keys generalizing table with
  | nil => simp [uniqueIdentsFrom]
  | cons key rest ih =>
    rw [uniqueIdentsFrom, List.forall_mem_cons, List.map_cons, List.nodup_cons]
    cases hk : Backend.fieldIdent? key with
    | none => simp
    | some ident =>
      cases hl : table.lookup ident with
      | some other =>
        refine ⟨fun h => by simp [hl] at h, ?_⟩
        rintro ⟨⟨⟨other, ho, hn⟩, -⟩, -⟩
        cases ho
        simp [hl] at hn
      | none =>
        simp only [hl, ih]
        grind

theorem uniqueIdents_eq_ok {keys : List String} :
    uniqueIdents keys = .ok () ↔
      (∀ key ∈ keys, ∃ ident, Backend.fieldIdent? key = some ident) ∧
        (keys.map Backend.fieldIdent?).Nodup := by
  simp [uniqueIdents, uniqueIdentsFrom_eq_ok]

end Check

namespace Datatype

/-- Every node has a form, every reference a declaration, and the keys of an object different
identifiers. -/
inductive WellFormed (s : SchemaSet) (m : SchemaModule) : Datatype → Prop
  | primitive {name : String} {nullable : Bool} {p : Primitive}
      (form : formOf name false false = .ok (.primitive p)) :
      WellFormed s m (.node name none none nullable)
  | custom {name : String} {nullable : Bool} {r : CustomRef}
      (form : formOf name false false = .ok (.custom r)) (resolves : s.resolves m r = true) :
      WellFormed s m (.node name none none nullable)
  | list {name : String} {of : Datatype} {nullable : Bool}
      (form : formOf name true false = .ok .list) (item : WellFormed s m of) :
      WellFormed s m (.node name (some of) none nullable)
  | object {name : String} {fields : List (String × Datatype)} {nullable : Bool}
      (form : formOf name false true = .ok .object)
      (keys : Check.uniqueIdents (fields.map Prod.fst) = .ok ())
      (each : ∀ f ∈ fields, WellFormed s m f.2) :
      WellFormed s m (.node name none (some fields) nullable)

variable {s : SchemaSet} {m : SchemaModule}

theorem eachField_eq_ok {fields : List (String × Datatype)} :
    Check.eachField s m fields = .ok () ↔ ∀ f ∈ fields, Check.datatype s m f.2 = .ok () := by
  induction fields with
  | nil => simp [Check.eachField]
  | cons f rest ih =>
    rw [Check.eachField, andThen_eq_ok, Place.locate_eq_ok, List.forall_mem_cons, ih]

theorem object_eq_ok {fields : List (String × Datatype)} :
    Check.object s m (some fields) = .ok () ↔
      Check.uniqueIdents (fields.map Prod.fst) = .ok () ∧
        ∀ f ∈ fields, Check.datatype s m f.2 = .ok () := by
  rw [Check.object, andThen_eq_ok, eachField_eq_ok]

theorem wellFormed_of_datatype_eq_ok (dt : Datatype) (h : Check.datatype s m dt = .ok ()) :
    WellFormed s m dt := by
  induction dt using formInduction with
  | malformed name of fields nullable flaw hf => simp [Check.datatype, hf] at h
  | primitive name nullable p hf => exact .primitive hf
  | custom name nullable r hf =>
    exact .custom hf (Check.ensure_eq_ok.1 (by simpa [Check.datatype, hf] using h))
  | list name of nullable hf ih =>
    exact .list hf (ih (by simpa [Check.datatype, Check.item, hf] using h))
  | object name fields nullable hf ih =>
    have ho : Check.object s m (some fields) = .ok () := by simpa [Check.datatype, hf] using h
    obtain ⟨hk, he⟩ := object_eq_ok.1 ho
    exact .object hf hk fun f hm => ih f hm (he f hm)

theorem wellFormed_of_shape {dt : Datatype} {fields : List (String × Datatype)}
    (hs : dt.shape = .ok (.object fields)) (h : Check.object s m (some fields) = .ok ()) :
    WellFormed s m dt := by
  induction dt using formInduction with
  | malformed name of fields nullable flaw hf => simp [shape_of_malformed hf] at hs
  | primitive name nullable p hf => simp [shape_of_primitive hf] at hs
  | custom name nullable r hf => simp [shape_of_custom hf] at hs
  | list name of nullable hf => simp [shape_of_list hf] at hs
  | object name own nullable hf =>
    obtain rfl : own = fields := by simpa [shape_of_object hf] using hs
    obtain ⟨hk, he⟩ := object_eq_ok.1 h
    exact .object hf hk fun f hm => wellFormed_of_datatype_eq_ok f.2 (he f hm)

theorem WellFormed.fields {dt : Datatype} (h : WellFormed s m dt)
    {fields : List (String × Datatype)} (hs : dt.shape = .ok (.object fields)) :
    (∀ f ∈ fields, ∃ ident, Backend.fieldIdent? f.1 = some ident) ∧
      ∀ f ∈ fields, WellFormed s m f.2 := by
  cases h with
  | primitive hf => simp [shape_of_primitive hf] at hs
  | custom hf => simp [shape_of_custom hf] at hs
  | list hf => simp [shape_of_list hf] at hs
  | object hf hk he =>
    obtain rfl : _ = fields := by simpa [shape_of_object hf] using hs
    refine ⟨fun f hm => ?_, he⟩
    exact (Check.uniqueIdents_eq_ok.1 hk).1 f.1 (List.mem_map_of_mem hm)

end Datatype

def Declarations.typeNames (d : Declarations) : List String :=
  d.types.map NamedType.name ++ d.enums.map Enumeration.name

namespace SchemaModule

/-- What the emitters may rely on in a module that passed its checks. -/
structure Checked (s : SchemaSet) (m : SchemaModule) : Prop where
  names : m.types.typeNames.Nodup
  types : ∀ t ∈ m.types.types, t.type.WellFormed s m ∧ ∃ fields, t.type.shape = .ok (.object fields)
  paths : ∀ e ∈ m.types.endpoints, ∃ parts, Route.parts e.path = .ok parts ∧
    ∀ name ∈ parts.filterMap PathPart.placeholder?, ∃ ident, Backend.fieldIdent? name = some ident
  payloads : ∀ e ∈ m.types.endpoints, ∀ dt ∈ e.consumes.toList ++ e.produces.toList,
    dt.WellFormed s m
  exports : (Check.clientExports m.types).Nodup
  commands : ∀ c ∈ m.commands, ∀ f ∈ c.fields, ∃ ident, Backend.fieldIdent? f.key = some ident
  events : ∀ e ∈ m.events, ∀ f ∈ e.fields,
    (∃ ident, Backend.fieldIdent? f.key = some ident) ∧ f.type.WellFormed s m
  imports : Check.imports m = .ok ()

end SchemaModule

namespace Check

variable {s : SchemaSet} {m : SchemaModule}

theorem wellFormed_of_namedType {t : NamedType} (h : namedType s m t = .ok ()) :
    t.type.WellFormed s m ∧ ∃ fields, t.type.shape = .ok (.object fields) := by
  obtain ⟨-, h⟩ := andThen_eq_ok.1 h
  split at h
  · cases h
  · next fields hs => exact ⟨Datatype.wellFormed_of_shape hs h, fields, hs⟩
  · cases h

theorem endpoint_of_endpointsFrom {routes : Routes} {es : List Endpoint}
    (h : endpointsFrom s m routes es = .ok ()) : ∀ e ∈ es, endpoint s m e = .ok () := by
  induction es generalizing routes with
  | nil => simp
  | cons e rest ih =>
    obtain ⟨he, h⟩ := andThen_eq_ok.1 h
    obtain ⟨next, -, h⟩ := bind_eq_ok.1 h
    exact List.forall_mem_cons.2 ⟨Place.locate_eq_ok.1 he, ih h⟩

theorem wellFormed_of_payload {place : Place} {payload : Option Datatype}
    (h : Check.payload s m place payload = .ok ()) : ∀ dt ∈ payload.toList, dt.WellFormed s m := by
  cases payload with
  | none => simp
  | some dt =>
    simpa using Datatype.wellFormed_of_datatype_eq_ok dt (Place.locate_eq_ok.1 h)

/-- What the check of an endpoint has seen, in the order in which it looks. -/
theorem endpoint_eq_ok {e : Endpoint} (h : endpoint s m e = .ok ()) :
    (∃ parts, Route.parts e.path = .ok parts ∧
      ∀ name ∈ parts.filterMap PathPart.placeholder?,
        ∃ ident, Backend.fieldIdent? name = some ident) ∧
    ∀ dt ∈ e.consumes.toList ++ e.produces.toList, dt.WellFormed s m := by
  simp only [endpoint, andThen_eq_ok] at h
  obtain ⟨-, -, -, h⟩ := h
  obtain ⟨names, hn, h⟩ := bind_eq_ok.1 h
  simp only [andThen_eq_ok] at h
  obtain ⟨-, hi, -, hc, hp⟩ := h
  obtain ⟨parts, hparts, rfl⟩ := map_eq_ok.1 hn
  refine ⟨⟨parts, hparts, (uniqueIdents_eq_ok.1 hi).1⟩, fun dt hm => ?_⟩
  rcases List.mem_append.1 hm with hm | hm
  · exact wellFormed_of_payload hc dt hm
  · exact wellFormed_of_payload hp dt hm

theorem idents_of_command {c : Command} (h : command c = .ok ()) :
    ∀ f ∈ c.fields, ∃ ident, Backend.fieldIdent? f.key = some ident := by
  simp only [command, andThen_eq_ok] at h
  obtain ⟨-, -, -, -, hi, -⟩ := h
  have hk := (uniqueIdents_eq_ok.1 (Place.locate_eq_ok.1 hi)).1
  exact fun f hm => hk f.key (List.mem_map_of_mem hm)

theorem fields_of_event {e : Event} (h : event s m e = .ok ()) :
    ∀ f ∈ e.fields,
      (∃ ident, Backend.fieldIdent? f.key = some ident) ∧ f.type.WellFormed s m := by
  simp only [event, andThen_eq_ok] at h
  obtain ⟨-, -, -, hi, h⟩ := h
  have hk := (uniqueIdents_eq_ok.1 (Place.locate_eq_ok.1 hi)).1
  intro f hm
  have ht := Place.locate_eq_ok.1 (forM_eq_ok.1 h f hm)
  exact ⟨hk f.key (List.mem_append_left _ (List.mem_map_of_mem hm)),
    Datatype.wellFormed_of_datatype_eq_ok f.type ht⟩

end Check

namespace SchemaModule

theorem checked_of_check {s : SchemaSet} {m : SchemaModule} (h : m.check s = .ok ()) :
    m.Checked s := by
  simp only [check, andThen_eq_ok] at h
  obtain ⟨-, -, -, ht, he, hx, hc, hv, hi⟩ := h
  simp only [Check.namedTypes, Check.endpoints, Check.commands, Check.events, Check.exports,
    andThen_eq_ok, forM_eq_ok, Check.unique_eq_ok, Place.locate_eq_ok] at ht he hx hc hv
  obtain ⟨-, hn, ht⟩ := ht
  obtain ⟨-, -, he⟩ := he
  obtain ⟨-, -, hc⟩ := hc
  obtain ⟨-, -, hv⟩ := hv
  have hend := Check.endpoint_of_endpointsFrom he
  exact {
    names := hn
    types := fun t hm => Check.wellFormed_of_namedType (ht t hm)
    paths := fun e hm => (Check.endpoint_eq_ok (hend e hm)).1
    payloads := fun e hm => (Check.endpoint_eq_ok (hend e hm)).2
    exports := hx
    commands := fun c hm => Check.idents_of_command (hc c hm)
    events := fun e hm => Check.fields_of_event (hv e hm)
    imports := hi }

end SchemaModule

namespace SchemaSet

theorem check_of_mem {s : SchemaSet} (h : s.check = .ok ()) {m : SchemaModule}
    (hm : m ∈ s.modules) : m.check s = .ok () := by
  obtain ⟨hs, -⟩ := andThen_eq_ok.1 h
  have hc := forM_eq_ok.1 hs m hm
  cases hr : m.check s with
  | error fault => simp [hr, Except.mapError] at hc
  | ok u => rfl

theorem checked_of_check {s : SchemaSet} (h : s.check = .ok ()) {m : SchemaModule}
    (hm : m ∈ s.modules) : m.Checked s :=
  SchemaModule.checked_of_check (check_of_mem h hm)

theorem check_of_modules {s : SchemaSet} (hm : ∀ m ∈ s.modules, (m.check s).isOk = true)
    (hc : s.checkContainment = .ok ()) : s.check = .ok () :=
  andThen_eq_ok.2 ⟨forM_eq_ok.2 fun m h => mapError_eq_ok.2 (isOk_eq_true_iff.1 (hm m h)), hc⟩

end SchemaSet

end EventSchema
