import EventSchema.Proofs.InlineObjects
import EventSchema.Proofs.LegalIdentifiers

set_option autoImplicit false

namespace EventSchema

open Outcome

namespace Datatype

mutual

def recordNames (owner : String) : Datatype → List String
  | .node _ of fields _ => itemRecordNames owner of ++ objectRecordNames owner fields

def itemRecordNames (owner : String) : Option Datatype → List String
  | some dt => recordNames owner dt
  | none => []

def objectRecordNames (owner : String) : Option (List (String × Datatype)) → List String
  | some fields => fieldRecordNames owner fields ++ [owner]
  | none => []

def fieldRecordNames (owner : String) : List (String × Datatype) → List String
  | [] => []
  | (key, dt) :: rest =>
    recordNames (owner ++ Naming.pascal key) dt ++ fieldRecordNames owner rest

end

mutual

theorem map_name_objects (owner : String) : ∀ dt : Datatype,
    (dt.objects owner).map InlineObject.name = dt.recordNames owner
  | .node name of fields nullable => by
    rw [objects, recordNames, List.map_append, map_name_itemObjects owner of,
      map_name_ownObjects owner fields]

theorem map_name_itemObjects (owner : String) : ∀ of : Option Datatype,
    (itemObjects owner of).map InlineObject.name = itemRecordNames owner of
  | some dt => by rw [itemObjects, itemRecordNames, map_name_objects owner dt]
  | none => rfl

theorem map_name_ownObjects (owner : String) : ∀ fields : Option (List (String × Datatype)),
    (ownObjects owner fields).map InlineObject.name = objectRecordNames owner fields
  | some fields => by
    rw [ownObjects, objectRecordNames, List.map_append, map_name_fieldObjects owner fields]
    rfl
  | none => rfl

theorem map_name_fieldObjects (owner : String) : ∀ fields : List (String × Datatype),
    (fieldObjects owner fields).map InlineObject.name = fieldRecordNames owner fields
  | [] => rfl
  | (key, dt) :: rest => by
    rw [fieldObjects, fieldRecordNames, List.map_append, map_name_objects _ dt,
      map_name_fieldObjects owner rest]

end

theorem recordNames_leaf (owner name : String) (nullable : Bool) :
    recordNames owner (.node name none none nullable) = [] := by
  simp [recordNames, itemRecordNames, objectRecordNames]

theorem recordNames_list (owner name : String) (of : Datatype) (nullable : Bool) :
    recordNames owner (.node name (some of) none nullable) = recordNames owner of := by
  simp [recordNames, itemRecordNames, objectRecordNames]

theorem recordNames_object (owner name : String) (fields : List (String × Datatype))
    (nullable : Bool) :
    recordNames owner (.node name none (some fields) nullable) =
      fieldRecordNames owner fields ++ [owner] := by
  simp [recordNames, itemRecordNames, objectRecordNames]

theorem mem_fieldRecordNames {owner name : String} {fields : List (String × Datatype)} :
    name ∈ fieldRecordNames owner fields ↔
      ∃ f ∈ fields, name ∈ recordNames (owner ++ Naming.pascal f.1) f.2 := by
  induction fields with
  | nil => simp [fieldRecordNames]
  | cons f rest ih => simp [fieldRecordNames, ih]

end Datatype

namespace Naming

/-- Letters and digits, a capital in front: what the Pascal style puts behind a name. -/
structure IsTail (tail : String) : Prop where
  capital : tail.toList.head?.any Char.isUpper = true
  chars : ∀ c ∈ tail.toList, c.isAlphanum = true

theorem isTail_pascal {s : String} (h : startsWithLetter s = true) : IsTail (pascal s) :=
  ⟨isUpper_head_pascal h, fun _ => isAlphanum_of_mem_pascal⟩

theorem IsTail.append {a b : String} (h : IsTail a) (h' : b = "" ∨ IsTail b) :
    IsTail (a ++ b) := by
  refine ⟨?_, fun c hc => ?_⟩
  · have hc := h.capital
    cases ha : a.toList with
    | nil => simp [ha] at hc
    | cons c rest => simpa [ha] using hc
  · rcases List.mem_append.1 (String.toList_append ▸ hc) with hc | hc
    · exact h.chars c hc
    · rcases h' with rfl | h'
      · cases hc
      · exact h'.chars c hc

/-- What stands in front of the capitals of a text. -/
def frontsOf : List Char → List (List Char)
  | [] => []
  | c :: rest => (if c.isUpper then [[]] else []) ++ (frontsOf rest).map (c :: ·)

theorem mem_frontsOf {c : Char} (hc : c.isUpper = true) (front rest : List Char) :
    front ∈ frontsOf (front ++ c :: rest) := by
  induction front with
  | nil => simp [frontsOf, hc]
  | cons d front ih => simp [frontsOf, ih]

def fronts (name : String) : List String :=
  (frontsOf name.toList).map String.ofList

theorem IsTail.mem_fronts {tail : String} (h : IsTail tail) (owner : String) :
    owner ∈ fronts (owner ++ tail) := by
  have hc := h.capital
  cases ht : tail.toList with
  | nil => simp [ht] at hc
  | cons c rest =>
    rw [ht, List.head?_cons, Option.any_some] at hc
    rw [fronts, String.toList_append, ht]
    exact List.mem_map.2 ⟨owner.toList, mem_frontsOf hc _ _, String.ofList_toList⟩

end Naming

open Naming in
/-- The record of an inline object has the name of the owner, with the keys on the way behind it. -/
theorem Datatype.WellFormed.tail_of_mem {set : SchemaSet} {m : SchemaModule} {dt : Datatype}
    (h : dt.WellFormed set m) {owner name : String} (hn : name ∈ dt.recordNames owner) :
    ∃ tail, name = owner ++ tail ∧ (tail = "" ∨ IsTail tail) := by
  induction h generalizing owner with
  | primitive hf => simp [recordNames_leaf] at hn
  | custom hf hr => simp [recordNames_leaf] at hn
  | list hf hi ih => exact ih (recordNames_list .. ▸ hn)
  | @object _ fields _ hf hk he ih =>
    rcases List.mem_append.1 (recordNames_object .. ▸ hn) with hn | hn
    · obtain ⟨f, hm, hn⟩ := mem_fieldRecordNames.1 hn
      obtain ⟨tail, rfl, ht⟩ := ih f hm hn
      obtain ⟨ident, hi⟩ := (Check.uniqueIdents_eq_ok.1 hk).1 f.1 (List.mem_map_of_mem hm)
      have hl := (Backend.isLegalIdent_of_fieldIdent? hi).2
      exact ⟨pascal f.1 ++ tail, String.append_assoc .., .inr ((isTail_pascal hl).append ht)⟩
    · obtain rfl := List.mem_singleton.1 hn
      exact ⟨"", String.append_empty.symm, .inl rfl⟩

def Event.recordNames (e : Event) : List String :=
  e.fields.flatMap fun f => f.type.recordNames (e.structName ++ Naming.pascal f.key)

theorem Event.map_name_objects (e : Event) : e.objects.map InlineObject.name = e.recordNames := by
  simp [objects, recordNames, List.map_flatMap, Datatype.map_name_objects]

def Endpoint.recordNames (e : Endpoint) : List String :=
  e.consumes.toList.flatMap (Datatype.recordNames (Naming.pascal e.name ++ "Input")) ++
    e.produces.toList.flatMap (Datatype.recordNames (Naming.pascal e.name ++ "Output"))

theorem Endpoint.map_name_objects (e : Endpoint) :
    e.objects.map InlineObject.name = e.recordNames := by
  simp [objects, recordNames, List.map_flatMap, Datatype.map_name_objects]

def NamedType.recordNames (t : NamedType) : List String :=
  t.type.recordNames t.name

theorem NamedType.map_name_objects (t : NamedType) :
    t.objects.map InlineObject.name = t.recordNames :=
  Datatype.map_name_objects t.name t.type

namespace Backend

structure AreRecords (taken names : List String) (records : List Record) : Prop where
  named : records.map Record.name = names
  fresh : ∀ name ∈ names, name ∉ taken
  idents : ∀ r ∈ records, ∀ f ∈ r.fields, fieldIdent? f.key = some f.ident

theorem AreRecordsOf.areRecords {home : Home} {taken : List String} {objects : List InlineObject}
    {records : List Record} (h : AreRecordsOf home taken objects records) :
    AreRecords taken (objects.map InlineObject.name) records where
  named := h.map_name
  fresh := h.map_name ▸ List.forall_mem_map.2 h.fresh
  idents := by
    intro r hr f hf
    obtain ⟨o, -, ho⟩ := mem_of_forall₂ h.each.flip hr
    obtain ⟨field, -, hi⟩ := mem_of_forall₂ ho.fields.flip hf
    exact hi.ident_of_key

theorem EventsFile.records_of_events {moduleId : String} {es : List Event} {f : EventsFile}
    (h : ofEvents moduleId es = .ok f) :
    AreRecords (es.map Event.structName ++ ownNames) (es.flatMap Event.recordNames)
      f.records := by
  have hr := (recordsOf_events h).areRecords
  simpa only [List.map_flatMap, Event.map_name_objects] using hr

theorem RestFile.records_of_endpoints {moduleId : String} {es : List Endpoint} {f : RestFile}
    (h : ofEndpoints moduleId es = .ok f) :
    AreRecords ownNames (es.flatMap Endpoint.recordNames) f.records := by
  have hr := (recordsOf_endpoints h).areRecords
  simpa only [List.map_flatMap, Endpoint.map_name_objects] using hr

theorem TypesFile.records_of_module {set : SchemaSet} {m : SchemaModule} (hm : m.Checked set)
    {f : TypesFile} (h : ofModule m = .ok f) :
    AreRecords (m.types.enums.map Enumeration.name) (m.types.types.flatMap NamedType.recordNames)
      f.records := by
  have hr := (recordsOf_module hm h).areRecords
  simpa only [List.map_flatMap, NamedType.map_name_objects] using hr

end Backend

namespace SchemaModule.Checked

open Naming

variable {set : SchemaSet} {m : SchemaModule} (h : m.Checked set) {name : String}
include h

theorem tail_of_mem_event {e : Event} (he : e ∈ m.events) (hn : name ∈ e.recordNames) :
    ∃ tail, name = e.structName ++ tail ∧ IsTail tail := by
  obtain ⟨f, hf, hn⟩ := List.mem_flatMap.1 hn
  obtain ⟨⟨ident, hi⟩, hw⟩ := h.events e he f hf
  obtain ⟨tail, rfl, ht⟩ := hw.tail_of_mem hn
  have hl := (Backend.isLegalIdent_of_fieldIdent? hi).2
  exact ⟨pascal f.key ++ tail, String.append_assoc .., (isTail_pascal hl).append ht⟩

theorem tail_of_mem_endpoint {e : Endpoint} (he : e ∈ m.types.endpoints)
    (hn : name ∈ e.recordNames) :
    ∃ word ∈ ["Input", "Output"], ∃ tail,
      name = pascal e.name ++ word ++ tail ∧ (tail = "" ∨ IsTail tail) := by
  have hw := h.payloads e he
  rcases List.mem_append.1 hn with hn | hn
  · obtain ⟨dt, hd, hn⟩ := List.mem_flatMap.1 hn
    exact ⟨"Input", by simp, (hw dt (List.mem_append_left _ hd)).tail_of_mem hn⟩
  · obtain ⟨dt, hd, hn⟩ := List.mem_flatMap.1 hn
    exact ⟨"Output", by simp, (hw dt (List.mem_append_right _ hd)).tail_of_mem hn⟩

theorem tail_of_mem_type {t : NamedType} (ht : t ∈ m.types.types) (hn : name ∈ t.recordNames) :
    ∃ tail, name = t.name ++ tail ∧ (tail = "" ∨ IsTail tail) :=
  (h.types t ht).1.tail_of_mem hn

end SchemaModule.Checked

end EventSchema
