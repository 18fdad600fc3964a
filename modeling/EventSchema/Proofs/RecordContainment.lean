import EventSchema.Proofs.Containment
import EventSchema.Proofs.TypeDeclarations
import Mathlib.Order.WellFoundedSet

/-!
Containment of records by value, over all generated Rust files. The check of a set looks at named
types only; every inline object adds a record between the types it holds and the one it stands in.
As long as each type of a field is taken for what it was drafted as, the records hold each other
without a loop. Rust reads the text, though, where a record of the same file hides a name that is in
scope everywhere: a record `String` takes the place of all strings of its file.
-/

set_option autoImplicit false

namespace EventSchema

open Outcome Relation

/-- Every way along the edges between finitely many nodes ends, if none leads back. -/
theorem Graph.wellFounded_of_acyclic {α : Type} {R : α → α → Prop} {nodes : List α}
    (ends : ∀ a b, R a b → a ∈ nodes ∧ b ∈ nodes) (h : ∀ a, ¬ TransGen R a a) :
    WellFounded fun b a => R a b := by
  have : IsStrictOrder α fun b a => TransGen R a b :=
    { irrefl := h, trans := fun a b c hab hbc => hbc.trans hab }
  have hwf : Set.WellFoundedOn {x | x ∈ nodes} fun b a => TransGen R a b :=
    (List.finite_toSet nodes).wellFoundedOn
  refine Subrelation.wf (fun {b a} hab => ?_) (Set.wellFoundedOn_iff.1 hwf)
  obtain ⟨ha, hb⟩ := ends a b hab
  exact ⟨.single hab, hb, ha⟩

/-- A datatype has a value of a primitive type in it, outside of lists and references. -/
inductive Datatype.HoldsPrimitive (p : Primitive) : Datatype → Prop
  | leaf {dt : Datatype} (h : dt.shape = .ok (.primitive p)) : HoldsPrimitive p dt
  | field {dt : Datatype} {fields : List (String × Datatype)} {key : String} {field : Datatype}
      (h : dt.shape = .ok (.object fields)) (member : (key, field) ∈ fields)
      (below : HoldsPrimitive p field) : HoldsPrimitive p dt

namespace Backend

inductive RecordFile where
  | types
  | events
  | rest
deriving DecidableEq, Repr

structure RecordRef where
  module : String
  file : RecordFile
  name : String
deriving DecidableEq, Repr

/-- Types as they were drafted, or as the words that stand in the file. -/
inductive Reading where
  | drafted
  | written
deriving DecidableEq, Repr

def RecordFile.home (file : RecordFile) (moduleId : String) : Home :=
  ⟨moduleId, if file = .types then .types else .sibling⟩

def Reading.word? (reading : Reading) (moduleId : String) (file : RecordFile) (word : String) :
    Option RecordRef :=
  match reading with
  | .drafted => none
  | .written => some ⟨moduleId, file, word⟩

/-- Where the type of a field leads to from a file, if it leads to a record; options do not matter,
and what is in a list is not held by value. -/
def TypeExpr.target? (reading : Reading) (moduleId : String) (file : RecordFile) :
    TypeExpr → Option RecordRef
  | .string => reading.word? moduleId file "String"
  | .boolean => reading.word? moduleId file "bool"
  | .integer => reading.word? moduleId file "i64"
  | .instant | .list _ => none
  | .option inner => inner.target? reading moduleId file
  | .here name | .record name => some ⟨moduleId, file, name⟩
  | .sibling name => some ⟨moduleId, .types, name⟩
  | .foreign module name => some ⟨module, .types, name⟩

end Backend

open Backend

namespace SchemaModule

def records (m : SchemaModule) : RecordFile → List Record
  | .types => ((TypesFile.ofModule m).toOption.map TypesFile.records).getD []
  | .events => ((EventsFile.ofEvents m.id m.events).toOption.map EventsFile.records).getD []
  | .rest => ((RestFile.ofEndpoints m.id m.types.endpoints).toOption.map RestFile.records).getD []

theorem records_types {m : SchemaModule} {f : TypesFile} (h : TypesFile.ofModule m = .ok f) :
    m.records .types = f.records := by
  simp [records, h, Except.toOption]

theorem records_events {m : SchemaModule} {f : EventsFile}
    (h : EventsFile.ofEvents m.id m.events = .ok f) : m.records .events = f.records := by
  simp [records, h, Except.toOption]

theorem records_rest {m : SchemaModule} {f : RestFile}
    (h : RestFile.ofEndpoints m.id m.types.endpoints = .ok f) : m.records .rest = f.records := by
  simp [records, h, Except.toOption]

def objects (m : SchemaModule) : RecordFile → List InlineObject
  | .types => m.types.types.flatMap NamedType.objects
  | .events => m.events.flatMap Event.objects
  | .rest => m.types.endpoints.flatMap Endpoint.objects

/-- Names that the items of a file have before its records get theirs. -/
def takenNames (m : SchemaModule) : RecordFile → List String
  | .types => m.types.enums.map Enumeration.name
  | .events => m.events.map Event.structName ++ EventsFile.ownNames
  | .rest => RestFile.ownNames

end SchemaModule

namespace SchemaSet

def IsRecord (s : SchemaSet) (a : RecordRef) (r : Record) : Prop :=
  ∃ m ∈ s.modules, m.id = a.module ∧ r ∈ m.records a.file ∧ r.name = a.name

def Contains (s : SchemaSet) (reading : Reading) (a b : RecordRef) : Prop :=
  ∃ r q, s.IsRecord a r ∧ s.IsRecord b q ∧
    ∃ f ∈ r.fields, f.type.target? reading a.module a.file = some b

/-- Every way along the fields of records ends, from this one on. -/
def Ends (s : SchemaSet) (reading : Reading) (a : RecordRef) : Prop :=
  Acc (fun b a => s.Contains reading a b) a

theorem Ends.of_not_isRecord {s : SchemaSet} {reading : Reading} {a : RecordRef}
    (h : ∀ r, ¬ s.IsRecord a r) : s.Ends reading a :=
  .intro a fun _ ⟨r, _, hr, _⟩ => absurd hr (h r)

theorem not_transGen_of_ends {s : SchemaSet} {reading : Reading} (h : ∀ a, s.Ends reading a)
    (a : RecordRef) : ¬ TransGen (s.Contains reading) a a := by
  have hwf : WellFounded (TransGen fun b a => s.Contains reading a b) :=
    (WellFounded.intro h).transGen
  exact fun ha => hwf.irrefl.irrefl a (transGen_swap.1 ha)

end SchemaSet

namespace Backend

variable {reading : Reading} {moduleId : String} {file : RecordFile}

@[simp] theorem TypeExpr.target?_withNull (nullable : Bool) (t : TypeExpr) :
    (withNull nullable t).target? reading moduleId file = t.target? reading moduleId file := by
  cases nullable with
  | false => rfl
  | true => rfl

theorem TypeExpr.target?_ofRef (r : CustomRef) :
    ((file.home moduleId).ofRef r).target? reading moduleId file =
      some ⟨r.module.getD moduleId, .types, r.name⟩ := by
  cases hl : r.isLocalTo moduleId with
  | true =>
    rw [CustomRef.module_of_isLocalTo hl]
    cases file with
    | types => simp [RecordFile.home, Home.ofRef_types hl, target?]
    | events | rest => simp [RecordFile.home, Home.ofRef_sibling hl, target?]
  | false => simp [RecordFile.home, Home.ofRef_foreign hl, target?]

theorem TypeExpr.target?_ofPrimitive_drafted (p : Primitive) :
    (ofPrimitive p).target? .drafted moduleId file = none := by
  cases p <;> rfl

theorem AreRecordsOf.isFor_of_name {home : Home} {taken : List String}
    {objects : List InlineObject} {records : List Record}
    (h : AreRecordsOf home taken objects records) {o : InlineObject} (ho : o ∈ objects)
    {r : Record} (hr : r ∈ records) (hn : r.name = o.name) : r.IsFor home o := by
  obtain ⟨q, hq, hfor⟩ := mem_of_forall₂ h.each ho
  obtain rfl := List.inj_on_of_nodup_map h.distinct hr hq (hn.trans hfor.name.symm)
  exact hfor

end Backend

namespace SchemaModule

variable {s : SchemaSet} {m : SchemaModule} (hc : m.Checked s) {file : RecordFile}
  {o : InlineObject}
include hc

/-- Every object of a file is in a well formed datatype, all of whose objects the file has. -/
theorem Checked.exists_root (ho : o ∈ m.objects file) : ∃ dt : Datatype, ∃ owner,
    dt.WellFormed s m ∧ o ∈ dt.objects owner ∧ dt.objects owner ⊆ m.objects file := by
  cases file with
  | types =>
    obtain ⟨t, ht, ho⟩ := List.mem_flatMap.1 ho
    exact ⟨t.type, t.name, (hc.types t ht).1, ho, fun p hp => List.mem_flatMap.2 ⟨t, ht, hp⟩⟩
  | events =>
    obtain ⟨e, he, ho⟩ := List.mem_flatMap.1 ho
    obtain ⟨f, hf, ho⟩ := List.mem_flatMap.1 ho
    refine ⟨f.type, _, (hc.events e he f hf).2, ho, fun p hp => ?_⟩
    exact List.mem_flatMap.2 ⟨e, he, List.mem_flatMap.2 ⟨f, hf, hp⟩⟩
  | rest =>
    obtain ⟨e, he, ho⟩ := List.mem_flatMap.1 ho
    have hw := hc.payloads e he
    rcases List.mem_append.1 ho with ho | ho
    · obtain ⟨dt, hd, ho⟩ := List.mem_flatMap.1 ho
      refine ⟨dt, _, hw dt (List.mem_append_left _ hd), ho, fun p hp => ?_⟩
      exact List.mem_flatMap.2 ⟨e, he, List.mem_append_left _ (List.mem_flatMap.2 ⟨dt, hd, hp⟩)⟩
    · obtain ⟨dt, hd, ho⟩ := List.mem_flatMap.1 ho
      refine ⟨dt, _, hw dt (List.mem_append_right _ hd), ho, fun p hp => ?_⟩
      exact List.mem_flatMap.2 ⟨e, he, List.mem_append_right _ (List.mem_flatMap.2 ⟨dt, hd, hp⟩)⟩

theorem Checked.structName_mem_fronts {e : Event} (he : e ∈ m.events) (ho : o ∈ e.objects) :
    e.structName ∈ Naming.fronts o.name := by
  have hname := List.mem_map_of_mem (f := InlineObject.name) ho
  rw [Event.map_name_objects] at hname
  obtain ⟨tail, htail, ht⟩ := hc.tail_of_mem_event he hname
  exact htail ▸ ht.mem_fronts e.structName

theorem Checked.name_of_object (hn : m.NamesAllowed) (ho : o ∈ m.objects file) :
    o.name ≠ "bool" ∧ o.name ≠ "i64" ∧ (o.name = "String" → file = .events) := by
  cases file with
  | types =>
    obtain ⟨t, ht, ho⟩ := List.mem_flatMap.1 ho
    have hname := List.mem_map_of_mem (f := InlineObject.name) ho
    rw [NamedType.map_name_objects] at hname
    obtain ⟨htype, hprelude⟩ := typeName_of_mem_recordNames hc hn ht hname
    refine ⟨fun h => ?_, fun h => ?_, fun h => absurd (h ▸ by decide) hprelude⟩
    · exact absurd (h ▸ htype) (by decide)
    · exact absurd (h ▸ htype) (by decide)
  | events =>
    obtain ⟨e, he, ho⟩ := List.mem_flatMap.1 ho
    have hfront := hc.structName_mem_fronts he ho
    have hbool : Naming.fronts "bool" = [] := by decide
    have hi64 : Naming.fronts "i64" = [] := by decide
    refine ⟨fun h => ?_, fun h => ?_, fun _ => rfl⟩
    · simp [h, hbool] at hfront
    · simp [h, hi64] at hfront
  | rest =>
    obtain ⟨e, he, ho⟩ := List.mem_flatMap.1 ho
    have hname := List.mem_map_of_mem (f := InlineObject.name) ho
    rw [Endpoint.map_name_objects] at hname
    obtain ⟨word, hword, tail, htail, -⟩ := hc.tail_of_mem_endpoint he hname
    have hinside : word.toList <:+: o.name.toList := by
      refine ⟨(Naming.pascal e.name).toList, tail.toList, ?_⟩
      rw [htail, String.toList_append, String.toList_append]
    have hall : ∀ word ∈ ["Input", "Output"], ∀ name ∈ ["bool", "i64", "String"],
        ¬ word.toList <:+: name.toList := by decide
    have hne : o.name ∉ ["bool", "i64", "String"] := fun h => hall word hword o.name h hinside
    simp only [List.mem_cons, List.not_mem_nil, or_false, not_or] at hne
    exact ⟨hne.1, hne.2.1, fun h => absurd h hne.2.2⟩

/-- A record that is called as strings are written belongs to an event whose name has no words. -/
theorem Checked.structName_of_string {e : Event} (he : e ∈ m.events) (ho : o ∈ e.objects)
    (h : o.name = "String") : e.structName = "" := by
  have hfront := hc.structName_mem_fronts he ho
  have hstring : Naming.fronts "String" = [""] := by decide
  rw [h, hstring] at hfront
  exact List.mem_singleton.1 hfront

end SchemaModule

namespace SchemaSet

section Files

variable {config : Config} {s : SchemaSet} {files : List Artifact}
  (hg : s.generate config = .ok files) {m : SchemaModule} (hm : m ∈ s.modules)
include hg hm

theorem recordsOf_generate (file : RecordFile) :
    AreRecordsOf (file.home m.id) (m.takenNames file) (m.objects file) (m.records file) := by
  cases file with
  | types =>
    obtain ⟨f, hf, -⟩ := types_of_generate hg hm
    rw [SchemaModule.records_types hf]
    exact TypesFile.recordsOf_module (checked_of_generate hg hm) hf
  | events =>
    obtain ⟨f, hf, -⟩ := events_of_generate hg hm
    rw [SchemaModule.records_events hf]
    exact EventsFile.recordsOf_events hf
  | rest =>
    obtain ⟨f, hf, -⟩ := rest_of_generate hg hm
    rw [SchemaModule.records_rest hf]
    exact RestFile.recordsOf_endpoints hf

end Files

section Reach

variable {config : Config} {s : SchemaSet} {files : List Artifact}
  (hids : (s.modules.map SchemaModule.id).Nodup) (hg : s.generate config = .ok files)
include hids hg

theorem isFor_of_isRecord {m : SchemaModule} (hm : m ∈ s.modules) {file : RecordFile}
    {o : InlineObject} (ho : o ∈ m.objects file) {r : Record}
    (hr : s.IsRecord ⟨m.id, file, o.name⟩ r) : r.IsFor (file.home m.id) o := by
  obtain ⟨other, hother, hid, hmem, hname⟩ := hr
  obtain rfl := List.inj_on_of_nodup_map hids hother hm hid
  exact (recordsOf_generate hg hm file).isFor_of_name ho hmem hname

omit hids in
theorem isRecord_of_mem {m : SchemaModule} (hm : m ∈ s.modules) {file : RecordFile}
    {o : InlineObject} (ho : o ∈ m.objects file) :
    ∃ r, s.IsRecord ⟨m.id, file, o.name⟩ r := by
  obtain ⟨r, hr, hfor⟩ := mem_of_forall₂ (recordsOf_generate hg hm file).each ho
  exact ⟨r, m, hm, rfl, hr, hfor.name⟩

theorem field_of_contains {reading : Reading} {m : SchemaModule} (hm : m ∈ s.modules)
    {file : RecordFile} {o : InlineObject} (ho : o ∈ m.objects file) {b : RecordRef}
    (h : s.Contains reading ⟨m.id, file, o.name⟩ b) :
    ∃ f ∈ o.fields, ∃ type, HasType (file.home m.id) (o.name ++ Naming.pascal f.1) f.2 type ∧
      type.target? reading m.id file = some b := by
  obtain ⟨r, -, hr, -, field, hfield, htarget⟩ := h
  have hfor := isFor_of_isRecord hids hg hm ho hr
  obtain ⟨f, hf, hi⟩ := mem_of_forall₂ hfor.fields.flip hfield
  exact ⟨f, hf, field.type, hi.type, htarget⟩

omit hg in
theorem find?_of_mem {m : SchemaModule} (hm : m ∈ s.modules) : s.find? m.id = some m :=
  Outcome.find?_of_mem hids hm

theorem findType?_of_isRecord {m : SchemaModule} (hm : m ∈ s.modules) {r : CustomRef}
    (hr : s.resolves m r = true) {q : Record}
    (hq : s.IsRecord ⟨r.module.getD m.id, .types, r.name⟩ q) :
    (s.findType? ⟨r.module.getD m.id, r.name⟩).isSome = true := by
  obtain ⟨target, htarget, hid, hd⟩ := exists_of_resolves hm hr
  obtain ⟨other, hother, hid', hmem, hname⟩ := hq
  obtain rfl := List.inj_on_of_nodup_map hids hother htarget (hid'.trans hid.symm)
  rw [findType?, ← hid, find?_of_mem hids htarget, Option.bind_some]
  rcases Bool.or_eq_true_iff.1 hd with ht | he
  · exact ht
  · -- records have none of the names of enums
    have hfresh := (recordsOf_generate hg htarget .types).fresh q hmem
    obtain ⟨e, he⟩ := Option.isSome_iff_exists.1 he
    have hename : e.name = r.name := by simpa using List.find?_some he
    refine absurd (List.mem_map.2 ⟨e, List.mem_of_find?_eq_some he, ?_⟩) hfresh
    rw [hename, hname]

section Ways

variable {reading : Reading} {m : SchemaModule} (hm : m ∈ s.modules) {file : RecordFile}
include hm

theorem ends_of_object {o : InlineObject} (ho : o ∈ m.objects file)
    (each : ∀ f ∈ o.fields, ∀ type b,
      HasType (file.home m.id) (o.name ++ Naming.pascal f.1) f.2 type →
        type.target? reading m.id file = some b → s.Ends reading b) :
    s.Ends reading ⟨m.id, file, o.name⟩ := by
  refine .intro _ fun b hb => ?_
  obtain ⟨f, hf, type, htype, htarget⟩ := field_of_contains hids hg hm ho hb
  exact each f hf type b htype htarget

theorem ends_of_datatype {dt : Datatype} (hw : dt.WellFormed s m) {owner : String}
    (hsub : dt.objects owner ⊆ m.objects file)
    (hheld : ∀ r, dt.HoldsByValue m.id r → (s.findType? r).isSome = true →
      s.Ends reading ⟨r.module, .types, r.name⟩)
    (hword : ∀ p, dt.HoldsPrimitive p → ∀ b,
      (TypeExpr.ofPrimitive p).target? reading m.id file = some b → s.Ends reading b)
    {type : TypeExpr} {b : RecordRef} (ht : HasType (file.home m.id) owner dt type)
    (hb : type.target? reading m.id file = some b) : s.Ends reading b := by
  induction hw generalizing owner type b with
  | primitive hf =>
    cases ht with
    | primitive form =>
      rw [TypeExpr.target?_withNull] at hb
      exact hword _ (.leaf (Datatype.shape_of_primitive form)) b hb
    | custom form => simp [hf] at form
  | @custom _ _ r hf hr =>
    cases ht with
    | primitive form => simp [hf] at form
    | custom form =>
      obtain rfl : r = _ := by simpa [hf] using form
      rw [TypeExpr.target?_withNull, TypeExpr.target?_ofRef] at hb
      cases hb
      by_cases hfound : (s.findType? ⟨r.module.getD m.id, r.name⟩).isSome = true
      · exact hheld _ (.reference (Datatype.shape_of_custom hf)) hfound
      · exact .of_not_isRecord fun q hq => hfound (findType?_of_isRecord hids hg hm hr hq)
  | list hf hi ih =>
    cases ht
    simp [TypeExpr.target?] at hb
  | @object name fields nullable hf hk he ih =>
    cases ht
    rw [TypeExpr.target?_withNull] at hb
    cases hb
    have hshape : (Datatype.node name none (some fields) nullable).shape = .ok (.object fields) :=
      Datatype.shape_of_object hf
    have ho : ⟨owner, fields⟩ ∈ m.objects file := hsub (by simp [Datatype.objects_object])
    refine ends_of_object hids hg hm ho fun f hm type b ht hb => ?_
    have hbelow := List.Subset.trans (Datatype.objects_field_subset hm) hsub
    refine ih f hm hbelow (fun r hr => ?_) (fun p hp => ?_) ht hb
    · exact hheld r (.field hshape hm hr)
    · exact hword p (.field hshape hm hp)

theorem ends_of_fields {o : InlineObject} (ho : o ∈ m.objects file)
    (hheld : ∀ f ∈ o.fields, ∀ r, f.2.HoldsByValue m.id r → (s.findType? r).isSome = true →
      s.Ends reading ⟨r.module, .types, r.name⟩)
    (hword : ∀ f ∈ o.fields, ∀ p, f.2.HoldsPrimitive p → ∀ b,
      (TypeExpr.ofPrimitive p).target? reading m.id file = some b → s.Ends reading b) :
    s.Ends reading ⟨m.id, file, o.name⟩ := by
  obtain ⟨dt, owner, hw, hmem, hsub⟩ := (checked_of_generate hg hm).exists_root ho
  refine ends_of_object hids hg hm ho fun f hf type b ht hb => ?_
  exact ends_of_datatype hids hg hm ((hw.of_mem_objects o hmem).each f hf)
    (List.Subset.trans (hw.objects_subset hmem hf) hsub) (hheld f hf) (hword f hf) ht hb

end Ways

/-- Named types are the roots: the check of the set has found no loop among them. -/
theorem ends_of_findType? {reading : Reading}
    (hword : ∀ m ∈ s.modules, ∀ p b,
      (TypeExpr.ofPrimitive p).target? reading m.id .types = some b → s.Ends reading b)
    (r : TypeRef) (h : (s.findType? r).isSome = true) :
    s.Ends reading ⟨r.module, .types, r.name⟩ := by
  have hcheck := (andThen_eq_ok.1 (andThen_eq_ok.1 hg).1).2
  have hacyclic := (Graph.cycle?_eq_none_iff s.ends_of_edge).1 (checkContainment_eq_ok_iff.1 hcheck)
  rw [edge_holds] at hacyclic
  have hwf := Graph.wellFounded_of_acyclic (fun a b (hab : s.Holds a b) => hab.declared) hacyclic
  induction r using hwf.induction with
  | _ r ih =>
    obtain ⟨t, ht⟩ := Option.isSome_iff_exists.1 h
    obtain ⟨m, hm, hfind⟩ := Option.bind_eq_some_iff.1 ht
    have hid : m.id = r.module := by simpa using List.find?_some hm
    have hname : t.name = r.name := by simpa using List.find?_some hfind
    have hm := List.mem_of_find?_eq_some hm
    have htype := List.mem_of_find?_eq_some hfind
    obtain ⟨-, fields, hshape⟩ := (checked_of_generate hg hm).types t htype
    have ho : ⟨t.name, fields⟩ ∈ m.objects .types := by
      refine List.mem_flatMap.2 ⟨t, htype, ?_⟩
      rw [NamedType.objects, Datatype.objects_of_shape hshape]
      exact List.mem_append_right _ (List.mem_singleton_self _)
    rw [← hid, ← hname]
    refine ends_of_fields hids hg hm ho (fun f hf q hq hs => ?_) fun f hf p _ => hword m hm p
    exact ih q ⟨t, ht, .field hshape hf (hid ▸ hq), hs⟩ hs

omit hids in
theorem object_of_isRecord {a : RecordRef} {r : Record} (hr : s.IsRecord a r) :
    ∃ m ∈ s.modules, m.id = a.module ∧ ∃ o ∈ m.objects a.file, o.name = a.name := by
  obtain ⟨m, hm, hid, hmem, hname⟩ := hr
  obtain ⟨o, ho, hfor⟩ := mem_of_forall₂ (recordsOf_generate hg hm a.file).each.flip hmem
  exact ⟨m, hm, hid, o, ho, hfor.name.symm.trans hname⟩

theorem ends_of_words {reading : Reading}
    (hword : ∀ m ∈ s.modules, ∀ file p b,
      (TypeExpr.ofPrimitive p).target? reading m.id file = some b → s.Ends reading b)
    (a : RecordRef) : s.Ends reading a := by
  by_cases ha : ∃ r, s.IsRecord a r
  · obtain ⟨r, hr⟩ := ha
    obtain ⟨m, hm, hid, o, ho, hname⟩ := object_of_isRecord hg hr
    have hends := ends_of_fields hids hg hm ho
      (fun _ _ q _ => ends_of_findType? hids hg (fun m hm => hword m hm .types) q)
      fun _ _ p _ => hword m hm a.file p
    rwa [hid, hname] at hends
  · exact .of_not_isRecord fun r hr => ha ⟨r, hr⟩

theorem ends_drafted (a : RecordRef) : s.Ends .drafted a := by
  refine ends_of_words hids hg (fun m hm file p b hb => ?_) a
  rw [TypeExpr.target?_ofPrimitive_drafted] at hb
  cases hb

omit hids in
theorem ends_of_word {moduleId : String} {file : RecordFile} {p : Primitive} {b : RecordRef}
    (hb : (TypeExpr.ofPrimitive p).target? .written moduleId file = some b)
    (hp : p = .string → file ≠ .events) : s.Ends .written b := by
  refine .of_not_isRecord fun r hr => ?_
  obtain ⟨m', hm', -, o, ho, hname⟩ := object_of_isRecord hg hr
  obtain ⟨hbool, hint, hstring⟩ :=
    (checked_of_generate hg hm').name_of_object (namesAllowed_of_generate hg hm') ho
  cases p with
  | string =>
    cases hb
    exact hp rfl (hstring hname)
  | boolean =>
    cases hb
    exact hbool hname
  | integer =>
    cases hb
    exact hint hname
  | datetime => cases hb

/-- All ways end if the records that hide the word for strings hold none. -/
theorem ends_written
    (hclean : ∀ m ∈ s.modules, ∀ o ∈ m.objects .events, o.name = "String" →
      ∀ f ∈ o.fields, ¬ f.2.HoldsPrimitive .string)
    (a : RecordRef) : s.Ends .written a := by
  have htypes : ∀ m ∈ s.modules, ∀ p b,
      (TypeExpr.ofPrimitive p).target? .written m.id .types = some b → s.Ends .written b :=
    fun m hm p b hb => ends_of_word hg hb (by simp)
  refine ends_of_words hids hg (fun m hm file p b hb => ?_) a
  by_cases hp : p = .string ∧ file = .events
  · obtain ⟨rfl, rfl⟩ := hp
    cases hb
    by_cases hr : ∃ r, s.IsRecord ⟨m.id, .events, "String"⟩ r
    · obtain ⟨r, hr⟩ := hr
      obtain ⟨m', hm', hid, o, ho, hname⟩ := object_of_isRecord hg hr
      have hends : s.Ends .written ⟨m'.id, .events, o.name⟩ := by
        refine ends_of_fields hids hg hm' ho
          (fun _ _ q _ => ends_of_findType? hids hg htypes q) fun f hf p hp b hb => ?_
        refine ends_of_word hg hb fun he => ?_
        exact absurd (he ▸ hp) (hclean m' hm' o ho hname f hf)
      rwa [hid, hname] at hends
    · exact .of_not_isRecord fun r h => hr ⟨r, h⟩
  · exact ends_of_word hg hb fun he hf => hp ⟨he, hf⟩

theorem contains_of_field {reading : Reading} {m : SchemaModule} (hm : m ∈ s.modules)
    {file : RecordFile} {o : InlineObject} (ho : o ∈ m.objects file) {f : String × Datatype}
    (hf : f ∈ o.fields) {P : RecordRef → Prop}
    (leads : ∀ type, HasType (file.home m.id) (o.name ++ Naming.pascal f.1) f.2 type →
      ∃ b r, type.target? reading m.id file = some b ∧ s.IsRecord b r ∧ P b) :
    ∃ b, s.Contains reading ⟨m.id, file, o.name⟩ b ∧ P b := by
  obtain ⟨r, hr⟩ := isRecord_of_mem hg hm ho
  have hfor := isFor_of_isRecord hids hg hm ho hr
  obtain ⟨field, hfield, hi⟩ := mem_of_forall₂ hfor.fields hf
  obtain ⟨b, q, htarget, hq, hb⟩ := leads field.type hi.type
  exact ⟨b, ⟨r, q, hr, hq, field, hfield, htarget⟩, hb⟩

theorem leads_of_holdsPrimitive {m : SchemaModule} (hm : m ∈ s.modules) {q : Record}
    (hq : s.IsRecord ⟨m.id, .events, "String"⟩ q) {dt : Datatype}
    (hp : dt.HoldsPrimitive .string) {owner : String}
    (hsub : dt.objects owner ⊆ m.objects .events) {type : TypeExpr}
    (ht : HasType (RecordFile.events.home m.id) owner dt type) :
    ∃ b r, type.target? .written m.id .events = some b ∧ s.IsRecord b r ∧
      ReflTransGen (s.Contains .written) b ⟨m.id, .events, "String"⟩ := by
  induction hp generalizing owner type with
  | leaf hshape =>
    cases ht with
    | primitive form =>
      obtain rfl : _ = Primitive.string := by
        simpa [Datatype.shape_of_primitive form] using hshape
      exact ⟨_, q, TypeExpr.target?_withNull .., hq, .refl⟩
    | custom form => simp [Datatype.shape_of_custom form] at hshape
    | list form => simp [Datatype.shape_of_list form] at hshape
    | object form => simp [Datatype.shape_of_object form] at hshape
  | @field _ fields key dt hshape member below ih =>
    cases ht with
    | primitive form => simp [Datatype.shape_of_primitive form] at hshape
    | custom form => simp [Datatype.shape_of_custom form] at hshape
    | list form => simp [Datatype.shape_of_list form] at hshape
    | @object _ own _ form =>
      obtain rfl : own = fields := by simpa [Datatype.shape_of_object form] using hshape
      have ho : ⟨owner, own⟩ ∈ m.objects .events := hsub (by simp [Datatype.objects_object])
      obtain ⟨r, hr⟩ := isRecord_of_mem hg hm ho
      have hbelow := List.Subset.trans (Datatype.objects_field_subset member) hsub
      obtain ⟨b, hb, hrest⟩ := contains_of_field hids hg hm ho member fun _ ht => ih hbelow ht
      exact ⟨_, r, TypeExpr.target?_withNull .., hr, .head hb hrest⟩

theorem loop_of_holdsPrimitive {m : SchemaModule} (hm : m ∈ s.modules) {o : InlineObject}
    (ho : o ∈ m.objects .events) (hname : o.name = "String") {f : String × Datatype}
    (hf : f ∈ o.fields) (hp : f.2.HoldsPrimitive .string) :
    TransGen (s.Contains .written) ⟨m.id, .events, "String"⟩ ⟨m.id, .events, "String"⟩ := by
  obtain ⟨q, hq⟩ := isRecord_of_mem hg hm ho
  obtain ⟨dt, owner, hw, hmem, hsub⟩ := (checked_of_generate hg hm).exists_root ho
  have hbelow := List.Subset.trans (hw.objects_subset hmem hf) hsub
  obtain ⟨b, hb, hrest⟩ := contains_of_field hids hg hm ho hf fun _ ht =>
    leads_of_holdsPrimitive hids hg hm (hname ▸ hq) hp hbelow ht
  exact .head' (hname ▸ hb) hrest

end Reach

/-- The records of all files, each drafted for an object, hold each other by value without a loop.
Read as Rust does, with a record of the same file before the names that are in scope everywhere,
they still have no loop, if and only if no record `String` in a file of events holds a string; only
events whose names have no words give records of that name. -/
theorem records_hold_no_loop {config : Config} {s : SchemaSet} {files : List Artifact}
    (hids : (s.modules.map SchemaModule.id).Nodup) (hg : s.generate config = .ok files) :
    (∀ m ∈ s.modules, ∃ t e r,
      TypesFile.ofModule m = .ok t ∧ EventsFile.ofEvents m.id m.events = .ok e ∧
      RestFile.ofEndpoints m.id m.types.endpoints = .ok r ∧
      ⟨.backend, Section.path m.id .types, t.render config⟩ ∈ files ∧
      (m.events ≠ [] → ⟨.backend, Section.path m.id .events, e.render config⟩ ∈ files) ∧
      (m.types.endpoints ≠ [] →
        ⟨.backend, Section.path m.id .rest, r.render config⟩ ∈ files) ∧
      m.records .types = t.records ∧ m.records .events = e.records ∧
      m.records .rest = r.records) ∧
    (∀ a, ¬ TransGen (s.Contains .drafted) a a) ∧
    ((∀ a, ¬ TransGen (s.Contains .written) a a) ↔
      ∀ m ∈ s.modules, ∀ e ∈ m.events, ∀ o ∈ e.objects, o.name = "String" →
        ∀ f ∈ o.fields, ¬ f.2.HoldsPrimitive .string) ∧
    ∀ m ∈ s.modules, ∀ e ∈ m.events, ∀ o ∈ e.objects, o.name = "String" → e.structName = "" := by
  refine ⟨fun m hm => ?_, not_transGen_of_ends (ends_drafted hids hg), ⟨?_, ?_⟩, ?_⟩
  · obtain ⟨t, ht, htypes⟩ := types_of_generate hg hm
    obtain ⟨e, he, hevents⟩ := events_of_generate hg hm
    obtain ⟨r, hr, hrest⟩ := rest_of_generate hg hm
    exact ⟨t, e, r, ht, he, hr, htypes, hevents, hrest, SchemaModule.records_types ht,
      SchemaModule.records_events he, SchemaModule.records_rest hr⟩
  · intro hacyclic m hm e he o ho hname f hf hp
    have hobject := List.mem_flatMap.2 ⟨e, he, ho⟩
    exact hacyclic _ (loop_of_holdsPrimitive hids hg hm hobject hname hf hp)
  · intro hclean
    refine not_transGen_of_ends (ends_written hids hg fun m hm o ho hname => ?_)
    obtain ⟨e, he, ho⟩ := List.mem_flatMap.1 ho
    exact hclean m hm e he o ho hname
  · exact fun m hm e he o ho => (checked_of_generate hg hm).structName_of_string he ho

/-- A type that leads to itself through a list and to another module through an inline object, and
an event with an object of the same kind. -/
theorem records_hold_no_loop_nested :
    ∃ (s : SchemaSet) (files : List Artifact),
      (s.modules.map SchemaModule.id).Nodup ∧ s.generate {} = .ok files ∧
      s.Contains .drafted ⟨"a", .types, "Node"⟩ ⟨"a", .types, "NodeInfo"⟩ ∧
      s.Contains .written ⟨"a", .events, "MadeInfo"⟩ ⟨"b", .types, "Item"⟩ ∧
      (∀ a, ¬ TransGen (s.Contains .drafted) a a) ∧ ∀ a, ¬ TransGen (s.Contains .written) a a := by
  let item := Datatype.node "b.Item" none none true
  let info := Datatype.node "object" none (some [("item", item)]) false
  let node := Datatype.node "object" none (some [("info", info),
    ("next", .node "list" (some (.node "Node" none none false)) none false)]) false
  let name := Datatype.node "string" none none false
  let a : SchemaModule := {
    id := "a"
    types := { types := [⟨"Node", node⟩] }
    events := [⟨"made", [⟨"info", info⟩, ⟨"name", name⟩]⟩] }
  let b : SchemaModule := {
    id := "b"
    types := { types := [⟨"Item", .node "object" none (some [("name", name)]) false⟩] } }
  let s : SchemaSet := ⟨[a, b]⟩
  have hcheck : s.check = .ok () := by cbv
  have hdraft : ∀ m ∈ s.modules, ∀ part ∈ Section.drafting,
      (part.content {} m).toOption.isSome = true := by decide +kernel
  have hids : (s.modules.map SchemaModule.id).Nodup := by decide
  obtain ⟨files, hg⟩ := generate_of_drafts {} hcheck hdraft
  obtain ⟨-, hdrafted, hwritten, -⟩ := records_hold_no_loop hids hg
  have ha : a ∈ s.modules := List.mem_cons_self
  have hb : b ∈ s.modules := List.mem_cons_of_mem _ List.mem_cons_self
  have htypes : a.records .types =
      [⟨"NodeInfo", [⟨"item", "item", .option (.foreign "b" "Item")⟩]⟩,
        ⟨"Node", [⟨"info", "info", .record "NodeInfo"⟩,
          ⟨"next", "next", .list (.here "Node")⟩]⟩] := by decide +kernel
  have hevents : a.records .events =
      [⟨"MadeInfo", [⟨"item", "item", .option (.foreign "b" "Item")⟩]⟩] := by decide +kernel
  have hitem : b.records .types = [⟨"Item", [⟨"name", "name", .string⟩]⟩] := by decide +kernel
  refine ⟨s, files, hids, hg, ?_, ?_, hdrafted, hwritten.2 ?_⟩
  · exact ⟨_, _, ⟨a, ha, rfl, htypes ▸ List.mem_cons_of_mem _ List.mem_cons_self, rfl⟩,
      ⟨a, ha, rfl, htypes ▸ List.mem_cons_self, rfl⟩, _, List.mem_cons_self, rfl⟩
  · exact ⟨_, _, ⟨a, ha, rfl, hevents ▸ List.mem_cons_self, rfl⟩,
      ⟨b, hb, rfl, hitem ▸ List.mem_cons_self, rfl⟩, _, List.mem_cons_self, rfl⟩
  · have hnames : ∀ m ∈ s.modules, ∀ e ∈ m.events, ∀ o ∈ e.objects, o.name ≠ "String" := by
      decide +kernel
    exact fun m hm e he o ho h => absurd h (hnames m hm e he o ho)

/-- An event whose name is only an underscore, with an object called `string`, passes all checks,
and its record `String` has a field that is written the same. -/
theorem records_hold_loop_string :
    ∃ (s : SchemaSet) (files : List Artifact) (m : SchemaModule) (e : EventsFile),
      (s.modules.map SchemaModule.id).Nodup ∧ s.generate {} = .ok files ∧ m ∈ s.modules ∧
      EventsFile.ofEvents m.id m.events = .ok e ∧
      e.records = [⟨"String", [⟨"a", "a", .string⟩]⟩] ∧
      (∀ config, TypeExpr.string.render config = "String") ∧
      TransGen (s.Contains .written) ⟨m.id, .events, "String"⟩ ⟨m.id, .events, "String"⟩ := by
  let object := Datatype.node "object" none (some [("a", .node "string" none none false)]) false
  let m : SchemaModule := { id := "m", events := [⟨"_", [⟨"string", object⟩]⟩] }
  have hcheck : check ⟨[m]⟩ = .ok () := by cbv
  have htypes : TypesFile.ofModule m = .ok ⟨[], [], []⟩ := eq_ok_of_toOption (by decide +kernel)
  have hrest : RestFile.ofEndpoints m.id m.types.endpoints = .ok ⟨[], [], []⟩ :=
    eq_ok_of_toOption (by decide +kernel)
  have hrecords : (EventsFile.ofEvents m.id m.events).map EventsFile.records =
      .ok [⟨"String", [⟨"a", "a", .string⟩]⟩] := eq_ok_of_toOption (by decide +kernel)
  obtain ⟨e, hevents, hrecords⟩ := map_eq_ok.1 hrecords
  obtain ⟨files, hg⟩ := generate_single {} hcheck htypes hevents hrest
  have hm : m ∈ (⟨[m]⟩ : SchemaSet).modules := List.mem_singleton_self m
  have hrecord : SchemaSet.IsRecord ⟨[m]⟩ ⟨m.id, .events, "String"⟩
      ⟨"String", [⟨"a", "a", .string⟩]⟩ := by
    refine ⟨m, hm, rfl, ?_, rfl⟩
    rw [SchemaModule.records_events hevents, hrecords]
    exact List.mem_singleton_self _
  refine ⟨⟨[m]⟩, files, m, e, List.nodup_singleton _, hg, hm, hevents, hrecords, fun _ => rfl, ?_⟩
  exact .single ⟨_, _, hrecord, hrecord, _, List.mem_singleton_self _, rfl⟩

end SchemaSet

end EventSchema
