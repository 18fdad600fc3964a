import EventSchema.Backend.EventsFile
import EventSchema.Backend.RestFile
import EventSchema.Backend.TypesFile
import EventSchema.Proofs.Checked
import EventSchema.Proofs.Drafts

/-!
The records of the generated Rust files, read off the schema. Every inline object becomes a record:
its name is that of the owner with the keys on the way behind it, and it has a field for each field
of the object, with the identifier of the key and the type of the datatype. Drafting a file gives
these records in order, and nothing else.
-/

set_option autoImplicit false

namespace EventSchema

open Outcome

/-- An object and the name that its record has. -/
structure InlineObject where
  name : String
  fields : List (String × Datatype)

namespace Datatype

mutual

def objects (owner : String) : Datatype → List InlineObject
  | .node _ of fields _ => itemObjects owner of ++ ownObjects owner fields

def itemObjects (owner : String) : Option Datatype → List InlineObject
  | some dt => objects owner dt
  | none => []

/-- The objects in the fields come before the one that holds them. -/
def ownObjects (owner : String) : Option (List (String × Datatype)) → List InlineObject
  | some fields => fieldObjects owner fields ++ [⟨owner, fields⟩]
  | none => []

def fieldObjects (owner : String) : List (String × Datatype) → List InlineObject
  | [] => []
  | (key, dt) :: rest => objects (owner ++ Naming.pascal key) dt ++ fieldObjects owner rest

end

section Equations

attribute [local simp] objects itemObjects ownObjects

theorem objects_leaf (owner name : String) (nullable : Bool) :
    objects owner (.node name none none nullable) = [] := by
  simp

theorem objects_list (owner name : String) (of : Datatype) (nullable : Bool) :
    objects owner (.node name (some of) none nullable) = objects owner of := by
  simp

theorem objects_object (owner name : String) (fields : List (String × Datatype))
    (nullable : Bool) :
    objects owner (.node name none (some fields) nullable) =
      fieldObjects owner fields ++ [⟨owner, fields⟩] := by
  simp

end Equations

theorem objects_of_shape {dt : Datatype} {fields : List (String × Datatype)}
    (h : dt.shape = .ok (.object fields)) (owner : String) :
    dt.objects owner = fieldObjects owner fields ++ [⟨owner, fields⟩] := by
  induction dt using formInduction with
  | malformed name of fields nullable flaw hf => simp [shape_of_malformed hf] at h
  | primitive name nullable p hf => simp [shape_of_primitive hf] at h
  | custom name nullable r hf => simp [shape_of_custom hf] at h
  | list name of nullable hf => simp [shape_of_list hf] at h
  | object name own nullable hf =>
    obtain rfl : own = fields := by simpa [shape_of_object hf] using h
    exact objects_object owner name own nullable

theorem mem_fieldObjects {owner : String} {fields : List (String × Datatype)} {o : InlineObject} :
    o ∈ fieldObjects owner fields ↔ ∃ f ∈ fields, o ∈ objects (owner ++ Naming.pascal f.1) f.2 := by
  induction fields with
  | nil => simp [fieldObjects]
  | cons f rest ih => simp [fieldObjects, ih]

theorem objects_field_subset {owner name : String} {fields : List (String × Datatype)}
    {nullable : Bool} {f : String × Datatype} (h : f ∈ fields) :
    f.2.objects (owner ++ Naming.pascal f.1) ⊆
      objects owner (.node name none (some fields) nullable) := by
  rw [objects_object]
  exact fun o ho => List.mem_append_left _ (mem_fieldObjects.2 ⟨f, h, ho⟩)

end Datatype

def Event.objects (e : Event) : List InlineObject :=
  e.fields.flatMap fun f => f.type.objects (e.structName ++ Naming.pascal f.key)

def Endpoint.objects (e : Endpoint) : List InlineObject :=
  e.consumes.toList.flatMap (Datatype.objects (Naming.pascal e.name ++ "Input")) ++
    e.produces.toList.flatMap (Datatype.objects (Naming.pascal e.name ++ "Output"))

/-- A named type as an object, and the inline objects in its fields. -/
def NamedType.objects (t : NamedType) : List InlineObject :=
  t.type.objects t.name

structure InlineObject.WellFormed (s : SchemaSet) (m : SchemaModule) (o : InlineObject) : Prop where
  idents : Check.uniqueIdents (o.fields.map Prod.fst) = .ok ()
  each : ∀ f ∈ o.fields, f.2.WellFormed s m

theorem Datatype.WellFormed.of_mem_objects {s : SchemaSet} {m : SchemaModule} {dt : Datatype}
    (h : dt.WellFormed s m) {owner : String} : ∀ o ∈ dt.objects owner, o.WellFormed s m := by
  induction h generalizing owner with
  | primitive hf => simp [objects_leaf]
  | custom hf hr => simp [objects_leaf]
  | list hf hi ih => exact fun o ho => ih o (objects_list .. ▸ ho)
  | object hf hk he ih =>
    intro o ho
    rcases List.mem_append.1 (objects_object .. ▸ ho) with ho | ho
    · obtain ⟨f, hm, ho⟩ := mem_fieldObjects.1 ho
      exact ih f hm o ho
    · obtain rfl := List.mem_singleton.1 ho
      exact ⟨hk, he⟩

theorem Datatype.WellFormed.objects_subset {s : SchemaSet} {m : SchemaModule} {dt : Datatype}
    (h : dt.WellFormed s m) {owner : String} {o : InlineObject} (ho : o ∈ dt.objects owner)
    {f : String × Datatype} (hf : f ∈ o.fields) :
    f.2.objects (o.name ++ Naming.pascal f.1) ⊆ dt.objects owner := by
  induction h generalizing owner with
  | primitive hp => simp [objects_leaf] at ho
  | custom hc hr => simp [objects_leaf] at ho
  | list hl hi ih =>
    rw [objects_list] at ho ⊢
    exact ih ho
  | object hform hk he ih =>
    rcases List.mem_append.1 (objects_object .. ▸ ho) with ho | ho
    · obtain ⟨field, hm, ho⟩ := mem_fieldObjects.1 ho
      exact List.Subset.trans (ih field hm ho) (objects_field_subset hm)
    · obtain rfl := List.mem_singleton.1 ho
      exact objects_field_subset hf

namespace Backend

/-- The Rust type of a datatype in a file, where an object is called like its owner. -/
inductive HasType (home : Home) (owner : String) : Datatype → TypeExpr → Prop
  | primitive {name : String} {nullable : Bool} {p : Primitive}
      (form : Datatype.formOf name false false = .ok (.primitive p)) :
      HasType home owner (.node name none none nullable) (.withNull nullable (.ofPrimitive p))
  | custom {name : String} {nullable : Bool} {r : CustomRef}
      (form : Datatype.formOf name false false = .ok (.custom r)) :
      HasType home owner (.node name none none nullable) (.withNull nullable (home.ofRef r))
  | list {name : String} {of : Datatype} {nullable : Bool} {item : TypeExpr}
      (form : Datatype.formOf name true false = .ok .list) (below : HasType home owner of item) :
      HasType home owner (.node name (some of) none nullable) (.withNull nullable (.list item))
  | object {name : String} {fields : List (String × Datatype)} {nullable : Bool}
      (form : Datatype.formOf name false true = .ok .object) :
      HasType home owner (.node name none (some fields) nullable)
        (.withNull nullable (.record owner))

structure RecordField.IsFor (home : Home) (owner : String) (f : String × Datatype)
    (field : RecordField) : Prop where
  key : field.key = f.1
  ident : fieldIdent? f.1 = some field.ident
  type : HasType home (owner ++ Naming.pascal f.1) f.2 field.type

theorem RecordField.IsFor.ident_of_key {home : Home} {owner : String} {f : String × Datatype}
    {field : RecordField} (h : field.IsFor home owner f) :
    fieldIdent? field.key = some field.ident :=
  h.key ▸ h.ident

structure Record.IsFor (home : Home) (o : InlineObject) (r : Record) : Prop where
  name : r.name = o.name
  fields : List.Forall₂ (RecordField.IsFor home o.name) o.fields r.fields

namespace Drafts

/-- A later state, with the records of these objects added and no other names taken. -/
def Gives (home : Home) (s : Drafts) (objects : List InlineObject) (later : Drafts) : Prop :=
  (∃ new, Adds s new later ∧ List.Forall₂ (Record.IsFor home) objects new) ∧
    later.taken ⊆ s.taken ++ objects.map InlineObject.name

theorem Gives.refl (home : Home) (s : Drafts) : Gives home s [] s :=
  ⟨⟨[], .refl s, .nil⟩, by simp⟩

theorem Gives.trans {home : Home} {s t u : Drafts} {objects more : List InlineObject}
    (h : Gives home s objects t) (h' : Gives home t more u) : Gives home s (objects ++ more) u := by
  obtain ⟨⟨new, ha, hf⟩, ht⟩ := h
  obtain ⟨⟨others, ha', hf'⟩, hu⟩ := h'
  refine ⟨⟨new ++ others, ha.trans ha', List.rel_append hf hf'⟩, fun name hn => ?_⟩
  rw [List.map_append, ← List.append_assoc]
  rcases List.mem_append.1 (hu hn) with hn | hn
  · exact List.mem_append_left _ (ht hn)
  · exact List.mem_append_right _ hn

theorem projectFields_gives {home : Home} {fields : List (String × Datatype)}
    (each : ∀ f ∈ fields, ∀ owner s type later, project home owner f.2 s = (.ok type, later) →
      Gives home s (f.2.objects owner) later ∧ HasType home owner f.2 type)
    {owner : String} {s later : Drafts} {own : List RecordField}
    (h : projectFields home owner fields s = (.ok own, later)) :
    Gives home s (Datatype.fieldObjects owner fields) later ∧
      List.Forall₂ (RecordField.IsFor home owner) fields own := by
  induction fields generalizing s own with
  | nil =>
    cases h
    exact ⟨.refl home _, .nil⟩
  | cons f rest ih =>
    obtain ⟨key, dt⟩ := f
    obtain ⟨hf, hr⟩ := List.forall_mem_cons.1 each
    cases hk : fieldIdent? key with
    | none => simp [projectFields_unnamed home owner s hk] at h
    | some ident =>
      rw [projectFields_cons home owner s hk] at h
      obtain ⟨type, middle, hp, h⟩ := chain_eq_ok.1 h
      obtain ⟨others, last, ho, h⟩ := chain_eq_ok.1 h
      cases h
      obtain ⟨hg, ht⟩ := hf _ _ _ _ hp
      obtain ⟨hrest, hfields⟩ := ih hr ho
      exact ⟨hg.trans hrest, .cons ⟨rfl, hk, ht⟩ hfields⟩

theorem record_gives {home : Home} {fields : List (String × Datatype)}
    (each : ∀ f ∈ fields, ∀ owner s type later, project home owner f.2 s = (.ok type, later) →
      Gives home s (f.2.objects owner) later ∧ HasType home owner f.2 type)
    {name : String} {s later : Drafts} (h : record home name fields s = (.ok (), later)) :
    Gives home s (Datatype.fieldObjects name fields ++ [⟨name, fields⟩]) later := by
  obtain ⟨hn, own, inner, hp, rfl⟩ := record_eq_ok h
  obtain ⟨⟨⟨new, ha, hf⟩, ht⟩, hfields⟩ := projectFields_gives each hp
  refine ⟨⟨new ++ [⟨name, own⟩], ha.declare hn, List.rel_append hf (.cons ⟨rfl, hfields⟩ .nil)⟩,
    fun other ho => ?_⟩
  have hother := ht ho
  simp only [List.cons_append, List.mem_cons, List.mem_append, List.map_append, List.map_cons,
    List.map_nil, List.not_mem_nil, or_false] at hother ⊢
  tauto

/-- A datatype that can be drafted has a type, and gives the records of its inline objects. -/
theorem project_gives {home : Home} (dt : Datatype) (owner : String) (s : Drafts) (type : TypeExpr)
    (later : Drafts) (h : project home owner dt s = (.ok type, later)) :
    Gives home s (dt.objects owner) later ∧ HasType home owner dt type := by
  induction dt using Datatype.formInduction generalizing owner s type later with
  | malformed name of fields nullable flaw hf => simp [project_malformed home owner s hf] at h
  | primitive name nullable p hf =>
    rw [project_primitive home owner s hf] at h
    cases h
    rw [Datatype.objects_leaf]
    exact ⟨.refl home _, .primitive hf⟩
  | custom name nullable r hf =>
    rw [project_custom home owner s hf] at h
    cases h
    rw [Datatype.objects_leaf]
    exact ⟨.refl home _, .custom hf⟩
  | list name of nullable hf ih =>
    rw [project_list home owner s hf] at h
    obtain ⟨item, middle, hp, h⟩ := chain_eq_ok.1 h
    cases h
    obtain ⟨hg, ht⟩ := ih _ _ _ _ hp
    rw [Datatype.objects_list]
    exact ⟨hg, .list hf ht⟩
  | object name fields nullable hf ih =>
    rw [project_object home owner s hf] at h
    obtain ⟨_, middle, hp, h⟩ := chain_eq_ok.1 h
    cases h
    rw [Datatype.objects_object]
    exact ⟨record_gives ih hp, .object hf⟩

end Drafts

/-- The records of a file: those of its objects in order, with distinct names, none of them
taken. -/
structure AreRecordsOf (home : Home) (taken : List String) (objects : List InlineObject)
    (records : List Record) : Prop where
  each : List.Forall₂ (Record.IsFor home) objects records
  fresh : ∀ r ∈ records, r.name ∉ taken
  distinct : (records.map Record.name).Nodup

open Drafts

theorem Drafts.Gives.areRecordsOf {home : Home} {taken : List String} {objects : List InlineObject}
    {later : Drafts} (h : Gives home ⟨taken, []⟩ objects later) :
    AreRecordsOf home taken objects later.records := by
  obtain ⟨⟨new, ha, hf⟩, -⟩ := h
  have hr : later.records = new := ha.records
  rw [hr]
  exact ⟨hf, fun r hm => (ha.fresh r hm).1, ha.distinct⟩

theorem AreRecordsOf.map_name {home : Home} {taken : List String} {objects : List InlineObject}
    {records : List Record} (h : AreRecordsOf home taken objects records) :
    records.map Record.name = objects.map InlineObject.name :=
  map_eq_of_forall₂ (fun _ _ hr => hr.name) h.each

namespace EventsFile

theorem draftFields_gives {home : Home} {e : Event} {fields : List EventField}
    {s later : Drafts} {own : List RecordField}
    (h : draftFields home e fields s = .ok (own, later)) :
    Gives home s (fields.flatMap fun f => f.type.objects (e.structName ++ Naming.pascal f.key))
        later ∧
      List.Forall₂ (fun f => RecordField.IsFor home e.structName (f.key, f.type)) fields own := by
  induction fields generalizing s own with
  | nil =>
    cases h
    exact ⟨.refl home _, .nil⟩
  | cons f rest ih =>
    cases hk : fieldIdent? f.key with
    | none => simp [draftFields, hk] at h
    | some ident =>
      cases hp : project home (e.structName ++ Naming.pascal f.key) f.type s with
      | mk result middle =>
        cases result with
        | error fault => simp [draftFields, hk, hp] at h
        | ok type =>
          simp only [draftFields, hk, hp] at h
          obtain ⟨⟨others, last⟩, ho, h⟩ := bind_eq_ok.1 h
          cases h
          obtain ⟨hg, ht⟩ := project_gives _ _ _ _ _ hp
          obtain ⟨hrest, hfields⟩ := ih ho
          exact ⟨hg.trans hrest, .cons ⟨rfl, hk, ht⟩ hfields⟩

theorem draft_gives {home : Home} {es : List Event} {s later : Drafts}
    {items : List EventItem} (h : draft home es s = .ok (items, later)) :
    Gives home s (es.flatMap Event.objects) later := by
  induction es generalizing s items with
  | nil =>
    cases h
    exact .refl home _
  | cons e rest ih =>
    obtain ⟨⟨fields, middle⟩, hf, h⟩ := bind_eq_ok.1 h
    obtain ⟨⟨others, last⟩, hr, h⟩ := bind_eq_ok.1 h
    cases h
    exact (draftFields_gives hf).1.trans (ih hr)

theorem recordsOf_events {moduleId : String} {es : List Event} {f : EventsFile}
    (h : ofEvents moduleId es = .ok f) :
    AreRecordsOf ⟨moduleId, .sibling⟩ (es.map Event.structName ++ ownNames)
      (es.flatMap Event.objects) f.records := by
  obtain ⟨⟨items, s⟩, hd, h⟩ := bind_eq_ok.1 h
  cases h
  exact (draft_gives hd).areRecordsOf

end EventsFile

namespace RestFile

theorem draftPayload_gives {home : Home} {owner : String} {payload : Option Datatype}
    {s later : Drafts} {type : Option TypeExpr}
    (h : draftPayload home owner payload s = .ok (type, later)) :
    Gives home s (payload.toList.flatMap (Datatype.objects owner)) later ∧
      Option.Rel (HasType home owner) payload type := by
  cases payload with
  | none =>
    cases h
    exact ⟨.refl home _, .none⟩
  | some dt =>
    cases hp : project home owner dt s with
    | mk result middle =>
      cases result with
      | error fault => simp [draftPayload, hp] at h
      | ok type =>
        simp only [draftPayload, hp] at h
        cases h
        obtain ⟨hg, ht⟩ := project_gives _ _ _ _ _ hp
        exact ⟨by simpa using hg, .some ht⟩

theorem draftEndpoint_eq_ok {home : Home} {e : Endpoint} {s later : Drafts}
    {item : EndpointItem} (h : draftEndpoint home e s = .ok (item, later)) :
    ∃ names params input middle output, Route.placeholders e.path = .ok names ∧
      names.mapM paramIdent = .ok params ∧
      draftPayload home (Naming.pascal e.name ++ "Input") e.consumes s = .ok (input, middle) ∧
      draftPayload home (Naming.pascal e.name ++ "Output") e.produces middle =
        .ok (output, later) ∧
      item = ⟨e.method, e.path, e.chain, escapeKeyword (Naming.snake e.name),
        Naming.snake e.name ++ "_chain", e.description.map Code.oneLine, params, input,
        output⟩ := by
  obtain ⟨names, hn, h⟩ := bind_eq_ok.1 h
  obtain ⟨params, hp, h⟩ := bind_eq_ok.1 h
  obtain ⟨⟨input, middle⟩, hi, h⟩ := bind_eq_ok.1 h
  obtain ⟨⟨output, last⟩, ho, h⟩ := bind_eq_ok.1 h
  cases h
  exact ⟨names, params, input, middle, output, hn, hp, hi, ho, rfl⟩

theorem draftEndpoint_gives {home : Home} {e : Endpoint} {s later : Drafts}
    {item : EndpointItem} (h : draftEndpoint home e s = .ok (item, later)) :
    Gives home s e.objects later := by
  obtain ⟨_, _, _, _, _, -, -, hi, ho, -⟩ := draftEndpoint_eq_ok h
  exact (draftPayload_gives hi).1.trans (draftPayload_gives ho).1

theorem draft_gives {home : Home} {es : List Endpoint} {s later : Drafts}
    {items : List EndpointItem} (h : draft home es s = .ok (items, later)) :
    Gives home s (es.flatMap Endpoint.objects) later := by
  induction es generalizing s items with
  | nil =>
    cases h
    exact .refl home _
  | cons e rest ih =>
    obtain ⟨⟨item, middle⟩, hi, h⟩ := bind_eq_ok.1 h
    obtain ⟨⟨others, last⟩, hr, h⟩ := bind_eq_ok.1 h
    cases h
    exact (draftEndpoint_gives (Place.locate_eq_ok.1 hi)).trans (ih hr)

theorem recordsOf_endpoints {moduleId : String} {es : List Endpoint} {f : RestFile}
    (h : ofEndpoints moduleId es = .ok f) :
    AreRecordsOf ⟨moduleId, .sibling⟩ ownNames (es.flatMap Endpoint.objects) f.records := by
  obtain ⟨⟨items, s⟩, hd, h⟩ := bind_eq_ok.1 h
  cases h
  exact (draft_gives hd).areRecordsOf

end RestFile

namespace TypesFile

theorem draft_gives {home : Home} {types : List NamedType} {s later : Drafts}
    (hobj : ∀ t ∈ types, ∃ fields, t.type.shape = .ok (.object fields))
    (h : draft home types s = .ok later) :
    Gives home s (types.flatMap NamedType.objects) later := by
  induction types generalizing s with
  | nil =>
    cases h
    exact .refl home _
  | cons t rest ih =>
    obtain ⟨⟨fields, hs⟩, hr⟩ := List.forall_mem_cons.1 hobj
    cases hd : record home t.name fields s with
    | mk result middle =>
      cases result with
      | error fault => simp [draft, hs, hd] at h
      | ok u =>
        simp only [draft, hs, hd] at h
        have hrecord := record_gives (fun f _ => project_gives f.2) hd
        rw [← Datatype.objects_of_shape hs] at hrecord
        exact hrecord.trans (ih hr h)

theorem recordsOf_module {set : SchemaSet} {m : SchemaModule} (hm : m.Checked set)
    {f : TypesFile} (h : ofModule m = .ok f) :
    AreRecordsOf ⟨m.id, .types⟩ (m.types.enums.map Enumeration.name)
      (m.types.types.flatMap NamedType.objects) f.records := by
  obtain ⟨drafts, hd, h⟩ := bind_eq_ok.1 h
  cases h
  exact (draft_gives (fun t ht => (hm.types t ht).2) hd).areRecordsOf

end TypesFile

end Backend

end EventSchema
