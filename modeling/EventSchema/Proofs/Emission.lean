import EventSchema.Generate
import EventSchema.Proofs.Agreement
import EventSchema.Proofs.InlineObjects
import Mathlib

set_option autoImplicit false

namespace EventSchema

open Outcome

/-- One of the objects finds the name of its record taken: another name of the file, or another of
the objects, has it as well. -/
def FindsTaken (taken : List String) (objects : List InlineObject) (name : String) : Prop :=
  name ∈ objects.map InlineObject.name ∧
    (name ∈ taken ∨ 2 ≤ (objects.map InlineObject.name).count name)

theorem FindsTaken.append_right {taken : List String} {objects : List InlineObject} {name : String}
    (h : FindsTaken taken objects name) (more : List InlineObject) :
    FindsTaken taken (objects ++ more) name := by
  obtain ⟨hm, h⟩ := h
  rw [FindsTaken, List.map_append, List.count_append]
  exact ⟨List.mem_append_left _ hm, h.imp_right fun hc => by omega⟩

theorem FindsTaken.append_left {taken later : List String} {objects more : List InlineObject}
    {name : String} (h : FindsTaken later more name)
    (ht : later ⊆ taken ++ objects.map InlineObject.name) :
    FindsTaken taken (objects ++ more) name := by
  obtain ⟨hm, h⟩ := h
  rw [FindsTaken, List.map_append, List.count_append]
  refine ⟨List.mem_append_right _ hm, ?_⟩
  rcases h with hl | hc
  · rcases List.mem_append.1 (ht hl) with hl | hl
    · exact .inl hl
    · have hfirst := List.count_pos_iff.2 hl
      have hsecond := List.count_pos_iff.2 hm
      exact .inr (by omega)
  · exact .inr (by omega)

def Fault.IsClash (taken : List String) (objects : List InlineObject) (fault : Fault) : Prop :=
  ∃ name, fault.root = .duplicate .generatedType name ∧ FindsTaken taken objects name

namespace Fault.IsClash

variable {taken later : List String} {objects more : List InlineObject} {fault : Fault}

theorem within (h : fault.IsClash taken objects) (place : Place) :
    (Fault.within place fault).IsClash taken objects := h

theorem append_right (h : fault.IsClash taken objects) : fault.IsClash taken (objects ++ more) :=
  h.imp fun _ ⟨hroot, hname⟩ => ⟨hroot, hname.append_right more⟩

theorem append_left (h : fault.IsClash later more)
    (ht : later ⊆ taken ++ objects.map InlineObject.name) :
    fault.IsClash taken (objects ++ more) :=
  h.imp fun _ ⟨hroot, hname⟩ => ⟨hroot, hname.append_left ht⟩

end Fault.IsClash

theorem Place.locate_clash {α : Type} (place : Place) {taken : List String}
    {objects : List InlineObject} {x : Except Fault α}
    (h : FailsOnly (Fault.IsClash taken objects) x) :
    FailsOnly (Fault.IsClash taken objects) (place.locate x) := by
  intro fault hf
  obtain ⟨inner, hi, rfl⟩ := locate_eq_error.1 hf
  exact (h inner hi).within place

namespace Backend.Drafts

variable {home : Home} {set : SchemaSet} {m : SchemaModule}

theorem chain_fails {α β : Type} {P : Fault → Prop} {step : Except Fault α × Drafts}
    {next : α → Drafts → Except Fault β × Drafts} (h : FailsOnly P step.1)
    (hn : ∀ a t, step = (.ok a, t) → FailsOnly P (next a t).1) :
    FailsOnly P (chain step next).1 := by
  intro fault hf
  rcases chain_eq_error.1 hf with hf | ⟨a, t, hs, hf⟩
  · exact h fault hf
  · exact hn a t hs fault hf

theorem ok_or_clash {α : Type} {taken : List String} {objects : List InlineObject}
    {step : Except Fault α × Drafts} (h : FailsOnly (Fault.IsClash taken objects) step.1) :
    (∃ a t, step = (.ok a, t)) ∨
      ∃ fault t, step = (.error fault, t) ∧ fault.IsClash taken objects := by
  obtain ⟨fault | a, t⟩ := step
  · exact .inr ⟨fault, t, rfl, h fault rfl⟩
  · exact .inl ⟨a, t, rfl⟩

theorem projectFields_clash {fields : List (String × Datatype)}
    (keys : ∀ f ∈ fields, ∃ ident, fieldIdent? f.1 = some ident)
    (each : ∀ f ∈ fields, ∀ owner s,
      FailsOnly (Fault.IsClash s.taken (f.2.objects owner)) (project home owner f.2 s).1)
    (owner : String) (s : Drafts) :
    FailsOnly (Fault.IsClash s.taken (Datatype.fieldObjects owner fields))
      (projectFields home owner fields s).1 := by
  induction fields generalizing s with
  | nil => exact .ok []
  | cons f rest ih =>
    obtain ⟨⟨ident, hk⟩, hks⟩ := List.forall_mem_cons.1 keys
    obtain ⟨hf, hr⟩ := List.forall_mem_cons.1 each
    rw [projectFields_cons home owner s hk, Datatype.fieldObjects]
    refine chain_fails ((hf _ s).mono fun _ h => h.append_right) fun type t ht => ?_
    have htaken := (project_gives _ _ _ _ _ ht).1.2
    exact chain_fails ((ih hks hr t).mono fun _ h => h.append_left htaken) fun _ _ _ => .ok _

theorem record_clash (home : Home) {fields : List (String × Datatype)}
    (keys : ∀ f ∈ fields, ∃ ident, fieldIdent? f.1 = some ident)
    (each : ∀ f ∈ fields, ∀ owner s,
      FailsOnly (Fault.IsClash s.taken (f.2.objects owner)) (project home owner f.2 s).1)
    (name : String) (s : Drafts) :
    FailsOnly (Fault.IsClash s.taken (Datatype.fieldObjects name fields ++ [⟨name, fields⟩]))
      (record home name fields s).1 := by
  unfold record
  by_cases h : name ∈ s.taken
  · rw [declare_taken name s h]
    exact .error ⟨name, rfl, by simp, .inl h⟩
  · rw [declare_free name s h]
    refine chain_fails ?_ fun _ _ _ => .ok ()
    refine (projectFields_clash keys each name _).mono fun fault hf => ?_
    obtain ⟨other, hroot, hm, ho⟩ := hf
    refine ⟨other, hroot, ?_⟩
    rw [FindsTaken, List.map_append, List.count_append]
    refine ⟨List.mem_append_left _ hm, ?_⟩
    -- the record's own name is reserved before the names below it
    rcases ho with ho | ho
    · rcases List.mem_cons.1 ho with rfl | ho
      · have hbelow := List.count_pos_iff.2 hm
        simp only [List.map_cons, List.map_nil, List.count_singleton_self]
        exact .inr (by omega)
      · exact .inl ho
    · exact .inr (by omega)

/-- Drafting a well-formed datatype fails only where a record finds its name taken. -/
theorem project_clash {dt : Datatype} (h : dt.WellFormed set m) (home : Home) (owner : String)
    (s : Drafts) :
    FailsOnly (Fault.IsClash s.taken (dt.objects owner)) (project home owner dt s).1 := by
  induction h generalizing owner s with
  | primitive hf =>
    rw [project_primitive home owner s hf]
    exact .ok _
  | custom hf _ =>
    rw [project_custom home owner s hf]
    exact .ok _
  | list hf _ ih =>
    rw [project_list home owner s hf, Datatype.objects_list]
    exact chain_fails (ih owner s) fun _ _ _ => .ok _
  | object hf hk _ ih =>
    rw [project_object home owner s hf, Datatype.objects_object]
    have keys := (Check.uniqueIdents_eq_ok.1 hk).1
    exact chain_fails
      (record_clash home (fun f hm => keys f.1 (List.mem_map_of_mem hm)) ih owner s)
      fun _ _ _ => .ok _

end Backend.Drafts

namespace Backend

variable {home : Home} {set : SchemaSet} {m : SchemaModule}

theorem TypesFile.draft_clash {types : List NamedType}
    (h : ∀ t ∈ types, t.type.WellFormed set m ∧ ∃ fields, t.type.shape = .ok (.object fields))
    (s : Drafts) :
    FailsOnly (Fault.IsClash s.taken (types.flatMap NamedType.objects)) (draft home types s) := by
  induction types generalizing s with
  | nil => exact .ok s
  | cons t rest ih =>
    obtain ⟨⟨hw, fields, hs⟩, hr⟩ := List.forall_mem_cons.1 h
    obtain ⟨keys, each⟩ := hw.fields hs
    have hrecord := Drafts.record_clash home keys
      (fun f hm owner s => Drafts.project_clash (each f hm) home owner s) t.name s
    rw [← Datatype.objects_of_shape hs] at hrecord
    rw [List.flatMap_cons]
    rcases Drafts.ok_or_clash hrecord with ⟨_, later, hd⟩ | ⟨fault, later, hd, hc⟩
    · simp only [draft, hs, hd]
      have htaken := (Drafts.record_gives (fun f _ => Drafts.project_gives f.2) hd).2
      rw [← Datatype.objects_of_shape hs] at htaken
      exact (ih hr later).mono fun _ h => h.append_left htaken
    · simp only [draft, hs, hd]
      exact .error (hc.append_right.within _)

theorem TypesFile.ofModule_clash (h : m.Checked set) :
    FailsOnly (Fault.IsClash (m.types.enums.map Enumeration.name)
      (m.types.types.flatMap NamedType.objects)) (ofModule m) :=
  (draft_clash h.types _).bind fun _ _ => .ok _

theorem CommandsFile.ofCommands_fails {P : Fault → Prop} {cs : List Command}
    (h : ∀ c ∈ cs, ∀ f ∈ c.fields, ∃ ident, fieldIdent? f.key = some ident) :
    FailsOnly P (ofCommands cs) := by
  have hfield : ∀ c ∈ cs, ∀ f ∈ c.fields, ∃ field, FormField.ofField f = .ok field := by
    intro c hc f hf
    obtain ⟨ident, hi⟩ := h c hc f hf
    simp [FormField.ofField, hi]
  have hitem : ∀ c ∈ cs, FailsOnly (fun _ => False) (CommandItem.ofCommand c) := fun c hc =>
    FailsOnly.bind (.mapM fun f hf => .of_eq_ok (hfield c hc f hf)) fun fields _ => .ok _
  refine FailsOnly.bind (.mapM fun c hc fault hf => ?_) fun commands _ => .ok _
  obtain ⟨inner, hi, -⟩ := Place.locate_eq_error.1 hf
  exact (hitem c hc inner hi).elim

theorem EventsFile.draftFields_clash {e : Event} {fields : List EventField}
    (h : ∀ f ∈ fields, (∃ ident, fieldIdent? f.key = some ident) ∧ f.type.WellFormed set m)
    (s : Drafts) :
    FailsOnly (Fault.IsClash s.taken
      (fields.flatMap fun f => f.type.objects (e.structName ++ Naming.pascal f.key)))
      (draftFields home e fields s) := by
  induction fields generalizing s with
  | nil => exact .ok _
  | cons f rest ih =>
    obtain ⟨⟨⟨ident, hi⟩, hw⟩, hr⟩ := List.forall_mem_cons.1 h
    rw [List.flatMap_cons]
    rcases Drafts.ok_or_clash
      (Drafts.project_clash hw home (e.structName ++ Naming.pascal f.key) s) with
      ⟨type, later, hd⟩ | ⟨fault, later, hd, hc⟩
    · simp only [draftFields, hi, hd]
      have htaken := (Drafts.project_gives _ _ _ _ _ hd).1.2
      exact ((ih hr later).mono fun _ h => h.append_left htaken).bind fun _ _ => .ok _
    · simp only [draftFields, hi, hd]
      exact .error (hc.append_right.within _)

theorem EventsFile.draft_clash {es : List Event}
    (h : ∀ e ∈ es, ∀ f ∈ e.fields,
      (∃ ident, fieldIdent? f.key = some ident) ∧ f.type.WellFormed set m)
    (s : Drafts) :
    FailsOnly (Fault.IsClash s.taken (es.flatMap Event.objects)) (draft home es s) := by
  induction es generalizing s with
  | nil => exact .ok _
  | cons e rest ih =>
    obtain ⟨he, hr⟩ := List.forall_mem_cons.1 h
    rw [List.flatMap_cons]
    refine ((draftFields_clash he s).mono fun _ h => h.append_right).bind fun drafted hd => ?_
    have htaken := (draftFields_gives hd).1.2
    exact ((ih hr drafted.2).mono fun _ h => h.append_left htaken).bind fun _ _ => .ok _

theorem EventsFile.ofEvents_clash (h : m.Checked set) :
    FailsOnly (Fault.IsClash (m.events.map Event.structName ++ ownNames)
      (m.events.flatMap Event.objects)) (ofEvents m.id m.events) :=
  (draft_clash h.events _).bind fun _ _ => .ok _

theorem RestFile.draftPayload_clash (home : Home) {payload : Option Datatype} (owner : String)
    (h : ∀ dt ∈ payload.toList, dt.WellFormed set m) (s : Drafts) :
    FailsOnly (Fault.IsClash s.taken (payload.toList.flatMap (Datatype.objects owner)))
      (draftPayload home owner payload s) := by
  cases payload with
  | none => exact .ok _
  | some dt =>
    rw [Option.toList_some, List.flatMap_singleton]
    rcases Drafts.ok_or_clash (Drafts.project_clash (h dt (by simp)) home owner s) with
      ⟨type, later, hd⟩ | ⟨fault, later, hd, hc⟩
    · simp only [draftPayload, hd]
      exact .ok _
    · simp only [draftPayload, hd]
      exact .error hc

theorem RestFile.draftEndpoint_clash (home : Home) (h : m.Checked set) {e : Endpoint}
    (he : e ∈ m.types.endpoints) (s : Drafts) :
    FailsOnly (Fault.IsClash s.taken e.objects) (draftEndpoint home e s) := by
  obtain ⟨parts, hp, hi⟩ := h.paths e he
  have hw := h.payloads e he
  have hparams : ∀ name ∈ parts.filterMap PathPart.placeholder?,
      ∃ ident, paramIdent name = .ok ident := by
    intro name hn
    obtain ⟨ident, hi⟩ := hi name hn
    exact ⟨ident, by simp [paramIdent, hi]⟩
  have hnames : Route.placeholders e.path = .ok (parts.filterMap PathPart.placeholder?) := by
    simp [Route.placeholders, hp, Except.map]
  refine FailsOnly.bind (.of_eq_ok ⟨_, hnames⟩) fun names hn => ?_
  obtain rfl : _ = names := Except.ok.inj (hnames.symm.trans hn)
  refine FailsOnly.bind (.mapM fun name hn => .of_eq_ok (hparams name hn)) fun params _ => ?_
  have hinput := draftPayload_clash home (Naming.pascal e.name ++ "Input")
    (fun dt hm => hw dt (List.mem_append_left _ hm)) s
  refine (hinput.mono fun _ h => h.append_right).bind fun input hd => ?_
  have htaken := (draftPayload_gives hd).1.2
  have houtput := draftPayload_clash home (Naming.pascal e.name ++ "Output")
    (fun dt hm => hw dt (List.mem_append_right _ hm)) input.2
  exact (houtput.mono fun _ h => h.append_left htaken).bind fun _ _ => .ok _

theorem RestFile.draft_clash (h : m.Checked set) {es : List Endpoint}
    (hes : ∀ e ∈ es, e ∈ m.types.endpoints) (s : Drafts) :
    FailsOnly (Fault.IsClash s.taken (es.flatMap Endpoint.objects)) (draft home es s) := by
  induction es generalizing s with
  | nil => exact .ok _
  | cons e rest ih =>
    obtain ⟨he, hr⟩ := List.forall_mem_cons.1 hes
    have hfirst := Place.locate_clash (.endpoint e.name) (draftEndpoint_clash home h he s)
    rw [List.flatMap_cons]
    refine (hfirst.mono fun _ h => h.append_right).bind fun drafted hd => ?_
    have htaken := (draftEndpoint_gives (Place.locate_eq_ok.1 hd)).2
    exact ((ih hr drafted.2).mono fun _ h => h.append_left htaken).bind fun _ _ => .ok _

theorem RestFile.ofEndpoints_clash (h : m.Checked set) :
    FailsOnly (Fault.IsClash ownNames (m.types.endpoints.flatMap Endpoint.objects))
      (ofEndpoints m.id m.types.endpoints) :=
  (draft_clash h (fun _ he => he) _).bind fun _ _ => .ok _

end Backend

namespace Frontend

variable {set : SchemaSet} {m : SchemaModule}

theorem TypeExpr.ofFields_ok {fields : List (String × Datatype)}
    (each : ∀ f ∈ fields, ∃ type, ofDatatype f.2 = .ok type) : ∃ ps, ofFields fields = .ok ps := by
  induction fields with
  | nil => exact ⟨[], by simp [ofFields]⟩
  | cons f rest ih =>
    obtain ⟨⟨type, ht⟩, hr⟩ := List.forall_mem_cons.1 each
    obtain ⟨ps, hps⟩ := ih hr
    exact ⟨_, by rw [ofFields_cons ht, hps, Except.map]⟩

theorem TypeExpr.ofDatatype_ok {dt : Datatype} (h : dt.WellFormed set m) :
    ∃ type, ofDatatype dt = .ok type := by
  induction h with
  | primitive hf => exact ⟨_, ofDatatype_primitive hf⟩
  | custom hf _ => exact ⟨_, ofDatatype_custom hf⟩
  | list hf _ ih =>
    obtain ⟨item, hi⟩ := ih
    exact ⟨_, by rw [ofDatatype_list hf, hi, Except.map]⟩
  | object hf _ _ ih =>
    obtain ⟨ps, hps⟩ := ofFields_ok ih
    exact ⟨_, by rw [ofDatatype_object hf, hps, Except.map]⟩

namespace Client

variable {P : Fault → Prop}

theorem typeDef?_fails {t : NamedType}
    (h : t.type.WellFormed set m ∧ ∃ fields, t.type.shape = .ok (.object fields)) :
    FailsOnly P (typeDef? t) := by
  obtain ⟨hw, fields, hs⟩ := h
  have each := (hw.fields hs).2
  obtain ⟨ps, hps⟩ := TypeExpr.ofFields_ok fun f hm => TypeExpr.ofDatatype_ok (each f hm)
  exact .of_eq_ok ⟨some ⟨t.name, .interface ps⟩, by simp [typeDef?, hs, hps, bind, Except.bind]⟩

theorem payloadType_fails {payload : Option Datatype}
    (h : ∀ dt ∈ payload.toList, dt.WellFormed set m) : FailsOnly P (payloadType payload) := by
  cases payload with
  | none => exact .ok none
  | some dt => exact .map _ (.of_eq_ok (TypeExpr.ofDatatype_ok (h dt (by simp))))

theorem endpointFunctions_fails (h : m.Checked set) {e : Endpoint} (he : e ∈ m.types.endpoints) :
    FailsOnly P (endpointFunctions e) := by
  obtain ⟨parts, hp, -⟩ := h.paths e he
  have hw := h.payloads e he
  refine FailsOnly.bind (.of_eq_ok ⟨parts, hp⟩) fun parts _ => ?_
  refine (payloadType_fails fun dt hm => hw dt (List.mem_append_left _ hm)).bind fun input _ => ?_
  exact (payloadType_fails fun dt hm => hw dt (List.mem_append_right _ hm)).bind
    fun output _ => .ok _

theorem ofModule_fails (config : Config) (h : m.Checked set) : FailsOnly P (ofModule config m) :=
  FailsOnly.bind (.mapM fun t ht => typeDef?_fails (h.types t ht)) fun _ _ =>
    FailsOnly.bind (.mapM fun _ he => endpointFunctions_fails h he) fun _ _ => .ok _

end Client

end Frontend

namespace Section

def drafting : List Section := [.types, .events, .rest]

def objects (m : SchemaModule) : Section → List InlineObject
  | .types => m.types.types.flatMap NamedType.objects
  | .events => m.events.flatMap Event.objects
  | .rest => m.types.endpoints.flatMap Endpoint.objects
  | .commands | .client | .commandForms => []

/-- The names that the file of a section has besides those of its records: its enums, the structs of
its events, and the names that its template brings. -/
def otherNames (m : SchemaModule) : Section → List String
  | .types => m.types.enums.map Enumeration.name
  | .events => m.events.map Event.structName ++ ["AnyEvent", "EventListener", "Allocator"]
  | .rest => ["Handlers", "Future", "Arc", "Router", "Request", "Response", "MethodFilter",
      "MiddlewareChainMap", "RequestContext", "RouteError"]
  | .commands | .client | .commandForms => []

theorem content_fails (config : Config) {set : SchemaSet} {m : SchemaModule} (h : m.Checked set)
    (part : Section) :
    FailsOnly (fun fault => part ∈ drafting ∧ fault.IsClash (part.otherNames m) (part.objects m))
      (part.content config m) := by
  cases part with
  | types => exact (Backend.TypesFile.ofModule_clash h).map _ |>.mono fun _ hc => ⟨by decide, hc⟩
  | commands => exact .map _ (Backend.CommandsFile.ofCommands_fails h.commands)
  | events => exact (Backend.EventsFile.ofEvents_clash h).map _ |>.mono fun _ hc => ⟨by decide, hc⟩
  | rest => exact (Backend.RestFile.ofEndpoints_clash h).map _ |>.mono fun _ hc => ⟨by decide, hc⟩
  | client => exact .map _ (Frontend.Client.ofModule_fails config h)
  | commandForms => exact .ok _

theorem emit_fails (config : Config) {m : SchemaModule} (part : Section) :
    FailsOnly (fun e => e.module = m.id ∧ part.content config m = .error e.fault)
      (part.emit config m) := by
  unfold emit
  split
  · split
    · exact .ok _
    · next fault hc => exact .error ⟨rfl, hc⟩
  · exact .ok _

end Section

namespace SchemaSet

theorem generate_fails (config : Config) {s : SchemaSet} (h : s.check = .ok ()) :
    FailsOnly (fun e => ∃ m ∈ s.modules, ∃ part, e.module = m.id ∧
      Section.content config m part = .error e.fault) (s.generate config) := by
  refine FailsOnly.bind (.of_eq_ok ⟨(), h⟩) fun _ _ => FailsOnly.bind ?_ fun files _ => .ok _
  refine FailsOnly.bind (.mapM fun m hm => .mapM fun part _ => ?_) fun files _ => .ok _
  exact (Section.emit_fails config part).mono fun e he => ⟨m, hm, part, he⟩

theorem generate_eq_ok (config : Config) {s : SchemaSet} (h : s.check = .ok ())
    (hd : ∀ m ∈ s.modules, ∀ part ∈ Section.drafting, ∃ text, part.content config m = .ok text) :
    ∃ files, s.generate config = .ok files := by
  rcases (generate_fails config h).ok_or_error with hok | ⟨e, -, m, hm, part, -, hc⟩
  · exact hok
  · obtain ⟨hp, -⟩ := Section.content_fails config (checked_of_check h hm) part e.fault hc
    obtain ⟨text, ht⟩ := hd m hm part hp
    rw [ht] at hc
    cases hc

/-- Once a schema passes its checks, a section fails only where one of the objects that it drafts
finds its name taken, and the generation only where a section does. -/
theorem generate_ok_or_clash (config : Config) {s : SchemaSet} (h : s.check = .ok ()) :
    (∀ m ∈ s.modules, ∀ part : Section,
      (∃ text, part.content config m = .ok text) ∨
        part ∈ Section.drafting ∧ ∃ fault name,
          part.content config m = .error fault ∧ fault.root = .duplicate .generatedType name ∧
            FindsTaken (part.otherNames m) (part.objects m) name) ∧
    ((∃ files, s.generate config = .ok files) ∨
      ∃ m ∈ s.modules, ∃ part ∈ Section.drafting, ∃ fault name,
        s.generate config = .error ⟨m.id, fault⟩ ∧ part.content config m = .error fault ∧
          fault.root = .duplicate .generatedType name ∧
            FindsTaken (part.otherNames m) (part.objects m) name) := by
  have hcontent : ∀ m ∈ s.modules, ∀ part, FailsOnly _ (Section.content config m part) :=
    fun m hm part => Section.content_fails config (checked_of_check h hm) part
  constructor
  · intro m hm part
    rcases (hcontent m hm part).ok_or_error with hok | ⟨fault, he, hp, name, hn⟩
    · exact .inl hok
    · exact .inr ⟨hp, fault, name, he, hn⟩
  · rcases (generate_fails config h).ok_or_error with hok | ⟨e, he, m, hm, part, hid, hc⟩
    · exact .inl hok
    · obtain ⟨hp, name, hn⟩ := hcontent m hm part e.fault hc
      exact .inr ⟨m, hm, part, hp, e.fault, name, by rw [he, ← hid], hc, hn⟩

theorem generate_clash_inline :
    ∃ s : SchemaSet, s.check = .ok () ∧ ∃ m ∈ s.modules, ∃ part ∈ Section.drafting,
      ∃ fault name, s.generate {} = .error ⟨m.id, fault⟩ ∧
        part.content {} m = .error fault ∧ fault.root = .duplicate .generatedType name ∧
          FindsTaken (part.otherNames m) (part.objects m) name := by
  let leaf := Datatype.node "object" none (some [("kind", .named "b.Kind")]) true
  let inner := Datatype.node "object" none (some [("name", leaf)]) false
  let item := NamedType.mk "Item"
    (.node "object" none (some [("part", inner), ("part-name", leaf)]) false)
  let kind := NamedType.mk "Kind" (.node "object" none (some []) false)
  let s : SchemaSet :=
    ⟨[{ id := "a", types := { types := [item] } }, { id := "b", types := { types := [kind] } }]⟩
  have hs : s.check = .ok () := by cbv
  have hg : s.generate {} =
    .error ⟨"a", .within (.type "Item") (.duplicate .generatedType "ItemPartName")⟩ := by cbv
  rcases (generate_ok_or_clash {} hs).2 with ⟨files, hf⟩ | hc
  · rw [hg] at hf
    cases hf
  · exact ⟨s, hs, hc⟩

end SchemaSet

end EventSchema
