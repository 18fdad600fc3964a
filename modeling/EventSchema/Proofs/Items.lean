import EventSchema.Proofs.RecordNames
import EventSchema.Proofs.Resolution

set_option autoImplicit false

namespace EventSchema

open Outcome

namespace Backend

/-- The text is that of a file with the code in one of its paragraphs. -/
def Code.IsIn (c : Code) (text : String) : Prop :=
  ∃ header before paragraph after,
    text = file header (before ++ paragraph :: after) ∧ c ∈ paragraph

theorem Code.isIn_file {header : String} {ps : List (List Code)} {p : List Code} {c : Code}
    (hp : p ∈ ps) (hc : c ∈ p) : c.IsIn (file header ps) := by
  obtain ⟨before, after, rfl⟩ := List.append_of_mem hp
  exact ⟨header, before, p, after, rfl, hc⟩

structure CommandItem.IsFor (c : Command) (item : CommandItem) : Prop where
  structName : item.structName = c.structName
  key : item.key = c.key
  handlerMethod : item.handlerMethod = c.handlerMethod
  allocatorFn : item.allocatorFn = "allocate_" ++ c.handlerMethod
  idents : ∀ f ∈ item.fields, fieldIdent? f.key = some f.ident

theorem FormField.ident_of_ofField {f : CommandField} {field : FormField}
    (h : ofField f = .ok field) : fieldIdent? field.key = some field.ident := by
  unfold ofField at h
  split at h
  · cases h
  · next ident hi =>
    cases h
    exact hi

theorem CommandsFile.made_of_commands {cs : List Command} {f : CommandsFile}
    (h : ofCommands cs = .ok f) :
    List.Forall₂ (fun c item => CommandItem.ofCommand c = .ok item) cs f.commands := by
  obtain ⟨items, hi, h⟩ := bind_eq_ok.1 h
  cases h
  exact (forall₂_of_mapM_eq_ok hi).imp fun _ _ => Place.locate_eq_ok.1

theorem CommandsFile.items_of_commands {cs : List Command} {f : CommandsFile}
    (h : ofCommands cs = .ok f) : List.Forall₂ CommandItem.IsFor cs f.commands := by
  refine (made_of_commands h).imp fun c item hc => ?_
  obtain ⟨fields, hf, hc⟩ := bind_eq_ok.1 hc
  cases hc
  refine ⟨rfl, rfl, rfl, rfl, fun field hm => ?_⟩
  obtain ⟨source, -, hs⟩ := (mem_iff_of_mapM_eq_ok hf).1 hm
  exact FormField.ident_of_ofField hs

structure EventItem.IsFor (e : Event) (item : EventItem) : Prop where
  structName : item.structName = e.structName
  kind : item.kind = e.kind
  applyMethod : item.applyMethod = e.applyMethod
  allocatorFn : item.allocatorFn = "allocate_" ++ e.methodStem
  idents : ∀ f ∈ item.fields, fieldIdent? f.key = some f.ident

structure EventItem.Keeps (home : Home) (e : Event) (item : EventItem) : Prop where
  isFor : item.IsFor e
  fields : List.Forall₂ (fun f => RecordField.IsFor home e.structName (f.key, f.type)) e.fields
    item.fields

theorem EventsFile.keeps_of_draft {home : Home} {es : List Event} {s later : Drafts}
    {items : List EventItem} (h : draft home es s = .ok (items, later)) :
    List.Forall₂ (EventItem.Keeps home) es items := by
  induction es generalizing s items later with
  | nil =>
    cases h
    exact .nil
  | cons e rest ih =>
    obtain ⟨⟨fields, middle⟩, hf, h⟩ := bind_eq_ok.1 h
    obtain ⟨⟨others, last⟩, hr, h⟩ := bind_eq_ok.1 h
    cases h
    have hfields := (draftFields_gives hf).2
    refine .cons ⟨⟨rfl, rfl, rfl, rfl, fun field hm => ?_⟩, hfields⟩ (ih hr)
    obtain ⟨f, -, hfield⟩ := mem_of_forall₂ hfields.flip hm
    exact hfield.ident_of_key

theorem EventsFile.keeps_of_events {moduleId : String} {es : List Event} {f : EventsFile}
    (h : ofEvents moduleId es = .ok f) :
    List.Forall₂ (EventItem.Keeps ⟨moduleId, .sibling⟩) es f.events := by
  obtain ⟨⟨items, s⟩, hd, h⟩ := bind_eq_ok.1 h
  cases h
  exact keeps_of_draft hd

theorem EventsFile.items_of_events {moduleId : String} {es : List Event} {f : EventsFile}
    (h : ofEvents moduleId es = .ok f) : List.Forall₂ EventItem.IsFor es f.events :=
  (keeps_of_events h).imp fun _ _ hk => hk.isFor

/-- The item has the names of the endpoint, a parameter for each of its placeholders, and an input
if the endpoint takes one. -/
structure EndpointItem.IsFor (e : Endpoint) (item : EndpointItem) : Prop where
  handler : item.handler = escapeKeyword (Naming.snake e.name)
  chainVar : item.chainVar = Naming.snake e.name ++ "_chain"
  params : ∃ names, Route.placeholders e.path = .ok names ∧
    item.params.map some = names.map fieldIdent?
  input : item.input.isSome = e.consumes.isSome

section Parameters

variable {e : Endpoint} {item : EndpointItem} (h : item.IsFor e) {names : List String}
  (hn : Route.placeholders e.path = .ok names)
include h hn

theorem EndpointItem.params_eq : item.params.map some = names.map fieldIdent? := by
  obtain ⟨others, ho, hp⟩ := h.params
  cases hn.symm.trans ho
  exact hp

theorem EndpointItem.mem_params_iff {param : String} :
    param ∈ item.params ↔ ∃ name ∈ names, fieldIdent? name = some param := by
  rw [← List.mem_map, ← params_eq h hn]
  exact (List.mem_map_of_injective (Option.some_injective _)).symm

end Parameters

theorem RestFile.ident_of_paramIdent {name ident : String} (h : paramIdent name = .ok ident) :
    some ident = fieldIdent? name := by
  unfold paramIdent at h
  split at h
  · next i hi =>
    cases h
    exact hi.symm
  · cases h

structure EndpointItem.Keeps (home : Home) (e : Endpoint) (item : EndpointItem) : Prop where
  isFor : item.IsFor e
  method : item.method = e.method
  route : item.route = e.path
  chain : item.chain = e.chain
  description : item.description = e.description.map Code.oneLine
  consumes : Option.Rel (HasType home (Naming.pascal e.name ++ "Input")) e.consumes item.input
  produces : Option.Rel (HasType home (Naming.pascal e.name ++ "Output")) e.produces item.output

theorem RestFile.keeps_of_draftEndpoint {home : Home} {e : Endpoint} {s later : Drafts}
    {item : EndpointItem} (h : draftEndpoint home e s = .ok (item, later)) :
    item.Keeps home e := by
  obtain ⟨names, params, input, middle, output, hn, hp, hi, ho, rfl⟩ := draftEndpoint_eq_ok h
  have hparams : params.map some = names.map fieldIdent? :=
    map_eq_of_forall₂ (fun _ _ h => ident_of_paramIdent h) (forall₂_of_mapM_eq_ok hp)
  have hinput := (draftPayload_gives hi).2
  have hsome : input.isSome = e.consumes.isSome := by
    generalize e.consumes = payload at hinput
    cases hinput with
    | none => rfl
    | some _ => rfl
  exact {
    isFor := ⟨by dsimp only, rfl, ⟨names, hn, hparams⟩, hsome⟩
    method := rfl
    route := rfl
    chain := rfl
    description := rfl
    consumes := hinput
    produces := (draftPayload_gives ho).2 }

theorem RestFile.keeps_of_draft {home : Home} {es : List Endpoint} {s later : Drafts}
    {items : List EndpointItem} (h : draft home es s = .ok (items, later)) :
    List.Forall₂ (EndpointItem.Keeps home) es items := by
  induction es generalizing s later items with
  | nil =>
    cases h
    exact .nil
  | cons e rest ih =>
    obtain ⟨⟨item, middle⟩, hi, h⟩ := bind_eq_ok.1 h
    obtain ⟨⟨others, last⟩, ho, h⟩ := bind_eq_ok.1 h
    cases h
    exact .cons (keeps_of_draftEndpoint (Place.locate_eq_ok.1 hi)) (ih ho)

theorem RestFile.keeps_of_endpoints {moduleId : String} {es : List Endpoint} {f : RestFile}
    (h : ofEndpoints moduleId es = .ok f) :
    List.Forall₂ (EndpointItem.Keeps ⟨moduleId, .sibling⟩) es f.endpoints ∧
      f.routes = routesOf f.endpoints := by
  obtain ⟨⟨items, s⟩, hd, h⟩ := bind_eq_ok.1 h
  cases h
  exact ⟨keeps_of_draft hd, rfl⟩

theorem RestFile.items_of_endpoints {moduleId : String} {es : List Endpoint} {f : RestFile}
    (h : ofEndpoints moduleId es = .ok f) : List.Forall₂ EndpointItem.IsFor es f.endpoints :=
  (keeps_of_endpoints h).1.imp fun _ _ hk => hk.isFor

theorem RestFile.routes_of_endpoints {moduleId : String} {es : List Endpoint} {f : RestFile}
    (h : ofEndpoints moduleId es = .ok f) :
    List.Forall₂ (fun e item => item.route = e.path) es f.endpoints ∧
      f.routes = routesOf f.endpoints :=
  (keeps_of_endpoints h).imp_left fun hk => hk.imp fun _ _ hk => hk.route

theorem RestFile.handlers_of_endpoints {moduleId : String} {es : List Endpoint} {f : RestFile}
    (h : ofEndpoints moduleId es = .ok f) :
    f.endpoints.map EndpointItem.handler =
      es.map fun e => escapeKeyword (Naming.snake e.name) :=
  map_eq_of_forall₂ (fun _ _ hi => hi.handler) (items_of_endpoints h)

end Backend

namespace SchemaModule

structure NamesApart (m : SchemaModule) : Prop where
  commandStructs : (m.commands.map Command.structName).Nodup
  eventKinds : (m.events.map Event.kind).Nodup
  eventStructs : (m.events.map Event.structName).Nodup
  endpoints : (m.types.endpoints.map fun e => Naming.snake e.name).Nodup
  enums : (m.types.enums.map Enumeration.name).Nodup
  enumNames : ∀ e ∈ m.types.enums, Check.isTypeName e.name = true

theorem namesApart_of_check {s : SchemaSet} {m : SchemaModule} (h : m.check s = .ok ()) :
    m.NamesApart := by
  simp only [check, andThen_eq_ok] at h
  obtain ⟨-, -, hu, -, he, -, hc, hv, -⟩ := h
  simp only [Check.enumerations, Check.endpoints, Check.commands, Check.events, andThen_eq_ok,
    forM_eq_ok, Check.unique_eq_ok, Place.locate_eq_ok] at hu he hc hv
  refine {
    commandStructs := hc.2.1
    eventKinds := hv.1
    eventStructs := hv.2.1
    endpoints := by simpa [Function.comp_def] using he.2.1
    enums := hu.1
    enumNames := fun e hm => ?_ }
  have hn := hu.2 e hm
  simp only [Check.enumeration, Check.typeName, andThen_eq_ok, Check.ensure_eq_ok] at hn
  exact hn.1.1

end SchemaModule

namespace SchemaSet

section Files

variable {config : Config} {s : SchemaSet} {files : List Artifact} {m : SchemaModule}
  (h : s.generate config = .ok files) (hm : m ∈ s.modules)
include h hm

theorem namesApart_of_generate : m.NamesApart :=
  SchemaModule.namesApart_of_check (check_of_mem (andThen_eq_ok.1 h).1 hm)

theorem content_of_generate (part : Section) : ∃ text, part.content config m = .ok text ∧
    (part.isPresent m = true → ⟨part.target, part.path m.id, text⟩ ∈ files) := by
  cases hp : part.isPresent m with
  | true =>
    obtain ⟨text, hc, hf⟩ := mem_files h hm hp
    exact ⟨text, hc, fun _ => hf⟩
  | false =>
    suffices hc : ∃ text, part.content config m = .ok text by
      obtain ⟨text, hc⟩ := hc
      exact ⟨text, hc, fun hn => by cases hn⟩
    cases part with
    | types | client => cases hp
    | commandForms => exact ⟨_, rfl⟩
    | commands | events | rest =>
      simp only [Section.isPresent, Bool.not_eq_false', List.isEmpty_iff] at hp
      rw [Section.content, hp]
      exact ⟨_, rfl⟩

theorem types_of_generate : ∃ f, Backend.TypesFile.ofModule m = .ok f ∧
    ⟨.backend, Section.path m.id .types, f.render config⟩ ∈ files := by
  obtain ⟨text, hc, hf⟩ := content_of_generate h hm .types
  obtain ⟨f, ho, rfl⟩ := map_eq_ok.1 hc
  exact ⟨f, ho, hf rfl⟩

theorem commands_of_generate : ∃ f, Backend.CommandsFile.ofCommands m.commands = .ok f ∧
    (m.commands ≠ [] → ⟨.backend, Section.path m.id .commands, f.render⟩ ∈ files) := by
  obtain ⟨text, hc, hf⟩ := content_of_generate h hm .commands
  obtain ⟨f, ho, rfl⟩ := map_eq_ok.1 hc
  exact ⟨f, ho, fun hn => hf (by simpa [Section.isPresent] using hn)⟩

theorem events_of_generate : ∃ f, Backend.EventsFile.ofEvents m.id m.events = .ok f ∧
    (m.events ≠ [] → ⟨.backend, Section.path m.id .events, f.render config⟩ ∈ files) := by
  obtain ⟨text, hc, hf⟩ := content_of_generate h hm .events
  obtain ⟨f, ho, rfl⟩ := map_eq_ok.1 hc
  exact ⟨f, ho, fun hn => hf (by simpa [Section.isPresent] using hn)⟩

theorem rest_of_generate : ∃ f, Backend.RestFile.ofEndpoints m.id m.types.endpoints = .ok f ∧
    (m.types.endpoints ≠ [] →
      ⟨.backend, Section.path m.id .rest, f.render config⟩ ∈ files) := by
  obtain ⟨text, hc, hf⟩ := content_of_generate h hm .rest
  obtain ⟨f, ho, rfl⟩ := map_eq_ok.1 hc
  exact ⟨f, ho, fun hn => hf (by simpa [Section.isPresent] using hn)⟩

end Files

theorem generate_of_drafts (config : Config) {s : SchemaSet} (hc : s.check = .ok ())
    (hd : ∀ m ∈ s.modules, ∀ part ∈ Section.drafting,
      (part.content config m).toOption.isSome = true) :
    ∃ files, generate config s = .ok files :=
  generate_eq_ok config hc fun m hm part hp => exists_eq_ok_of_isSome (hd m hm part hp)

theorem generate_single (config : Config) {m : SchemaModule}
    (hc : check ⟨[m]⟩ = .ok ()) {t : Backend.TypesFile} (ht : Backend.TypesFile.ofModule m = .ok t)
    {e : Backend.EventsFile} (he : Backend.EventsFile.ofEvents m.id m.events = .ok e)
    {r : Backend.RestFile} (hr : Backend.RestFile.ofEndpoints m.id m.types.endpoints = .ok r) :
    ∃ files, generate config ⟨[m]⟩ = .ok files := by
  refine generate_eq_ok config hc (List.forall_mem_singleton.2 fun part hp => ?_)
  simp only [Section.drafting, List.mem_cons, List.not_mem_nil, or_false] at hp
  rcases hp with rfl | rfl | rfl
  · exact ⟨_, map_eq_ok.2 ⟨t, ht, rfl⟩⟩
  · exact ⟨_, map_eq_ok.2 ⟨e, he, rfl⟩⟩
  · exact ⟨_, map_eq_ok.2 ⟨r, hr, rfl⟩⟩

end SchemaSet

end EventSchema
