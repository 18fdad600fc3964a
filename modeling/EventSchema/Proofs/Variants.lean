import EventSchema.Proofs.Items
import EventSchema.Registry

/-!
The variants of the generated sum types, and the way of an event through them. The kind of an event
leads to its variant, and the first arm for that variant to the method that takes the event. The
variants of commands are distinct in every schema that passes its checks. Those of events are, too,
unless the record of an event is called as the variant for unknown kinds is: no check keeps that
name free, and an event of this name takes over the events of all unknown kinds.
-/

set_option autoImplicit false

namespace EventSchema

open Outcome

namespace Backend

def CommandsFile.variants (f : CommandsFile) : List String :=
  f.commands.map CommandItem.structName

def CommandsFile.sumType (f : CommandsFile) : Code :=
  .item "pub enum AnyCommand" (f.variants.map fun v => .line (v ++ "(" ++ v ++ "),"))

theorem CommandsFile.sumType_isIn (f : CommandsFile) : f.sumType.IsIn f.render := by
  have hfirst : f.anyCommand.head?.bind List.getLast? = some f.sumType := by
    simp [anyCommand, sumType, variants, Function.comp_def]
  obtain ⟨paragraph, hp, hlast⟩ := Option.bind_eq_some_iff.1 hfirst
  refine Code.isIn_file ?_ (List.mem_of_getLast? hlast)
  simp [List.mem_of_head? hp]

namespace EventsFile

def unknownVariant : String := "Unknown"

def unknownHandler : String := "handle_unknown_event"

def variantTypes (f : EventsFile) : List (String × String) :=
  f.events.map (fun e => (e.structName, e.structName)) ++ [(unknownVariant, "UnknownEvent")]

def variants (f : EventsFile) : List String :=
  f.variantTypes.map Prod.fst

def arms (f : EventsFile) : List (String × String) :=
  f.events.map (fun e => (e.structName, e.applyMethod)) ++ [(unknownVariant, unknownHandler)]

def sumType (f : EventsFile) : Code :=
  .item "pub enum AnyEvent" (f.variantTypes.map fun v => .line (v.1 ++ "(" ++ v.2 ++ "),"))

def dispatcher (f : EventsFile) : Code :=
  .item ("pub fn dispatch_event<L: EventListener + ?Sized>(event: &AnyEvent, " ++
      "listener: &mut L) -> Result<(), L::Error>")
    [.item "match event" (f.arms.map fun arm =>
      .line ("AnyEvent::" ++ arm.1 ++ "(inner) => listener." ++ arm.2 ++ "(inner),"))]

theorem sumType_isIn (config : Config) (f : EventsFile) : f.sumType.IsIn (f.render config) := by
  have hfirst : f.anyEvent.head?.bind List.getLast? = some f.sumType := by
    simp [anyEvent, sumType, variantTypes, Function.comp_def, unknownVariant]
  obtain ⟨paragraph, hp, hlast⟩ := Option.bind_eq_some_iff.1 hfirst
  refine Code.isIn_file ?_ (List.mem_of_getLast? hlast)
  simp [List.mem_of_head? hp]

theorem dispatcher_isIn (config : Config) (f : EventsFile) :
    f.dispatcher.IsIn (f.render config) := by
  have harms : f.dispatch = [f.dispatcher] := by
    simp [dispatch, dispatcher, arms, Function.comp_def, unknownVariant, unknownHandler]
  refine Code.isIn_file (p := f.dispatch) ?_ (by simp [harms])
  simp

/-- The variant that an event of a kind is decoded to: the one that the allocator registered for
the kind makes, or the one for unknown kinds. -/
def variantOf (f : EventsFile) (kind : String) : String :=
  ((Registry.ofList (f.events.map fun e => (e.kind, e.structName))).get? kind).getD unknownVariant

/-- The method that takes an event of a kind: that of the first arm for its variant. -/
def route (f : EventsFile) (kind : String) : Option String :=
  f.arms.lookup (f.variantOf kind)

theorem variants_eq (f : EventsFile) :
    f.variants = f.events.map EventItem.structName ++ [unknownVariant] := by
  simp [variants, variantTypes, Function.comp_def]

theorem variants_nodup_iff {f : EventsFile} (h : (f.events.map EventItem.structName).Nodup) :
    f.variants.Nodup ↔ ∀ e ∈ f.events, e.structName ≠ unknownVariant := by
  rw [variants_eq, List.nodup_append]
  simp [h]

theorem lookup_arm {f : EventsFile} (hv : f.variants.Nodup) {variant method : String}
    (h : (variant, method) ∈ f.arms) : f.arms.lookup variant = some method := by
  refine Text.lookup_of_mem ?_ h
  simpa [arms, variants_eq, Function.comp_def] using hv

section Routes

variable {f : EventsFile} (hk : (f.events.map EventItem.kind).Nodup)
include hk

theorem variantOf_eq_lookup (kind : String) :
    f.variantOf kind =
      ((f.events.map fun e => (e.kind, e.structName)).lookup kind).getD unknownVariant := by
  rw [variantOf, Registry.get?_ofList (by simpa [Function.comp_def] using hk)]

theorem variantOf_known {e : EventItem} (he : e ∈ f.events) :
    f.variantOf e.kind = e.structName := by
  have hm : (e.kind, e.structName) ∈ f.events.map fun e => (e.kind, e.structName) :=
    List.mem_map.2 ⟨e, he, rfl⟩
  rw [variantOf_eq_lookup hk, Text.lookup_of_mem (by simpa [Function.comp_def] using hk) hm,
    Option.getD_some]

theorem variantOf_unknown {kind : String} (h : kind ∉ f.events.map EventItem.kind) :
    f.variantOf kind = unknownVariant := by
  have hn : (f.events.map fun e => (e.kind, e.structName)).lookup kind = none := by
    rw [List.lookup_eq_none_iff]
    simp only [List.forall_mem_map, bne_iff_ne]
    exact fun e he hek => h (List.mem_map.2 ⟨e, he, hek.symm⟩)
  rw [variantOf_eq_lookup hk, hn, Option.getD_none]

variable (hv : f.variants.Nodup)
include hv

theorem route_known {e : EventItem} (he : e ∈ f.events) : f.route e.kind = some e.applyMethod := by
  rw [route, variantOf_known hk he]
  exact lookup_arm hv (List.mem_append_left _ (List.mem_map.2 ⟨e, he, rfl⟩))

theorem route_unknown {kind : String} (h : kind ∉ f.events.map EventItem.kind) :
    f.route kind = some unknownHandler := by
  rw [route, variantOf_unknown hk h]
  exact lookup_arm hv (by simp [arms])

end Routes

/-- Every event goes to the method of its own kind, and those of unknown kinds, and no others, go to
the method for them. -/
structure Routes (f : EventsFile) (es : List Event) : Prop where
  known : ∀ e ∈ es, f.route e.kind = some e.applyMethod
  unknown : ∀ kind, f.route kind = some unknownHandler ↔ kind ∉ es.map Event.kind

theorem applyMethod_ne_unknownHandler (e : Event) : e.applyMethod ≠ unknownHandler := by
  intro h
  have hc := congrArg (fun s => s.toList.head?) h
  simp [Event.applyMethod, unknownHandler] at hc

theorem routes_of_nodup {es : List Event} {f : EventsFile}
    (hf : List.Forall₂ EventItem.IsFor es f.events) (hk : (es.map Event.kind).Nodup)
    (hv : f.variants.Nodup) : f.Routes es := by
  have hkinds : f.events.map EventItem.kind = es.map Event.kind :=
    map_eq_of_forall₂ (fun _ _ h => h.kind) hf
  have hk' : (f.events.map EventItem.kind).Nodup := hkinds ▸ hk
  have known : ∀ e ∈ es, f.route e.kind = some e.applyMethod := by
    intro e he
    obtain ⟨item, hi, hof⟩ := mem_of_forall₂ hf he
    rw [← hof.kind, ← hof.applyMethod]
    exact route_known hk' hv hi
  refine ⟨known, fun kind => ⟨fun hr hm => ?_, fun hm => route_unknown hk' hv (hkinds ▸ hm)⟩⟩
  obtain ⟨e, he, rfl⟩ := List.mem_map.1 hm
  rw [known e he] at hr
  exact applyMethod_ne_unknownHandler e (Option.some.inj hr)

end EventsFile

end Backend

namespace SchemaSet

open Backend

/-- The variants of commands are distinct. Those of events are distinct if and only if no event has
a record of the name that the variant for unknown kinds has; then every event goes to its own
method, and only those of unknown kinds to the method for them. -/
theorem variants_distinct {config : Config} {s : SchemaSet} {files : List Artifact}
    (hg : s.generate config = .ok files) {m : SchemaModule} (hm : m ∈ s.modules) :
    (∃ f, CommandsFile.ofCommands m.commands = .ok f ∧
      (m.commands ≠ [] → ⟨.backend, Section.path m.id .commands, f.render⟩ ∈ files) ∧
      f.sumType.IsIn f.render ∧ f.variants.Nodup) ∧
    ∃ f, EventsFile.ofEvents m.id m.events = .ok f ∧
      (m.events ≠ [] → ⟨.backend, Section.path m.id .events, f.render config⟩ ∈ files) ∧
      f.sumType.IsIn (f.render config) ∧ f.dispatcher.IsIn (f.render config) ∧
      (f.variants.Nodup ↔ ∀ e ∈ m.events, e.structName ≠ EventsFile.unknownVariant) ∧
      (f.variants.Nodup → f.Routes m.events) := by
  have hnames := namesApart_of_generate hg hm
  constructor
  · obtain ⟨text, hc, hfile⟩ := content_of_generate hg hm .commands
    obtain ⟨f, hf, rfl⟩ := map_eq_ok.1 hc
    refine ⟨f, hf, fun hn => hfile (by simpa [Section.isPresent] using hn), f.sumType_isIn, ?_⟩
    have hitems := CommandsFile.items_of_commands hf
    rw [CommandsFile.variants, map_eq_of_forall₂ (fun _ _ h => h.structName) hitems]
    exact hnames.commandStructs
  · obtain ⟨text, hc, hfile⟩ := content_of_generate hg hm .events
    obtain ⟨f, hf, rfl⟩ := map_eq_ok.1 hc
    have hitems := EventsFile.items_of_events hf
    have hstructs : f.events.map EventItem.structName = m.events.map Event.structName :=
      map_eq_of_forall₂ (fun _ _ h => h.structName) hitems
    refine ⟨f, hf, fun hn => hfile (by simpa [Section.isPresent] using hn),
      f.sumType_isIn config, f.dispatcher_isIn config, ?_,
      EventsFile.routes_of_nodup hitems hnames.eventKinds⟩
    rw [EventsFile.variants_nodup_iff (hstructs ▸ hnames.eventStructs)]
    have hall := congrArg (fun names => ∀ n ∈ names, n ≠ EventsFile.unknownVariant) hstructs
    simpa only [List.forall_mem_map] using hall.to_iff

theorem variants_distinct_accounts :
    ∃ (s : SchemaSet) (files : List Artifact) (m : SchemaModule) (f : EventsFile),
      s.generate {} = .ok files ∧ m ∈ s.modules ∧ EventsFile.ofEvents m.id m.events = .ok f ∧
      f.variants = ["AccountCreated", "UNKNOWN", "Unknown"] ∧ f.variants.Nodup ∧
      f.route "UNKNOWN" = some "apply_unknown" ∧
      f.route "account.Renamed" = some "handle_unknown_event" := by
  let command : Command := ⟨"account.Create", "Create", "authenticated", none, none, []⟩
  let m : SchemaModule :=
    { id := "m", commands := [command], events := [⟨"account.Created", []⟩, ⟨"UNKNOWN", []⟩] }
  let s : SchemaSet := ⟨[m]⟩
  have hcheck : s.check = .ok () := by cbv
  have hevents : EventsFile.ofEvents "m" m.events = .ok ⟨
    [⟨"AccountCreated", "account.Created", "apply_account_created", "allocate_account_created", []⟩,
     ⟨"UNKNOWN", "UNKNOWN", "apply_unknown", "allocate_unknown", []⟩], []⟩ := by cbv
  have hdraft : ∀ m ∈ s.modules, ∀ part ∈ Section.drafting,
      ∃ text, part.content {} m = .ok text := by
    simp only [s, Section.drafting, List.forall_mem_cons, List.not_mem_nil, false_implies,
      implies_true, and_true]
    exact ⟨⟨_, rfl⟩, ⟨_, map_eq_ok.2 ⟨_, hevents, rfl⟩⟩, ⟨_, rfl⟩⟩
  obtain ⟨files, hg⟩ := generate_eq_ok {} hcheck hdraft
  obtain ⟨-, f, hf, -, -, -, hiff, hroutes⟩ := variants_distinct hg (show m ∈ s.modules by simp [s])
  cases hevents.symm.trans hf
  have hv := hiff.2 (by decide +kernel)
  exact ⟨s, files, m, _, hg, by simp [s], hf, by decide, hv,
    (hroutes hv).known ⟨"UNKNOWN", []⟩ (by simp [m]), ((hroutes hv).unknown _).2 (by decide)⟩

/-- An event may be called as the variant for unknown kinds is, and then takes the events of all of
them. -/
theorem variants_clash_unknown :
    ∃ (s : SchemaSet) (files : List Artifact) (m : SchemaModule) (f : EventsFile),
      s.generate {} = .ok files ∧ m ∈ s.modules ∧ EventsFile.ofEvents m.id m.events = .ok f ∧
      f.variants = ["Unknown", "Unknown"] ∧ ¬ f.variants.Nodup ∧
      f.route "account.Renamed" = some "apply_unknown" := by
  let m : SchemaModule := { id := "m", events := [⟨"unknown", []⟩] }
  let s : SchemaSet := ⟨[m]⟩
  have hcheck : s.check = .ok () := by cbv
  have hevents : EventsFile.ofEvents "m" m.events = .ok
    ⟨[⟨"Unknown", "unknown", "apply_unknown", "allocate_unknown", []⟩], []⟩ := by cbv
  have hdraft : ∀ m ∈ s.modules, ∀ part ∈ Section.drafting,
      ∃ text, part.content {} m = .ok text := by
    simp only [s, Section.drafting, List.forall_mem_cons, List.not_mem_nil, false_implies,
      implies_true, and_true]
    exact ⟨⟨_, rfl⟩, ⟨_, map_eq_ok.2 ⟨_, hevents, rfl⟩⟩, ⟨_, rfl⟩⟩
  obtain ⟨files, hg⟩ := generate_eq_ok {} hcheck hdraft
  exact ⟨s, files, m, _, hg, by simp [s], hevents, by decide, by decide, by decide⟩

end SchemaSet

end EventSchema
