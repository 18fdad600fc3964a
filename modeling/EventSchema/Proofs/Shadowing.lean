import EventSchema.Proofs.NameRules

/-!
Records that are named as a type or a trait which their file names without a path. Such a record
takes the place of what was meant. The checks keep the records of commands and events away from all
names that the files import or declare themselves, but not from those of the Rust prelude; and the
records of inline objects can be in the way only behind an event without a name, or as the event
`Unknown` with an object `Event`. Records of endpoints are never in the way.
-/

set_option autoImplicit false

namespace EventSchema

open Outcome

namespace Backend

open Naming

/-- Names of the Rust prelude that the files use without a path. -/
def preludeNames : List String :=
  ["Self", "String", "Vec", "Option", "Result", "From", "Sized", "Send", "Sync"]

namespace CommandsFile

/-- Types and traits that the file imports, or declares besides the commands. -/
def templateNames : List String :=
  ["Command", "CommandError", "Ctx", "CommandHandlers", "AnyCommand", "Allocator"]

def structNames (f : CommandsFile) : List String :=
  f.commands.map CommandItem.structName

section Records

variable {cs : List Command} {f : CommandsFile} (h : ofCommands cs = .ok f)
include h

theorem structNames_eq : f.structNames = cs.map Command.structName :=
  map_eq_of_forall₂ (fun _ _ hi => hi.structName) (items_of_commands h)

theorem disjoint_templateNames (hr : ∀ c ∈ cs, c.structName ∉ Check.reservedCommandNames) :
    f.structNames.Disjoint templateNames := by
  have hreserved : ∀ name ∈ templateNames, name ∈ Check.reservedCommandNames := by decide
  rw [structNames_eq h]
  exact List.forall_mem_map.2 fun c hc hm => hr c hc (hreserved _ hm)

theorem disjoint_preludeNames_iff :
    f.structNames.Disjoint preludeNames ↔ ∀ c ∈ cs, c.structName ∉ preludeNames := by
  rw [structNames_eq h]
  exact List.forall_mem_map

end Records

end CommandsFile

namespace EventsFile

def templateNames : List String :=
  ["Event", "EventError", "EventMeta", "UnknownEvent", "AnyEvent", "EventListener", "Allocator"]

/-- Types and traits that the file names without a path, but for its records. -/
def usedNames : List String := templateNames ++ preludeNames

def structNames (f : EventsFile) : List String :=
  f.events.map EventItem.structName ++ f.records.map Record.name

theorem owner_of_used {owner tail : String} (ht : IsTail tail)
    (hr : owner ∉ Check.reservedEventNames) (ho : owner ++ tail ∉ ownNames)
    (hu : owner ++ tail ∈ usedNames) :
    owner = "" ∨ owner = "Unknown" ∧ owner ++ tail = "UnknownEvent" := by
  have hall : ∀ name ∈ usedNames, name ∈ ownNames ∨ ∀ front ∈ fronts name,
      front = "" ∨ front ∈ Check.reservedEventNames ∨
        front = "Unknown" ∧ name = "UnknownEvent" := by decide
  rcases (hall _ hu).resolve_left ho owner (ht.mem_fronts owner) with he | he | he
  · exact .inl he
  · exact absurd he hr
  · exact .inr he

/-- What keeps the records of an event away from the names that its file uses. -/
structure IsClear (e : Event) : Prop where
  struct : e.structName ∉ preludeNames
  nameless : e.structName = "" → ∀ name ∈ e.recordNames, name ∉ usedNames
  unknown : e.structName = "Unknown" → "UnknownEvent" ∉ e.recordNames

instance (e : Event) : Decidable (IsClear e) :=
  decidable_of_iff (e.structName ∉ preludeNames ∧
      (e.structName = "" → ∀ name ∈ e.recordNames, name ∉ usedNames) ∧
      (e.structName = "Unknown" → "UnknownEvent" ∉ e.recordNames))
    ⟨fun ⟨hs, hn, hu⟩ => ⟨hs, hn, hu⟩, fun h => ⟨h.struct, h.nameless, h.unknown⟩⟩

theorem eventNames_eq {moduleId : String} {es : List Event} {f : EventsFile}
    (h : ofEvents moduleId es = .ok f) :
    f.events.map EventItem.structName = es.map Event.structName :=
  map_eq_of_forall₂ (fun _ _ hi => hi.structName) (items_of_events h)

section Records

variable {set : SchemaSet} {m : SchemaModule} (hr : ∀ e ∈ m.events,
  e.structName ∉ Check.reservedEventNames) {f : EventsFile} (h : ofEvents m.id m.events = .ok f)
include hr h

theorem disjoint_templateNames :
    (f.events.map EventItem.structName).Disjoint templateNames := by
  have hreserved : ∀ name ∈ templateNames, name ∈ Check.reservedEventNames := by decide
  rw [eventNames_eq h]
  exact List.forall_mem_map.2 fun e he hm => hr e he (hreserved _ hm)

theorem disjoint_iff (hc : m.Checked set) :
    f.structNames.Disjoint usedNames ↔ ∀ e ∈ m.events, IsClear e := by
  have htemplate := disjoint_templateNames hr h
  have hrecords := records_of_events h
  rw [eventNames_eq h] at htemplate
  rw [structNames, eventNames_eq h, hrecords.named]
  constructor
  · intro hd e he
    have hrecord : ∀ name ∈ e.recordNames, name ∉ usedNames := fun name hn =>
      hd (List.mem_append_right _ (List.mem_flatMap.2 ⟨e, he, hn⟩))
    refine ⟨fun hp => ?_, fun _ => hrecord, fun _ hn => hrecord _ hn (by decide)⟩
    exact hd (List.mem_append_left _ (List.mem_map_of_mem he)) (List.mem_append_right _ hp)
  · intro hclear name hn hu
    rcases List.mem_append.1 hn with hn | hn
    · rcases List.mem_append.1 hu with ht | hp
      · exact htemplate hn ht
      · obtain ⟨e, he, rfl⟩ := List.mem_map.1 hn
        exact (hclear e he).struct hp
    · -- the record of an object: its event stands in front of one of the capitals of the name
      have hfresh := hrecords.fresh name hn
      obtain ⟨e, he, hn⟩ := List.mem_flatMap.1 hn
      obtain ⟨tail, rfl, ht⟩ := hc.tail_of_mem_event he hn
      have hown : e.structName ++ tail ∉ ownNames := fun hm =>
        hfresh (List.mem_append_right _ hm)
      rcases owner_of_used ht (hr e he) hown hu with ho | ⟨ho, hname⟩
      · exact (hclear e he).nameless ho _ hn hu
      · exact (hclear e he).unknown ho (hname ▸ hn)

end Records

end EventsFile

namespace RestFile

def templateNames : List String :=
  ["Handlers", "Future", "Arc", "Router", "Request", "Response", "MethodFilter",
   "MiddlewareChainMap", "RequestContext", "RouteError"]

def usedNames : List String := templateNames ++ preludeNames

def structNames (f : RestFile) : List String :=
  f.records.map Record.name

theorem disjoint {set : SchemaSet} {m : SchemaModule} (hc : m.Checked set) {f : RestFile}
    (h : ofEndpoints m.id m.types.endpoints = .ok f) : f.structNames.Disjoint usedNames := by
  have hrecords := records_of_endpoints h
  rw [structNames, hrecords.named]
  intro name hn hu
  rcases List.mem_append.1 hu with ho | hp
  · exact hrecords.fresh name hn ho
  · obtain ⟨e, he, hn⟩ := List.mem_flatMap.1 hn
    obtain ⟨word, hw, tail, rfl, -⟩ := hc.tail_of_mem_endpoint he hn
    -- no name of the prelude has one of the words inside
    have hall : ∀ word ∈ ["Input", "Output"], ∀ name ∈ preludeNames,
        ¬ word.toList <:+: name.toList := by decide
    refine hall word hw _ hp ⟨(pascal e.name).toList, tail.toList, ?_⟩
    rw [String.toList_append, String.toList_append]

end RestFile

end Backend

namespace SchemaSet

open Backend

/-- The records of endpoints are clear of all names that their file uses without a path. Those of
commands and events are clear of the names that their file imports or declares. They are clear of
those of the prelude, and the inline objects of events of all names, if and only if no command is
named as a type of the prelude and every event is clear. -/
theorem struct_names_clear {config : Config} {s : SchemaSet} {files : List Artifact}
    (hg : s.generate config = .ok files) {m : SchemaModule} (hm : m ∈ s.modules) :
    (∃ f, CommandsFile.ofCommands m.commands = .ok f ∧
      (m.commands ≠ [] → ⟨.backend, Section.path m.id .commands, f.render⟩ ∈ files) ∧
      f.structNames.Disjoint CommandsFile.templateNames ∧
      (f.structNames.Disjoint preludeNames ↔ ∀ c ∈ m.commands, c.structName ∉ preludeNames)) ∧
    (∃ f, EventsFile.ofEvents m.id m.events = .ok f ∧
      (m.events ≠ [] → ⟨.backend, Section.path m.id .events, f.render config⟩ ∈ files) ∧
      (f.events.map EventItem.structName).Disjoint EventsFile.templateNames ∧
      (f.structNames.Disjoint EventsFile.usedNames ↔
        ∀ e ∈ m.events, EventsFile.IsClear e)) ∧
    ∃ f, RestFile.ofEndpoints m.id m.types.endpoints = .ok f ∧
      (m.types.endpoints ≠ [] →
        ⟨.backend, Section.path m.id .rest, f.render config⟩ ∈ files) ∧
      f.structNames.Disjoint RestFile.usedNames := by
  have hc := checked_of_generate hg hm
  have hn := namesAllowed_of_generate hg hm
  obtain ⟨c, hcommands, hcFile⟩ := commands_of_generate hg hm
  obtain ⟨e, he, heFile⟩ := events_of_generate hg hm
  obtain ⟨r, hr, hrFile⟩ := rest_of_generate hg hm
  exact ⟨⟨c, hcommands, hcFile, CommandsFile.disjoint_templateNames hcommands hn.commands,
      CommandsFile.disjoint_preludeNames_iff hcommands⟩,
    ⟨e, he, heFile, EventsFile.disjoint_templateNames hn.events he,
      EventsFile.disjoint_iff hn.events he hc⟩,
    ⟨r, hr, hrFile, RestFile.disjoint hc hr⟩⟩

theorem struct_names_clear_objects :
    ∃ (s : SchemaSet) (files : List Artifact) (m : SchemaModule) (c : CommandsFile)
      (e : EventsFile) (r : RestFile),
      s.generate {} = .ok files ∧ m ∈ s.modules ∧
      CommandsFile.ofCommands m.commands = .ok c ∧ EventsFile.ofEvents m.id m.events = .ok e ∧
      RestFile.ofEndpoints m.id m.types.endpoints = .ok r ∧
      c.structNames = ["SetString"] ∧ c.structNames.Disjoint preludeNames ∧
      e.structNames = ["Unknown", "UnknownData"] ∧
      e.structNames.Disjoint EventsFile.usedNames ∧
      r.structNames = ["SendInput"] ∧ r.structNames.Disjoint RestFile.usedNames := by
  let object : Datatype := .node "object" none (some []) false
  let m : SchemaModule := {
    id := "m"
    types := { endpoints := [⟨.post, "/", "send", "public", none, some object, none⟩] }
    commands := [⟨"set_string", "Set", "c", none, none, []⟩]
    events := [⟨"unknown", [⟨"data", object⟩]⟩] }
  have hcheck : check ⟨[m]⟩ = .ok () := by cbv
  have htypes : TypesFile.ofModule m = .ok ⟨[], [], []⟩ := eq_ok_of_toOption (by decide +kernel)
  have hcommands : (CommandsFile.ofCommands m.commands).map CommandsFile.structNames =
      .ok ["SetString"] := eq_ok_of_toOption (by decide +kernel)
  have hevents : (EventsFile.ofEvents m.id m.events).map EventsFile.structNames =
      .ok ["Unknown", "UnknownData"] := eq_ok_of_toOption (by decide +kernel)
  have hrest : (RestFile.ofEndpoints m.id m.types.endpoints).map RestFile.structNames =
      .ok ["SendInput"] := eq_ok_of_toOption (by decide +kernel)
  obtain ⟨c, hcommands, hcNames⟩ := map_eq_ok.1 hcommands
  obtain ⟨e, hevents, heNames⟩ := map_eq_ok.1 hevents
  obtain ⟨r, hrest, hrNames⟩ := map_eq_ok.1 hrest
  obtain ⟨files, hg⟩ := generate_single {} hcheck htypes hevents hrest
  obtain ⟨⟨c', hc', -, -, hcClear⟩, ⟨e', he', -, -, heClear⟩, ⟨r', hr', -, hrClear⟩⟩ :=
    struct_names_clear hg (List.mem_singleton_self m)
  cases hcommands.symm.trans hc'
  cases hevents.symm.trans he'
  cases hrest.symm.trans hr'
  exact ⟨⟨[m]⟩, files, m, c, e, r, hg, List.mem_singleton_self m, hcommands, hevents, hrest,
    hcNames, hcClear.2 (by decide +kernel), heNames, heClear.2 (by decide +kernel), hrNames,
    hrClear⟩

/-- A command `string`, an event `result`, and an event `unknown` with an object `Event` pass all
checks; their records are called as the types that the same files use. -/
theorem struct_names_shadow_prelude :
    ∃ (s : SchemaSet) (files : List Artifact) (m : SchemaModule) (c : CommandsFile)
      (e : EventsFile),
      s.generate {} = .ok files ∧ m ∈ s.modules ∧
      CommandsFile.ofCommands m.commands = .ok c ∧ EventsFile.ofEvents m.id m.events = .ok e ∧
      c.structNames = ["String"] ∧ ¬ c.structNames.Disjoint preludeNames ∧
      e.structNames = ["Result", "Unknown", "UnknownEvent"] ∧
      ¬ e.structNames.Disjoint preludeNames ∧
      ¬ e.structNames.Disjoint EventsFile.templateNames := by
  let m : SchemaModule := {
    id := "m"
    commands := [⟨"string", "a", "c", none, none, []⟩]
    events := [⟨"result", []⟩, ⟨"unknown", [⟨"Event", .node "object" none (some []) false⟩]⟩] }
  have hcheck : check ⟨[m]⟩ = .ok () := by cbv
  have htypes : TypesFile.ofModule m = .ok ⟨[], [], []⟩ := eq_ok_of_toOption (by decide +kernel)
  have hrest : RestFile.ofEndpoints m.id m.types.endpoints = .ok ⟨[], [], []⟩ :=
    eq_ok_of_toOption (by decide +kernel)
  have hcommands : (CommandsFile.ofCommands m.commands).map CommandsFile.structNames =
      .ok ["String"] := eq_ok_of_toOption (by decide +kernel)
  have hevents : (EventsFile.ofEvents m.id m.events).map EventsFile.structNames =
      .ok ["Result", "Unknown", "UnknownEvent"] := eq_ok_of_toOption (by decide +kernel)
  obtain ⟨c, hcommands, hcNames⟩ := map_eq_ok.1 hcommands
  obtain ⟨e, hevents, heNames⟩ := map_eq_ok.1 hevents
  obtain ⟨files, hg⟩ := generate_single {} hcheck htypes hevents hrest
  refine ⟨⟨[m]⟩, files, m, c, e, hg, List.mem_singleton_self m, hcommands, hevents, hcNames, ?_,
    heNames, ?_, ?_⟩
  · rw [hcNames]
    exact fun hd => hd (show "String" ∈ _ by decide) (by decide)
  · rw [heNames]
    exact fun hd => hd (show "Result" ∈ _ by decide) (by decide)
  · rw [heNames]
    exact fun hd => hd (show "UnknownEvent" ∈ _ by decide) (by decide)

end SchemaSet

end EventSchema
