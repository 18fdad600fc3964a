import EventSchema.Backend.CommandsFile
import EventSchema.Backend.Records
import EventSchema.Schema.Event

set_option autoImplicit false

namespace EventSchema.Backend

structure EventItem where
  structName : String
  kind : String
  applyMethod : String
  allocatorFn : String
  fields : List RecordField
deriving DecidableEq, Repr

structure EventsFile where
  events : List EventItem
  records : List Record
deriving DecidableEq, Repr

namespace EventItem

def declaration (config : Config) (e : EventItem) : List Code :=
  [.line "#[derive(Debug, Clone, PartialEq, Eq, serde::Serialize, serde::Deserialize)]",
   .item ("pub struct " ++ e.structName)
     ([.line "#[serde(skip)]", .line "pub meta: EventMeta,"] ++
       e.fields.flatMap (fieldCode config))]

def constructor (config : Config) (e : EventItem) : Code :=
  let parameters := String.join (e.fields.map fun f =>
    f.ident ++ ": " ++ f.type.render config ++ ", ")
  let idents := String.join (e.fields.map fun f => ", " ++ f.ident)
  .item ("impl " ++ e.structName)
    [.line ("pub const META_TYPE: &'static str = " ++ literal e.kind ++ ";"),
     .empty,
     .item ("pub fn new(" ++ parameters ++ "meta: EventMeta) -> Self")
       [.line ("Self \x7b meta" ++ idents ++ " \x7d")]]

def implementation (e : EventItem) : Code :=
  .item ("impl Event for " ++ e.structName)
    [.item "fn meta(&self) -> &EventMeta" [.line "&self.meta"],
     .empty,
     .item "fn meta_type(&self) -> &str" [.line "Self::META_TYPE"],
     .empty,
     .item "fn serialize_event(&self) -> Result<String, EventError>"
       [.line "self.meta.encode_envelope(self)"]]

def conversion (e : EventItem) : Code :=
  .item ("impl From<" ++ e.structName ++ "> for AnyEvent")
    [.item ("fn from(inner: " ++ e.structName ++ ") -> Self")
      [.line ("Self::" ++ e.structName ++ "(inner)")]]

def paragraphs (config : Config) (e : EventItem) : List (List Code) :=
  [e.declaration config, [e.constructor config], [e.implementation], [e.conversion]]

def allocator (e : EventItem) : List Code :=
  [.item ("fn " ++ e.allocatorFn ++ "(meta: EventMeta, payload: serde_json::Value) -> " ++
      "Result<AnyEvent, serde_json::Error>")
    [.line ("let mut decoded: " ++ e.structName ++ " = serde_json::from_value(payload)?;"),
     .line "decoded.meta = meta;",
     .line ("Ok(AnyEvent::" ++ e.structName ++ "(decoded))")]]

end EventItem

namespace EventsFile

def ownNames : List String := ["AnyEvent", "EventListener", "Allocator"]

def draftFields (home : Home) (e : Event) :
    List EventField → Drafts → Except Fault (List RecordField × Drafts)
  | [], s => .ok ([], s)
  | f :: rest, s =>
    match fieldIdent? f.key with
    | none => .error (.invalidIdentifier f.key .fieldKey)
    | some ident =>
      match Drafts.project home (e.structName ++ Naming.pascal f.key) f.type s with
      | (.error fault, _) => .error (.within (.eventField e.kind f.key) fault)
      | (.ok type, s) => do
        let (fields, s) ← draftFields home e rest s
        .ok (⟨ident, f.key, type⟩ :: fields, s)

def draft (home : Home) : List Event → Drafts → Except Fault (List EventItem × Drafts)
  | [], s => .ok ([], s)
  | e :: rest, s => do
    let (fields, s) ← draftFields home e e.fields s
    let (events, s) ← draft home rest s
    let event : EventItem := {
      structName := e.structName
      kind := e.kind
      applyMethod := e.applyMethod
      allocatorFn := "allocate_" ++ e.methodStem
      fields }
    .ok (event :: events, s)

def ofEvents (moduleId : String) (es : List Event) : Except Fault EventsFile := do
  let taken := es.map Event.structName ++ ownNames
  let (events, s) ← draft ⟨moduleId, .sibling⟩ es ⟨taken, []⟩
  .ok ⟨events, s.records⟩

def delegate (f : EventsFile) (head call : String) : Code :=
  .item head [.item "match self"
    (f.events.map (fun e =>
      .line ("Self::" ++ e.structName ++ "(inner) => inner." ++ call ++ ",")) ++
      [.line ("Self::Unknown(inner) => inner." ++ call ++ ",")])]

def anyEvent (f : EventsFile) : List (List Code) :=
  [[.line "/// Every event of this module, plus kinds this build does not know.",
    .line "#[derive(Debug, Clone, PartialEq)]",
    .item "pub enum AnyEvent"
      (f.events.map (fun e => .line (e.structName ++ "(" ++ e.structName ++ "),")) ++
        [.line "Unknown(UnknownEvent),"])],
   [.item "impl Event for AnyEvent"
     [f.delegate "fn meta(&self) -> &EventMeta" "meta()",
      .empty,
      f.delegate "fn meta_type(&self) -> &str" "meta_type()",
      .empty,
      f.delegate "fn serialize_event(&self) -> Result<String, EventError>" "serialize_event()"]]]

def listener (f : EventsFile) : List Code :=
  [.line "/// Applies events to state, one method per kind.",
   .item "pub trait EventListener"
     ([.line "type Error;", .empty] ++
       f.events.map (fun e =>
         .line ("fn " ++ e.applyMethod ++ "(&mut self, event: &" ++ e.structName ++
           ") -> Result<(), Self::Error>;")) ++
       [.empty,
        .line "/// Called for kinds this build does not know.",
        .line ("fn handle_unknown_event(&mut self, event: &UnknownEvent) -> " ++
          "Result<(), Self::Error>;")])]

def dispatch (f : EventsFile) : List Code :=
  [.item ("pub fn dispatch_event<L: EventListener + ?Sized>(event: &AnyEvent, " ++
      "listener: &mut L) -> Result<(), L::Error>")
    [.item "match event"
      (f.events.map (fun e =>
        .line ("AnyEvent::" ++ e.structName ++ "(inner) => listener." ++ e.applyMethod ++
          "(inner),")) ++
        [.line "AnyEvent::Unknown(inner) => listener.handle_unknown_event(inner),"])]]

def entryPoint : List Code :=
  [.line "/// Decode one envelope line. Unregistered kinds become [\x60AnyEvent::Unknown\x60].",
   .item "pub fn decode(line: &str) -> Result<AnyEvent, EventError>"
     [.line "event::decode::<AnyEvent>(&ALLOCATORS, line, AnyEvent::Unknown)"]]

def render (config : Config) (f : EventsFile) : String :=
  Code.file Artifact.header
    ([[.line ("use eventkit_runtime::event::\x7bself, Event, EventError, EventMeta, " ++
        "UnknownEvent\x7d;")]] ++
      f.events.flatMap (EventItem.paragraphs config) ++
      f.records.map (Record.code config false) ++ f.anyEvent ++ [f.listener, f.dispatch] ++
      [[.line "pub type Allocator = event::Allocator<AnyEvent>;"]] ++
      f.events.map EventItem.allocator ++
      [registryCode "/// Discriminator to decoder, one entry per event kind."
        (f.events.map fun e => (e.kind, e.allocatorFn)), entryPoint])

end EventsFile

end EventSchema.Backend
