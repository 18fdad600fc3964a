import EventSchema.Artifact
import EventSchema.Backend.Code
import EventSchema.Backend.Identifier
import EventSchema.Rule
import EventSchema.Schema.Fault

set_option autoImplicit false

namespace EventSchema.Backend

structure FormField where
  ident : String
  /-- The key on the wire. -/
  key : String
  kind : FieldKind
  /-- Whether absence means the empty value. -/
  hasDefault : Bool
deriving DecidableEq, Repr

structure FieldRule where
  ident : String
  key : String
  rule : Rule
deriving DecidableEq, Repr

structure CommandItem where
  structName : String
  key : String
  title : String
  chain : String
  handlerMethod : String
  allocatorFn : String
  fields : List FormField
  rules : List FieldRule
deriving DecidableEq, Repr

structure CommandsFile where
  commands : List CommandItem
deriving DecidableEq, Repr

def fieldType : FieldKind → String
  | .text | .multiline | .password => "String"
  | .checkbox => "bool"
  | .integer => "i64"

namespace FormField

def ofField (f : CommandField) : Except Fault FormField :=
  match fieldIdent? f.key with
  | none => .error (.invalidIdentifier f.key .fieldKey)
  | some ident => .ok ⟨ident, f.key, f.kind, f.optional || f.kind == .checkbox⟩

def code (f : FormField) : List Code :=
  [.line ("#[serde(rename = " ++ literal f.key ++ (if f.hasDefault then ", default" else "") ++
     ")]"),
   .line ("pub " ++ f.ident ++ ": " ++ fieldType f.kind ++ ",")]

end FormField

namespace FieldRule

def ofField (f : CommandField) : List FieldRule :=
  match fieldIdent? f.key with
  | some ident => f.rules.map (FieldRule.mk ident f.key)
  | none => []

def code (r : FieldRule) : Code :=
  let arguments := literal r.key ++ ", &self." ++ r.ident
  match r.rule with
  | .nonEmpty => .line ("validation::non_empty(" ++ arguments ++ ")?;")
  | .maxLength max =>
    .line ("validation::max_length(" ++ arguments ++ ", " ++
      String.ofList (Nat.toDigits 10 max) ++ ")?;")
  | .pattern text skipEmpty =>
    let check := Code.line
      ("validation::matches_pattern(" ++ arguments ++ ", " ++ literal text ++ ")?;")
    if skipEmpty then .item ("if !self." ++ r.ident ++ ".is_empty()") [check] else check

end FieldRule

namespace CommandItem

def ofCommand (c : Command) : Except Fault CommandItem := do
  let fields ← c.fields.mapM FormField.ofField
  .ok {
    structName := c.structName
    key := c.key
    title := Code.oneLine c.title
    chain := c.chain
    handlerMethod := c.handlerMethod
    allocatorFn := "allocate_" ++ c.handlerMethod
    fields
    rules := c.fields.flatMap FieldRule.ofField }

def handler (c : CommandItem) : List Code :=
  [.line ("/// " ++ c.title),
   .line ("fn " ++ c.handlerMethod ++ "(&self, command: &" ++ c.structName ++
     ", ctx: &mut Ctx) -> Result<(), CommandError>;")]

def declaration (c : CommandItem) : List Code :=
  [.line ("#[derive(Debug, Clone, Default, PartialEq, Eq, serde::Serialize, " ++
     "serde::Deserialize)]"),
   .line "#[serde(deny_unknown_fields)]",
   .item ("pub struct " ++ c.structName) (c.fields.flatMap FormField.code)]

def validation (c : CommandItem) : List Code :=
  c.rules.map FieldRule.code ++ [.line "Ok(())"]

def implementation (c : CommandItem) : Code :=
  .item ("impl Command for " ++ c.structName)
    [.line "type Handlers = dyn CommandHandlers;",
     .empty,
     .item "fn key(&self) -> &'static str" [.line (literal c.key)],
     .empty,
     .item "fn middleware_chain(&self) -> &'static str" [.line (literal c.chain)],
     .empty,
     .item "fn validate(&self) -> Result<(), validation::ValidationError>" c.validation,
     .empty,
     .item "fn invoke(&self, ctx: &mut Ctx, handlers: &Self::Handlers) -> Result<(), CommandError>"
       [.line ("handlers." ++ c.handlerMethod ++ "(self, ctx)")]]

def conversion (c : CommandItem) : Code :=
  .item ("impl From<" ++ c.structName ++ "> for AnyCommand")
    [.item ("fn from(inner: " ++ c.structName ++ ") -> Self")
      [.line ("Self::" ++ c.structName ++ "(inner)")]]

def paragraphs (c : CommandItem) : List (List Code) :=
  [c.declaration, [c.implementation], [c.conversion]]

def allocator (c : CommandItem) : List Code :=
  [.item ("fn " ++ c.allocatorFn ++
      "(body: serde_json::Value) -> Result<AnyCommand, serde_json::Error>")
    [.line ("serde_json::from_value::<" ++ c.structName ++ ">(body).map(AnyCommand::" ++
      c.structName ++ ")")]]

end CommandItem

def registryCode (title : String) (entries : List (String × String)) : List Code :=
  [.line title,
   .hanging
     ("pub static ALLOCATORS: std::sync::LazyLock<eventkit_runtime::registry::" ++
       "AllocatorMap<Allocator>> =")
     [.nested "std::sync::LazyLock::new(|| \x7b"
       [.nested "eventkit_runtime::registry::AllocatorMap::new(["
         (entries.map fun e => .line ("(" ++ literal e.1 ++ ", " ++ e.2 ++ " as Allocator),"))
         "])"]
       "\x7d);"]]

namespace CommandsFile

def ofCommands (cs : List Command) : Except Fault CommandsFile := do
  let commands ← cs.mapM fun c => (Place.command c.key).locate (CommandItem.ofCommand c)
  .ok ⟨commands⟩

def delegate (f : CommandsFile) (head call : String) : Code :=
  .item head [.item "match self" (f.commands.map fun c =>
    .line ("Self::" ++ c.structName ++ "(inner) => inner." ++ call ++ ","))]

def anyCommand (f : CommandsFile) : List (List Code) :=
  [[.line "/// Every command of this module.",
    .line "#[derive(Debug, Clone, PartialEq, Eq)]",
    .item "pub enum AnyCommand" (f.commands.map fun c =>
      .line (c.structName ++ "(" ++ c.structName ++ "),"))],
   [.item "impl Command for AnyCommand"
     [.line "type Handlers = dyn CommandHandlers;",
      .empty,
      f.delegate "fn key(&self) -> &'static str" "key()",
      .empty,
      f.delegate "fn middleware_chain(&self) -> &'static str" "middleware_chain()",
      .empty,
      f.delegate "fn validate(&self) -> Result<(), validation::ValidationError>" "validate()",
      .empty,
      f.delegate
        "fn invoke(&self, ctx: &mut Ctx, handlers: &Self::Handlers) -> Result<(), CommandError>"
        "invoke(ctx, handlers)"]]]

def entryPoints : List (List Code) :=
  [[.item "pub fn decode(key: &str, body: serde_json::Value) -> Result<AnyCommand, CommandError>"
     [.line "command::decode::<AnyCommand>(&ALLOCATORS, key, body)"]],
   [.line "/// Decode, validate and invoke the command named \x60key\x60.",
    .hanging "pub fn dispatch("
      [.line "key: &str,",
       .line "body: serde_json::Value,",
       .line "ctx: &mut Ctx,",
       .line "handlers: &(dyn CommandHandlers + 'static),"],
    .item ") -> Result<(), CommandError>"
      [.line "command::dispatch::<AnyCommand>(&ALLOCATORS, key, body, ctx, handlers)"]]]

def render (f : CommandsFile) : String :=
  Code.file Artifact.header
    ([[.line "use eventkit_runtime::command::\x7bself, Command, CommandError, Ctx\x7d;",
       .line "use eventkit_runtime::validation;"],
      [.line "/// One method per command of this module.",
       .item "pub trait CommandHandlers" (f.commands.flatMap CommandItem.handler)]] ++
      f.commands.flatMap CommandItem.paragraphs ++ f.anyCommand ++
      [[.line "pub type Allocator = command::Allocator<AnyCommand>;"]] ++
      f.commands.map CommandItem.allocator ++
      [registryCode "/// Discriminator to decoder, one entry per command."
        (f.commands.map fun c => (c.key, c.allocatorFn))] ++
      entryPoints)

end CommandsFile

end EventSchema.Backend
