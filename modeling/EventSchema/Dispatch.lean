import EventSchema.Backend.CommandsFile
import EventSchema.Json.Decode
import EventSchema.Log.Envelope
import EventSchema.Registry

/-!
Running commands. A body is decoded by the key of its command, checked by the rules of its fields,
and only then handed to the command's handler.
-/

set_option autoImplicit false

namespace EventSchema

inductive FieldValue where
  | text (s : String)
  | flag (b : Bool)
  | integer (n : Int)
deriving DecidableEq, Repr

namespace FieldValue

/-- What absence means. -/
def empty : FieldKind → FieldValue
  | .text | .multiline | .password => .text ""
  | .checkbox => .flag false
  | .integer => .integer 0

def ofJson? : FieldKind → Json → Option FieldValue
  | .text, value | .multiline, value | .password, value => (Json.text? value).map .text
  | .checkbox, value => (Json.flag? value).map .flag
  | .integer, value => (Json.integer? value).map .integer

def toJson : FieldValue → Json
  | .text s => .str s
  | .flag b => .bool b
  | .integer n => .ofInt n

def asText : FieldValue → String
  | .text s => s
  | _ => ""

end FieldValue

structure CommandRecord where
  command : Backend.CommandItem
  values : List (String × FieldValue)
deriving DecidableEq, Repr

namespace CommandRecord

def fieldValue? (f : Backend.FormField) (part : Option Json) : Option (String × FieldValue) :=
  let value? := if f.hasDefault then
      Json.defaulted? (FieldValue.ofJson? f.kind) (.empty f.kind) part
    else Json.required? (FieldValue.ofJson? f.kind) part
  value?.map (f.key, ·)

def ofJson? (c : Backend.CommandItem) (body : Json) : Option CommandRecord := do
  let parts ← Json.record? true (c.fields.map Backend.FormField.key) body
  let values ← (c.fields.zip parts).mapM fun (f, part) => fieldValue? f part
  some ⟨c, values⟩

def toJson (r : CommandRecord) : Json :=
  .obj (r.values.map fun (key, value) => (key, value.toJson))

def textOf (r : CommandRecord) (key : String) : String :=
  ((r.values.lookup key).map FieldValue.asText).getD ""

/-- The first rule that fails decides. -/
def validate (r : CommandRecord) : Except RuleFault Unit :=
  r.command.rules.forM fun rule => rule.rule.check rule.key (r.textOf rule.key)

end CommandRecord

inductive CommandFault where
  | rule (fault : RuleFault)
  | unsupported (key : String)
  | decode
  | handler (message : String)
deriving DecidableEq, Repr

/-- What a handler sees and adds to: the events that it raises, in order. -/
structure CommandContext (ε : Type) where
  info : EventMeta
  remoteAddress : Option String := none
  raised : List ε := []

namespace CommandContext

def raise {ε : Type} (c : CommandContext ε) (event : ε) : CommandContext ε :=
  { c with raised := c.raised ++ [event] }

end CommandContext

/-- What a step gives: an outcome, the context and the state of the handlers. -/
structure Step (σ ε : Type) where
  outcome : Except CommandFault Unit
  context : CommandContext ε
  state : σ

abbrev CommandHandlers (σ ε : Type) :=
  String → CommandRecord → CommandContext ε → σ → Step σ ε

namespace CommandRecord

variable {σ ε : Type}

/-- A command that breaks a rule never reaches its handler. -/
def execute (r : CommandRecord) (handlers : CommandHandlers σ ε) (c : CommandContext ε) (s : σ) :
    Step σ ε :=
  match r.validate with
  | .error fault => ⟨.error (.rule fault), c, s⟩
  | .ok _ => handlers r.command.handlerMethod r c s

end CommandRecord

abbrev CommandRegistry := Registry Backend.CommandItem

namespace CommandRegistry

variable {σ ε : Type}

def ofFile (f : Backend.CommandsFile) : CommandRegistry :=
  Registry.ofList (f.commands.map fun c => (c.key, c))

def decode (commands : CommandRegistry) (key : String) (body : Json) :
    Except CommandFault CommandRecord :=
  match commands.get? key with
  | none => .error (.unsupported key)
  | some c =>
    match CommandRecord.ofJson? c body with
    | none => .error .decode
    | some r => .ok r

def dispatch (commands : CommandRegistry) (handlers : CommandHandlers σ ε) (key : String)
    (body : Json) (c : CommandContext ε) (s : σ) : Step σ ε :=
  match decode commands key body with
  | .error fault => ⟨.error fault, c, s⟩
  | .ok r => r.execute handlers c s

end CommandRegistry

end EventSchema
