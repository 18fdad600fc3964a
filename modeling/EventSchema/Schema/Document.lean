import EventSchema.Json.Reader
import EventSchema.Json.Writer
import EventSchema.Schema.Module

set_option autoImplicit false

namespace EventSchema

open Json (record? required? optional? defaulted? list? variant? text? flag? natural?)

namespace Constant

def ofJson? (value : Json) : Option Constant := do
  match ← record? true ["key", "value"] value with
  | [key, content] => some ⟨← required? text? key, ← required? text? content⟩
  | _ => none

def toJson (c : Constant) : Json := .obj [("key", .str c.key), ("value", .str c.value)]

end Constant

namespace Enumeration

def ofJson? (value : Json) : Option Enumeration := do
  match ← record? true ["name", "stringMembers"] value with
  | [name, members] => some ⟨← required? text? name, ← required? (list? text?) members⟩
  | _ => none

def toJson (e : Enumeration) : Json :=
  .obj [("name", .str e.name), ("stringMembers", .strings e.values)]

end Enumeration

namespace NamedType

def ofJson? (value : Json) : Option NamedType := do
  match ← record? true ["name", "type"] value with
  | [name, type] => some ⟨← required? text? name, ← required? Datatype.ofJson? type⟩
  | _ => none

def toJson (t : NamedType) : Json := .obj [("name", .str t.name), ("type", t.type.toJson)]

end NamedType

def Method.all : List Method := [.get, .post, .put, .patch, .delete]

def Method.ofJson? : Json → Option Method :=
  variant? (Method.all.map fun m => (m.text, m))

def presentMember {α : Type} (name : String) (encode : α → Json) : Option α → List (String × Json)
  | some a => [(name, encode a)]
  | none => []

namespace Endpoint

def ofJson? (value : Json) : Option Endpoint := do
  let names := ["method", "path", "name", "chain", "description", "consumes", "produces"]
  match ← record? true names value with
  | [method, path, name, chain, description, consumes, produces] =>
    some {
      method := ← required? Method.ofJson? method
      path := ← required? text? path
      name := ← required? text? name
      chain := ← required? text? chain
      description := ← optional? text? description
      consumes := ← optional? Datatype.ofJson? consumes
      produces := ← optional? Datatype.ofJson? produces }
  | _ => none

def toJson (e : Endpoint) : Json :=
  .obj ([("method", .str e.method.text), ("path", .str e.path), ("name", .str e.name),
    ("chain", .str e.chain)] ++ presentMember "description" .str e.description ++
    presentMember "consumes" Datatype.toJson e.consumes ++
    presentMember "produces" Datatype.toJson e.produces)

end Endpoint

namespace Declarations

def ofJson? (value : Json) : Option Declarations := do
  match ← record? true ["stringConsts", "enums", "types", "endpoints"] value with
  | [constants, enums, types, endpoints] =>
    some {
      constants := ← defaulted? (list? Constant.ofJson?) [] constants
      enums := ← defaulted? (list? Enumeration.ofJson?) [] enums
      types := ← defaulted? (list? NamedType.ofJson?) [] types
      endpoints := ← defaulted? (list? Endpoint.ofJson?) [] endpoints }
  | _ => none

def toJson (d : Declarations) : Json :=
  .obj [("stringConsts", .arr (d.constants.map Constant.toJson)),
    ("enums", .arr (d.enums.map Enumeration.toJson)),
    ("types", .arr (d.types.map NamedType.toJson)),
    ("endpoints", .arr (d.endpoints.map Endpoint.toJson))]

end Declarations

def CrudNature.ofJson? : Json → Option CrudNature :=
  variant? (CrudNature.all.map fun n => (n.text, n))

def FieldKind.ofJson? : Json → Option FieldKind :=
  variant? (FieldKind.all.map fun k => (k.label, k))

namespace CommandField

def ofJson? (value : Json) : Option CommandField := do
  let names := ["key", "title", "type", "optional", "maxLength", "validationRegex", "placeholder",
    "help", "hideIfDefaultValue"]
  match ← record? true names value with
  | [key, title, kind, optional, maxLength, pattern, placeholder, help, hide] =>
    some {
      key := ← required? text? key
      title := ← optional? text? title
      kind := ← required? FieldKind.ofJson? kind
      optional := ← defaulted? flag? false optional
      maxLength := ← optional? natural? maxLength
      pattern := ← optional? text? pattern
      placeholder := ← optional? text? placeholder
      help := ← optional? text? help
      hideIfDefault := ← defaulted? flag? false hide }
  | _ => none

def toJson (f : CommandField) : Json :=
  .obj [("key", .str f.key), ("title", .ofOption .str f.title), ("type", .str f.kind.label),
    ("optional", .bool f.optional), ("maxLength", .ofOption .ofNat f.maxLength),
    ("validationRegex", .ofOption .str f.pattern), ("placeholder", .ofOption .str f.placeholder),
    ("help", .ofOption .str f.help), ("hideIfDefaultValue", .bool f.hideIfDefault)]

end CommandField

namespace Command

def ofJson? (value : Json) : Option Command := do
  let names := ["command", "title", "chain", "crudNature", "additionalConfirmation", "fields"]
  match ← record? true names value with
  | [key, title, chain, crudNature, confirmation, fields] =>
    some {
      key := ← required? text? key
      title := ← required? text? title
      chain := ← required? text? chain
      crudNature := ← optional? CrudNature.ofJson? crudNature
      confirmation := ← optional? text? confirmation
      fields := ← defaulted? (list? CommandField.ofJson?) [] fields }
  | _ => none

def toJson (c : Command) : Json :=
  .obj [("command", .str c.key), ("title", .str c.title), ("chain", .str c.chain),
    ("crudNature", .ofOption (fun n => .str n.text) c.crudNature),
    ("additionalConfirmation", .ofOption .str c.confirmation),
    ("fields", .arr (c.fields.map CommandField.toJson))]

end Command

namespace EventField

def ofJson? (value : Json) : Option EventField := do
  match ← record? true ["key", "type"] value with
  | [key, type] => some ⟨← required? text? key, ← required? Datatype.ofJson? type⟩
  | _ => none

def toJson (f : EventField) : Json := .obj [("key", .str f.key), ("type", f.type.toJson)]

end EventField

namespace Event

def ofJson? (value : Json) : Option Event := do
  match ← record? true ["event", "fields"] value with
  | [kind, fields] =>
    some ⟨← required? text? kind, ← defaulted? (list? EventField.ofJson?) [] fields⟩
  | _ => none

def toJson (e : Event) : Json :=
  .obj [("event", .str e.kind), ("fields", .arr (e.fields.map EventField.toJson))]

end Event

namespace Document

def commandsOfJson? : Json → Option (List Command) := list? Command.ofJson?

def eventsOfJson? : Json → Option (List Event) := list? Event.ofJson?

def commandsToJson (commands : List Command) : Json := .arr (commands.map Command.toJson)

def eventsToJson (events : List Event) : Json := .arr (events.map Event.toJson)

def declarations? (text : String) : Option Declarations :=
  (Json.ofText? text).bind Declarations.ofJson?

def commands? (text : String) : Option (List Command) :=
  (Json.ofText? text).bind commandsOfJson?

def events? (text : String) : Option (List Event) :=
  (Json.ofText? text).bind eventsOfJson?

def datatype? (text : String) : Option Datatype :=
  (Json.ofText? text).bind Datatype.ofJson?

end Document

end EventSchema
