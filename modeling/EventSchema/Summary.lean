import EventSchema.Check.Schema

set_option autoImplicit false

namespace EventSchema

structure Summary where
  module : String
  flattenedTypes : List String
  reachableTypes : List String
  enums : List (String × String)
  dependencies : List String
  commands : List String
  events : List String
  endpoints : List String
deriving DecidableEq, Repr

namespace Summary

def ofModule (m : SchemaModule) : Summary where
  module := m.id
  flattenedTypes := m.types.flatten.map Datatype.name
  reachableTypes := m.reachable
  enums := m.types.enums.map fun e => (e.name, e.digest)
  dependencies := m.dependencies
  commands := m.commands.map Command.key
  events := m.events.map Event.kind
  endpoints := m.types.endpoints.map fun e => e.method.text ++ " " ++ e.path ++ " " ++ e.name

def enumJson (e : String × String) : Json :=
  .obj [("name", .str e.1), ("digest", .str e.2)]

def toJson (s : Summary) : Json :=
  .obj [("module", .str s.module), ("flattened_types", .strings s.flattenedTypes),
    ("endpoint_reachable_types", .strings s.reachableTypes),
    ("enums", .arr (s.enums.map enumJson)), ("dependencies", .strings s.dependencies),
    ("commands", .strings s.commands), ("events", .strings s.events),
    ("endpoints", .strings s.endpoints)]

end Summary

namespace SchemaSet

def summaries (s : SchemaSet) : Except ModuleFault (List Summary) := do
  s.check
  .ok (s.modules.map Summary.ofModule)

end SchemaSet

end EventSchema
