import EventSchema.Graph
import EventSchema.Schema.Module

set_option autoImplicit false

namespace EventSchema

namespace CustomRef

def relativeTo (r : CustomRef) (moduleId : String) : CustomRef :=
  ⟨r.foreign? moduleId, r.name⟩

def text (r : CustomRef) : String :=
  match r.module with
  | some module => module ++ "." ++ r.name
  | none => r.name

end CustomRef

namespace Datatype

def references (moduleId : String) (dt : Datatype) : List CustomRef :=
  dt.walk.filterMap fun node => node.customRef?.map (·.relativeTo moduleId)

end Datatype

namespace Declarations

/-- The nodes below the named types that refer to declarations, sorted by name; of equal names the
first one met stays. -/
def flatten (d : Declarations) : List Datatype :=
  let nodes := (d.types.flatMap fun t => t.type.walk).filter Datatype.isCustom
  (Text.sortKeys (nodes.reverse.map fun node => (node.name, node))).map Prod.snd

def references (moduleId : String) (d : Declarations) : List CustomRef :=
  d.datatypes.flatMap (Datatype.references moduleId)

/-- For every other module that clients of this one see: its id and the names used of it. -/
def imports (moduleId : String) (d : Declarations) : List (String × List String) :=
  let foreign := (d.references moduleId).filterMap fun r => r.module.map (·, r.name)
  (Text.sortNames (foreign.map Prod.fst)).map fun module =>
    (module, Text.sortNames ((foreign.filter (·.1 == module)).map Prod.snd))

def usesDatetime (d : Declarations) : Bool :=
  d.datatypes.any fun dt => dt.walk.any (·.name == "datetime")

end Declarations

namespace SchemaModule

def dependencies (m : SchemaModule) : List String :=
  Text.sortNames ((m.datatypes.flatMap (Datatype.references m.id)).filterMap CustomRef.module)

/-- References in a named type of this module; other names lead nowhere. -/
def follow (m : SchemaModule) (r : CustomRef) : List CustomRef :=
  match r.module, m.types.findType? r.name with
  | none, some t => t.type.references m.id
  | _, _ => []

/-- Names that the endpoints mention, directly or through named types of the module. -/
def reachable (m : SchemaModule) : List String :=
  let nodes := m.types.types.map fun t => CustomRef.mk none t.name
  let roots := m.types.endpoints.flatMap fun e => e.consumes.toList ++ e.produces.toList
  let reached := Graph.closure m.follow nodes (roots.flatMap (Datatype.references m.id)) []
  Text.sortNames (reached.map CustomRef.text)

end SchemaModule

end EventSchema
