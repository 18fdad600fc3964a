import EventSchema.Graph
import EventSchema.Schema.Module

/-!
Containment of named types by value. A type holds another when a field refers to it, also inside
inline objects but not inside a list; a type that holds itself this way would have no size.
-/

set_option autoImplicit false

namespace EventSchema

namespace SchemaSet

def findType? (s : SchemaSet) (r : TypeRef) : Option NamedType :=
  (s.find? r.module).bind (·.types.findType? r.name)

end SchemaSet

namespace Datatype

mutual

/-- References of a datatype that are held by value, as seen from a module. -/
def byValue (moduleId : String) : Datatype → List TypeRef
  | .node name of fields _ =>
    match Datatype.formOf name of.isSome fields.isSome with
    | .ok (.custom r) => [⟨r.module.getD moduleId, r.name⟩]
    | .ok .object => byValueObject moduleId fields
    | _ => []

def byValueObject (moduleId : String) : Option (List (String × Datatype)) → List TypeRef
  | some fields => byValueFields moduleId fields
  | none => []

def byValueFields (moduleId : String) : List (String × Datatype) → List TypeRef
  | [] => []
  | (_, dt) :: rest => byValue moduleId dt ++ byValueFields moduleId rest

end

end Datatype

namespace SchemaSet

def holds (s : SchemaSet) (r : TypeRef) : List TypeRef :=
  match s.findType? r with
  | some t => (t.type.byValue r.module).filter fun r => (s.findType? r).isSome
  | none => []

def typeRefs (s : SchemaSet) : List TypeRef :=
  s.modules.flatMap fun m => m.types.types.map fun t => ⟨m.id, t.name⟩

def containmentCycle? (s : SchemaSet) : Option (List TypeRef) :=
  Graph.cycle? s.holds s.typeRefs

end SchemaSet

end EventSchema
