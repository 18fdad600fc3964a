import EventSchema.Check.Names
import EventSchema.Schema.Module

set_option autoImplicit false

namespace EventSchema

namespace SchemaSet

def resolves (s : SchemaSet) (m : SchemaModule) (r : CustomRef) : Bool :=
  match r.foreign? m.id with
  | some id => (s.find? id).any (·.types.declares r.name)
  | none => m.types.declares r.name

end SchemaSet

namespace Check

mutual

def datatype (s : SchemaSet) (m : SchemaModule) : Datatype → Except Fault Unit
  | .node name of fields _ =>
    match Datatype.formOf name of.isSome fields.isSome with
    | .error flaw => .error (.malformedDatatype name flaw)
    | .ok (.primitive _) => .ok ()
    | .ok (.custom r) => ensure (s.resolves m r) (.unknownType name)
    | .ok .list => item s m of
    | .ok .object => object s m fields

def item (s : SchemaSet) (m : SchemaModule) : Option Datatype → Except Fault Unit
  | some dt => datatype s m dt
  | none => .ok ()

def object (s : SchemaSet) (m : SchemaModule) :
    Option (List (String × Datatype)) → Except Fault Unit
  | some fields => do
    uniqueIdents (fields.map Prod.fst)
    eachField s m fields
  | none => .ok ()

def eachField (s : SchemaSet) (m : SchemaModule) : List (String × Datatype) → Except Fault Unit
  | [] => .ok ()
  | (key, dt) :: rest => do
    (Place.field key).locate (datatype s m dt)
    eachField s m rest

end

end Check

end EventSchema
