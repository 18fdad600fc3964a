import EventSchema.Frontend.TypeExpr
import EventSchema.Schema.Datatype

set_option autoImplicit false

namespace EventSchema.Frontend

/-- The alias that stands for all points in time. -/
def datetimeAlias : String := "datetimeRFC3339"

namespace TypeExpr

def ofPrimitive : Primitive → TypeExpr
  | .string => string
  | .boolean => boolean
  | .integer => number
  | .datetime => .named datetimeAlias

def withNull (nullable : Bool) (t : TypeExpr) : TypeExpr :=
  if nullable then t.orNull else t

mutual

def ofDatatype : Datatype → Except Fault TypeExpr
  | .node name of fields nullable =>
    match Datatype.formOf name of.isSome fields.isSome with
    | .error flaw => .error (.malformedDatatype name flaw)
    | .ok (.primitive p) => .ok (withNull nullable (ofPrimitive p))
    | .ok (.custom r) => .ok (withNull nullable (.named r.name))
    | .ok .list => (ofItem of).map fun item => withNull nullable (.array item)
    | .ok .object => (ofObject fields).map fun ps => withNull nullable (.object ps)

def ofItem : Option Datatype → Except Fault TypeExpr
  | some dt => ofDatatype dt
  | none => .error (.malformedDatatype "list" .listNeedsOf)

def ofObject : Option (List (String × Datatype)) → Except Fault (List (PropertyName × TypeExpr))
  | some fields => ofFields fields
  | none => .error (.malformedDatatype "object" .objectNeedsFields)

/-- Properties in the order of the fields, all of them required. -/
def ofFields : List (String × Datatype) → Except Fault (List (PropertyName × TypeExpr))
  | [] => .ok []
  | (key, dt) :: rest =>
    match ofDatatype dt with
    | .error fault => .error fault
    | .ok type => (ofFields rest).map fun ps => (⟨key, false⟩, type) :: ps

end

end TypeExpr

end EventSchema.Frontend
