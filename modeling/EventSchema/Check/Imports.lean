import EventSchema.Check.Names
import EventSchema.Schema.References

set_option autoImplicit false

namespace EventSchema.Check

/-- Checks references from the table of imported names on; each name comes from one module. -/
def importsFrom (d : Declarations) (table : List (String × String)) :
    List CustomRef → Except Fault Unit
  | [] => .ok ()
  | r :: rest =>
    match r.module with
    | none => importsFrom d table rest
    | some module =>
      if d.declares r.name then .error (.unsupported (.localClash r.text r.name))
      else match table.lookup r.name with
        | some other =>
          if other = module then importsFrom d table rest
          else .error (.unsupported (.foreignClash r.text other r.name))
        | none => importsFrom d ((r.name, module) :: table) rest

def imports (m : SchemaModule) : Except Fault Unit :=
  importsFrom m.types [] (m.datatypes.flatMap (Datatype.references m.id))

end EventSchema.Check
