import EventSchema.Check.Commands
import EventSchema.Check.Containment
import EventSchema.Check.Declarations
import EventSchema.Check.Endpoints
import EventSchema.Check.Events
import EventSchema.Check.Imports

set_option autoImplicit false

namespace EventSchema

structure ModuleFault where
  module : String
  fault : Fault
deriving DecidableEq, Repr

def ModuleFault.message (f : ModuleFault) : String :=
  "schema module " ++ f.module ++ ": " ++ f.fault.message

namespace SchemaModule

/-- Names of other modules are looked up in the set. -/
def check (m : SchemaModule) (s : SchemaSet) : Except Fault Unit := do
  Check.ensure (Check.isModuleId m.id) (.invalidIdentifier m.id .moduleId)
  Check.constants m.types
  Check.enumerations m.types
  Check.namedTypes s m
  Check.endpoints s m
  Check.exports m.types
  Check.commands m.commands
  Check.events s m
  Check.imports m

end SchemaModule

namespace SchemaSet

def checkContainment (s : SchemaSet) : Except ModuleFault Unit :=
  match s.containmentCycle? with
  | some (r :: trail) => .error ⟨r.module, .valueCycle r.name (r :: trail)⟩
  | _ => .ok ()

def check (s : SchemaSet) : Except ModuleFault Unit := do
  s.modules.forM fun m => (m.check s).mapError (ModuleFault.mk m.id)
  s.checkContainment

end SchemaSet

end EventSchema
