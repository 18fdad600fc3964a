import EventSchema.Schema.Command
import EventSchema.Schema.Declarations
import EventSchema.Schema.Event

set_option autoImplicit false

namespace EventSchema

structure SchemaModule where
  id : String
  types : Declarations := {}
  commands : List Command := []
  events : List Event := []
deriving DecidableEq, Repr

namespace SchemaModule

/-- All roots of a module: what clients see, then the fields of its events. -/
def datatypes (m : SchemaModule) : List Datatype :=
  m.types.datatypes ++ m.events.flatMap fun e => e.fields.map EventField.type

end SchemaModule

structure SchemaSet where
  modules : List SchemaModule
deriving DecidableEq, Repr

namespace SchemaSet

/-- Modules of equal ids keep their order. -/
def ofList (modules : List SchemaModule) : SchemaSet :=
  ⟨modules.mergeSort fun a b => decide (a.id ≤ b.id)⟩

theorem perm_modules_ofList (modules : List SchemaModule) :
    (ofList modules).modules.Perm modules :=
  List.mergeSort_perm modules _

def find? (s : SchemaSet) (id : String) : Option SchemaModule :=
  s.modules.find? (·.id == id)

end SchemaSet

end EventSchema
