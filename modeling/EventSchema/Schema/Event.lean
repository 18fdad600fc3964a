import EventSchema.Naming.Words
import EventSchema.Schema.Datatype

set_option autoImplicit false

namespace EventSchema

structure EventField where
  key : String
  type : Datatype
deriving DecidableEq, Repr

structure Event where
  kind : String
  fields : List EventField
deriving DecidableEq, Repr

namespace Event

def structName (e : Event) : String := Naming.pascal e.kind

def methodStem (e : Event) : String := Naming.snake e.kind

def applyMethod (e : Event) : String := "apply_" ++ e.methodStem

end Event

end EventSchema
