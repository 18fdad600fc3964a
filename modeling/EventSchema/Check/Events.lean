import EventSchema.Check.Datatype

set_option autoImplicit false

namespace EventSchema.Check

def reservedEventNames : List String :=
  ["AnyEvent", "EventListener", "Allocator", "Event", "EventError", "EventMeta", "UnknownEvent"]

/-- Every event record has a field of this name besides its own. -/
def metaKey : String := "meta"

def event (s : SchemaSet) (m : SchemaModule) (e : Event) : Except Fault Unit := do
  let here := Place.event e.kind
  here.locate (discriminator e.kind)
  ensure (!reservedEventNames.contains e.structName) (.invalidIdentifier e.kind .reservedGenerated)
  let keys := e.fields.map EventField.key
  here.locate (unique .field keys)
  here.locate (uniqueIdents (keys ++ [metaKey]))
  e.fields.forM fun f => (Place.eventField e.kind f.key).locate (datatype s m f.type)

def events (s : SchemaSet) (m : SchemaModule) : Except Fault Unit := do
  unique .event (m.events.map Event.kind)
  unique .eventStruct (m.events.map Event.structName)
  m.events.forM (event s m)

end EventSchema.Check
