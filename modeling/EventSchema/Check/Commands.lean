import EventSchema.Check.Names
import EventSchema.Pattern.Program
import EventSchema.Schema.Command

set_option autoImplicit false

namespace EventSchema.Check

/-- Names that every generated file of commands uses itself. -/
def reservedCommandNames : List String :=
  ["AnyCommand", "CommandHandlers", "Allocator", "Command", "CommandError", "Ctx"]

def pattern (text : String) : Except Fault Unit :=
  ensure (Pattern.Program.ofText? text).isSome (.invalidPattern text)

def commandField (f : CommandField) : Except Fault Unit := do
  ensure (f.kind.isString || (f.maxLength.isNone && f.pattern.isNone))
    (.unsupported (.textRulesOn f.kind.label))
  match f.pattern with
  | some text => pattern text
  | none => .ok ()

def command (c : Command) : Except Fault Unit := do
  let here := Place.command c.key
  here.locate (discriminator c.key)
  ensure (!reservedCommandNames.contains c.structName)
    (.invalidIdentifier c.key .reservedGenerated)
  here.locate (ensure (!c.chain.isEmpty) (.unsupported .emptyChain))
  let keys := c.fields.map CommandField.key
  here.locate (unique .field keys)
  here.locate (uniqueIdents keys)
  c.fields.forM fun f => (Place.commandField c.key f.key).locate (commandField f)

def commands (cs : List Command) : Except Fault Unit := do
  unique .command (cs.map Command.key)
  unique .commandStruct (cs.map Command.structName)
  cs.forM command

end EventSchema.Check
