import EventSchema.Check.Datatype

set_option autoImplicit false

namespace EventSchema.Check

def constants (d : Declarations) : Except Fault Unit := do
  d.constants.forM fun c => ensure (isBindable c.key) (.invalidIdentifier c.key .constantKey)
  unique .constant (d.constants.map Constant.key)
  unique .constant (d.constants.map fun c => Naming.screaming c.key)

def enumeration (e : Enumeration) : Except Fault Unit := do
  typeName e.name
  ensure (!e.values.isEmpty) (.unsupported .emptyEnum)
  unique .enumMember e.values
  e.members.forM fun member =>
    ensure (Naming.isIdentifier member.key) (.invalidIdentifier member.value .enumMember)
  unique .enumMemberKey (e.members.map EnumMember.key)

def enumerations (d : Declarations) : Except Fault Unit := do
  unique .enumeration (d.enums.map Enumeration.name)
  d.enums.forM fun e => (Place.enumeration e.name).locate (enumeration e)

def namedType (s : SchemaSet) (m : SchemaModule) (t : NamedType) : Except Fault Unit := do
  typeName t.name
  match t.type.shape with
  | .error fault => .error fault
  | .ok (.object fields) => object s m (some fields)
  | .ok _ => .error (t.type.flaw .namedTypeNotObject)

def namedTypes (s : SchemaSet) (m : SchemaModule) : Except Fault Unit := do
  let names := m.types.types.map NamedType.name
  unique .type names
  unique .typeOrEnum (names ++ m.types.enums.map Enumeration.name)
  m.types.types.forM fun t => (Place.type t.name).locate (namedType s m t)

end EventSchema.Check
