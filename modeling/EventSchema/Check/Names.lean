import EventSchema.Backend.Identifier
import EventSchema.Frontend.Identifier
import EventSchema.Schema.Fault
import EventSchema.Text.Order

set_option autoImplicit false

namespace EventSchema.Check

def ensure (condition : Bool) (fault : Fault) : Except Fault Unit :=
  if condition then .ok () else .error fault

def unique (kind : Kind) (names : List String) : Except Fault Unit :=
  match Text.firstRepeat names with
  | some name => .error (.duplicate kind name)
  | none => .ok ()

/-- Keys after those of the table must have identifiers, all of them different. The table maps
identifiers to their keys. -/
def uniqueIdentsFrom (table : List (String × String)) : List String → Except Fault Unit
  | [] => .ok ()
  | key :: rest =>
    match Backend.fieldIdent? key with
    | none => .error (.invalidIdentifier key .fieldKey)
    | some ident =>
      match table.lookup ident with
      | some other =>
        .error (.duplicate .field (key ++ " (same identifier as " ++ other ++ ")"))
      | none => uniqueIdentsFrom ((ident, key) :: table) rest

def uniqueIdents (keys : List String) : Except Fault Unit :=
  uniqueIdentsFrom [] keys

def isModuleIdChar (c : Char) : Bool :=
  c.isLower || c.isDigit || c == '_'

/-- A lower case letter, then those, digits and underscores; no keyword of either side. -/
def isModuleId (id : String) : Bool :=
  match id.toList with
  | [] => false
  | c :: rest =>
    c.isLower && rest.all isModuleIdChar && !Backend.isKeyword id && !Frontend.isReserved id

/-- Names that generated records use without a path. -/
def preludeTypes : List String := ["Self", "String", "Vec", "Option", "Box", "Result"]

def isTypeName (name : String) : Bool :=
  Naming.isIdentifier name && name.toList.head?.any Char.isUpper

def typeName (name : String) : Except Fault Unit := do
  ensure (isTypeName name) (.invalidIdentifier name .typeName)
  ensure (!preludeTypes.contains name) (.invalidIdentifier name .preludeType)

/-- Identifiers with points between them, such as `account.ChangeUsername`. -/
def isDiscriminator (key : String) : Bool :=
  (Text.splitAt (· == '.') key.toList).all Naming.isIdentifierText

def discriminator (key : String) : Except Fault Unit :=
  ensure (isDiscriminator key) (.invalidIdentifier key .discriminator)

def isBindable (name : String) : Bool :=
  Naming.isIdentifier name && !Frontend.isReserved name

end EventSchema.Check
