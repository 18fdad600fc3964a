set_option autoImplicit false

namespace EventSchema.Naming

def isIdentifierStart (c : Char) : Bool :=
  c.isAlpha || c == '_'

def isIdentifierPart (c : Char) : Bool :=
  c.isAlphanum || c == '_'

def isIdentifierText : List Char → Bool
  | [] => false
  | c :: rest => isIdentifierStart c && rest.all isIdentifierPart

def isIdentifier (s : String) : Bool :=
  isIdentifierText s.toList

end EventSchema.Naming
