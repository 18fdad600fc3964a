import EventSchema.Naming.Identifier
import EventSchema.Naming.Words
import EventSchema.Text.Quoted

/-!
Identifiers and string literals of the generated Rust. Keywords are written raw (`r#type`), except
for the four that have no raw form and get an underscore.
-/

set_option autoImplicit false

namespace EventSchema.Backend

/-- Strict and reserved words of the 2024 edition. -/
def keywords : List String :=
  ["as", "async", "await", "break", "const", "continue", "crate", "dyn", "else", "enum", "extern",
   "false", "fn", "for", "gen", "if", "impl", "in", "let", "loop", "match", "mod", "move", "mut",
   "pub", "ref", "return", "self", "Self", "static", "struct", "super", "trait", "true", "type",
   "unsafe", "use", "where", "while", "abstract", "become", "box", "do", "final", "macro",
   "override", "priv", "try", "typeof", "unsized", "virtual", "yield"]

/-- Keywords that cannot be written raw. -/
def pathKeywords : List String :=
  ["self", "Self", "super", "crate"]

def isKeyword (name : String) : Bool :=
  keywords.contains name

def escapeKeyword (name : String) : String :=
  if !isKeyword name then name
  else if pathKeywords.contains name then name ++ "_"
  else "r#" ++ name

/-- The field identifier of a wire key, if its words give one. -/
def fieldIdent? (key : String) : Option String :=
  let name := Naming.snake key
  if Naming.isIdentifier name then some (escapeKeyword name) else none

def literal (value : String) : String :=
  Text.Quoted.text value

end EventSchema.Backend
