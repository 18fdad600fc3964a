set_option autoImplicit false

namespace EventSchema.Frontend

/-- Words that no binding and no enum member may have as its name. -/
def reservedWords : List String :=
  ["break", "case", "catch", "class", "const", "continue", "debugger", "default", "delete", "do",
   "else", "enum", "export", "extends", "false", "finally", "for", "function", "if", "import", "in",
   "instanceof", "new", "null", "return", "super", "switch", "this", "throw", "true", "try",
   "typeof", "var", "void", "while", "with", "yield", "let", "static", "implements", "interface",
   "package", "private", "protected", "public", "await", "async"]

def isReserved (name : String) : Bool :=
  reservedWords.contains name

def isKeyStart (c : Char) : Bool :=
  c.isAlpha || c == '_' || c == '$'

def isKeyPart (c : Char) : Bool :=
  c.isAlphanum || c == '_' || c == '$'

def needsQuoting (name : String) : Bool :=
  match name.toList with
  | [] => true
  | c :: rest => !(isKeyStart c && (c :: rest).all isKeyPart)

def escapeChar (c : Char) : List Char :=
  if c = '\\' then ['\\', '\\']
  else if c = '"' then ['\\', '"']
  else if c = '\n' then ['\\', 'n']
  else if c = '\r' then ['\\', 'r']
  else [c]

def escapeText (cs : List Char) : List Char :=
  cs.flatMap escapeChar

def escape (s : String) : String :=
  String.ofList (escapeText s.toList)

def quoted (s : String) : String :=
  "\"" ++ escape s ++ "\""

/-- A name as an object key, in quotes only where they are needed. -/
def key (name : String) : String :=
  if needsQuoting name then quoted name else name

end EventSchema.Frontend
