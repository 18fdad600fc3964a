import EventSchema.Artifact
import EventSchema.Backend.Records
import EventSchema.Schema.Module

set_option autoImplicit false

namespace EventSchema.Backend

structure Variant where
  name : String
  value : String
deriving DecidableEq, Repr

structure EnumItem where
  name : String
  exhaustiveFn : String
  variants : List Variant
deriving DecidableEq, Repr

structure TypesFile where
  constants : List (String × String)
  enums : List EnumItem
  records : List Record
deriving DecidableEq, Repr

namespace EnumItem

def ofEnumeration (e : Enumeration) : EnumItem where
  name := e.name
  exhaustiveFn := Naming.snake e.name ++ "_exhaustive_" ++ e.digest
  variants := e.members.map fun m => ⟨escapeKeyword m.key, m.value⟩

def declaration (e : EnumItem) : List Code :=
  [.line ("#[derive(Debug, Clone, Copy, PartialEq, Eq, Hash, PartialOrd, Ord, serde::Serialize, " ++
     "serde::Deserialize)]"),
   .item ("pub enum " ++ e.name) (e.variants.flatMap fun v =>
     [.line ("#[serde(rename = " ++ literal v.value ++ ")]"), .line (v.name ++ ",")])]

def methods (e : EnumItem) : Code :=
  let all := String.intercalate ", " (e.variants.map fun v => "Self::" ++ v.name)
  let count := String.ofList (Nat.toDigits 10 e.variants.length)
  .item ("impl " ++ e.name)
    [.line ("pub const ALL: [Self; " ++ count ++ "] = [" ++ all ++ "];"),
     .empty,
     .item "pub fn as_str(self) -> &'static str"
       [.item "match self" (e.variants.map fun v =>
         .line ("Self::" ++ v.name ++ " => " ++ literal v.value ++ ","))]]

def display (e : EnumItem) : Code :=
  .item ("impl std::fmt::Display for " ++ e.name)
    [.item "fn fmt(&self, f: &mut std::fmt::Formatter<'_>) -> std::fmt::Result"
      [.line "f.write_str(self.as_str())"]]

def exhaustive (e : EnumItem) : List Code :=
  [.line ("/// Identity over [\x60" ++ e.name ++
     "\x60]. Its name changes whenever the members do."),
   .item ("pub const fn " ++ e.exhaustiveFn ++ "(value: " ++ e.name ++ ") -> " ++ e.name)
     [.line "value"]]

def paragraphs (e : EnumItem) : List (List Code) :=
  [e.declaration, [e.methods], [e.display], e.exhaustive]

end EnumItem

namespace TypesFile

def draft (home : Home) : List NamedType → Drafts → Except Fault Drafts
  | [], s => .ok s
  | t :: rest, s =>
    match t.type.shape with
    | .error fault => .error fault
    | .ok (.object fields) =>
      match Drafts.record home t.name fields s with
      | (.error fault, _) => .error (.within (.type t.name) fault)
      | (.ok _, s) => draft home rest s
    | .ok _ => draft home rest s

def ofModule (m : SchemaModule) : Except Fault TypesFile := do
  let s ← draft ⟨m.id, .types⟩ m.types.types ⟨m.types.enums.map Enumeration.name, []⟩
  .ok {
    constants := m.types.constants.map fun c => (Naming.screaming c.key, c.value)
    enums := m.types.enums.map EnumItem.ofEnumeration
    records := s.records }

def constantCode (c : String × String) : Code :=
  .line ("pub const " ++ c.1 ++ ": &str = " ++ literal c.2 ++ ";")

def render (config : Config) (f : TypesFile) : String :=
  Code.file Artifact.header
    ([f.constants.map constantCode] ++ f.enums.flatMap EnumItem.paragraphs ++
      f.records.map (Record.code config true))

end TypesFile

end EventSchema.Backend
