import EventSchema.Pattern.Age
import EventSchema.Pattern.Segment

/-!
Properties of characters by name. Case, blanks, hyphens and underscores do not matter in names, nor
do characters beyond ASCII, and an initial `is` is passed over.
-/

set_option autoImplicit false

namespace EventSchema.Pattern

namespace Property

def isNamed (c : Char) : Bool :=
  decide (c.toNat < 128) && c != ' ' && c != '_' && c != '-'

def normalize (name : List Char) : String :=
  let kept (cs : List Char) := (cs.filter isNamed).map Char.toLower
  match name with
  | a :: b :: rest =>
    if a.toLower == 'i' && b.toLower == 's' then
      if kept rest == ['c'] then "isc" else String.ofList (kept rest)
    else String.ofList (kept name)
  | _ => String.ofList (kept name)

/-- A name on its own: a trait, a category or a script. Three short names mean a category though
they would name something else, too. -/
def byName? (name : List Char) : Option CharSet :=
  let name := normalize name
  let trait? := if name = "cf" ∨ name = "sc" ∨ name = "lc" then none else Trait.find? name
  trait?.or ((Category.find? name).or (Script.find? name))

/-- The characters of an edition: those it added and those of all editions before it. -/
def age? (name : String) : Option CharSet :=
  match ageTable.span (! ·.1.contains name) with
  | (_, []) => none
  | (older, row :: _) =>
    some (.ofSpans ((older ++ [row]).flatMap fun row => (CharSet.ofTable row.2).spans))

def byValue? (property value : List Char) : Option CharSet :=
  let value := normalize value
  match normalize property with
  | "gc" | "generalcategory" => Category.find? value
  | "sc" | "script" => Script.find? value
  | "scx" | "scriptextensions" => Script.users? value
  | "age" => age? value
  | "gcb" | "graphemeclusterbreak" => Segment.grapheme? value
  | "wb" | "wordbreak" => Segment.word? value
  | "sb" | "sentencebreak" => Segment.sentence? value
  | _ => none

def digits : CharSet := Category.chars ["nd"]

def spaces : CharSet := Trait.chars "whitespace"

/-- Letters, marks, decimal digits, connectors and join controls. -/
def wordChars : CharSet :=
  ((Trait.chars "alphabetic").union (Trait.chars "joincontrol")).union
    (Category.chars ["mn", "mc", "me", "nd", "pc"])

def wordTable : Text.Ranges := ⟨wordChars.spans.toArray⟩

def isWordChar (c : Char) : Bool := wordTable.contains c.toNat

end Property

end EventSchema.Pattern
