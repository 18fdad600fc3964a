import EventSchema.Frontend.TypeExpr
import EventSchema.Text.Lines

set_option autoImplicit false

namespace EventSchema.Frontend

def intText : Int → String
  | .ofNat n => String.ofList (Nat.toDigits 10 n)
  | .negSucc n => String.ofList ('-' :: Nat.toDigits 10 (n + 1))

inductive Literal where
  | string (value : String)
  | int (value : Int)
  | bool (value : Bool)
  | null
deriving DecidableEq, Repr

def Literal.render : Literal → String
  | .string value => quoted value
  | .int value => intText value
  | .bool true => "true"
  | .bool false => "false"
  | .null => "null"

def indentation (depth : Nat) : String :=
  String.ofList (List.replicate (2 * depth) ' ')

mutual

inductive Expr where
  | ident (name : String)
  | literal (value : Literal)
  | call (callee : String) (args : List Expr)
  | thunk (body : Expr)
  | object (properties : List (String × Expr))
  | objectBlock (properties : List (String × Expr)) (depth : Nat)
  | arrayBlock (items : List Expr) (depth : Nat)
  | template (parts : List TemplatePart)
  | spread (inner : Expr)
  | raw (code : String)

inductive TemplatePart where
  | static (text : String)
  | dynamic (value : Expr)

end

namespace Expr

def string (value : String) : Expr := .literal (.string value)

def optString : Option String → Expr
  | some value => string value
  | none => .literal .null

/-- One entry a line, one level deeper than the line that it starts on. -/
def block (opening closing : String) (entries : List String) (depth : Nat) : String :=
  if entries.isEmpty then opening ++ closing
  else opening ++ "\n" ++
    String.join (entries.map fun entry => indentation (depth + 1) ++ entry ++ ",\n") ++
    indentation depth ++ closing

def escapeTemplate (text : String) : String :=
  String.ofList (text.toList.flatMap fun c =>
    if c = '\\' then ['\\', '\\'] else if c = '\x60' then ['\\', '\x60'] else [c])

/-- Joins a key to its value. A name that is its own key is written once, and a spread has no
key. -/
def entry (k : String) (value : Expr) (rendered : String) : String :=
  match value with
  | .ident name => if name = k then k else key k ++ ": " ++ rendered
  | .spread _ => rendered
  | _ => key k ++ ": " ++ rendered

mutual

def render : Expr → String
  | .ident name => name
  | .raw code => code
  | .literal value => value.render
  | .call callee args => callee ++ "(" ++ String.intercalate ", " (renderAll args) ++ ")"
  | .thunk body => "() => " ++ render body
  | .object [] => "\x7b\x7d"
  | .object (p :: ps) => "\x7b " ++ String.intercalate ", " (renderEntries (p :: ps)) ++ " \x7d"
  | .objectBlock properties depth => block "\x7b" "\x7d" (renderEntries properties) depth
  | .arrayBlock items depth => block "[" "]" (renderAll items) depth
  | .template parts => "\x60" ++ renderParts parts ++ "\x60"
  | .spread inner => "..." ++ render inner

def renderAll : List Expr → List String
  | [] => []
  | e :: es => render e :: renderAll es

def renderEntries : List (String × Expr) → List String
  | [] => []
  | (k, value) :: rest => entry k value (render value) :: renderEntries rest

def renderParts : List TemplatePart → String
  | [] => ""
  | .static text :: rest => escapeTemplate text ++ renderParts rest
  | .dynamic value :: rest => "$\x7b" ++ render value ++ "\x7d" ++ renderParts rest

end

end Expr

inductive Statement where
  | const (name : String) (type : Option TypeExpr) (value : Expr)
  | return (value : Option Expr)
  /-- Code of several lines, brought to the depth of the statement. -/
  | raw (code : String)

def reindent (code pad : String) : String :=
  String.join ((Text.lines code.toList).map fun line =>
    (if line.isEmpty then "" else pad ++ String.ofList line) ++ "\n")

def Statement.render (depth : Nat) : Statement → String
  | .const name type value =>
    indentation depth ++ "const " ++ name ++ TypeExpr.annotation type ++ " = " ++ value.render ++
      ";\n"
  | .return none => indentation depth ++ "return;\n"
  | .return (some value) => indentation depth ++ "return " ++ value.render ++ ";\n"
  | .raw code => reindent code (indentation depth)

end EventSchema.Frontend
