import EventSchema.Frontend.Identifier

/-!
TypeScript types and how they are written. A union below an array stands in parentheses; nothing
else needs them.
-/

set_option autoImplicit false

namespace EventSchema.Frontend

inductive PrimitiveType where
  | string
  | number
  | boolean
  | null
  | void
  | unknown
deriving DecidableEq, Repr

def PrimitiveType.render : PrimitiveType → String
  | .string => "string"
  | .number => "number"
  | .boolean => "boolean"
  | .null => "null"
  | .void => "void"
  | .unknown => "unknown"

structure PropertyName where
  name : String
  optional : Bool := false
deriving DecidableEq, Repr

def PropertyName.render (p : PropertyName) : String :=
  key p.name ++ (if p.optional then "?" else "")

inductive TypeExpr where
  | primitive (p : PrimitiveType)
  | array (item : TypeExpr)
  | union (members : List TypeExpr)
  | object (properties : List (PropertyName × TypeExpr))
  | record (key value : TypeExpr)
  | literal (value : String)
  /-- A declared or global name, with its arguments if it has any. -/
  | named (name : String)
deriving Repr

namespace TypeExpr

def string : TypeExpr := .primitive .string

def number : TypeExpr := .primitive .number

def boolean : TypeExpr := .primitive .boolean

def orNull (t : TypeExpr) : TypeExpr := .union [t, .primitive .null]

def isUnion : TypeExpr → Bool
  | .union _ => true
  | _ => false

mutual

def render : TypeExpr → String
  | .primitive p => p.render
  | .array item => if item.isUnion then "(" ++ render item ++ ")[]" else render item ++ "[]"
  | .union members => String.intercalate " | " (renderAll members)
  | .object [] => "\x7b\x7d"
  | .object (p :: ps) => "\x7b " ++ String.intercalate "; " (renderProperties (p :: ps)) ++ " \x7d"
  | .record k v => "Record<" ++ render k ++ ", " ++ render v ++ ">"
  | .literal value => quoted value
  | .named name => name

def renderAll : List TypeExpr → List String
  | [] => []
  | t :: ts => render t :: renderAll ts

def renderProperties : List (PropertyName × TypeExpr) → List String
  | [] => []
  | (name, t) :: ps => (name.render ++ ": " ++ render t) :: renderProperties ps

end

def annotation : Option TypeExpr → String
  | none => ""
  | some t => ": " ++ t.render

end TypeExpr

end EventSchema.Frontend
