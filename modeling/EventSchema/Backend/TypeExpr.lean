import EventSchema.Config
import EventSchema.Schema.Datatype

set_option autoImplicit false

namespace EventSchema.Backend

inductive TypeExpr where
  | string
  | boolean
  | integer
  | instant
  | list (item : TypeExpr)
  | option (inner : TypeExpr)
  | here (name : String)
  /-- A declared name of the module's types, seen from another file of the module. -/
  | sibling (name : String)
  | foreign (module name : String)
  /-- A record that was derived from an inline object of the same file. -/
  | record (name : String)
deriving DecidableEq, Repr

namespace TypeExpr

def render (config : Config) : TypeExpr → String
  | .string => "String"
  | .boolean => "bool"
  | .integer => "i64"
  | .instant => "chrono::DateTime<chrono::Utc>"
  | .list item => "Vec<" ++ item.render config ++ ">"
  | .option inner => "Option<" ++ inner.render config ++ ">"
  | .here name => name
  | .sibling name => "super::types::" ++ name
  | .foreign module name => config.typesPath module ++ "::" ++ name
  | .record name => name

def ofPrimitive : Primitive → TypeExpr
  | .string => .string
  | .boolean => .boolean
  | .integer => .integer
  | .datetime => .instant

def withNull (nullable : Bool) (t : TypeExpr) : TypeExpr :=
  if nullable then .option t else t

end TypeExpr

structure RecordField where
  ident : String
  key : String
  type : TypeExpr
deriving DecidableEq, Repr

structure Record where
  name : String
  fields : List RecordField
deriving DecidableEq, Repr

end EventSchema.Backend
