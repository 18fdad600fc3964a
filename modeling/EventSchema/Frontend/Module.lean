import EventSchema.Frontend.Expr
import EventSchema.Text.Blank

set_option autoImplicit false

namespace EventSchema.Frontend

inductive TypeBody where
  | interface (properties : List (PropertyName × TypeExpr))
  | alias (type : TypeExpr)
  | enumeration (members : List (String × String))

structure TypeDef where
  name : String
  body : TypeBody

def TypeDef.render (d : TypeDef) : String :=
  match d.body with
  | .alias type => "export type " ++ d.name ++ " = " ++ type.render ++ ";\n"
  | .interface properties =>
    "export interface " ++ d.name ++ " \x7b\n" ++
      String.join ((TypeExpr.renderProperties properties).map fun p => "  " ++ p ++ ";\n") ++
      "\x7d\n"
  | .enumeration members =>
    "export enum " ++ d.name ++ " \x7b\n" ++
      String.join (members.map fun m => "  " ++ m.1 ++ " = " ++ quoted m.2 ++ ",\n") ++ "\x7d\n"

structure ConstDef where
  name : String
  type : Option TypeExpr := none
  value : Expr

def ConstDef.render (c : ConstDef) : String :=
  "export const " ++ c.name ++ TypeExpr.annotation c.type ++ " = " ++ c.value.render ++ ";\n"

structure Parameter where
  name : String
  type : TypeExpr
  optional : Bool := false
  default : Option Expr := none

def Parameter.render (p : Parameter) : String :=
  p.name ++ (if p.optional then "?" else "") ++ ": " ++ p.type.render ++
    match p.default with
    | some value => " = " ++ value.render
    | none => ""

inductive FunctionForm where
  | declaration
  | arrow
  | asyncArrow
deriving DecidableEq, Repr

structure Function where
  name : String
  form : FunctionForm
  params : List Parameter
  result : Option TypeExpr
  body : List Statement

def Function.render (f : Function) : String :=
  let signature := "(" ++ String.intercalate ", " (f.params.map Parameter.render) ++ ")" ++
    TypeExpr.annotation f.result
  let body := String.join (f.body.map (Statement.render 1))
  match f.form with
  | .declaration => "export function " ++ f.name ++ signature ++ " \x7b\n" ++ body ++ "\x7d\n"
  | .arrow => "export const " ++ f.name ++ " = " ++ signature ++ " => \x7b\n" ++ body ++ "\x7d;\n"
  | .asyncArrow =>
    "export const " ++ f.name ++ " = async " ++ signature ++ " => \x7b\n" ++ body ++ "\x7d;\n"

structure TypeImport where
  names : List String
  source : String
deriving DecidableEq, Repr

def TypeImport.render (i : TypeImport) : String :=
  "import type \x7b " ++ String.intercalate ", " i.names ++ " \x7d from " ++ quoted i.source ++
    ";\n"

/-- One file. `blocks` is code as it stands; `trailer` comes last, so that it can use everything
before it. -/
structure Module where
  header : String := ""
  imports : List TypeImport := []
  consts : List ConstDef := []
  types : List TypeDef := []
  blocks : List String := []
  functions : List Function := []
  trailer : List ConstDef := []

namespace Module

def together {α : Type} (render : α → String) (items : List α) : List String :=
  if items.isEmpty then [] else [String.join (items.map render)]

def sections (m : Module) : List String :=
  (if m.header.isEmpty then [] else [m.header ++ "\n"]) ++
    together TypeImport.render m.imports ++ together ConstDef.render m.consts ++
    m.types.map TypeDef.render ++ m.blocks.map (reindent · "") ++
    m.functions.map Function.render ++ together ConstDef.render m.trailer

def render (m : Module) : String :=
  String.ofList (Text.trimEnd (String.intercalate "\n" m.sections).toList) ++ "\n"

end Module

end EventSchema.Frontend
