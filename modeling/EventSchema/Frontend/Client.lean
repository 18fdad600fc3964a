import EventSchema.Artifact
import EventSchema.Config
import EventSchema.Frontend.Module
import EventSchema.Frontend.Projection
import EventSchema.Schema.References

set_option autoImplicit false

namespace EventSchema.Frontend.Client

def errorClass : String :=
  "export class ApiError extends Error \x7b\n" ++
  "  status: number;\n" ++
  "  statusText: string;\n" ++
  "  body: unknown;\n" ++
  "\n" ++
  "  constructor(status: number, statusText: string, body: unknown) \x7b\n" ++
  "    super(\x60HTTP $\x7bstatus\x7d: $\x7bstatusText\x7d\x60);\n" ++
  "    this.name = \"ApiError\";\n" ++
  "    this.status = status;\n" ++
  "    this.statusText = statusText;\n" ++
  "    this.body = body;\n" ++
  "  \x7d\n" ++
  "\x7d"

def errorHandler : String :=
  "export function defaultErrorHandler(err: unknown): void \x7b\n" ++
  "  alert(err instanceof Error ? err.message : String(err));\n" ++
  "\x7d"

def failureCheck : String :=
  "if (!res.ok) \x7b\n" ++
  "  const text = await res.text();\n" ++
  "  let parsed: unknown;\n" ++
  "  try \x7b parsed = JSON.parse(text); \x7d catch \x7b parsed = text; \x7d\n" ++
  "  throw new ApiError(res.status, res.statusText, parsed);\n" ++
  "\x7d"

def exhaustive (e : Enumeration) : Function where
  name := e.name ++ "Exhaustive" ++ e.digest
  form := .declaration
  params := [⟨"value", .named e.name, false, none⟩]
  result := some (.named e.name)
  body := [.return (some (.ident "value"))]

def placeholderParams (names : List String) : List Parameter :=
  names.map fun name => ⟨name, .string, false, none⟩

def pathPart : PathPart → TemplatePart
  | .static text => .static text
  | .placeholder name => .dynamic (.call "encodeURIComponent" [.ident name])

def pathExpr (path : String) (parts : List PathPart) : Expr :=
  if parts.all (·.placeholder?.isNone) then .string path
  else .template (parts.map pathPart)

def urlName (e : Endpoint) : String := e.name ++ "Url"

def urlFunction (e : Endpoint) (parts : List PathPart) : Function where
  name := urlName e
  form := .arrow
  params := placeholderParams (parts.filterMap PathPart.placeholder?)
  result := some .string
  body := [.return (some (pathExpr e.path parts))]

def fetchOptions (e : Endpoint) : List (String × Expr) :=
  [("options", .spread (.ident "options")), ("method", .string e.method.text)] ++
    if e.consumes.isSome then
      [("headers", .object [("Content-Type", .string "application/json"),
         ("options", .spread (.raw "options?.headers"))]),
       ("body", .call "JSON.stringify" [.ident "body"])]
    else []

def bodyParam : Option TypeExpr → List Parameter
  | some type => [⟨"body", type, false, none⟩]
  | none => []

def callFunction (e : Endpoint) (names : List String) (input output : Option TypeExpr) :
    Function where
  name := e.name
  form := .asyncArrow
  params := placeholderParams names ++ bodyParam input ++
    [⟨"options", .named "RequestInit", true, none⟩]
  result := some (.named ("Promise<" ++ ((output.map TypeExpr.render).getD "void") ++ ">"))
  body :=
    let url := Expr.call (urlName e) (names.map .ident)
    [.const "res" none (.raw ("await fetch(" ++ url.render ++ ", " ++
       (Expr.object (fetchOptions e)).render ++ ")")),
     .raw failureCheck,
     .return (output.map fun type => .raw ("(await res.json()) as " ++ type.render))]

def payloadType : Option Datatype → Except Fault (Option TypeExpr)
  | none => .ok none
  | some dt => (TypeExpr.ofDatatype dt).map some

def endpointFunctions (e : Endpoint) : Except Fault (List Function) := do
  let parts ← Route.parts e.path
  let input ← payloadType e.consumes
  let output ← payloadType e.produces
  .ok [urlFunction e parts, callFunction e (parts.filterMap PathPart.placeholder?) input output]

def enumDef (e : Enumeration) : TypeDef :=
  ⟨e.name, .enumeration (e.members.map fun m => (m.key, m.value))⟩

def typeDef? (t : NamedType) : Except Fault (Option TypeDef) := do
  match ← t.type.shape with
  | .object fields =>
    let properties ← TypeExpr.ofFields fields
    .ok (some ⟨t.name, .interface properties⟩)
  | _ => .ok none

def ofModule (config : Config) (m : SchemaModule) : Except Fault Module := do
  let d := m.types
  let interfaces ← d.types.mapM typeDef?
  let functions ← d.endpoints.mapM endpointFunctions
  .ok {
    header := Artifact.header
    imports := (d.imports m.id).map fun i => ⟨i.2, config.clientPath i.1⟩
    consts := d.constants.map fun c => ⟨c.key, none, .string c.value⟩
    types :=
      (if d.usesDatetime then [⟨datetimeAlias, .alias .string⟩] else []) ++
        d.enums.map enumDef ++ interfaces.filterMap id
    blocks := if d.endpoints.isEmpty then [] else [errorClass, errorHandler]
    functions := d.enums.map exhaustive ++ functions.flatten
    trailer := [] }

end EventSchema.Frontend.Client
