import EventSchema.Artifact
import EventSchema.Backend.Records
import EventSchema.Schema.Declarations

/-!
The file of a module's endpoints: a trait with a handler per endpoint, and the function that
registers all routes. A route runs the chain of its endpoint before it looks at path or body.
-/

set_option autoImplicit false

namespace EventSchema.Backend

structure EndpointItem where
  method : Method
  route : String
  chain : String
  handler : String
  chainVar : String
  description : Option String
  params : List String
  input : Option TypeExpr
  output : Option TypeExpr
deriving DecidableEq, Repr

structure RouteItem where
  path : String
  endpoints : List EndpointItem
deriving DecidableEq, Repr

structure RestFile where
  endpoints : List EndpointItem
  /-- Endpoints by path, in the order in which the paths come first. -/
  routes : List RouteItem
  records : List Record
deriving DecidableEq, Repr

namespace EndpointItem

def countText (n : Nat) : String := String.ofList (Nat.toDigits 10 n)

def callArgs (e : EndpointItem) : List String :=
  "rctx" :: (match e.params with
    | [] => []
    | [_] => ["param"]
    | params => (List.range params.length).map fun i => "params." ++ countText i) ++
    (if e.input.isSome then ["input"] else [])

/-- The variable and the type that the placeholders are extracted as. -/
def pathBinding (e : EndpointItem) : Option (String × String) :=
  match e.params with
  | [] => none
  | [_] => some ("param", "String")
  | params =>
    some ("params", "(" ++ String.intercalate ", " (params.map fun _ => "String") ++ ")")

def partsBinding (e : EndpointItem) : String :=
  (if e.params.isEmpty then "(parts, " else "(mut parts, ") ++
    (if e.input.isSome then "body)" else "_)")

def documentation (e : EndpointItem) : List Code :=
  match e.description with
  | some text => if text.isEmpty then [] else [.line ("/// " ++ text)]
  | none => []

def outcome (config : Config) (e : EndpointItem) : String :=
  match e.output with
  | some type => "Result<" ++ type.render config ++ ", Response>"
  | none => "Response"

def signature (config : Config) (e : EndpointItem) : List Code :=
  e.documentation ++
    [.nested ("fn " ++ e.handler ++ "(")
      ([.line "&self,", .line "rctx: RequestContext,"] ++
        e.params.map (fun p => .line (p ++ ": String,")) ++
        (match e.input with
          | some type => [.line ("input: " ++ type.render config ++ ",")]
          | none => []))
      (") -> impl Future<Output = " ++ e.outcome config ++ "> + Send;")]

/-- Binds a result, or gives up with the response. -/
def bindOrReturn (name call : String) : Code :=
  .nested ("let " ++ name ++ " = match " ++ call ++ " \x7b")
    [.line ("Ok(" ++ name ++ ") => " ++ name ++ ","),
     .line "Err(response) => return response,"]
    "\x7d;"

def pathCode (e : EndpointItem) : List Code :=
  match e.pathBinding with
  | some (name, type) =>
    [bindOrReturn name ("eventkit_runtime::httpauth::path_params::<" ++ type ++
      ">(&mut parts).await")]
  | none => []

def inputCode (config : Config) (e : EndpointItem) : List Code :=
  match e.input with
  | some type =>
    [bindOrReturn "input" ("eventkit_runtime::httpauth::read_json_input::<" ++
      type.render config ++ ">(parts, body).await")]
  | none => []

def callCode (e : EndpointItem) : List Code :=
  let call := "handlers." ++ e.handler ++ "(" ++ String.intercalate ", " e.callArgs ++ ").await"
  if e.output.isSome then
    [.item ("match " ++ call)
      [.line "Ok(output) => eventkit_runtime::httpauth::json_output(&output),",
       .line "Err(response) => response,"]]
  else [.line call]

def registration (config : Config) (opening closing : String) (e : EndpointItem) : Code :=
  .nested (opening ++ "on(MethodFilter::" ++ e.method.text ++ ", \x7b")
    [.line "let handlers = Arc::clone(&handlers);",
     .line ("let chain = " ++ e.chainVar ++ ";"),
     .item "move |request: Request| async move"
       ([.line ("let " ++ e.partsBinding ++ " = request.into_parts();"),
         bindOrReturn "rctx" "chain.run(&parts.headers)"] ++
         e.pathCode ++ e.inputCode config ++ e.callCode)]
    ("\x7d)" ++ closing)

end EndpointItem

namespace RouteItem

/-- The methods of a path, chained by points and closed by a comma. -/
def registrations (config : Config) (opening : String) : List EndpointItem → List Code
  | [] => []
  | [e] => [e.registration config opening ","]
  | e :: next :: rest => e.registration config opening "" :: registrations config "." (next :: rest)

def code (config : Config) (closing : String) (r : RouteItem) : Code :=
  .nested ".route("
    (.line (literal r.path ++ ",") :: registrations config "" r.endpoints)
    (")" ++ closing)

def codes (config : Config) : List RouteItem → List Code
  | [] => []
  | [r] => [r.code config ";"]
  | r :: next :: rest => r.code config "" :: codes config (next :: rest)

def insert (e : EndpointItem) : List RouteItem → List RouteItem
  | [] => [⟨e.route, [e]⟩]
  | r :: rest =>
    if r.path = e.route then { r with endpoints := r.endpoints ++ [e] } :: rest
    else r :: insert e rest

end RouteItem

namespace RestFile

def ownNames : List String :=
  ["Handlers", "Future", "Arc", "Router", "Request", "Response", "MethodFilter",
   "MiddlewareChainMap", "RequestContext", "RouteError"]

def paramIdent (name : String) : Except Fault String :=
  match fieldIdent? name with
  | some ident => .ok ident
  | none => .error (.invalidIdentifier name .placeholderIdent)

def draftPayload (home : Home) (owner : String) :
    Option Datatype → Drafts → Except Fault (Option TypeExpr × Drafts)
  | none, s => .ok (none, s)
  | some dt, s =>
    match Drafts.project home owner dt s with
    | (.error fault, _) => .error fault
    | (.ok type, s) => .ok (some type, s)

def draftEndpoint (home : Home) (e : Endpoint) (s : Drafts) :
    Except Fault (EndpointItem × Drafts) := do
  let names ← Route.placeholders e.path
  let params ← names.mapM paramIdent
  let (input, s) ← draftPayload home (Naming.pascal e.name ++ "Input") e.consumes s
  let (output, s) ← draftPayload home (Naming.pascal e.name ++ "Output") e.produces s
  let item : EndpointItem := {
    method := e.method
    route := e.path
    chain := e.chain
    handler := escapeKeyword (Naming.snake e.name)
    chainVar := Naming.snake e.name ++ "_chain"
    description := e.description.map Code.oneLine
    params
    input
    output }
  .ok (item, s)

def draft (home : Home) : List Endpoint → Drafts → Except Fault (List EndpointItem × Drafts)
  | [], s => .ok ([], s)
  | e :: rest, s => do
    let (item, s) ← (Place.endpoint e.name).locate (draftEndpoint home e s)
    let (items, s) ← draft home rest s
    .ok (item :: items, s)

def routesOf (endpoints : List EndpointItem) : List RouteItem :=
  endpoints.foldl (fun routes e => RouteItem.insert e routes) []

def ofEndpoints (moduleId : String) (es : List Endpoint) : Except Fault RestFile := do
  let (endpoints, s) ← draft ⟨moduleId, .sibling⟩ es ⟨ownNames, []⟩
  .ok ⟨endpoints, routesOf endpoints, s.records⟩

def uses : List (List Code) :=
  [[.line "use std::future::Future;", .line "use std::sync::Arc;"],
   [.line "use axum::Router;",
    .line "use axum::extract::Request;",
    .line "use axum::response::Response;",
    .line "use axum::routing::\x7bMethodFilter, on\x7d;",
    .line ("use eventkit_runtime::httpauth::\x7bMiddlewareChainMap, RequestContext, " ++
      "RouteError\x7d;")]]

def handlers (config : Config) (f : RestFile) : List Code :=
  [.line ("/// One method per endpoint of this module. A \x60Response\x60 error is sent as-is."),
   .item "pub trait Handlers: Send + Sync + 'static"
     (f.endpoints.flatMap (EndpointItem.signature config))]

def registerRoutes (config : Config) (f : RestFile) : List Code :=
  [.line "/// Build the router for every endpoint of this module.",
   .line "///",
   .line "/// Fails if an endpoint names a chain missing from \x60chains\x60.",
   .item ("pub fn register_routes<H: Handlers>(handlers: Arc<H>, " ++
       "chains: &MiddlewareChainMap) -> Result<Router, RouteError>")
     (f.endpoints.map (fun e =>
        .line ("let " ++ e.chainVar ++ " = chains.get(" ++ literal e.chain ++ ")?;")) ++
       [.empty,
        if f.routes.isEmpty then .line "let router = Router::new();"
        else .hanging "let router = Router::new()" (RouteItem.codes config f.routes),
        .line "Ok(router)"])]

def render (config : Config) (f : RestFile) : String :=
  Code.file Artifact.header
    (uses ++ f.records.map (Record.code config true) ++
      [f.handlers config, f.registerRoutes config])

end RestFile

end EventSchema.Backend
