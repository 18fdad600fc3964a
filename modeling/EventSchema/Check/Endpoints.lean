import EventSchema.Check.Datatype
import EventSchema.Frontend.Projection

set_option autoImplicit false

namespace EventSchema.Check

/-- Parameters of every generated handler and call. -/
def reservedPlaceholders : List String := ["rctx", "input", "body", "options", "self"]

/-- Names that the bodies of the generated client refer to. -/
def clientBodyNames : List String :=
  ["fetch", "res", "encodeURIComponent", "JSON", "ApiError", "defaultErrorHandler", "alert",
   "Error", "String"]

def isFreePlaceholder (name : String) : Bool :=
  !reservedPlaceholders.contains name && !clientBodyNames.contains name &&
    !Frontend.isReserved name

def payload (s : SchemaSet) (m : SchemaModule) (place : Place) :
    Option Datatype → Except Fault Unit
  | some dt => place.locate (datatype s m dt)
  | none => .ok ()

def endpoint (s : SchemaSet) (m : SchemaModule) (e : Endpoint) : Except Fault Unit := do
  ensure (isBindable e.name) (.invalidIdentifier e.name .endpointName)
  ensure (!clientBodyNames.contains e.name) (.invalidIdentifier e.name .clientName)
  ensure (!e.chain.isEmpty) (.unsupported .emptyChain)
  let names ← Route.placeholders e.path
  unique .placeholder names
  uniqueIdents names
  names.forM fun name =>
    ensure (isFreePlaceholder name) (.invalidIdentifier name .reservedPlaceholder)
  payload s m .consumes e.consumes
  payload s m .produces e.produces

/-- The routes so far: methods with paths, and paths by their skeleton. -/
structure Routes where
  taken : List (Method × String) := []
  skeletons : List (String × String) := []

/-- Adds a route; two paths that differ in the names of placeholders only cannot be told apart. -/
def Routes.add (routes : Routes) (e : Endpoint) : Except Fault Routes :=
  if routes.taken.contains (e.method, e.path) then
    .error (.duplicate .route (e.method.text ++ " " ++ e.path))
  else match Route.skeleton e.path with
    | .error fault => .error fault
    | .ok skeleton =>
      match routes.skeletons.lookup skeleton with
      | some other =>
        if other = e.path then .ok { routes with taken := (e.method, e.path) :: routes.taken }
        else .error (.malformedPath e.path (.conflict other))
      | none => .ok ⟨(e.method, e.path) :: routes.taken, (skeleton, e.path) :: routes.skeletons⟩

def endpointsFrom (s : SchemaSet) (m : SchemaModule) (routes : Routes) :
    List Endpoint → Except Fault Unit
  | [] => .ok ()
  | e :: rest => do
    (Place.endpoint e.name).locate (endpoint s m e)
    endpointsFrom s m (← routes.add e) rest

def endpoints (s : SchemaSet) (m : SchemaModule) : Except Fault Unit := do
  let names := m.types.endpoints.map Endpoint.name
  unique .endpoint names
  unique .endpoint (names.map Naming.snake)
  endpointsFrom s m {} m.types.endpoints

def clientExports (d : Declarations) : List String :=
  [Frontend.datetimeAlias, "ApiError", "defaultErrorHandler"] ++ d.constants.map Constant.key ++
    d.types.map NamedType.name ++
    d.enums.flatMap (fun e => [e.name, e.name ++ "Exhaustive" ++ e.digest]) ++
    d.endpoints.flatMap fun e => [e.name, e.name ++ "Url"]

def exports (d : Declarations) : Except Fault Unit :=
  unique .clientExport (clientExports d)

end EventSchema.Check
