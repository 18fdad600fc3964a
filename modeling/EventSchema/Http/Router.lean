import EventSchema.Http.Chain
import EventSchema.Schema.Declarations

/-!
Routers. A path decides the route and the method the endpoint; what a request asks for is looked at
by the endpoint only after its chain has let it pass.
-/

set_option autoImplicit false

namespace EventSchema.Http

/-- Answers a request that its chain has let pass, given the placeholders as sent. -/
abbrev Handler (σ : Type) := RequestContext → List String → Request → σ → Response × σ

/-- An endpoint before its chain is known. -/
structure Binding (σ : Type) where
  method : Method
  path : String
  chain : String
  handler : Handler σ

structure Guarded (σ : Type) where
  method : Method
  chain : Chain
  handler : Handler σ

structure Route (σ : Type) where
  path : String
  pattern : List PathPart
  endpoints : List (Guarded σ)

structure Router (σ : Type) where
  routes : List (Route σ)

/-- The placeholders of a path that fits the pattern. A placeholder takes all up to the next slash,
and there has to be something left when it starts. -/
def matchPath? : List PathPart → List Char → Option (List String)
  | [], [] => some []
  | [], _ :: _ => none
  | .static text :: rest, cs =>
    (Chain.stripStart? text.toList cs).bind (matchPath? rest)
  | .placeholder _ :: _, [] => none
  | .placeholder _ :: rest, c :: cs =>
    (matchPath? rest ((c :: cs).dropWhile (· != '/'))).map
      (String.ofList ((c :: cs).takeWhile (· != '/')) :: ·)

namespace Guarded

variable {σ : Type}

def serve (g : Guarded σ) (params : List String) (request : Request) (s : σ) : Response × σ :=
  match g.chain request.headers with
  | .error response => (response, s)
  | .ok context => g.handler context params request s

end Guarded

namespace Router

variable {σ : Type}

def insert (path : String) (pattern : List PathPart) (g : Guarded σ) :
    List (Route σ) → List (Route σ)
  | [] => [⟨path, pattern, [g]⟩]
  | r :: rest =>
    if r.path = path then { r with endpoints := r.endpoints ++ [g] } :: rest
    else r :: insert path pattern g rest

def guards (chains : ChainMap) (bindings : List (Binding σ)) :
    Except UnknownChain (List (Binding σ × Chain)) :=
  bindings.mapM fun b => (chains.chain b.chain).map (b, ·)

/-- The pattern of a declared path; one that is malformed fits nothing but itself. -/
def patternOf (path : String) : List PathPart :=
  match EventSchema.Route.parts path with
  | .ok parts => parts
  | .error _ => [.static path]

def register (chains : ChainMap) (bindings : List (Binding σ)) : Except UnknownChain (Router σ) :=
  (guards chains bindings).map fun guarded =>
    ⟨guarded.foldl (fun routes (b, chain) =>
      insert b.path (patternOf b.path) ⟨b.method, chain, b.handler⟩ routes) []⟩

def notFound : Response := .empty 404

def methodNotAllowed : Response := .empty 405

def find? (router : Router σ) (path : String) : Option (Route σ × List String) :=
  router.routes.findSome? fun r => (matchPath? r.pattern path.toList).map (r, ·)

def serve (router : Router σ) (request : Request) (s : σ) : Response × σ :=
  match router.find? request.path with
  | none => (notFound, s)
  | some (route, params) =>
    match route.endpoints.find? (·.method.text == request.method) with
    | some g => g.serve params request s
    | none =>
      if request.method = "HEAD" then
        match route.endpoints.find? (·.method == .get) with
        | some g =>
          let (response, s) := g.serve params request s
          (response.head, s)
        | none => (methodNotAllowed, s)
      else (methodNotAllowed, s)

end Router

/-- The path of a request target: what stands before a query or a fragment, and after the
authority if there is one. -/
def targetPath (target : String) : String :=
  let cs := target.toList.takeWhile fun c => c != '?' && c != '#'
  match cs with
  | '/' :: _ => String.ofList cs
  | _ =>
    match (cs.dropWhile (· != ':')) with
    | ':' :: '/' :: '/' :: rest =>
      match rest.dropWhile (· != '/') with
      | [] => "/"
      | path => String.ofList path
    | _ => ""

end EventSchema.Http
