import EventSchema.Http.Message
import EventSchema.Registry
import EventSchema.Text.Blank

set_option autoImplicit false

namespace EventSchema.Http

structure RequestContext where
  user : Option String
deriving DecidableEq, Repr

def RequestContext.anonymous : RequestContext := ⟨none⟩

def RequestContext.authenticated (id : String) : RequestContext := ⟨some id⟩

abbrev Chain := Headers → Except Response RequestContext

namespace Chain

def publicAccess : Chain := fun _ => .ok .anonymous

def unauthorized : Response := .plain 401 "unauthorized"

def stripStart? (start : List Char) (cs : List Char) : Option (List Char) :=
  if start.isPrefixOf cs then some (cs.drop start.length) else none

/-- The token after the word `Bearer` and a blank. -/
def bearerToken? (headers : Headers) : Option String := do
  let value ← headers.text? "authorization"
  let token ← stripStart? "Bearer ".toList value.toList
  some (String.ofList (Text.trim token))

def bearer (verify : String → Option String) : Chain := fun headers =>
  match (bearerToken? headers).bind verify with
  | some id => .ok (.authenticated id)
  | none => .error unauthorized

end Chain

structure UnknownChain where
  name : String
deriving DecidableEq, Repr

def UnknownChain.message (fault : UnknownChain) : String :=
  "unknown middleware chain: " ++ fault.name

abbrev ChainMap := Registry Chain

def ChainMap.chain (chains : ChainMap) (name : String) : Except UnknownChain Chain :=
  match chains.get? name with
  | some chain => .ok chain
  | none => .error ⟨name⟩

end EventSchema.Http
