import EventSchema.Digest
import EventSchema.Naming.Words
import EventSchema.Schema.Datatype
import EventSchema.Schema.Route

set_option autoImplicit false

namespace EventSchema

structure Constant where
  key : String
  value : String
deriving DecidableEq, Repr

/-- A member of an enum: the exported key and the string on the wire. -/
structure EnumMember where
  key : String
  value : String
deriving DecidableEq, Repr

structure Enumeration where
  name : String
  values : List String
deriving DecidableEq, Repr

namespace Enumeration

def members (e : Enumeration) : List EnumMember :=
  e.values.map fun value => ⟨Naming.pascal value, value⟩

/-- One line per member, the text that the digest is taken of. -/
def memberLines (members : List EnumMember) : String :=
  String.join (members.map fun m => m.key ++ "=" ++ m.value ++ "\n")

def digest (e : Enumeration) : String :=
  String.ofList ((Digest.sha256 (memberLines e.members).toUTF8.toList).toList.take 8)

end Enumeration

structure NamedType where
  name : String
  type : Datatype
deriving DecidableEq, Repr

inductive Method where
  | get
  | post
  | put
  | patch
  | delete
deriving DecidableEq, Repr

def Method.text : Method → String
  | .get => "GET"
  | .post => "POST"
  | .put => "PUT"
  | .patch => "PATCH"
  | .delete => "DELETE"

structure Endpoint where
  method : Method
  path : String
  name : String
  chain : String
  description : Option String
  consumes : Option Datatype
  produces : Option Datatype
deriving DecidableEq, Repr

structure Declarations where
  constants : List Constant := []
  enums : List Enumeration := []
  types : List NamedType := []
  endpoints : List Endpoint := []
deriving DecidableEq, Repr

namespace Declarations

def findType? (d : Declarations) (name : String) : Option NamedType :=
  d.types.find? (·.name == name)

def findEnum? (d : Declarations) (name : String) : Option Enumeration :=
  d.enums.find? (·.name == name)

def declares (d : Declarations) (name : String) : Bool :=
  (d.findType? name).isSome || (d.findEnum? name).isSome

/-- Roots of what clients see: named types, then what endpoints take and give. -/
def datatypes (d : Declarations) : List Datatype :=
  d.types.map NamedType.type ++
    d.endpoints.flatMap fun e => e.consumes.toList ++ e.produces.toList

end Declarations

end EventSchema
