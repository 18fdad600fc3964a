import EventSchema.Json.Writer

set_option autoImplicit false

namespace EventSchema.Http

structure Header where
  name : String
  value : String
deriving DecidableEq, Repr

abbrev Headers := List Header

namespace Headers

/-- Header names are compared without regard to case; of equal ones the first counts. -/
def get? (headers : Headers) (name : String) : Option String :=
  (headers.find? fun h => h.name.toLower == name.toLower).map Header.value

/-- Tabs and printable ASCII. -/
def isVisible (c : Char) : Bool :=
  c == '\t' || (decide (0x20 ≤ c.toNat) && decide (c.toNat ≤ 0x7e))

def text? (headers : Headers) (name : String) : Option String :=
  (headers.get? name).filter fun value => value.toList.all isVisible

end Headers

/-- What a request carries. Its bytes need not be text. -/
structure Body where
  bytes : List UInt8
deriving DecidableEq, Repr

namespace Body

def ofText (text : String) : Body := ⟨text.toUTF8.toList⟩

instance : Coe String Body := ⟨ofText⟩

def text? (b : Body) : Option String := String.fromUTF8? ⟨b.bytes.toArray⟩

def size (b : Body) : Nat := b.bytes.length

end Body

structure Request where
  method : String
  /-- The path as sent, without query. -/
  path : String
  headers : Headers
  body : Body
deriving DecidableEq, Repr

structure Response where
  status : Nat
  contentType : Option String
  body : String
deriving DecidableEq, Repr

namespace Response

def empty (status : Nat) : Response := ⟨status, none, ""⟩

def plain (status : Nat) (text : String) : Response :=
  ⟨status, some "text/plain; charset=utf-8", text⟩

def json (value : Json) : Response :=
  ⟨200, some "application/json", value.compact⟩

def head (r : Response) : Response := { r with body := "" }

end Response

end EventSchema.Http
