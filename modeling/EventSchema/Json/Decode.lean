import EventSchema.Json.Value

/-!
Decoding values into records. A record is an object of named fields, none of them given twice, or
an array of its fields in order, where fields at the end may be missing.
-/

set_option autoImplicit false

namespace EventSchema.Json

def text? : Json → Option String
  | .str s => some s
  | _ => none

def flag? : Json → Option Bool
  | .bool b => some b
  | _ => none

def natural? : Json → Option Nat
  | .num (.natural n) => some n
  | _ => none

def integer? : Json → Option Int
  | .num (.natural n) => if n < Nat.pow 2 63 then some n else none
  | .num (.negative n) => some (-(n : Int))
  | _ => none

def ofInt : Int → Json
  | .ofNat n => .num (.natural n)
  | .negSucc n => .num (.negative (n + 1))

def list? {α : Type} (item? : Json → Option α) : Json → Option (List α)
  | .arr items => items.mapM item?
  | _ => none

/-- One of some names: the name itself, or an object that maps it to null. -/
def variant? {α : Type} (variants : List (String × α)) : Json → Option α
  | .str s => variants.lookup s
  | .obj [(s, .null)] => variants.lookup s
  | _ => none

/-- The values of the named fields, in the order of the names. A strict record has no other
fields. -/
def record? (strict : Bool) (names : List String) : Json → Option (List (Option Json))
  | .obj members =>
    let known := (members.map Prod.fst).filter names.contains
    if strict && members.any (fun member => !names.contains member.1) then none
    else if (Text.firstRepeat known).isSome then none
    else some (names.map fun name => members.lookup name)
  | .arr items =>
    if items.length ≤ names.length then
      some (items.map some ++ List.replicate (names.length - items.length) none)
    else none
  | _ => none

/-- Like `record?`, but an array has to hold all fields. -/
def exactRecord? (strict : Bool) (names : List String) : Json → Option (List (Option Json))
  | .arr items => if items.length = names.length then some (items.map some) else none
  | value => record? strict names value

def required? {α : Type} (decode? : Json → Option α) : Option Json → Option α
  | some value => decode? value
  | none => none

def defaulted? {α : Type} (decode? : Json → Option α) (default : α) : Option Json → Option α
  | some value => decode? value
  | none => some default

/-- Absent and null mean the same. -/
def optional? {α : Type} (decode? : Json → Option α) : Option Json → Option (Option α)
  | none => some none
  | some .null => some none
  | some value => (decode? value).map some

end EventSchema.Json
