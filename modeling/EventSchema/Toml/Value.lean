set_option autoImplicit false

namespace EventSchema.Toml

/-- Numbers with a point and moments are kept as they are spelled. -/
inductive Value where
  | text (content : String)
  | integer (value : Int)
  | float (spelling : String)
  | boolean (value : Bool)
  | moment (spelling : String)
  | list (items : List Value)
  | table (members : List (List String × Value))
deriving Repr

inductive Statement where
  | header (key : List String)
  | entry (key : List String) (value : Value)
deriving Repr

/-- Lists and inline tables nest less deeply than this, and keys have fewer names. -/
def depthLimit : Nat := 80

def keysApart (key other : List String) : Bool :=
  !key.isPrefixOf other && !other.isPrefixOf key

/-- Whether each key has a place of its own: none is part of another one. -/
def areApart : List (List String) → Bool
  | [] => true
  | key :: keys => keys.all (keysApart key) && areApart keys

end EventSchema.Toml
