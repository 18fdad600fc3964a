import EventSchema.Naming.Identifier
import EventSchema.Schema.Fault
import EventSchema.Text.Ranges

/-!
Paths of endpoints. A path is a slash and segments between slashes; a segment is plain text or one
placeholder in braces, and only the last one may be empty. Parsing gives the placeholders and the
text between them, slashes included.
-/

set_option autoImplicit false

namespace EventSchema

inductive PathPart where
  | static (text : String)
  | placeholder (name : String)
deriving DecidableEq, Repr

def PathPart.placeholder? : PathPart → Option String
  | .placeholder name => some name
  | .static _ => none

namespace Route

def isPlain (c : Char) : Bool :=
  c.isAlphanum || c == '-' || c == '.' || c == '_' || c == '~'

/-- What stands between the braces of a segment that is all one pair of braces. -/
def braced? : List Char → Option (List Char)
  | '\x7b' :: rest =>
    match rest.reverse with
    | '\x7d' :: inner => some inner.reverse
    | _ => none
  | _ => none

def flawOf (c : Char) : PathFlaw :=
  if c = '\x7b' ∨ c = '\x7d' then .partialPlaceholder
  else if c = '?' then .queryString
  else .badCharacter c

def placeholderOf (segment : List Char) : Except PathFlaw (Option (List Char)) :=
  match braced? segment with
  | some inner => if Naming.isIdentifierText inner then .ok (some inner) else .error .badPlaceholder
  | none =>
    match segment.find? (! isPlain ·) with
    | some c => .error (flawOf c)
    | none => .ok none

def partsFrom (pending : List Char) : List (List Char) → Except PathFlaw (List PathPart)
  | [] => .ok (if pending.isEmpty then [] else [.static (String.ofList pending)])
  | segment :: rest =>
    if segment.isEmpty && !rest.isEmpty then .error .emptySegment
    else
      let slash := if rest.isEmpty then [] else ['/']
      match placeholderOf segment with
      | .error flaw => .error flaw
      | .ok (some name) =>
        (partsFrom slash rest).map fun parts =>
          .static (String.ofList pending) :: .placeholder (String.ofList name) :: parts
      | .ok none => partsFrom (pending ++ segment ++ slash) rest

def partsOfText : List Char → Except PathFlaw (List PathPart)
  | '/' :: rest => partsFrom ['/'] (Text.splitAt (· == '/') rest)
  | _ => .error .noLeadingSlash

def parts (path : String) : Except Fault (List PathPart) :=
  (partsOfText path.toList).mapError (.malformedPath path)

def placeholders (path : String) : Except Fault (List String) :=
  (parts path).map (·.filterMap PathPart.placeholder?)

/-- A part with the name of a placeholder left out: what a router can tell apart. -/
def PathPart.skeleton : PathPart → String
  | .static text => text
  | .placeholder _ => "\x7b\x7d"

def skeleton (path : String) : Except Fault String :=
  (parts path).map fun ps => String.join (ps.map PathPart.skeleton)

end Route

end EventSchema
