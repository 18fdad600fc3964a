import EventSchema.Backend.Identifier
import EventSchema.Backend.TypeExpr

/-!
Drafting the records of one Rust file. A datatype becomes a type, and each inline object on the way
a record named after its owner and field. A name is reserved before its fields are looked at, and
its record is added after the records of its fields; what was added stays, also when a later part
fails.
-/

set_option autoImplicit false

namespace EventSchema.Backend

/-- The file that a type is written in. -/
inductive Site where
  | types
  | sibling
deriving DecidableEq, Repr

structure Home where
  moduleId : String
  site : Site

/-- Names in use and records so far, in order. -/
structure Drafts where
  taken : List String
  records : List Record := []

namespace Home

def ofRef (home : Home) (r : CustomRef) : TypeExpr :=
  match r.foreign? home.moduleId with
  | some module => .foreign module r.name
  | none => match home.site with
    | .types => .here r.name
    | .sibling => .sibling r.name

end Home

namespace Drafts

/-- Reserves a name, drafts its fields, and adds the record. -/
def declare (name : String)
    (drawUp : Drafts → Except Fault (List RecordField) × Drafts) (s : Drafts) :
    Except Fault Unit × Drafts :=
  if s.taken.contains name then (.error (.duplicate .generatedType name), s)
  else match drawUp { s with taken := name :: s.taken } with
    | (.error fault, s) => (.error fault, s)
    | (.ok fields, s) => (.ok (), { s with records := s.records ++ [⟨name, fields⟩] })

mutual

/-- The type of a datatype; an object becomes a record named `owner`. -/
def project (home : Home) (owner : String) : Datatype → Drafts → Except Fault TypeExpr × Drafts
  | .node name of fields nullable, s =>
    match Datatype.formOf name of.isSome fields.isSome with
    | .error flaw => (.error (.malformedDatatype name flaw), s)
    | .ok (.primitive p) => (.ok (.withNull nullable (.ofPrimitive p)), s)
    | .ok (.custom r) => (.ok (.withNull nullable (home.ofRef r)), s)
    | .ok .list =>
      match projectItem home owner of s with
      | (.error fault, s) => (.error fault, s)
      | (.ok item, s) => (.ok (.withNull nullable (.list item)), s)
    | .ok .object =>
      match declare owner (projectObject home owner fields) s with
      | (.error fault, s) => (.error fault, s)
      | (.ok _, s) => (.ok (.withNull nullable (.record owner)), s)

def projectItem (home : Home) (owner : String) :
    Option Datatype → Drafts → Except Fault TypeExpr × Drafts
  | some dt, s => project home owner dt s
  | none, s => (.error (.malformedDatatype "list" .listNeedsOf), s)

def projectObject (home : Home) (owner : String) :
    Option (List (String × Datatype)) → Drafts → Except Fault (List RecordField) × Drafts
  | some fields, s => projectFields home owner fields s
  | none, s => (.error (.malformedDatatype "object" .objectNeedsFields), s)

def projectFields (home : Home) (owner : String) :
    List (String × Datatype) → Drafts → Except Fault (List RecordField) × Drafts
  | [], s => (.ok [], s)
  | (key, dt) :: rest, s =>
    match fieldIdent? key with
    | none => (.error (.invalidIdentifier key .fieldKey), s)
    | some ident =>
      match project home (owner ++ Naming.pascal key) dt s with
      | (.error fault, s) => (.error fault, s)
      | (.ok type, s) =>
        match projectFields home owner rest s with
        | (.error fault, s) => (.error fault, s)
        | (.ok fields, s) => (.ok (⟨ident, key, type⟩ :: fields), s)

end

def record (home : Home) (name : String) (fields : List (String × Datatype)) (s : Drafts) :
    Except Fault Unit × Drafts :=
  declare name (projectFields home name fields) s

end Drafts

end EventSchema.Backend
