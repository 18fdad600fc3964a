import EventSchema.Json.Decode
import EventSchema.Naming.Identifier
import EventSchema.Schema.Fault

/-!
Datatypes of the schema language. A node has a name and may have an element type, fields and a
nullable mark; its name and which of the two parts are present decide its form.
-/

set_option autoImplicit false

namespace EventSchema

inductive Datatype where
  | node (name : String) (of : Option Datatype) (fields : Option (List (String × Datatype)))
    (nullable : Bool)
deriving Repr

inductive Primitive where
  | string
  | boolean
  | integer
  | datetime
deriving DecidableEq, Repr

def Primitive.text : Primitive → String
  | .string => "string"
  | .boolean => "boolean"
  | .integer => "integer"
  | .datetime => "datetime"

structure CustomRef where
  module : Option String
  name : String
deriving DecidableEq, Repr

namespace CustomRef

def isLocalTo (r : CustomRef) (moduleId : String) : Bool :=
  r.module.all (· == moduleId)

def foreign? (r : CustomRef) (moduleId : String) : Option String :=
  r.module.filter (· != moduleId)

def ofName? (name : String) : Option CustomRef :=
  match name.toList.span (· != '.') with
  | (_, []) => if Naming.isIdentifier name then some ⟨none, name⟩ else none
  | (before, _ :: after) =>
    if Naming.isIdentifierText before && Naming.isIdentifierText after then
      some ⟨some (String.ofList before), String.ofList after⟩
    else none

end CustomRef

inductive Form where
  | primitive (p : Primitive)
  | list
  | object
  | custom (r : CustomRef)
deriving DecidableEq, Repr

inductive Shape where
  | primitive (p : Primitive)
  | list (of : Datatype)
  | object (fields : List (String × Datatype))
  | custom (r : CustomRef)

namespace Datatype

def name : Datatype → String
  | .node name _ _ _ => name

def of : Datatype → Option Datatype
  | .node _ of _ _ => of

def fields : Datatype → Option (List (String × Datatype))
  | .node _ _ fields _ => fields

def nullable : Datatype → Bool
  | .node _ _ _ nullable => nullable

def named (name : String) : Datatype := .node name none none false

/-- The form that a name takes, given whether there is an element type and whether there are
fields. -/
def formOf (name : String) (hasOf hasFields : Bool) : Except DatatypeFlaw Form :=
  if name = "list" then
    if !hasOf then .error .listNeedsOf
    else if hasFields then .error .listHasFields
    else .ok .list
  else if name = "object" then
    if !hasFields then .error .objectNeedsFields
    else if hasOf then .error .objectHasOf
    else .ok .object
  else if hasOf then .error .onlyListHasOf
  else if hasFields then .error .onlyObjectHasFields
  else if name = "string" then .ok (.primitive .string)
  else if name = "boolean" then .ok (.primitive .boolean)
  else if name = "integer" then .ok (.primitive .integer)
  else if name = "datetime" then .ok (.primitive .datetime)
  else match CustomRef.ofName? name with
    | some r => .ok (.custom r)
    | none => .error .notAName

def form (dt : Datatype) : Except DatatypeFlaw Form :=
  formOf dt.name dt.of.isSome dt.fields.isSome

def flaw (dt : Datatype) (f : DatatypeFlaw) : Fault := .malformedDatatype dt.name f

def shape (dt : Datatype) : Except Fault Shape :=
  match dt.form, dt.of, dt.fields with
  | .error f, _, _ => .error (dt.flaw f)
  | .ok (.primitive p), _, _ => .ok (.primitive p)
  | .ok (.custom r), _, _ => .ok (.custom r)
  | .ok .list, some of, _ => .ok (.list of)
  | .ok .list, none, _ => .error (dt.flaw .listNeedsOf)
  | .ok .object, _, some fields => .ok (.object fields)
  | .ok .object, _, none => .error (dt.flaw .objectNeedsFields)

def customRef? (dt : Datatype) : Option CustomRef :=
  match dt.form with
  | .ok (.custom r) => some r
  | _ => none

def isCustom (dt : Datatype) : Bool := dt.customRef?.isSome

mutual

/-- The node and all nodes below it, each before the ones below it. -/
def walk : Datatype → List Datatype
  | .node name of fields nullable =>
    .node name of fields nullable :: (walkOf of ++ walkFields fields)

def walkOf : Option Datatype → List Datatype
  | none => []
  | some dt => walk dt

def walkFields : Option (List (String × Datatype)) → List Datatype
  | none => []
  | some fields => walkList fields

def walkList : List (String × Datatype) → List Datatype
  | [] => []
  | (_, dt) :: rest => walk dt ++ walkList rest

end

mutual

def same : Datatype → Datatype → Bool
  | .node m o f b, .node n p g c => m == n && sameOf o p && sameFields f g && b == c

def sameOf : Option Datatype → Option Datatype → Bool
  | none, none => true
  | some a, some b => same a b
  | _, _ => false

def sameFields : Option (List (String × Datatype)) → Option (List (String × Datatype)) → Bool
  | none, none => true
  | some as, some bs => sameList as bs
  | _, _ => false

def sameList : List (String × Datatype) → List (String × Datatype) → Bool
  | [], [] => true
  | (j, a) :: as, (k, b) :: bs => j == k && same a b && sameList as bs
  | _, _ => false

end

mutual

theorem same_iff (a b : Datatype) : same a b = true ↔ a = b := by
  match a, b with
  | .node m o f b, .node n p g c =>
    simp [same, sameOf_iff o p, sameFields_iff f g, and_assoc]

theorem sameOf_iff (a b : Option Datatype) : sameOf a b = true ↔ a = b := by
  match a, b with
  | none, none => simp [sameOf]
  | none, some _ => simp [sameOf]
  | some _, none => simp [sameOf]
  | some a, some b => simp [sameOf, same_iff a b]

theorem sameFields_iff (a b : Option (List (String × Datatype))) :
    sameFields a b = true ↔ a = b := by
  match a, b with
  | none, none => simp [sameFields]
  | none, some _ => simp [sameFields]
  | some _, none => simp [sameFields]
  | some a, some b => simp [sameFields, sameList_iff a b]

theorem sameList_iff (as bs : List (String × Datatype)) : sameList as bs = true ↔ as = bs := by
  match as, bs with
  | [], [] => simp [sameList]
  | [], b :: bs => simp [sameList]
  | a :: as, [] => simp [sameList]
  | (j, a) :: as, (k, b) :: bs =>
    simp [sameList, same_iff a b, sameList_iff as bs, and_assoc]

end

instance : DecidableEq Datatype := fun a b => decidable_of_iff _ (same_iff a b)

structure Parts where
  name : Option String := none
  of : Option (Option Datatype) := none
  fields : Option (Option (List (String × Datatype))) := none
  nullable : Option Bool := none

def Parts.finish? (p : Parts) : Option Datatype := do
  let name ← p.name
  some (.node name (p.of.getD none) (p.fields.getD none) (p.nullable.getD false))

mutual

def ofPart? : Json → Option (Option Datatype)
  | .null => some none
  | .obj members => ((partsOf? members).bind Parts.finish?).map some
  | .arr [.str name] => some (some (.node name none none false))
  | .arr [.str name, of] => do some (some (.node name (← ofPart? of) none false))
  | .arr [.str name, of, fields] => do
    some (some (.node name (← ofPart? of) (← fieldsPart? fields) false))
  | .arr [.str name, of, fields, .bool nullable] => do
    some (some (.node name (← ofPart? of) (← fieldsPart? fields) nullable))
  | _ => none

def fieldsPart? : Json → Option (Option (List (String × Datatype)))
  | .null => some none
  | .obj members => (fieldList? members).map fun fields => some (Text.sortKeys fields)
  | _ => none

def fieldList? : List (String × Json) → Option (List (String × Datatype))
  | [] => some []
  | (key, value) :: rest => do
    let dt ← ← ofPart? value
    let fields ← fieldList? rest
    some ((key, dt) :: fields)

/-- Reads the members of a node from the last to the first; none may be given twice. -/
def partsOf? : List (String × Json) → Option Parts
  | [] => some {}
  | (key, value) :: rest => do
    let parts ← partsOf? rest
    if key = "_" then
      match parts.name, value with
      | none, .str name => some { parts with name := some name }
      | _, _ => none
    else if key = "of" then
      match parts.of with
      | none => some { parts with of := some (← ofPart? value) }
      | some _ => none
    else if key = "fields" then
      match parts.fields with
      | none => some { parts with fields := some (← fieldsPart? value) }
      | some _ => none
    else if key = "nullable" then
      match parts.nullable, value with
      | none, .bool b => some { parts with nullable := some b }
      | _, _ => none
    else none

end

def ofJson? (value : Json) : Option Datatype := do
  (← ofPart? value)

mutual

def toJson : Datatype → Json
  | .node name of fields nullable =>
    .obj (("_", .str name) :: (ofMembers of ++ fieldMembers fields ++
      if nullable then [("nullable", .bool true)] else []))

def ofMembers : Option Datatype → List (String × Json)
  | none => []
  | some dt => [("of", toJson dt)]

def fieldMembers : Option (List (String × Datatype)) → List (String × Json)
  | none => []
  | some fields => [("fields", .obj (fieldValues fields))]

def fieldValues : List (String × Datatype) → List (String × Json)
  | [] => []
  | (key, dt) :: rest => (key, toJson dt) :: fieldValues rest

end

end Datatype

end EventSchema
