import EventSchema.Naming.Words

set_option autoImplicit false

namespace EventSchema

inductive CrudNature where
  | create
  | update
  | delete
deriving DecidableEq, Repr

def CrudNature.all : List CrudNature := [.create, .update, .delete]

def CrudNature.text : CrudNature → String
  | .create => "create"
  | .update => "update"
  | .delete => "delete"

inductive FieldKind where
  | text
  | multiline
  | password
  | checkbox
  | integer
deriving DecidableEq, Repr

namespace FieldKind

def all : List FieldKind := [.text, .multiline, .password, .checkbox, .integer]

def label : FieldKind → String
  | .text => "text"
  | .multiline => "multiline"
  | .password => "password"
  | .checkbox => "checkbox"
  | .integer => "integer"

def isString : FieldKind → Bool
  | .text | .multiline | .password => true
  | .checkbox | .integer => false

def defaultMaxLength : FieldKind → Option Nat
  | .text => some 128
  | .password => some 1024
  | .multiline => some 4096
  | .checkbox | .integer => none

end FieldKind

structure CommandField where
  key : String
  title : Option String
  kind : FieldKind
  optional : Bool
  maxLength : Option Nat
  pattern : Option String
  placeholder : Option String
  help : Option String
  hideIfDefault : Bool
deriving DecidableEq, Repr

namespace CommandField

def shownTitle (f : CommandField) : String := f.title.getD f.key

/-- The declared limit or that of the kind, for strings only. -/
def effectiveMaxLength (f : CommandField) : Option Nat :=
  if f.kind.isString then f.maxLength.or f.kind.defaultMaxLength else none

end CommandField

structure Command where
  key : String
  title : String
  chain : String
  crudNature : Option CrudNature
  confirmation : Option String
  fields : List CommandField
deriving DecidableEq, Repr

namespace Command

def structName (c : Command) : String := Naming.pascal c.key

def handlerMethod (c : Command) : String := Naming.snake c.key

end Command

end EventSchema
