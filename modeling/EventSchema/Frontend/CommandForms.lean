import EventSchema.Artifact
import EventSchema.Frontend.Module
import EventSchema.Schema.Command

set_option autoImplicit false

namespace EventSchema.Frontend.CommandForms

def stringUnion (values : List String) : TypeExpr :=
  .union (values.map .literal)

def property (name : String) (type : TypeExpr) : PropertyName × TypeExpr :=
  (⟨name, false⟩, type)

def fieldDefinitions : TypeExpr := .array (.named "CommandFieldDefinition")

def sharedTypes : List TypeDef :=
  [⟨"CommandFieldKind", .alias (stringUnion (FieldKind.all.map FieldKind.label))⟩,
   ⟨"CrudNature", .alias (stringUnion (CrudNature.all.map CrudNature.text))⟩,
   ⟨"CommandFieldDefinition", .interface
     [property "key" .string,
      property "title" .string,
      property "kind" (.named "CommandFieldKind"),
      property "optional" .boolean,
      property "maxLength" TypeExpr.number.orNull,
      property "validationRegex" TypeExpr.string.orNull,
      property "placeholder" TypeExpr.string.orNull,
      property "help" TypeExpr.string.orNull,
      property "hideIfDefaultValue" .boolean]⟩,
   ⟨"CommandDefinition", .interface
     [property "key" .string,
      property "title" .string,
      property "chain" .string,
      property "crudNature" (TypeExpr.named "CrudNature").orNull,
      property "additionalConfirmation" TypeExpr.string.orNull,
      property "fields" fieldDefinitions,
      property "prefill" (.record .string (.primitive .unknown))]⟩]

def valuesName (c : Command) : String := c.structName ++ "Values"

def valueType : FieldKind → TypeExpr
  | .text | .multiline | .password => .string
  | .checkbox => .boolean
  | .integer => .number

def valuesInterface (c : Command) : TypeDef :=
  ⟨valuesName c, .interface (c.fields.map fun f => property f.key (valueType f.kind))⟩

/-- The limit as a literal; one that a signed number of 64 bits cannot hold is not shown. -/
def limit : Option Nat → Expr
  | some n => if n < Nat.pow 2 63 then .literal (.int n) else .literal .null
  | none => .literal .null

def fieldDefinition (f : CommandField) : Expr :=
  .object
    [("key", .string f.key),
     ("title", .string f.shownTitle),
     ("kind", .string f.kind.label),
     ("optional", .literal (.bool f.optional)),
     ("maxLength", limit f.effectiveMaxLength),
     ("validationRegex", .optString f.pattern),
     ("placeholder", .optString f.placeholder),
     ("help", .optString f.help),
     ("hideIfDefaultValue", .literal (.bool f.hideIfDefault))]

def definition (c : Command) : Expr :=
  .objectBlock
    [("key", .string c.key),
     ("title", .string c.title),
     ("chain", .string c.chain),
     ("crudNature", .optString (c.crudNature.map CrudNature.text)),
     ("additionalConfirmation", .optString c.confirmation),
     ("fields", .ident "fields"),
     ("prefill", .ident "prefill")] 1

def factory (c : Command) : Function where
  name := c.structName
  form := .arrow
  params := [⟨"prefill", .named ("Partial<" ++ valuesName c ++ ">"), false, some (.object [])⟩]
  result := some (.named "CommandDefinition")
  body :=
    [.const "fields" (some fieldDefinitions) (.arrayBlock (c.fields.map fieldDefinition) 1),
     .return (some (definition c))]

def table (cs : List Command) : ConstDef where
  name := "commandDefinitions"
  type := some (.record .string (.named "() => CommandDefinition"))
  value := .objectBlock (cs.map fun c => (c.key, .thunk (.call c.structName []))) 0

def ofCommands (cs : List Command) : Module where
  header := Artifact.header
  types := sharedTypes ++ cs.map valuesInterface
  functions := cs.map factory
  trailer := [table cs]

end EventSchema.Frontend.CommandForms
