import EventSchema.Text.Quoted

set_option autoImplicit false

namespace EventSchema

inductive DatatypeFlaw where
  | listNeedsOf
  | listHasFields
  | objectNeedsFields
  | objectHasOf
  | onlyListHasOf
  | onlyObjectHasFields
  | notAName
  | namedTypeNotObject
deriving DecidableEq, Repr

def DatatypeFlaw.text : DatatypeFlaw → String
  | .listNeedsOf => "list requires \"of\""
  | .listHasFields => "list cannot have \"fields\""
  | .objectNeedsFields => "object requires \"fields\""
  | .objectHasOf => "object cannot have \"of\""
  | .onlyListHasOf => "only list can have \"of\""
  | .onlyObjectHasFields => "only object can have \"fields\""
  | .notAName => "not a primitive or a type name"
  | .namedTypeNotObject => "named types must be objects"

inductive PathFlaw where
  | noLeadingSlash
  | emptySegment
  | badPlaceholder
  | partialPlaceholder
  | queryString
  | badCharacter (c : Char)
  | conflict (other : String)
deriving DecidableEq, Repr

def PathFlaw.text : PathFlaw → String
  | .noLeadingSlash => "must start with '/'"
  | .emptySegment => "empty path segment"
  | .badPlaceholder => "placeholder must be \x7bidentifier\x7d"
  | .partialPlaceholder => "placeholder must fill a whole segment"
  | .queryString => "query strings are not supported"
  | .badCharacter c => "unsupported character " ++ Text.Quoted.char c
  | .conflict other => "conflicts with " ++ other

inductive NameRule where
  | moduleId
  | fieldKey
  | placeholderIdent
  | typeName
  | preludeType
  | discriminator
  | constantKey
  | enumMember
  | endpointName
  | clientName
  | reservedPlaceholder
  | reservedGenerated
deriving DecidableEq, Repr

def NameRule.text : NameRule → String
  | .moduleId => "module ids must match [a-z][a-z0-9_]* and not be a keyword"
  | .fieldKey => "field keys must map to a Rust identifier"
  | .placeholderIdent => "placeholders must map to a Rust identifier"
  | .typeName => "type names must be PascalCase identifiers"
  | .preludeType => "shadows a prelude type"
  | .discriminator => "keys must be dot-separated identifiers"
  | .constantKey => "constant keys must be identifiers"
  | .enumMember => "enum members must map to an identifier"
  | .endpointName => "endpoint names must be identifiers"
  | .clientName => "name is used by the generated client"
  | .reservedPlaceholder => "reserved placeholder name"
  | .reservedGenerated => "maps to a reserved generated name"

inductive Kind where
  | constant
  | enumeration
  | enumMember
  | enumMemberKey
  | type
  | typeOrEnum
  | endpoint
  | route
  | placeholder
  | field
  | clientExport
  | command
  | commandStruct
  | event
  | eventStruct
  | generatedType
deriving DecidableEq, Repr

def Kind.text : Kind → String
  | .constant => "constant"
  | .enumeration => "enum"
  | .enumMember => "enum member"
  | .enumMemberKey => "enum member key"
  | .type => "type"
  | .typeOrEnum => "type or enum"
  | .endpoint => "endpoint"
  | .route => "route"
  | .placeholder => "placeholder"
  | .field => "field"
  | .clientExport => "TypeScript export"
  | .command => "command"
  | .commandStruct => "command struct"
  | .event => "event"
  | .eventStruct => "event struct"
  | .generatedType => "generated type"

inductive Unsupported where
  | emptyEnum
  | emptyChain
  | textRulesOn (kind : String)
  | localClash (reference name : String)
  | foreignClash (reference other name : String)
deriving DecidableEq, Repr

def Unsupported.text : Unsupported → String
  | .emptyEnum => "enum must have at least one member"
  | .emptyChain => "middleware chain name is empty"
  | .textRulesOn kind => "maxLength and validationRegex only apply to string fields, not " ++ kind
  | .localClash reference name => reference ++ " clashes with the local declaration " ++ name
  | .foreignClash reference other name => reference ++ " clashes with " ++ other ++ "." ++ name

structure TypeRef where
  module : String
  name : String
deriving DecidableEq, Repr

def TypeRef.text (r : TypeRef) : String := r.module ++ "." ++ r.name

inductive Place where
  | field (key : String)
  | enumeration (name : String)
  | type (name : String)
  | endpoint (name : String)
  | consumes
  | produces
  | command (name : String)
  | commandField (name key : String)
  | event (name : String)
  | eventField (name key : String)
deriving DecidableEq, Repr

def Place.text : Place → String
  | .field key => "field " ++ key
  | .enumeration name => "enum " ++ name
  | .type name => "type " ++ name
  | .endpoint name => "endpoint " ++ name
  | .consumes => "consumes"
  | .produces => "produces"
  | .command name => "command " ++ name
  | .commandField name key => "command " ++ name ++ " field " ++ key
  | .event name => "event " ++ name
  | .eventField name key => "event " ++ name ++ " field " ++ key

inductive Fault where
  | duplicate (kind : Kind) (name : String)
  | unknownType (name : String)
  | malformedDatatype (name : String) (flaw : DatatypeFlaw)
  | malformedPath (path : String) (flaw : PathFlaw)
  | invalidPattern (pattern : String)
  /-- The trail starts and ends at the type. -/
  | valueCycle (name : String) (trail : List TypeRef)
  | invalidIdentifier (name : String) (rule : NameRule)
  | unsupported (cause : Unsupported)
  | within (place : Place) (fault : Fault)
deriving DecidableEq, Repr

namespace Fault

def root : Fault → Fault
  | .within _ fault => fault.root
  | fault => fault

/-- The wording; what the pattern reader says of a bad pattern is not part of it. -/
def message : Fault → String
  | .duplicate kind name => "duplicate " ++ kind.text ++ " " ++ Text.Quoted.text name
  | .unknownType name => "unknown type " ++ Text.Quoted.text name
  | .malformedDatatype name flaw =>
    "malformed datatype " ++ Text.Quoted.text name ++ ": " ++ flaw.text
  | .malformedPath path flaw => "malformed path " ++ Text.Quoted.text path ++ ": " ++ flaw.text
  | .invalidPattern pattern => "invalid pattern " ++ Text.Quoted.text pattern ++ ": <regex error>"
  | .valueCycle name trail =>
    "type " ++ Text.Quoted.text name ++ " contains itself by value (" ++
      String.intercalate " -> " (trail.map TypeRef.text) ++ ")"
  | .invalidIdentifier name rule =>
    "invalid identifier " ++ Text.Quoted.text name ++ ": " ++ rule.text
  | .unsupported cause => cause.text
  | .within place fault => place.text ++ ": " ++ fault.message

end Fault

def Place.locate {α : Type} (place : Place) : Except Fault α → Except Fault α
  | .ok a => .ok a
  | .error fault => .error (.within place fault)

end EventSchema
