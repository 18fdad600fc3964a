import EventSchema.Pattern.Program
import EventSchema.Schema.Command

set_option autoImplicit false

namespace EventSchema

inductive Rule where
  | nonEmpty
  | maxLength (max : Nat)
  /-- Has a match; an empty value may be let through. -/
  | pattern (text : String) (skipEmpty : Bool)
deriving DecidableEq, Repr

inductive RuleFault where
  | empty (field : String)
  | tooLong (field : String) (max : Nat)
  | patternMismatch (field pattern : String)
  | invalidPattern (field pattern : String)
deriving DecidableEq, Repr

/-- What the pattern reader says of a bad pattern is not part of the wording. -/
def RuleFault.message : RuleFault → String
  | .empty field => "field " ++ field ++ " cannot be empty"
  | .tooLong field max =>
    "field " ++ field ++ " exceeded maximum length " ++ String.ofList (Nat.toDigits 10 max)
  | .patternMismatch field pattern => "field " ++ field ++ " does not match pattern " ++ pattern
  | .invalidPattern field pattern =>
    "field " ++ field ++ " has unusable pattern " ++ pattern ++ ": <regex error>"

namespace CommandField

def rules (f : CommandField) : List Rule :=
  if !f.kind.isString then []
  else (if f.optional then [] else [.nonEmpty]) ++
    (f.effectiveMaxLength.map Rule.maxLength).toList ++
    (f.pattern.map (Rule.pattern · f.optional)).toList

end CommandField

namespace Rule

def checkNonEmpty (field value : String) : Except RuleFault Unit :=
  if value.isEmpty then .error (.empty field) else .ok ()

def checkMaxLength (field value : String) (max : Nat) : Except RuleFault Unit :=
  if max < value.length then .error (.tooLong field max) else .ok ()

/-- The verdict of a prepared pattern, if there is one. -/
def checkPrepared (field value pattern : String) :
    Option Pattern.Program → Except RuleFault Unit
  | none => .error (.invalidPattern field pattern)
  | some program =>
    if program.finds value then .ok () else .error (.patternMismatch field pattern)

def checkPattern (field value pattern : String) : Except RuleFault Unit :=
  checkPrepared field value pattern (Pattern.Program.ofText? pattern)

def check (field value : String) : Rule → Except RuleFault Unit
  | .nonEmpty => checkNonEmpty field value
  | .maxLength max => checkMaxLength field value max
  | .pattern text skipEmpty =>
    if skipEmpty && value.isEmpty then .ok () else checkPattern field value text

end Rule

/-- Prepared patterns by their text. -/
structure PatternCache where
  entries : List (String × Pattern.Program) := []

namespace PatternCache

/-- The prepared pattern; a new one is kept if it is usable. -/
def prepare (cache : PatternCache) (pattern : String) : Option Pattern.Program × PatternCache :=
  match cache.entries.lookup pattern with
  | some program => (some program, cache)
  | none =>
    match Pattern.Program.ofText? pattern with
    | some program => (some program, ⟨(pattern, program) :: cache.entries⟩)
    | none => (none, cache)

def checkPattern (cache : PatternCache) (field value pattern : String) :
    Except RuleFault Unit × PatternCache :=
  let (program, cache) := cache.prepare pattern
  (Rule.checkPrepared field value pattern program, cache)

end PatternCache

end EventSchema
