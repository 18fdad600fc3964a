import EventSchema.Settings

/-!
Arguments of the command line. They are read from the left, and the first one that asks for help or
cannot be understood decides. No option may be given twice.
-/

set_option autoImplicit false

namespace EventSchema.CommandLine

inductive Request where
  | help
  | version
  | misuse
  | generate (paths : PathOptions) (prune : Bool)
  | check (paths : PathOptions) (diff : Bool)
  | inspect (paths : PathOptions) (module : Option String)
deriving DecidableEq, Repr

inductive Operand where
  | none
  | path
  | word
deriving DecidableEq, Repr

abbrev Options := List (String × Operand)

def pathOptions : Options :=
  [("config", .path), ("schema-dir", .path), ("backend-out", .path), ("frontend-out", .path)]

def generateOptions : Options := pathOptions ++ [("prune", .none)]

def checkOptions : Options := pathOptions ++ [("diff", .none)]

def inspectOptions : Options := [("config", .path), ("schema-dir", .path), ("module", .word)]

abbrev Given := List (String × String)

inductive Argument where
  | long (name : String) (attached : Option String)
  | short (letters : List Char)
  | stop
  | plain
deriving DecidableEq, Repr

def Argument.ofText (text : String) : Argument :=
  match text.toList with
  | ['-', '-'] => .stop
  | '-' :: '-' :: rest =>
    let name := String.ofList (rest.takeWhile (· != '='))
    match rest.dropWhile (· != '=') with
    | [] => .long name none
    | _ :: value => .long name (some (String.ofList value))
  | '-' :: c :: rest => .short (c :: rest)
  | _ => .plain

def accepts (operand : Operand) (value : String) : Bool :=
  match operand with
  | .none => false
  | .path => value != ""
  | .word => true

/-- Adds an option, unless it was given before or does not take the value. -/
def assign? (given : Given) (name : String) (operand : Operand) (value : String) : Option Given :=
  if accepts operand value && (given.lookup name).isNone then some ((name, value) :: given)
  else none

inductive Refusal where
  | help
  | misuse
deriving DecidableEq, Repr

def orMisuse {α : Type} : Option α → Except Refusal α
  | some a => .ok a
  | none => .error .misuse

/-- Reads the options of a command. A value that stands in an argument of its own is no option. -/
def readOptions (options : Options) (given : Given) : List String → Except Refusal Given
  | [] => .ok given
  | argument :: rest =>
    match Argument.ofText argument with
    | .plain => .error .misuse
    | .stop => if rest.isEmpty then .ok given else .error .misuse
    | .short ('h' :: _) => .error .help
    | .short _ => .error .misuse
    | .long "help" none => .error .help
    | .long name attached =>
      match options.lookup name, attached with
      | none, _ => .error .misuse
      | some .none, some _ => .error .misuse
      | some .none, none =>
        if (given.lookup name).isSome then .error .misuse
        else readOptions options ((name, "") :: given) rest
      | some operand, some value => do
        readOptions options (← orMisuse (assign? given name operand value)) rest
      | some operand, none =>
        match rest with
        | value :: rest =>
          if Argument.ofText value = .plain then do
            readOptions options (← orMisuse (assign? given name operand value)) rest
          else .error .misuse
        | [] => .error .misuse

def pathsOf (given : Given) : PathOptions where
  config := given.lookup "config"
  schemaFolder := given.lookup "schema-dir"
  backendFolder := given.lookup "backend-out"
  frontendFolder := given.lookup "frontend-out"

def requestOf (options : Options) (arguments : List String) (request : Given → Request) : Request :=
  match readOptions options [] arguments with
  | .ok given => request given
  | .error .help => .help
  | .error .misuse => .misuse

def commands : List String := ["generate", "check", "inspect", "help"]

def helpRequest : List String → Request
  | [] => .help
  | [command] => if commands.contains command then .help else .misuse
  | _ => .misuse

namespace Request

def ofArguments : List String → Request
  | [] => .help
  | "generate" :: rest =>
    requestOf generateOptions rest fun given =>
      .generate (pathsOf given) (given.lookup "prune").isSome
  | "check" :: rest =>
    requestOf checkOptions rest fun given => .check (pathsOf given) (given.lookup "diff").isSome
  | "inspect" :: rest =>
    requestOf inspectOptions rest fun given => .inspect (pathsOf given) (given.lookup "module")
  | "help" :: rest => helpRequest rest
  | argument :: rest =>
    match Argument.ofText argument with
    | .stop => if rest.isEmpty then .help else .misuse
    | .short ('h' :: _) => .help
    | .short ('V' :: _) => .version
    | .long "help" none => .help
    | .long "version" none => .version
    | _ => .misuse

end Request

end EventSchema.CommandLine
