import EventSchema.Http.Message
import EventSchema.Json.Reader
import EventSchema.Text.Blank
import EventSchema.Text.Ranges

set_option autoImplicit false

namespace EventSchema.Http

/-- Bytes of a text; a percent sign and two hexadecimal digits stand for one byte. -/
def percentBytes : List Char → List UInt8
  | [] => []
  | '%' :: a :: b :: rest =>
    match Text.hexValue a, Text.hexValue b with
    | some high, some low => UInt8.ofNat (high * 16 + low) :: percentBytes rest
    | _, _ => '%'.toString.toUTF8.toList ++ percentBytes (a :: b :: rest)
  | c :: rest => c.toString.toUTF8.toList ++ percentBytes rest

def percentDecode? (text : String) : Option String :=
  String.fromUTF8? ⟨(percentBytes text.toList).toArray⟩

/-- A placeholder whose bytes are no text is a bad request. -/
def badPath : Response := .plain 400 "Invalid URL: Invalid UTF-8 in path"

def pathParam (raw : String) : Except Response String :=
  match percentDecode? raw with
  | some text => .ok text
  | none => .error badPath

def pathParams (raw : List String) : Except Response (List String) :=
  raw.mapM pathParam

def noRoute : Response := .plain 500 "No paths parameters found for matched route"

def wrongContentType : Response :=
  .plain 400 "expecting Content-Type with application/json header"

/-- What the reader says of a bad body is not part of the response here. -/
def badBody : Response := .plain 400 "<json error>"

/-- Whether a body is declared as JSON; parameters do not matter. -/
def declaresJson (headers : Headers) : Bool :=
  (headers.text? "content-type").any fun value =>
    let essence := String.ofList (Text.trim (value.toList.takeWhile (· != ';')))
    essence.toLower == "application/json"

def parseInput {α : Type} (decode? : Json → Option α) (headers : Headers) (body : Body) :
    Except Response α :=
  if !declaresJson headers then .error wrongContentType
  else match (body.text?.bind Json.ofText?).bind decode? with
    | some input => .ok input
    | none => .error badBody

def bodyLimit : Nat := 2 * 1024 * 1024

def tooLarge : Response := .plain 413 "length limit exceeded"

def readInput {α : Type} (decode? : Json → Option α) (request : Request) : Except Response α :=
  if bodyLimit < request.body.size then .error tooLarge
  else parseInput decode? request.headers request.body

end EventSchema.Http
