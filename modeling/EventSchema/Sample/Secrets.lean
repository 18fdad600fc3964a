import EventSchema.Dispatch
import EventSchema.Log.Event
import EventSchema.Sample.Contacts

set_option autoImplicit false

namespace EventSchema.Sample

structure Location where
  url : String
deriving DecidableEq, Repr

namespace Location

def ofJson? (value : Json) : Option Location := do
  match ← Json.exactRecord? false ["Url"] value with
  | [url] => some ⟨← Json.required? Json.text? url⟩
  | _ => none

def toJson (l : Location) : Json := .obj [("Url", .str l.url)]

end Location

structure AccountCreated where
  title : String
  owner : Option Contact
  location : Location
deriving DecidableEq, Repr

namespace AccountCreated

def ofJson? (value : Json) : Option AccountCreated := do
  match ← Json.exactRecord? false ["Title", "Owner", "Location"] value with
  | [title, owner, location] =>
    some {
      title := ← Json.required? Json.text? title
      owner := ← Json.optional? Contact.ofJson? owner
      location := ← Json.required? Location.ofJson? location }
  | _ => none

def toJson (e : AccountCreated) : Json :=
  .obj [("Title", .str e.title), ("Owner", .ofOption Contact.toJson e.owner),
    ("Location", e.location.toJson)]

end AccountCreated

inductive AccountEvent where
  | created (event : AccountCreated)
  | deleted
deriving DecidableEq, Repr

namespace AccountEvent

def kind : AccountEvent → String
  | .created _ => "account.Created"
  | .deleted => "account.Deleted"

def recordName : AccountEvent → String
  | .created _ => "AccountCreated"
  | .deleted => "AccountDeleted"

def payload : AccountEvent → Json
  | .created event => event.toJson
  | .deleted => .obj []

def deletedOfJson? (value : Json) : Option AccountEvent :=
  (Json.exactRecord? false [] value).map fun _ => .deleted

def family : EventFamily AccountEvent where
  kind := kind
  payload := payload
  decoders := Registry.ofList
    [("account.Created", fun value => (AccountCreated.ofJson? value).map .created),
     ("account.Deleted", deletedOfJson?)]

end AccountEvent

structure AccountView where
  titles : List String := []
  deleted : Nat := 0
  unknown : List String := []
deriving DecidableEq, Repr

namespace AccountView

/-- Applies one event; an account with the refused title is an error and changes nothing. -/
def apply (refused : Option String) (s : AccountView) :
    LoggedEvent AccountEvent → Except String Unit × AccountView
  | .known _ (.created event) =>
    if some event.title = refused then (.error ("refused " ++ event.title), s)
    else (.ok (), { s with titles := s.titles ++ [event.title] })
  | .known _ .deleted => (.ok (), { s with deleted := s.deleted + 1 })
  | .unknown e _ => (.ok (), { s with unknown := s.unknown ++ [e.kind] })

end AccountView

namespace AccountCommands

def textField (key : String) : CommandField :=
  { key, title := none, kind := .text, optional := false, maxLength := none, pattern := none,
    placeholder := none, help := none, hideIfDefault := false }

def create : Command where
  key := "account.Create"
  title := "Create account"
  chain := "authenticated"
  crudNature := some .create
  confirmation := none
  fields :=
    [{ textField "Title" with placeholder := some "Gmail" },
     { textField "Pin" with optional := true, pattern := some "^[0-9]\x7b4\x7d$" },
     { textField "Note" with kind := .multiline, optional := true, maxLength := some 16 },
     { textField "Starred" with kind := .checkbox },
     { textField "Retries" with kind := .integer, optional := true }]

def delete : Command where
  key := "account.Delete"
  title := "Delete account"
  chain := "authenticated"
  crudNature := some .delete
  confirmation := some "This cannot be undone"
  fields := [{ textField "Reason" with optional := true }]

def registry : CommandRegistry :=
  match Backend.CommandsFile.ofCommands [create, delete] with
  | .ok file => CommandRegistry.ofFile file
  | .error _ => Registry.ofList []

abbrev Raised := LoggedEvent AccountEvent

/-- Where an account is kept when nothing is known of the caller. -/
def defaultUrl : String := "https://mail.example"

def handleCreate (r : CommandRecord) (c : CommandContext Raised) (calls : List String) :
    Step (List String) Raised :=
  let title := r.textOf "Title"
  let calls := calls ++ ["create " ++ title]
  if title = "fail" then ⟨.error (.handler "title is taken"), c, calls⟩
  else
    let location : Location := ⟨c.remoteAddress.getD defaultUrl⟩
    ⟨.ok (), c.raise (.known c.info (.created ⟨title, none, location⟩)), calls⟩

def handleDelete (r : CommandRecord) (c : CommandContext Raised) (calls : List String) :
    Step (List String) Raised :=
  ⟨.ok (), c.raise (.known c.info .deleted), calls ++ ["delete " ++ r.textOf "Reason"]⟩

def handlers : CommandHandlers (List String) Raised := fun method r c calls =>
  if method = "account_create" then handleCreate r c calls
  else if method = "account_delete" then handleDelete r c calls
  else ⟨.error (.handler method), c, calls⟩

end AccountCommands

end EventSchema.Sample
