import EventSchema.Http.Input
import EventSchema.Http.Router
import EventSchema.Json.Decode

set_option autoImplicit false

namespace EventSchema.Sample

inductive ContactKind where
  | person
  | company
deriving DecidableEq, Repr

namespace ContactKind

def text : ContactKind → String
  | .person => "person"
  | .company => "company"

def ofJson? : Json → Option ContactKind :=
  Json.variant? [("person", .person), ("company", .company)]

end ContactKind

structure Contact where
  email : Option String
  kind : ContactKind
  name : String
  tags : List String
deriving DecidableEq, Repr

namespace Contact

def ofJson? (value : Json) : Option Contact := do
  match ← Json.exactRecord? true ["email", "kind", "name", "tags"] value with
  | [email, kind, name, tags] =>
    some {
      email := ← Json.optional? Json.text? email
      kind := ← Json.required? ContactKind.ofJson? kind
      name := ← Json.required? Json.text? name
      tags := ← Json.required? (Json.list? Json.text?) tags }
  | _ => none

def toJson (c : Contact) : Json :=
  .obj [("email", .ofOption .str c.email), ("kind", .str c.kind.text), ("name", .str c.name),
    ("tags", .strings c.tags)]

end Contact

inductive Folder where
  | mk (children : List Folder) (name : String)
deriving Repr

namespace Folder

mutual

def ofJson? : Json → Option Folder
  | .arr [.arr children, .str name] => (listOf? children).map (.mk · name)
  | .obj [("children", .arr children), ("name", .str name)] => (listOf? children).map (.mk · name)
  | .obj [("name", .str name), ("children", .arr children)] => (listOf? children).map (.mk · name)
  | _ => none

def listOf? : List Json → Option (List Folder)
  | [] => some []
  | value :: rest => do
    let folder ← ofJson? value
    let folders ← listOf? rest
    some (folder :: folders)

end

mutual

def toJson : Folder → Json
  | .mk children name => .obj [("children", .arr (listToJson children)), ("name", .str name)]

def listToJson : List Folder → List Json
  | [] => []
  | folder :: rest => toJson folder :: listToJson rest

end

end Folder

structure Address where
  city : String
  street : String
deriving DecidableEq, Repr

def Address.toJson (a : Address) : Json :=
  .obj [("city", .str a.city), ("street", .str a.street)]

open Http in
/-- A handler per endpoint; an error is sent as it is. -/
structure ContactHandlers (σ : Type) where
  listContacts : RequestContext → σ → Except Response (List Contact) × σ
  addContact : RequestContext → Contact → σ → Except Response Contact × σ
  getContact : RequestContext → String → σ → Except Response Contact × σ
  removeContact : RequestContext → String → σ → Response × σ
  getAddress : RequestContext → String → String → σ → Except Response Address × σ
  rootFolder : RequestContext → σ → Except Response Folder × σ

namespace ContactHandlers

open Http

variable {σ : Type}

def respond {α : Type} (encode : α → Json) : Except Response α × σ → Response × σ
  | (.ok output, s) => (.json (encode output), s)
  | (.error response, s) => (response, s)

def withParam (handle : String → σ → Response × σ) (raw : List String) (s : σ) : Response × σ :=
  match pathParams raw with
  | .error response => (response, s)
  | .ok [param] => handle param s
  | .ok _ => (noRoute, s)

def withParams (handle : String → String → σ → Response × σ) (raw : List String) (s : σ) :
    Response × σ :=
  match pathParams raw with
  | .error response => (response, s)
  | .ok [first, second] => handle first second s
  | .ok _ => (noRoute, s)

def withInput {α : Type} (decode? : Json → Option α) (handle : α → σ → Response × σ)
    (request : Request) (s : σ) : Response × σ :=
  match readInput decode? request with
  | .error response => (response, s)
  | .ok input => handle input s

def bindings (h : ContactHandlers σ) : List (Binding σ) :=
  [⟨.get, "/contacts", "public", fun context _ _ s =>
     respond (fun contacts => .arr (contacts.map Contact.toJson)) (h.listContacts context s)⟩,
   ⟨.post, "/contacts", "authenticated", fun context _ request s =>
     withInput Contact.ofJson? (fun input s =>
       respond Contact.toJson (h.addContact context input s)) request s⟩,
   ⟨.get, "/contacts/\x7bid\x7d", "public", fun context raw _ s =>
     withParam (fun id s => respond Contact.toJson (h.getContact context id s)) raw s⟩,
   ⟨.delete, "/contacts/\x7bid\x7d", "authenticated", fun context raw _ s =>
     withParam (fun id s => h.removeContact context id s) raw s⟩,
   ⟨.get, "/users/\x7buserId\x7d/addresses/\x7bidx\x7d", "public", fun context raw _ s =>
     withParams (fun userId idx s =>
       respond Address.toJson (h.getAddress context userId idx s)) raw s⟩,
   ⟨.get, "/folders/root", "public", fun context _ _ s =>
     respond Folder.toJson (h.rootFolder context s)⟩]

def register (h : ContactHandlers σ) (chains : ChainMap) : Except UnknownChain (Router σ) :=
  Router.register chains h.bindings

end ContactHandlers

/-- Contacts in memory, oldest first. Only one user may add to them. -/
structure ContactBook where
  contacts : List Contact := []
deriving DecidableEq, Repr

namespace ContactBook

open Http

def owner : String := "alice"

def handlers : ContactHandlers ContactBook where
  listContacts _ book := (.ok book.contacts, book)
  addContact context input book :=
    if context.user = some owner then (.ok input, ⟨book.contacts ++ [input]⟩)
    else (.error (.empty 403), book)
  getContact _ id book :=
    match book.contacts.find? (·.name == id) with
    | some contact => (.ok contact, book)
    | none => (.error (.empty 404), book)
  removeContact _ id book :=
    let kept := book.contacts.filter (·.name != id)
    if kept.length < book.contacts.length then (.empty 204, ⟨kept⟩) else (.empty 404, ⟨kept⟩)
  getAddress _ userId idx book := (.ok ⟨userId, idx ++ " Main St"⟩, book)
  rootFolder _ book := (.ok (.mk [.mk [] "inbox"] "root"), book)

def tokens : List (String × String) := [("secret", "alice"), ("other", "bob"), ("", "nobody")]

/-- The chains of some names: `public` is open, all others ask for a token. -/
def chains (names : List String) : ChainMap :=
  Registry.ofList (names.map fun name =>
    (name,
      if name = "public" then Chain.publicAccess
      else Chain.bearer fun token => tokens.lookup token))

end ContactBook

end EventSchema.Sample
