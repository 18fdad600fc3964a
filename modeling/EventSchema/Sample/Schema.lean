import EventSchema.Sample.Secrets
import EventSchema.Schema.Module

set_option autoImplicit false

namespace EventSchema.Sample

namespace Schema

def text : Datatype := .named "string"

def object (fields : List (String × Datatype)) : Datatype :=
  .node "object" none (some fields) false

def listOf (item : Datatype) : Datatype :=
  .node "list" (some item) none false

def nullable (name : String) : Datatype :=
  .node name none none true

end Schema

open Schema

def contacts : SchemaModule where
  id := "contacts"
  types := {
    constants := [⟨"DefaultGroup", "friends"⟩]
    enums := [⟨"ContactKind", ["person", "company"]⟩]
    types :=
      [⟨"Contact", object [("email", nullable "string"), ("kind", .named "ContactKind"),
         ("name", text), ("tags", listOf text)]⟩,
       ⟨"Folder", object [("children", listOf (.named "Folder")), ("name", text)]⟩]
    endpoints :=
      [⟨.get, "/contacts", "listContacts", "public", some "Every contact, oldest first", none,
         some (listOf (.named "Contact"))⟩,
       ⟨.post, "/contacts", "addContact", "authenticated", none, some (.named "Contact"),
         some (.named "Contact")⟩,
       ⟨.get, "/contacts/\x7bid\x7d", "getContact", "public", none, none,
         some (.named "Contact")⟩,
       ⟨.delete, "/contacts/\x7bid\x7d", "removeContact", "authenticated", none, none, none⟩,
       ⟨.get, "/users/\x7buserId\x7d/addresses/\x7bidx\x7d", "getAddress", "public", none, none,
         some (object [("city", text), ("street", text)])⟩,
       ⟨.get, "/folders/root", "rootFolder", "public", none, none, some (.named "Folder")⟩] }

def secrets : SchemaModule where
  id := "secrets"
  types := {
    types := [⟨"Secret", object [("created", .named "datetime"),
      ("owner", nullable "contacts.Contact"), ("title", text)]⟩] }
  commands := [AccountCommands.create, AccountCommands.delete]
  events :=
    [⟨"account.Created", [⟨"Title", text⟩, ⟨"Owner", nullable "contacts.Contact"⟩,
       ⟨"Location", object [("Url", text)]⟩]⟩,
     ⟨"account.Deleted", []⟩]

end EventSchema.Sample
