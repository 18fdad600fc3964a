import EventSchema.Instant
import EventSchema.Json.Decode
import EventSchema.Json.Reader
import EventSchema.Json.Writer

/-!
Lines of an event log. Each line is an envelope: the kind of the event, when and by whom it was
raised, and its payload. Members that an envelope does not know are passed over.
-/

set_option autoImplicit false

namespace EventSchema

namespace Json.Tree

def text? : Tree → Option String
  | .str s => s
  | _ => none

/-- The trees of the named fields, all of which must be there; others are passed over. -/
def fields? (names : List String) : Tree → Option (List Tree)
  | .obj members => do
    let keys ← members.mapM Prod.fst
    if (Text.firstRepeat (keys.filter names.contains)).isSome then none
    else names.mapM fun name => members.lookup (some name)
  | .arr items => if items.length = names.length then some items else none
  | _ => none

end Json.Tree

structure EventMeta where
  timestamp : Instant
  userId : String
deriving DecidableEq, Repr

namespace EventMeta

def fieldNames : List String := ["timestamp", "user_id"]

def ofTree? (tree : Json.Tree) : Option EventMeta := do
  match ← tree.fields? fieldNames with
  | [timestamp, userId] =>
    some ⟨← Instant.ofText? (← timestamp.text?), ← userId.text?⟩
  | _ => none

def ofJson? (value : Json) : Option EventMeta := do
  match ← Json.exactRecord? false fieldNames value with
  | [timestamp, userId] =>
    some ⟨← Instant.ofText? (← Json.required? Json.text? timestamp),
      ← Json.required? Json.text? userId⟩
  | _ => none

def toJson (m : EventMeta) : Json :=
  .obj [("timestamp", .str m.timestamp.text), ("user_id", .str m.userId)]

end EventMeta

structure Envelope where
  kind : String
  info : EventMeta
  payload : Json
deriving DecidableEq

namespace Envelope

def ofTree? (tree : Json.Tree) : Option Envelope := do
  match ← tree.fields? ["_", "meta", "payload"] with
  | [kind, info, payload] =>
    some ⟨← kind.text?, ← EventMeta.ofTree? info,
      (← payload.value? (Json.maxDepth - 1)).collapse⟩
  | _ => none

def ofText? (line : String) : Option Envelope :=
  (Json.Tree.ofText? line).bind ofTree?

def toJson (e : Envelope) : Json :=
  .obj [("_", .str e.kind), ("meta", e.info.toJson), ("payload", e.payload)]

def text (e : Envelope) : String := e.toJson.compact

end Envelope

end EventSchema
