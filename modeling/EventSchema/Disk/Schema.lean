import EventSchema.Failure
import EventSchema.Schema.Document

/-!
Schemas on disk. A folder holds one folder for each module, named by its id, and that one holds up
to three documents. A folder without any of them is no module.
-/

set_option autoImplicit false

namespace EventSchema.Disk

/-- A document, or nothing if it is not there. -/
def loadDocument {α : Type} (t : FileTree) (parse? : String → Option α) (path : Path) :
    Except Failure (Option α) :=
  if t.holds path then
    match t.read path with
    | .error fault => .error (.read path fault)
    | .ok text =>
      match parse? text with
      | none => .error (.parse path)
      | some document => .ok (some document)
  else .ok none

/-- The module in a folder. All documents are read before the id is looked at. -/
def loadModule (t : FileTree) (folder : Path) (id : String) :
    Except Failure (Option SchemaModule) := do
  let types ← loadDocument t Document.declarations? (folder.child "types.json")
  let commands ← loadDocument t Document.commands? (folder.child "commands.json")
  let events ← loadDocument t Document.events? (folder.child "events.json")
  if types.isNone && commands.isNone && events.isNone then .ok none
  else if Check.isModuleId id then
    .ok (some ⟨id, types.getD {}, commands.getD [], events.getD []⟩)
  else .error (.schema ⟨id, .invalidIdentifier id .moduleId⟩)

def loadSchema (t : FileTree) (folder : Path) : Except Failure SchemaSet :=
  match t.folders folder with
  | .error fault => .error (.read folder fault)
  | .ok names => do
    let modules ← names.mapM fun name => loadModule t (folder.child name) name
    .ok (SchemaSet.ofList (modules.filterMap id))

end EventSchema.Disk
