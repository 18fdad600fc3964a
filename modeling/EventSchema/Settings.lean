import EventSchema.Config
import EventSchema.Disk.Output
import EventSchema.Toml.Reader

/-!
Settings of a run. A value comes from an option, else from the settings file, else it is a default.
Paths of options start at the working folder, all others at the folder of the settings file.
-/

set_option autoImplicit false

namespace EventSchema

open Disk (Path FileTree DiskFault OutputFolders)

structure TargetSettings where
  folder : Option String := none
  root : Option String := none
deriving DecidableEq, Repr

namespace TargetSettings

def set? (s : TargetSettings) (key : String) (value : Toml.Value) : Option TargetSettings :=
  match key, value, s with
  | "out_dir", .text content, ⟨none, root⟩ => some ⟨some content, root⟩
  | "module_prefix", .text content, ⟨folder, none⟩ => some ⟨folder, some content⟩
  | _, _, _ => none

/-- A table, or a list of the values in the order of the keys, of which further ones do not
matter. -/
def ofValue? : Toml.Value → Option TargetSettings
  | .list [] => some {}
  | .list [folder] => set? {} "out_dir" folder
  | .list (folder :: root :: _) => do
    let s ← set? {} "out_dir" folder
    s.set? "module_prefix" root
  | .table members => members.foldlM (fun s member =>
      match member.1 with
      | [key] => s.set? key member.2
      | _ => none) {}
  | _ => none

end TargetSettings

structure SettingsFile where
  schemaFolder : Option String := none
  backend : TargetSettings := {}
  frontend : TargetSettings := {}
deriving DecidableEq, Repr

namespace SettingsFile

/-- How a table has been given so far. -/
inductive Form where
  | absent
  /-- By keys with a point, which can be added to. -/
  | dotted
  | closed
deriving DecidableEq, Repr

structure Draft where
  file : SettingsFile := {}
  backendForm : Form := .absent
  frontendForm : Form := .absent
  current : Option Target := none

def target? : String → Option Target
  | "backend" => some .backend
  | "frontend" => some .frontend
  | _ => none

namespace Draft

def form (d : Draft) : Target → Form
  | .backend => d.backendForm
  | .frontend => d.frontendForm

def settings (d : Draft) : Target → TargetSettings
  | .backend => d.file.backend
  | .frontend => d.file.frontend

def update (d : Draft) (form : Form) (settings : TargetSettings) : Target → Draft
  | .backend => { d with backendForm := form, file.backend := settings }
  | .frontend => { d with frontendForm := form, file.frontend := settings }

def openTable? (d : Draft) (target : Target) : Option Draft :=
  if d.form target = .absent then
    some { d.update .closed {} target with current := some target }
  else none

def addEntry? (d : Draft) (key : List String) (value : Toml.Value) : Option Draft :=
  match d.current, key, value with
  | some target, [name], value => do
    some (d.update .closed (← (d.settings target).set? name value) target)
  | none, ["schema_dir"], .text content =>
    if d.file.schemaFolder.isNone then some { d with file.schemaFolder := some content } else none
  | none, [table], value => do
    let target ← target? table
    if d.form target = .absent then
      some (d.update .closed (← TargetSettings.ofValue? value) target)
    else none
  | none, [table, name], value => do
    let target ← target? table
    if d.form target = .closed then none
    else some (d.update .dotted (← (d.settings target).set? name value) target)
  | _, _, _ => none

def add? (d : Draft) : Toml.Statement → Option Draft
  | .header [table] => (target? table).bind d.openTable?
  | .header _ => none
  | .entry key value => d.addEntry? key value

end Draft

def ofText? (text : String) : Option SettingsFile := do
  let statements ← Toml.ofText? text
  let draft ← statements.foldlM Draft.add? {}
  some draft.file

end SettingsFile

structure PathOptions where
  config : Option String := none
  schemaFolder : Option String := none
  backendFolder : Option String := none
  frontendFolder : Option String := none
deriving DecidableEq, Repr

inductive SettingsFault where
  | read (path : Path) (fault : DiskFault)
  | parse (path : Path)
deriving DecidableEq, Repr

def SettingsFault.message : SettingsFault → String
  | .read path fault => "Failed to read " ++ path.text ++ ": " ++ fault.message
  | .parse path => "Failed to parse " ++ path.text ++ ": <parse error>"

structure Settings where
  schemaFolder : Path
  output : OutputFolders
  config : Config
deriving DecidableEq, Repr

namespace Settings

def loadFile (t : FileTree) (path : Path) : Except SettingsFault SettingsFile :=
  match t.read path with
  | .error fault => .error (.read path fault)
  | .ok text =>
    match SettingsFile.ofText? text with
    | none => .error (.parse path)
    | some file => .ok file

/-- The settings file and the folder that its paths start at. Only a file that an option names has
to be there. -/
def locateFile (t : FileTree) (cwd : Path) (options : PathOptions) :
    Except SettingsFault (SettingsFile × Path) :=
  match options.config with
  | some spelling => do
    let path := cwd.join (.ofText spelling)
    .ok (← loadFile t path, path.parent?.getD cwd)
  | none => do
    let path := cwd.child "eventkit.toml"
    if t.isFile path then .ok (← loadFile t path, cwd) else .ok ({}, cwd)

def pick (cwd base : Path) (option file : Option String) (default : String) : Path :=
  match option with
  | some spelling => cwd.join (.ofText spelling)
  | none => base.join (.ofText (file.getD default))

def resolve (t : FileTree) (cwd : Path) (options : PathOptions) :
    Except SettingsFault Settings := do
  let (file, base) ← locateFile t cwd options
  let defaults : Config := {}
  .ok {
    schemaFolder := pick cwd base options.schemaFolder file.schemaFolder "schema"
    output := {
      backend := pick cwd base options.backendFolder file.backend.folder "src/generated"
      frontend := pick cwd base options.frontendFolder file.frontend.folder "frontend/generated" }
    config := {
      backendRoot := file.backend.root.getD defaults.backendRoot
      frontendRoot := file.frontend.root.getD defaults.frontendRoot } }

end Settings

end EventSchema
