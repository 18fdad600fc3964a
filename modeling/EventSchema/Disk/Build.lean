import EventSchema.Disk.Output
import EventSchema.Disk.Schema

set_option autoImplicit false

namespace EventSchema.Disk

def watchLines (t : FileTree) (folder : Path) : String :=
  String.join ((t.walk folder).map fun e => "cargo:rerun-if-changed=" ++ e.1.text ++ "\n")

structure BuildReport where
  tree : FileTree
  output : String
  result : Except Failure Unit

/-- Backend files go to the output folder, frontend files below it. -/
def buildFolders (output : Path) : OutputFolders :=
  ⟨output, output.child "frontend"⟩

def build (t : FileTree) (folder : Path) : Option Path → BuildReport
  | none => ⟨t, "", .error .noOutput⟩
  | some output =>
    let files : Except Failure (List Artifact) := do
      let schema ← loadSchema t folder
      (schema.generate { layout := .wrapper }).mapError .schema
    match files with
    | .error failure => ⟨t, watchLines t folder, .error failure⟩
    | .ok files =>
      let (written, result) := writeFiles (buildFolders output) t files
      ⟨written, watchLines t folder, result⟩

end EventSchema.Disk
