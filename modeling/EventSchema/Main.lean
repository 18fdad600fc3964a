import EventSchema.CommandLine.Run

/-!
The program. It copies what a command can look at from the disk into a file tree, runs the command
on that, and makes the disk agree with the tree that the command leaves.
-/

set_option autoImplicit false

namespace EventSchema.Main

open Disk (Path Location Entry FileTree)

def spell (location : Location) : String :=
  "/" ++ "/".intercalate location

partial def scan (t : FileTree) (location : Location) : IO FileTree := do
  let here := (← IO.currentDir) / spell location
  if ← here.isDir then
    let mut t := if location.isEmpty then t else t.put location .folder
    for child in ← here.readDir do
      t ← scan t (location ++ [child.fileName])
    return t
  else if ← here.pathExists then
    return t.put location (.ofBytes (← IO.FS.readBinFile here).toList)
  else return t

/-- The folders that a path leads through, and all that is at its end. -/
def copyPath (t : FileTree) (path : Path) : IO FileTree := do
  let mut t := t
  let mut location : Location := []
  for piece in path.pieces do
    if !location.isEmpty && (← ((← IO.currentDir) / spell location).isDir) then
      t := t.put location .folder
    if piece = ".." then location := location.dropLast
    else if !Path.isIdle piece then location := location ++ [piece]
  scan t location

def copyDisk (cwd : Path) (options : PathOptions) : IO FileTree := do
  let mut t ← copyPath {} (cwd.join (.ofText (options.config.getD "eventkit.toml")))
  match Settings.resolve t cwd options with
  | .error _ => return t
  | .ok settings =>
    t ← copyPath t settings.schemaFolder
    t ← copyPath t settings.output.backend
    copyPath t settings.output.frontend

/-- Removes files that are gone and writes those that are new. -/
def saveDisk (before after : FileTree) : IO Unit := do
  for (location, _) in before.entries do
    if (after.get? location).isNone then IO.FS.removeFile (spell location)
  for (location, entry) in after.entries do
    if before.get? location ≠ some entry then
      match entry with
      | .folder => IO.FS.createDirAll (spell location)
      | file => IO.FS.writeBinFile (spell location) ⟨file.bytes.toArray⟩

def run (arguments : List String) : IO UInt32 := do
  let start ← IO.monoMsNow
  let cwd := Path.ofText (← IO.currentDir).toString
  let request := CommandLine.Request.ofArguments arguments
  let before ← match request.paths? with
    | some options => copyDisk cwd options
    | none => pure {}
  let elapsed := CommandLine.elapsedText ((← IO.monoMsNow) - start)
  let report := CommandLine.run before cwd elapsed request
  saveDisk before report.tree
  IO.print report.output
  if let some problem := report.problem then IO.eprintln problem.message
  return report.exitCode.toUInt32

end EventSchema.Main

def main (arguments : List String) : IO UInt32 :=
  EventSchema.Main.run arguments
