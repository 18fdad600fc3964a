import EventSchema.Failure
import EventSchema.Generate
import EventSchema.Text.Lines

set_option autoImplicit false

namespace EventSchema.Disk

structure OutputFolders where
  backend : Path
  frontend : Path
deriving DecidableEq, Repr

namespace OutputFolders

def folder (o : OutputFolders) : Target → Path
  | .backend => o.backend
  | .frontend => o.frontend

def pathOf (o : OutputFolders) (file : Artifact) : Path :=
  (o.folder file.target).join (Path.ofText file.path)

end OutputFolders

def prepareFolder (t : FileTree) (path : Path) : FileTree × Except Failure Unit :=
  match path.parent? with
  | none => (t, .ok ())
  | some folder =>
    match t.makeFolders folder with
    | (t, .ok ()) => (t, .ok ())
    | (t, .error fault) => (t, .error (.write folder fault))

def writeFile (t : FileTree) (path : Path) (content : String) : FileTree × Except Failure Unit :=
  match prepareFolder t path with
  | (t, .error failure) => (t, .error failure)
  | (t, .ok ()) =>
    match t.write path (.text content) with
    | .error fault => (t, .error (.write path fault))
    | .ok written => (written, .ok ())

/-- Writes all files, over whatever is there. Those before a failure stay. -/
def writeFiles (o : OutputFolders) : FileTree → List Artifact → FileTree × Except Failure Unit
  | t, [] => (t, .ok ())
  | t, file :: rest =>
    match writeFile t (o.pathOf file) file.content with
    | (t, .ok ()) => writeFiles o t rest
    | (t, .error failure) => (t, .error failure)

inductive Staleness where
  | missing (expected : String)
  | changed (expected actual : String)
  /-- It was generated, but would not be now. -/
  | orphaned (actual : String)
deriving DecidableEq, Repr

structure StaleFile where
  path : Path
  status : Staleness
deriving DecidableEq, Repr

def isGenerated (content : String) : Bool :=
  (Text.lines content.toList).head? == some Artifact.header.toList

/-- The output folders that are there, in order. Of two spellings of equal names the second
counts. -/
def OutputFolders.roots (o : OutputFolders) (t : FileTree) : List Path :=
  match t.isFolder o.backend, t.isFolder o.frontend with
  | false, false => []
  | true, false => [o.backend]
  | false, true => [o.frontend]
  | true, true =>
    if o.backend.alike o.frontend then [o.frontend]
    else if o.backend.before o.frontend then [o.backend, o.frontend]
    else [o.frontend, o.backend]

/-- A file that cannot be read as text is not a generated one. -/
def generatedFile? (t : FileTree) (path : Path) : Option (Path × String) :=
  match t.read path with
  | .ok content => if isGenerated content then some (path, content) else none
  | .error _ => none

/-- What a walk makes of one place: it ends at a folder that it cannot go into. -/
def visit (t : FileTree) : Path × Entry → Except Failure (Option (Path × String))
  | (path, .folder) =>
    match FileTree.checkSpelling path with
    | .ok () => .ok none
    | .error fault => .error (.read path (.walk path fault))
  | (path, _) => .ok (generatedFile? t path)

def generatedFiles (t : FileTree) (o : OutputFolders) : Except Failure (List (Path × String)) := do
  let found ← ((o.roots t).flatMap t.walk).mapM (visit t)
  .ok (found.filterMap id)

def compareFile (t : FileTree) (path : Path) (expected : String) :
    Except Failure (Option StaleFile) :=
  match t.read path with
  | .ok actual => .ok (if actual = expected then none else some ⟨path, .changed expected actual⟩)
  | .error .missing => .ok (some ⟨path, .missing expected⟩)
  | .error fault => .error (.read path fault)

/-- Of the generated files that were found, those at paths that no file of this run has. -/
def orphans (o : OutputFolders) (files : List Artifact) (found : List (Path × String)) :
    List StaleFile :=
  let unexpected := fun (old : Path × String) => !files.any fun file => (o.pathOf file).alike old.1
  (found.filter unexpected).map fun old => ⟨old.1, .orphaned old.2⟩

/-- What is out of date: first the files of this run, then those that are left of earlier ones. -/
def staleFiles (t : FileTree) (o : OutputFolders) (files : List Artifact) :
    Except Failure (List StaleFile) := do
  let compared ← files.mapM fun file => compareFile t (o.pathOf file) file.content
  let found ← generatedFiles t o
  .ok (compared.filterMap id ++ orphans o files found)

def Staleness.isOrphaned : Staleness → Bool
  | .orphaned _ => true
  | _ => false

/-- Removes files in turn, and gives those removed. What was removed before a failure stays so. -/
def removeFiles (removed : List Path) :
    FileTree → List Path → FileTree × Except Failure (List Path)
  | t, [] => (t, .ok removed.reverse)
  | t, path :: rest =>
    match t.remove path with
    | .ok t => removeFiles (path :: removed) t rest
    | .error fault => (t, .error (.write path fault))

def pruneOrphans (t : FileTree) (o : OutputFolders) (files : List Artifact) :
    FileTree × Except Failure (List Path) :=
  match staleFiles t o files with
  | .error failure => (t, .error failure)
  | .ok stale => removeFiles [] t ((stale.filter (·.status.isOrphaned)).map StaleFile.path)

end EventSchema.Disk
