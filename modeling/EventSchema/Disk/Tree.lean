import EventSchema.Disk.Path

/-!
File trees. A tree is a table from locations to what lies there; a location is the list of names
that leads to it from the root. The table is sorted, so that every folder comes right before all
that is below it, and a walk through a folder is a part of the table. Spelled paths are followed
piece by piece, each through a folder that is there.
-/

set_option autoImplicit false

namespace EventSchema.Disk

inductive DiskFault where
  | missing
  | occupied
  | notFolder
  | isFolder
  | notText
  /-- A name, or a path as a whole, is too long. -/
  | tooLong
  | nullName
  | walk (path : Path) (fault : DiskFault)
deriving DecidableEq, Repr

def DiskFault.message : DiskFault → String
  | .missing => "No such file or directory (os error 2)"
  | .occupied => "File exists (os error 17)"
  | .notFolder => "Not a directory (os error 20)"
  | .isFolder => "Is a directory (os error 21)"
  | .notText => "stream did not contain valid UTF-8"
  | .tooLong => "File name too long (os error 36)"
  | .nullName => "file name contained an unexpected NUL byte"
  | .walk path fault => "IO error for operation on " ++ path.text ++ ": " ++ fault.message

/-- The names on the way from the root. -/
abbrev Location := List String

inductive Entry where
  | folder
  | text (content : String)
  /-- A file that is not UTF-8. -/
  | binary (content : List UInt8)
deriving DecidableEq, Repr

def Entry.ofBytes (bytes : List UInt8) : Entry :=
  match String.fromUTF8? ⟨bytes.toArray⟩ with
  | some content => .text content
  | none => .binary bytes

def Entry.bytes : Entry → List UInt8
  | .folder => []
  | .text content => content.toUTF8.toList
  | .binary content => content

structure FileTree where
  /-- Sorted by location; the root is left out. -/
  entries : List (Location × Entry) := []
deriving DecidableEq, Repr

namespace FileTree

def get? (t : FileTree) (location : Location) : Option Entry :=
  if location = [] then some .folder else t.entries.lookup location

/-- A table with every location once and in order, in which all that is somewhere is in a folder. -/
structure WellFormed (t : FileTree) : Prop where
  sorted : t.entries.Pairwise fun a b => a.1 < b.1
  rooted : ∀ e ∈ t.entries, e.1 ≠ [] ∧ t.get? e.1.dropLast = some .folder

def insertEntry (location : Location) (entry : Entry) :
    List (Location × Entry) → List (Location × Entry)
  | [] => [(location, entry)]
  | (other, old) :: rest =>
    if location = other then (location, entry) :: rest
    else if location < other then (location, entry) :: (other, old) :: rest
    else (other, old) :: insertEntry location entry rest

def put (t : FileTree) (location : Location) (entry : Entry) : FileTree :=
  ⟨insertEntry location entry t.entries⟩

theorem lookup_insertEntry_self (location : Location) (entry : Entry)
    (entries : List (Location × Entry)) :
    (insertEntry location entry entries).lookup location = some entry := by
  induction entries with
  | nil => simp [insertEntry]
  | cons head rest ih =>
    obtain ⟨other, old⟩ := head
    rw [insertEntry]
    split
    · simp
    · next ne =>
      split
      · simp
      · simp [List.lookup_cons, beq_eq_false_iff_ne.mpr ne, ih]

theorem lookup_insertEntry_of_ne {location other : Location} (ne : other ≠ location) (entry : Entry)
    (entries : List (Location × Entry)) :
    (insertEntry location entry entries).lookup other = entries.lookup other := by
  induction entries with
  | nil => simp [insertEntry, List.lookup_cons, beq_eq_false_iff_ne.mpr ne]
  | cons head rest ih =>
    obtain ⟨here, old⟩ := head
    rw [insertEntry]
    split
    · next eq => subst eq; simp [List.lookup_cons, beq_eq_false_iff_ne.mpr ne]
    · split
      · simp [List.lookup_cons, beq_eq_false_iff_ne.mpr ne]
      · simp [List.lookup_cons, ih]

theorem get?_put_self (t : FileTree) {location : Location} (entry : Entry) (h : location ≠ []) :
    (t.put location entry).get? location = some entry := by
  simp [get?, put, h, lookup_insertEntry_self]

theorem get?_put_of_ne (t : FileTree) {location other : Location} (entry : Entry)
    (ne : other ≠ location) : (t.put location entry).get? other = t.get? other := by
  simp [get?, put, lookup_insertEntry_of_ne ne]

def erase (t : FileTree) (location : Location) : FileTree :=
  ⟨t.entries.filter fun e => !location.isPrefixOf e.1⟩

theorem lookup_filter_key (keep : Location → Bool) (other : Location)
    (entries : List (Location × Entry)) :
    (entries.filter fun e => keep e.1).lookup other =
      if keep other then entries.lookup other else none := by
  induction entries with
  | nil => simp
  | cons head rest ih =>
    obtain ⟨here, old⟩ := head
    by_cases eq : other = here
    · subst eq
      cases kept : keep other <;> simp [kept, ih]
    · cases kept : keep here <;>
        simp [kept, ih, List.lookup_cons, beq_eq_false_iff_ne.mpr eq]

theorem get?_erase (t : FileTree) (location : Location) {other : Location} (h : other ≠ []) :
    (t.erase location).get? other =
      if location.isPrefixOf other then none else t.get? other := by
  simp only [get?, erase, h, if_false]
  rw [lookup_filter_key fun place => !location.isPrefixOf place]
  cases location.isPrefixOf other <;> simp

/-- All that is below a folder, in the order of a walk that visits each folder before what it holds
and takes names in order. Locations are counted from the folder. -/
def below (t : FileTree) (location : Location) : List (Location × Entry) :=
  t.entries.filterMap fun e =>
    if location.isPrefixOf e.1 && e.1 ≠ location then some (e.1.drop location.length, e.2) else none

def nameLimit : Nat := 255

def pathLimit : Nat := 4095

/-- Follows pieces of a path from a location. A piece can only be taken from a folder. -/
def follow (t : FileTree) : Location → List String → Except DiskFault Location
  | location, [] => .ok location
  | location, piece :: rest =>
    match t.get? location with
    | none => .error .missing
    | some .folder =>
      if Path.isIdle piece then t.follow location rest
      else if piece = ".." then t.follow location.dropLast rest
      else if nameLimit < piece.utf8ByteSize then .error .tooLong
      else t.follow (location ++ [piece]) rest
    | some _ => .error .notFolder

def checkSpelling (path : Path) : Except DiskFault Unit :=
  if path.pieces.any fun piece => piece.toList.contains '\x00' then .error .nullName
  else if pathLimit < path.text.utf8ByteSize then .error .tooLong
  else .ok ()

/-- Where a path leads; something need not be there yet. -/
def locate (t : FileTree) (path : Path) : Except DiskFault Location := do
  checkSpelling path
  t.follow [] path.pieces

def find (t : FileTree) (path : Path) : Except DiskFault (Location × Entry) := do
  let location ← t.locate path
  match t.get? location with
  | none => .error .missing
  | some entry => .ok (location, entry)

def holds (t : FileTree) (path : Path) : Bool :=
  match t.find path with
  | .ok _ => true
  | .error _ => false

def isFolder (t : FileTree) (path : Path) : Bool :=
  match t.find path with
  | .ok (_, .folder) => true
  | _ => false

def isFile (t : FileTree) (path : Path) : Bool :=
  match t.find path with
  | .ok (_, .folder) => false
  | .ok _ => true
  | .error _ => false

def read (t : FileTree) (path : Path) : Except DiskFault String := do
  match ← t.find path with
  | (_, .text content) => .ok content
  | (_, .binary _) => .error .notText
  | (_, .folder) => .error .isFolder

def folders (t : FileTree) (path : Path) : Except DiskFault (List String) := do
  match ← t.find path with
  | (location, .folder) =>
    .ok ((t.below location).filterMap fun
      | ([name], .folder) => some name
      | _ => none)
  | _ => .error .notFolder

/-- All that a walk from a path visits, with the spelling of the path in front. Folders whose
spelling is refused are visited, but not what they hold. -/
def walk (t : FileTree) (path : Path) : List (Path × Entry) :=
  match t.find path with
  | .ok (location, .folder) =>
    let reached := fun (e : Location × Entry) =>
      (checkSpelling (e.1.dropLast.foldl Path.child path)).isOk
    (path, .folder) ::
      ((t.below location).filter reached).map fun e => (e.1.foldl Path.child path, e.2)
  | .ok (_, entry) => [(path, entry)]
  | .error _ => []

/-- Writes a file, over an older one if there is one. The folder is there, since the path leads
through it. -/
def write (t : FileTree) (path : Path) (content : Entry) : Except DiskFault FileTree := do
  let location ← t.locate path
  match t.get? location with
  | some .folder => .error .isFolder
  | _ => .ok (t.put location content)

def remove (t : FileTree) (path : Path) : Except DiskFault FileTree := do
  match ← t.find path with
  | (_, .folder) => .error .isFolder
  | (location, _) => .ok (t.erase location)

/-- Makes one folder. Slashes at the end of the path do not ask for the folder to be there. -/
def makeFolder (t : FileTree) (path : Path) : Except DiskFault FileTree := do
  checkSpelling path
  let location ← t.locate path.trimSlashes
  match t.get? location with
  | some _ => .error .occupied
  | none => .ok (t.put location .folder)

/-- Makes the first of these folders, each of which is in the next one, and those that it is in.
Folders that were made before a fault stay. -/
def makeFoldersFrom (t : FileTree) : List Path → FileTree × Except DiskFault Unit
  | [] => (t, .ok ())
  | path :: above =>
    match t.makeFolder path with
    | .ok made => (made, .ok ())
    | .error .missing =>
      match t.makeFoldersFrom above with
      | (t, .error fault) => (t, .error fault)
      | (t, .ok ()) =>
        match t.makeFolder path with
        | .ok made => (made, .ok ())
        | .error fault => (t, if t.isFolder path then .ok () else .error fault)
    | .error fault => (t, if t.isFolder path then .ok () else .error fault)

def makeFolders (t : FileTree) (path : Path) : FileTree × Except DiskFault Unit :=
  t.makeFoldersFrom (path :: path.parents)

end FileTree

end EventSchema.Disk
