import EventSchema.Text.Ranges

/-!
Paths as they are spelled. A spelling is kept as the pieces between its slashes, so that joining two
paths appends their pieces and nothing of a spelling is lost. Two spellings are compared by their
names: empty pieces and single points do not count, and `..` is a name of its own.
-/

set_option autoImplicit false

namespace EventSchema.Disk

structure Path where
  pieces : List String
deriving DecidableEq, Repr

namespace Path

def ofText (text : String) : Path :=
  ⟨(Text.splitAt (· == '/') text.toList).map String.ofList⟩

def text (p : Path) : String :=
  "/".intercalate p.pieces

/-- Whether a piece stands for the folder it is in. -/
def isIdle (piece : String) : Bool :=
  piece == "" || piece == "."

def isAbsolute (p : Path) : Bool :=
  match p.pieces with
  | "" :: _ :: _ => true
  | _ => false

/-- An absolute path replaces the base; any other one follows it after one slash. -/
def join (base p : Path) : Path :=
  if p.isAbsolute then p
  else if base.pieces.getLast? = some "" then ⟨base.pieces.dropLast ++ p.pieces⟩
  else ⟨base.pieces ++ p.pieces⟩

def child (base : Path) (name : String) : Path :=
  base.join ⟨[name]⟩

/-- What two spellings are compared by. -/
def names (p : Path) : List String :=
  p.pieces.filter (! isIdle ·)

def alike (p q : Path) : Bool :=
  p.names == q.names

/-- The step up comes before every other name. -/
def nameBefore (a b : String) : Bool :=
  if a = ".." then decide (b ≠ "..")
  else if b = ".." then false
  else decide (a < b)

def namesBefore : List String → List String → Bool
  | _, [] => false
  | [], _ :: _ => true
  | a :: as, b :: bs => nameBefore a b || (a == b && namesBefore as bs)

def before (p q : Path) : Bool :=
  namesBefore p.names q.names

def trimSlashes (p : Path) : Path :=
  ⟨(p.pieces.reverse.dropWhile (· == "")).reverse⟩

def trimIdle (pieces : List String) : List String :=
  (pieces.reverse.dropWhile isIdle).reverse

/-- An absolute path without its last name, and without slashes at the end. -/
def parent? (p : Path) : Option Path :=
  match trimIdle p.pieces.tail with
  | [] => none
  | pieces =>
    match trimIdle pieces.dropLast with
    | [] => some ⟨["", ""]⟩
    | above => some ⟨"" :: above⟩

/-- The folders that an absolute path is in, the innermost first. -/
def parentsFrom : Nat → Path → List Path
  | 0, _ => []
  | fuel + 1, p =>
    match p.parent? with
    | none => []
    | some above => above :: parentsFrom fuel above

def parents (p : Path) : List Path :=
  parentsFrom p.pieces.length p

theorem names_join {base p : Path} (h : p.isAbsolute = false) :
    (base.join p).names = base.names ++ p.names := by
  unfold join
  rw [if_neg (by simp [h])]
  split
  · next last =>
    obtain ⟨front, eq⟩ := List.getLast?_eq_some_iff.mp last
    simp [names, eq, isIdle]
  · simp [names]

end Path

end EventSchema.Disk
