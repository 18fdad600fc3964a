import EventSchema.Text.Ranges

/-!
Names as words. A name is cut at everything that is neither an ASCII letter nor a digit, and
between the letters of different words: `FolderId` has the words `Folder` and `Id`, `SSHKey` the
words `SSH` and `Key`. The case styles of this library are ways to join the words again.
-/

set_option autoImplicit false

namespace EventSchema.Naming

/-- Whether a word starts at `c`, standing between `before` and `after`. -/
def startsWord (before c : Char) (after : Option Char) : Bool :=
  c.isUpper && (before.isLower || (before.isUpper && after.any Char.isLower))

def splitRun : List Char → List (List Char)
  | [] => []
  | [c] => [[c]]
  | c :: d :: rest =>
    if startsWord c d rest.head? then [c] :: splitRun (d :: rest)
    else match splitRun (d :: rest) with
      | word :: words => (c :: word) :: words
      | [] => [[c]]

theorem flatten_splitRun (cs : List Char) : (splitRun cs).flatten = cs := by
  fun_induction splitRun cs with
  | case1 => rfl
  | case2 c => rfl
  | case3 c d rest _ ih => simpa using ih
  | case4 c d rest _ word words h ih => simpa [h] using ih
  | case5 c d rest _ h ih => simp [h] at ih

theorem ne_nil_of_mem_splitRun {cs word : List Char} (h : word ∈ splitRun cs) : word ≠ [] := by
  fun_induction splitRun cs generalizing word with
  | case1 => simp at h
  | case2 c => simp_all
  | case3 c d rest _ ih =>
    rcases List.mem_cons.1 h with h | h
    · simp [h]
    · exact ih h
  | case4 c d rest _ first words heq ih =>
    rcases List.mem_cons.1 h with h | h
    · simp [h]
    · exact ih (heq ▸ List.mem_cons_of_mem _ h)
  | case5 c d rest _ _ _ => simp_all

def wordsOf (cs : List Char) : List (List Char) :=
  (Text.splitAt (! ·.isAlphanum) cs).flatMap splitRun

def words (s : String) : List (List Char) :=
  wordsOf s.toList

def joinWords : List (List Char) → List Char
  | [] => []
  | [word] => word
  | word :: next :: rest => word ++ '_' :: joinWords (next :: rest)

/-- The first letter in upper case; words hold ASCII letters and digits only. -/
def raiseFirst : List Char → List Char
  | [] => []
  | c :: rest => c.toUpper :: rest

/-- `listContacts` becomes `list_contacts`. -/
def snake (s : String) : String :=
  String.ofList (joinWords ((words s).map (·.map Char.toLower)))

/-- `maxLength` becomes `MAX_LENGTH`. -/
def screaming (s : String) : String :=
  String.ofList (joinWords ((words s).map (·.map Char.toUpper)))

/-- `list_contacts` becomes `ListContacts`. -/
def pascal (s : String) : String :=
  String.ofList ((words s).flatMap raiseFirst)

end EventSchema.Naming
