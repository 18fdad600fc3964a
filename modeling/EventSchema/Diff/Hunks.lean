import EventSchema.Diff.Shortest
import EventSchema.Diff.Slide
import EventSchema.Text.Lines

set_option autoImplicit false

namespace EventSchema.Diff

/-- Kept lines, or old lines with the new ones in their place. -/
inductive Run where
  | keep (old length : Nat)
  | change (old oldLength new newLength : Nat)
deriving DecidableEq, Repr

namespace Run

def ofEdit (e : Edit) : Run :=
  match e.action with
  | .keep => .keep e.old e.length
  | .delete => .change e.old e.length 0 0
  | .insert => .change 0 0 e.new e.length

/-- The run with an edit taken in, unless it is of the other kind. -/
def extend? (r : Run) (e : Edit) : Option Run :=
  match r, e.action with
  | .keep old length, .keep => some (.keep old (length + e.length))
  | .change old oldLength new newLength, .delete =>
    some (.change (if oldLength = 0 then e.old else old) (oldLength + e.length) new newLength)
  | .change old oldLength new newLength, .insert =>
    some (.change old oldLength (if newLength = 0 then e.new else new) (newLength + e.length))
  | _, _ => none

def ofEditsFrom (current : Run) : List Edit → List Run
  | [] => [current]
  | e :: rest =>
    match current.extend? e with
    | some current => ofEditsFrom current rest
    | none => current :: ofEditsFrom (ofEdit e) rest

/-- Runs of kept and of changed lines in turn. -/
def ofEdits : List Edit → List Run
  | [] => []
  | e :: rest => ofEditsFrom (ofEdit e) rest

def trimStart (context : Nat) : Run → Run
  | .keep old length => .keep (old + (length - context)) (min length context)
  | r => r

def trimEnd (context : Nat) : Run → Run
  | .keep old length => .keep old (min length context)
  | r => r

end Run

/-- Cuts off kept lines that are far from all changes at both ends. -/
def trimEnds (context : Nat) (runs : List Run) : List Run :=
  let runs := match runs with
    | [] => []
    | r :: rest => r.trimStart context :: rest
  match runs.reverse with
  | [] => []
  | r :: rest => (r.trimEnd context :: rest).reverse

/-- Cuts long runs of kept lines; `current` is the group so far, last first. -/
def groupFrom (context : Nat) (current : List Run) : List Run → List (List Run)
  | [] =>
    match current with
    | [] => []
    | [.keep _ _] => []
    | current => [current.reverse]
  | .keep old length :: rest =>
    if context * 2 < length then
      (.keep old context :: current).reverse ::
        groupFrom context [.keep (old + (length - context)) context] rest
    else groupFrom context (.keep old length :: current) rest
  | r :: rest => groupFrom context (r :: current) rest

def hunks (context : Nat) (runs : List Run) : List (List Run) :=
  groupFrom context [] (trimEnds context runs)

def renderLine (mark : Char) (line : String) : List Char :=
  let cs := line.toList
  mark :: (if cs.getLast? = some '\n' then cs else cs ++ ['\n'])

def renderLines (mark : Char) (lines : Array String) (start length : Nat) : List Char :=
  (lines.extract start (start + length)).toList.flatMap (renderLine mark)

def renderRun (t : Texts) : Run → List Char
  | .keep old length => renderLines ' ' t.old old length
  | .change old oldLength new newLength =>
    renderLines '-' t.old old oldLength ++ renderLines '+' t.new new newLength

def renderHunk (t : Texts) (runs : List Run) : String :=
  String.ofList (runs.flatMap (renderRun t))

def linesOf (text : String) : Array String :=
  ((Text.fullLines text.toList).map String.ofList).toArray

def render (old new : String) : String :=
  let t : Texts := ⟨linesOf old, linesOf new⟩
  "...\n".intercalate ((hunks 3 (Run.ofEdits (compact t (edits t)))).map (renderHunk t))

end EventSchema.Diff
