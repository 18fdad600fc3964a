import EventSchema.Text.Blank
import EventSchema.Text.Lines

/-!
The layout of generated code: no blanks at line ends, at most one empty line in a row, none at the
start, after an opening brace, before a closing one or at the end.
-/

set_option autoImplicit false

namespace EventSchema.Text

/-- Whether an empty line may not follow what has been kept so far. -/
def opensAbove : Option (List Char) → Bool
  | none => true
  | some line => line.isEmpty || line.getLast? == some '\x7b'

def closesBelow (rest : List (List Char)) : Bool :=
  match rest.find? (! ·.isEmpty) with
  | none => true
  | some line => (trimStart line).head? == some '\x7d'

/-- Leaves out empty lines; `above` is the last line kept. -/
def tidyFrom (above : Option (List Char)) : List (List Char) → List (List Char)
  | [] => []
  | line :: rest =>
    if line.isEmpty && (opensAbove above || closesBelow rest) then tidyFrom above rest
    else line :: tidyFrom (some line) rest

def tidyLines (lines : List (List Char)) : List (List Char) :=
  tidyFrom none (lines.map trimEnd)

def joinLines : List (List Char) → List Char
  | [] => []
  | [line] => line
  | line :: next :: rest => line ++ '\n' :: joinLines (next :: rest)

def tidy (text : String) : String :=
  String.ofList (joinLines (tidyLines (lines text.toList)) ++ ['\n'])

end EventSchema.Text
