import EventSchema.Text.Tidy

set_option autoImplicit false

namespace EventSchema.Backend

inductive Code where
  | line (text : String)
  | empty
  | nested (opening : String) (body : List Code) (closing : String)
  /-- Lines one level deeper that go on what a line has begun. -/
  | hanging (opening : String) (body : List Code)

namespace Code

def item (head : String) (body : List Code) : Code :=
  .nested (head ++ " \x7b") body "\x7d"

def indentation (depth : Nat) : String :=
  String.ofList (List.replicate (4 * depth) ' ')

mutual

def render (depth : Nat) : Code → String
  | .line text => indentation depth ++ text ++ "\n"
  | .empty => "\n"
  | .nested opening body closing =>
    indentation depth ++ opening ++ "\n" ++ renderAll (depth + 1) body ++
      indentation depth ++ closing ++ "\n"
  | .hanging opening body =>
    indentation depth ++ opening ++ "\n" ++ renderAll (depth + 1) body

def renderAll (depth : Nat) : List Code → String
  | [] => ""
  | c :: cs => render depth c ++ renderAll depth cs

end

def paragraphs (ps : List (List Code)) : List Code :=
  ps.flatMap (.empty :: ·)

def file (header : String) (ps : List (List Code)) : String :=
  Text.tidy (renderAll 0 (.line header :: paragraphs ps))

def oneLine (text : String) : String :=
  String.ofList (text.toList.map fun c => if c = '\n' ∨ c = '\r' then ' ' else c)

end Code

end EventSchema.Backend
