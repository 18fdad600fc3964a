/-!
Lines of a text. A line ends at a line feed, and a carriage return right before that line feed
belongs to the ending; a last line without an ending keeps all its characters. Full lines are for
comparing texts: they keep their endings, and a carriage return alone ends one, too.
-/

set_option autoImplicit false

namespace EventSchema.Text

def dropReturn : List Char → List Char
  | '\r' :: rest => rest
  | cs => cs

def linesFrom (line : List Char) : List Char → List (List Char)
  | [] => if line.isEmpty then [] else [line.reverse]
  | '\n' :: rest => (dropReturn line).reverse :: linesFrom [] rest
  | c :: rest => linesFrom (c :: line) rest

def lines (cs : List Char) : List (List Char) :=
  linesFrom [] cs

theorem linesFrom_append {line : List Char} (h : '\n' ∉ line) (current rest : List Char) :
    linesFrom current (line ++ rest) = linesFrom (line.reverse ++ current) rest := by
  induction line generalizing current with
  | nil => rfl
  | cons c line ih =>
    have hc : c ≠ '\n' := fun he => h (he ▸ List.mem_cons_self)
    have hline : '\n' ∉ line := fun hm => h (List.mem_cons_of_mem _ hm)
    rw [List.cons_append, linesFrom, ih hline, List.reverse_cons, List.append_assoc,
      List.singleton_append]
    exact hc

/-- Lines that keep their ending: a line feed, a carriage return, or both in turn. -/
def fullLinesFrom (line : List Char) : List Char → List (List Char)
  | [] => if line.isEmpty then [] else [line.reverse]
  | '\r' :: '\n' :: rest => ('\n' :: '\r' :: line).reverse :: fullLinesFrom [] rest
  | '\n' :: rest => ('\n' :: line).reverse :: fullLinesFrom [] rest
  | '\r' :: rest => ('\r' :: line).reverse :: fullLinesFrom [] rest
  | c :: rest => fullLinesFrom (c :: line) rest

def fullLines (cs : List Char) : List (List Char) :=
  fullLinesFrom [] cs

end EventSchema.Text
