/-!
Sets of code points written as text: hexadecimal spans such as `41-5a`, in increasing order and
separated by blanks. The tables of character properties are stored in this form.
-/

set_option autoImplicit false

namespace EventSchema.Text

def hexValue (c : Char) : Option Nat :=
  if '0' ≤ c ∧ c ≤ '9' then some (c.toNat - 48)
  else if 'a' ≤ c ∧ c ≤ 'f' then some (c.toNat - 87)
  else if 'A' ≤ c ∧ c ≤ 'F' then some (c.toNat - 55)
  else none

def hexNumber (cs : List Char) : Nat :=
  cs.foldl (fun n c => match hexValue c with
    | some d => 16 * n + d
    | none => n) 0

/-- Cuts at every character of a class; empty pieces are kept. -/
def splitAt (cut : Char → Bool) : List Char → List (List Char)
  | [] => [[]]
  | c :: rest =>
    if cut c then [] :: splitAt cut rest
    else match splitAt cut rest with
      | piece :: pieces => (c :: piece) :: pieces
      | [] => [[c]]

/-- Sorted, disjoint, closed spans of code points. -/
structure Ranges where
  spans : Array (Nat × Nat)

namespace Ranges

def readSpan (piece : List Char) : Nat × Nat :=
  match splitAt (· == '-') piece with
  | [low, high] => (hexNumber low, hexNumber high)
  | _ => (hexNumber piece, hexNumber piece)

def ofText (text : String) : Ranges :=
  ⟨(((splitAt (fun c => c == ' ' || c == '\n') text.toList).filter (! ·.isEmpty)).map
    readSpan).toArray⟩

def search (spans : Array (Nat × Nat)) (n low high : Nat) : Bool :=
  if _h : low < high then
    let middle := (low + high) / 2
    match spans[middle]? with
    | none => false
    | some (first, last) =>
      if n < first then search spans n low middle
      else if last < n then search spans n (middle + 1) high
      else true
  else false
termination_by high - low

def contains (r : Ranges) (n : Nat) : Bool :=
  search r.spans n 0 r.spans.size

end Ranges

end EventSchema.Text
