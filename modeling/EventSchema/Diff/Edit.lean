set_option autoImplicit false

namespace EventSchema.Diff

inductive Action where
  | keep
  | delete
  | insert
deriving DecidableEq, Repr

structure Edit where
  action : Action
  old : Nat
  new : Nat
  length : Nat
deriving DecidableEq, Repr

structure Texts where
  old : Array String
  new : Array String

/-- A part of both texts: lines from the first number up to, but without, the second. -/
structure Window where
  oldStart : Nat
  oldEnd : Nat
  newStart : Nat
  newEnd : Nat
deriving DecidableEq, Repr

namespace Window

def oldLength (w : Window) : Nat := w.oldEnd - w.oldStart

def newLength (w : Window) : Nat := w.newEnd - w.newStart

end Window

namespace Texts

def whole (t : Texts) : Window := ⟨0, t.old.size, 0, t.new.size⟩

/-- How many lines at the start of two runs of some length are equal. -/
def sameFrom (t : Texts) (old new : Nat) : Nat → Nat
  | 0 => 0
  | length + 1 =>
    if t.old[old]? = t.new[new]? then t.sameFrom (old + 1) (new + 1) length + 1 else 0

def sameTo (t : Texts) (oldEnd newEnd : Nat) : Nat → Nat
  | 0 => 0
  | length + 1 =>
    if t.old[oldEnd - 1]? = t.new[newEnd - 1]? then
      t.sameTo (oldEnd - 1) (newEnd - 1) length + 1
    else 0

def commonStart (t : Texts) (w : Window) : Nat :=
  t.sameFrom w.oldStart w.newStart (min w.oldLength w.newLength)

def commonEnd (t : Texts) (w : Window) : Nat :=
  t.sameTo w.oldEnd w.newEnd (min w.oldLength w.newLength)

end Texts

end EventSchema.Diff
