import EventSchema.Diff.Edit

/-!
A shortest list of edits, by divide and conquer: two searches, from the start and from the end of a
window, take one more deletion or insertion in each round, and the window is cut where they meet.
A diagonal is the number of old lines less the number of new lines that have been passed.
-/

set_option autoImplicit false

namespace EventSchema.Diff

/-- How many old lines a search has passed on each diagonal. -/
structure Frontier where
  offset : Nat
  reach : Array Nat

namespace Frontier

def ofRounds (rounds : Nat) : Frontier :=
  ⟨rounds + 1, Array.replicate (2 * rounds + 3) 0⟩

def get (f : Frontier) (diagonal : Int) : Nat :=
  f.reach.getD (diagonal + f.offset).toNat 0

def set (f : Frontier) (diagonal : Int) (passed : Nat) : Frontier :=
  { f with reach := f.reach.setIfInBounds (diagonal + f.offset).toNat passed }

/-- Where a search enters a diagonal in a round, from the neighbour that is further. -/
def enter (f : Frontier) (round diagonal : Int) : Nat :=
  if diagonal = -round ∨ (diagonal ≠ round ∧ f.get (diagonal - 1) < f.get (diagonal + 1)) then
    f.get (diagonal + 1)
  else f.get (diagonal - 1) + 1

end Frontier

def diagonals (round : Nat) : List Int :=
  (List.range (round + 1)).map fun (i : Nat) => (round : Int) - 2 * i

def rounds (w : Window) : Nat :=
  (w.oldLength + w.newLength + 1) / 2 + 1

/-- A place in both texts, or the frontier of a search that has found none. -/
abbrev Meeting := Except (Nat × Nat) Frontier

/-- One round from the start of the window. If the number of lines differs by an odd number, the
searches can meet here. -/
def forwardRound (t : Texts) (w : Window) (backward : Frontier) (round : Nat) :
    Frontier → List Int → Meeting
  | forward, [] => .ok forward
  | forward, k :: rest =>
    let delta : Int := (w.oldLength : Int) - w.newLength
    let x := forward.enter round k
    let y := (x : Int) - k
    let advance :=
      if x < w.oldLength ∧ 0 ≤ y ∧ y < w.newLength then
        t.commonStart { w with oldStart := w.oldStart + x, newStart := w.newStart + y.toNat }
      else 0
    let forward := forward.set k (x + advance)
    if delta % 2 ≠ 0 ∧ (k - delta).natAbs + 1 ≤ round ∧
        w.oldLength ≤ x + advance + backward.get (delta - k) then
      .error (w.oldStart + x, w.newStart + y.toNat)
    else forwardRound t w backward round forward rest

def backwardRound (t : Texts) (w : Window) (forward : Frontier) (round : Nat) :
    Frontier → List Int → Meeting
  | backward, [] => .ok backward
  | backward, k :: rest =>
    let delta : Int := (w.oldLength : Int) - w.newLength
    let x := backward.enter round k
    let y := (x : Int) - k
    let advance :=
      if x < w.oldLength ∧ 0 ≤ y ∧ y < w.newLength then
        t.commonEnd { w with oldEnd := w.oldEnd - x, newEnd := w.newEnd - y.toNat }
      else 0
    let backward := backward.set k (x + advance)
    if delta % 2 = 0 ∧ (k - delta).natAbs ≤ round ∧
        w.oldLength ≤ x + advance + forward.get (delta - k) then
      .error (w.oldEnd - (x + advance), w.newEnd - (y + advance).toNat)
    else backwardRound t w forward round backward rest

/-- Rounds from both ends until the searches meet; so many are left. -/
def meetFrom (t : Texts) (w : Window) : Nat → Nat → Frontier → Frontier → Option (Nat × Nat)
  | 0, _, _, _ => none
  | left + 1, round, forward, backward =>
    match forwardRound t w backward round forward (diagonals round) with
    | .error place => some place
    | .ok forward =>
      match backwardRound t w forward round backward (diagonals round) with
      | .error place => some place
      | .ok backward => meetFrom t w left (round + 1) forward backward

def meet (t : Texts) (w : Window) : Option (Nat × Nat) :=
  meetFrom t w (rounds w) 0 (.ofRounds (rounds w)) (.ofRounds (rounds w))

def kept (old new length : Nat) : List Edit :=
  if length = 0 then [] else [⟨.keep, old, new, length⟩]

/-- The edits of a window. Each cut leaves fewer lines, so the fuel bounds the depth. -/
def editsIn (t : Texts) : Nat → Window → List Edit
  | 0, _ => []
  | fuel + 1, w =>
    let start := t.commonStart w
    let rest := { w with oldStart := w.oldStart + start, newStart := w.newStart + start }
    let stop := t.commonEnd rest
    let inner := { rest with oldEnd := rest.oldEnd - stop, newEnd := rest.newEnd - stop }
    let deletion : Edit := ⟨.delete, inner.oldStart, inner.newStart, inner.oldLength⟩
    let insertion : Edit := ⟨.insert, inner.oldStart, inner.newStart, inner.newLength⟩
    let middle :=
      if inner.oldLength = 0 ∧ inner.newLength = 0 then []
      else if inner.newLength = 0 then [deletion]
      else if inner.oldLength = 0 then [insertion]
      else match meet t inner with
        | some (old, new) =>
          editsIn t fuel { inner with oldEnd := old, newEnd := new } ++
            editsIn t fuel { inner with oldStart := old, newStart := new }
        | none => [deletion, insertion]
    kept w.oldStart w.newStart start ++ middle ++ kept inner.oldEnd inner.newEnd stop

def edits (t : Texts) : List Edit :=
  editsIn t (t.old.size + t.new.size + 1) t.whole

end EventSchema.Diff
