import EventSchema.Diff.Edit

/-!
Sliding edits. An insertion next to kept lines that repeat its own can be moved over them without
changing the result. Each edit is moved up as far as it goes and then down, and takes in edits of
its own kind on the way, so that changes come together.
-/

set_option autoImplicit false

namespace EventSchema.Diff

/-- An edit among others; those before it are listed from the nearest. -/
structure Cursor where
  before : List Edit
  this : Edit
  after : List Edit

/-- How long a sliding edit can go on through these edits. -/
def weight : List Edit → Nat
  | [] => 0
  | e :: rest => e.length + 1 + weight rest

namespace Cursor

/-- Moves the edit up by some lines, over the kept lines right before it. -/
def raise (c : Cursor) (kept : Edit) (above : List Edit) (lines : Nat) : Cursor where
  before :=
    if kept.length = lines then above
    else { kept with length := kept.length - lines } :: above
  this := { c.this with old := c.this.old - lines, new := c.this.new - lines }
  after :=
    match c.after with
    | ⟨.keep, old, new, length⟩ :: rest => ⟨.keep, old - lines, new - lines, length + lines⟩ :: rest
    | rest =>
      ⟨.keep, kept.old + kept.length - lines, c.this.new + c.this.length - lines, lines⟩ :: rest

def lower (c : Cursor) (kept : Edit) (below : List Edit) (lines : Nat) : Cursor where
  before :=
    match c.before with
    | ⟨.keep, old, new, length⟩ :: rest => ⟨.keep, old, new, length + lines⟩ :: rest
    | rest => ⟨.keep, kept.old, c.this.new, lines⟩ :: rest
  this := { c.this with old := c.this.old + lines, new := c.this.new + lines }
  after :=
    if kept.length = lines then below
    else ⟨.keep, kept.old + lines, kept.new + lines, kept.length - lines⟩ :: below

def newLength (e : Edit) : Nat :=
  if e.action = .delete then 0 else e.length

def riseOver (t : Texts) (this kept : Edit) : Nat :=
  t.sameTo (kept.old + kept.length) (this.new + newLength this) (min kept.length (newLength this))

def fallOver (t : Texts) (this kept : Edit) : Nat :=
  t.sameFrom kept.old this.new (min kept.length (newLength this))

def slideUp (t : Texts) : Nat → Cursor → Cursor
  | 0, c => c
  | fuel + 1, c =>
    match c.before with
    | [] => c
    | other :: above =>
      if other.action = .keep then
        let lines := riseOver t c.this other
        if 0 < lines then slideUp t fuel (c.raise other above lines)
        else if other.length = 0 then slideUp t fuel { c with before := above }
        else c
      else if other.action = c.this.action then
        slideUp t fuel
          { c with before := above, this := { other with length := other.length + c.this.length } }
      else slideUp t fuel { c with before := above, after := other :: c.after }

def slideDown (t : Texts) : Nat → Cursor → Cursor
  | 0, c => c
  | fuel + 1, c =>
    match c.after with
    | [] => c
    | other :: below =>
      if other.action = .keep then
        let lines := fallOver t c.this other
        if 0 < lines then slideDown t fuel (c.lower other below lines)
        else if other.length = 0 then slideDown t fuel { c with after := below }
        else c
      else if other.action = c.this.action then
        slideDown t fuel
          { c with after := below, this := { c.this with length := c.this.length + other.length } }
      else slideDown t fuel { c with before := other :: c.before, after := below }

def settle (t : Texts) (c : Cursor) : Cursor :=
  let up := slideUp t (weight c.before) c
  slideDown t (weight up.after) up

end Cursor

/-- Settles all edits of an action in turn; `before` has been passed, the nearest first. -/
def settleFrom (t : Texts) (action : Action) : Nat → List Edit → List Edit → List Edit
  | 0, before, rest => before.reverse ++ rest
  | _ + 1, before, [] => before.reverse
  | fuel + 1, before, e :: rest =>
    if e.action = action then
      let c := Cursor.settle t ⟨before, e, rest⟩
      settleFrom t action fuel (c.this :: c.before) c.after
    else settleFrom t action fuel (e :: before) rest

def settleAll (t : Texts) (action : Action) (edits : List Edit) : List Edit :=
  settleFrom t action (weight edits + 1) [] edits

def compact (t : Texts) (edits : List Edit) : List Edit :=
  settleAll t .insert (settleAll t .delete edits)

end EventSchema.Diff
