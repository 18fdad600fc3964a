import EventSchema.Pattern.ByteRanges
import EventSchema.Pattern.Node
import Std.Data.HashMap

/-!
How much space the automaton of an expression takes. The automaton reads bytes; there is one for
searching forward and one for searching backward, and an expression is usable only if both stay
within ten mebibytes. A state takes 32 bytes, a transition of a state that has a list of them 8,
and an exit of a state that branches 4. Counted repetitions are written out.

The states of a set of characters depend on which states were built before, because equal states are
shared as far as a table of limited size remembers them.
-/

set_option autoImplicit false

namespace EventSchema.Pattern

/-- The states so far, and the bytes that they take beyond their own size. -/
structure Meter where
  states : Nat := 0
  lists : Nat := 0
deriving DecidableEq, Repr

namespace Meter

def limit : Nat := 10 * Nat.pow 2 20

def size (m : Meter) : Nat := 32 * m.states + m.lists

def charge? (m : Meter) (states lists : Nat) : Option Meter :=
  let next : Meter := ⟨m.states + states, m.lists + lists⟩
  if next.size ≤ limit then some next else none

end Meter

/-- States by their contents, with one slot for each remainder of a hash. A slot holds what was put
there last. -/
structure Memo (κ : Type) where
  slots : Std.HashMap Nat (κ × Nat) := {}

namespace Memo

def mix (hash : UInt64) (n : Nat) : UInt64 := (hash ^^^ n.toUInt64) * 1099511628211

def hashOf (numbers : List Nat) (slots : Nat) : Nat :=
  (numbers.foldl mix 14695981039346656037).toNat % slots

variable {κ : Type} [DecidableEq κ]

def find? (memo : Memo κ) (slot : Nat) (key : κ) : Option Nat :=
  match memo.slots[slot]? with
  | some (k, state) => if k = key then some state else none
  | none => none

def put (memo : Memo κ) (slot : Nat) (key : κ) (state : Nat) : Memo κ :=
  ⟨memo.slots.insert slot (key, state)⟩

end Memo

structure Transition where
  on : ByteRange
  next : Nat
deriving DecidableEq

/-! Searching forward, the rows of a set form a tree whose finished branches are shared. -/

namespace ForwardSet

structure Work where
  meter : Meter
  memo : Memo (List Transition)

/-- A state to which transitions can still be added: those that are settled, last first, and the
one whose target is still open. -/
structure Pending where
  settled : List Transition
  latest : Option ByteRange

def settle (p : Pending) (next : Nat) : Pending :=
  match p.latest with
  | some range => ⟨⟨range, next⟩ :: p.settled, none⟩
  | none => p

def slotOf (transitions : List Transition) : Nat :=
  Memo.hashOf (transitions.flatMap fun t => [t.on.first, t.on.last, t.next]) 10000

/-- The state with the given transitions, which is new unless the table has it. -/
def state? (w : Work) (transitions : List Transition) : Option (Nat × Work) :=
  let slot := slotOf transitions
  match w.memo.find? slot transitions with
  | some state => some (state, w)
  | none => do
    let meter ← w.meter.charge? 1 (8 * transitions.length)
    some (w.meter.states, ⟨meter, w.memo.put slot transitions w.meter.states⟩)

def finish? (target : Nat) : List Pending → Work → Option (Nat × Work)
  | [], w => some (target, w)
  | p :: deeper, w => do
    let (next, w) ← finish? target deeper w
    state? w (settle p next).settled.reverse

/-- Adds a row to the tree, of which only the latest branch is open. -/
def add? (target : Nat) : List ByteRange → List Pending → Work → Option (List Pending × Work)
  | range :: row, p :: deeper, w =>
    if p.latest = some range then do
      let (deeper, w) ← add? target row deeper w
      some (p :: deeper, w)
    else do
      let (next, w) ← finish? target deeper w
      some (⟨(settle p next).settled, some range⟩ :: row.map fun r => ⟨[], some r⟩, w)
  | _, _, _ => none

def addAll? (target : Nat) : List (List ByteRange) → List Pending → Work →
    Option (List Pending × Work)
  | [], tree, w => some (tree, w)
  | row :: rows, tree, w => do
    let (tree, w) ← add? target row tree w
    addAll? target rows tree w

def charge? (rows : List (List ByteRange)) (m : Meter) : Option Meter := do
  let meter ← m.charge? 1 0
  let (tree, w) ← addAll? m.states rows [⟨[], none⟩] ⟨meter, {}⟩
  let (_, w) ← finish? m.states tree w
  some w.meter

end ForwardSet

/-! Searching backward, a set branches to the last byte of each of its rows. -/

namespace BackwardSet

structure Work where
  meter : Meter
  memo : Memo Transition

def slotOf (t : Transition) : Nat :=
  Memo.hashOf [t.next, t.on.first, t.on.last] 1000

def row? : List ByteRange → Nat → Work → Option Work
  | [], _, w => do
    let meter ← w.meter.charge? 0 4
    some { w with meter }
  | range :: row, next, w =>
    let key : Transition := ⟨range, next⟩
    let slot := slotOf key
    match w.memo.find? slot key with
    | some state => row? row state w
    | none => do
      let meter ← w.meter.charge? 1 0
      row? row w.meter.states ⟨meter, w.memo.put slot key w.meter.states⟩

def rows? : List (List ByteRange) → Nat → Work → Option Work
  | [], _, w => some w
  | row :: rows, target, w => do
    let w ← row? row target w
    rows? rows target w

def charge? (rows : List (List ByteRange)) (m : Meter) : Option Meter := do
  let meter ← m.charge? 2 0
  let w ← rows? rows (m.states + 1) ⟨meter, {}⟩
  some w.meter

end BackwardSet

/-! A tree of literals. The transitions of a node are cut into chunks: what follows a literal that
ends at the node is apart from what was there before. -/

namespace LiteralTree

structure Branch where
  closed : List Nat := []
  active : List (Nat × Nat) := []

abbrev Tree := Array Branch

def step (state : Tree × Nat) (byte : Nat) : Tree × Nat :=
  let (tree, node) := state
  let branch := tree.getD node {}
  match branch.active.lookup byte with
  | some next => (tree, next)
  | none =>
    let branch := { branch with active := (byte, tree.size) :: branch.active }
    ((tree.setIfInBounds node branch).push {}, tree.size)

def insert (tree : Tree) (bytes : List Nat) : Tree :=
  let (tree, node) := bytes.foldl step (tree, 0)
  let branch := tree.getD node {}
  tree.setIfInBounds node ⟨branch.active.length :: branch.closed, []⟩

/-- The states of a node and the bytes of their lists; the ends of literals have none. -/
def cost (b : Branch) : Nat × Nat :=
  let chunks := (b.active.length :: b.closed).filter (0 < ·)
  if chunks.isEmpty then (0, 0)
  else
    (chunks.length + 1,
      4 * (chunks.length + b.closed.length) +
        chunks.foldl (fun n size => if size = 1 then n else n + 8 * size) 0)

def costOf (literals : List (List Nat)) : Nat × Nat :=
  let tree := literals.foldl insert #[{}]
  tree.foldl (fun (n, lists) branch =>
    let (a, b) := cost branch
    (n + a, lists + b)) (1, 0)

end LiteralTree

/-- The parts of an automaton in the order in which their states are made. -/
inductive Layout where
  | states (count lists : Nat)
  | forwardSet (rows : List (List ByteRange))
  | backwardSet (rows : List (List ByteRange))
  | parts (items : List Layout)
  | times (count : Nat) (body : Layout)

namespace Layout

def repeat? (step : Meter → Option Meter) : Nat → Meter → Option Meter
  | 0, m => some m
  | count + 1, m =>
    match step m with
    | some m => repeat? step count m
    | none => none

mutual

def charge? : Layout → Meter → Option Meter
  | .states count lists, m => m.charge? count lists
  | .forwardSet rows, m => ForwardSet.charge? rows m
  | .backwardSet rows, m => BackwardSet.charge? rows m
  | .parts items, m => chargeAll? items m
  | .times count body, m => repeat? body.charge? count m

def chargeAll? : List Layout → Meter → Option Meter
  | [], m => some m
  | item :: items, m =>
    match item.charge? m with
    | some m => chargeAll? items m
    | none => none

end

/-- So many copies in a row; none at all is an empty state. -/
def copies (count : Nat) (body : Layout) : Layout :=
  if count = 0 then .states 1 0 else .times count body

end Layout

namespace Node

def literalBytes? : Node → Option (List Nat)
  | .literal text => some (text.flatMap fun c => ByteRange.encode c.toNat)
  | _ => none

def setLayout (backward : Bool) (set : CharSet) : Layout :=
  if set.isAscii then .states 2 (8 * set.spans.length)
  else if backward then .backwardSet (ByteRange.rows set)
  else .forwardSet (ByteRange.rows set)

def repetitionLayout (least : Nat) (most : Option Nat) (filled : Bool) (body : Layout) : Layout :=
  match least, most with
  | 0, some 1 => .parts [.states 1 8, body, .states 1 0]
  | 0, none => if filled then .parts [.states 1 8, body] else .parts [body, .states 3 16]
  | 1, none => .parts [body, .states 1 8]
  | least, none => .parts [.times least body, .states 1 8]
  | least, some most =>
    if least = most then .copies least body
    else .parts [.copies least body, .states 1 0,
      .times (most - least) (.parts [.states 1 8, body])]

def eitherLayout : List Layout → Layout
  | a :: b :: rest => .parts (a :: b :: .states 2 (4 * (rest.length + 2)) :: rest)
  | items => .parts items

mutual

def layout (backward : Bool) : Node → Layout
  | .nothing => .states 1 0
  | .literal text => .states (textLength text) 0
  | .chars set _ => setLayout backward set
  | .look _ => .states 1 0
  | .repetition least most _ body =>
    repetitionLayout least most body.isFilled (body.layout backward)
  | .capture body =>
    if backward then body.layout backward
    else .parts [.states 1 0, body.layout backward, .states 1 0]
  | .sequence items =>
    if backward then .parts (layouts backward items).reverse else .parts (layouts backward items)
  | .either branches =>
    match branches.mapM literalBytes? with
    | some literals =>
      let (count, lists) := LiteralTree.costOf
        (if backward then literals.map List.reverse else literals)
      .states count lists
    | none => eitherLayout (layouts backward branches)

def layouts (backward : Bool) : List Node → List Layout
  | [] => []
  | n :: ns => n.layout backward :: layouts backward ns

end

/-- An automaton that may start anywhere loops on all bytes first. -/
def entry (anchored : Bool) : Layout := if anchored then .states 1 0 else .states 3 16

def forwardLayout (n : Node) : Layout :=
  .parts [entry (n.opensWith .start), .states 1 0, n.layout false, .states 2 0]

def backwardLayout (n : Node) : Layout :=
  .parts [entry (n.closesWith .finish), n.layout true, .states 1 0]

/-- Whether an expression is a choice between so many literals that they are looked up one by one,
without an automaton. -/
def isDictionary : Node → Bool
  | .either branches =>
    decide (3000 ≤ branches.length) && branches.all fun n => n.literalBytes?.isSome
  | _ => false

def fits (n : Node) : Bool :=
  n.isDictionary ||
    ((n.forwardLayout.charge? {}).isSome && (n.backwardLayout.charge? {}).isSome)

end Node

end EventSchema.Pattern
