import EventSchema.Pattern.CharSet

/-!
Regular expressions by their meaning: terms over literal text, sets of characters and conditions on
positions, with all flags applied. Terms are built by functions that bring them into a simple form:
sequences and alternatives do not nest, neighbouring literals are joined, and alternatives between
single characters are a set.
-/

set_option autoImplicit false

namespace EventSchema.Pattern

inductive Look where
  | start
  | finish
  | lineStart (carriageReturn : Bool)
  | lineEnd (carriageReturn : Bool)
  | boundary (unicode : Bool)
  | notBoundary (unicode : Bool)
  | wordStart (unicode : Bool)
  | wordEnd (unicode : Bool)
  | wordStartHalf (unicode : Bool)
  | wordEndHalf (unicode : Bool)
deriving DecidableEq, Repr

inductive Node where
  | nothing
  | literal (text : List Char)
  /-- One character of a set; `bytes` marks a set that was written with Unicode switched off. -/
  | chars (set : CharSet) (bytes : Bool)
  | look (condition : Look)
  | repetition (least : Nat) (most : Option Nat) (greedy : Bool) (body : Node)
  | capture (body : Node)
  | sequence (items : List Node)
  | either (branches : List Node)

namespace Node

def never : Node := .chars .empty true

def utf8Length (code : Nat) : Nat :=
  if code < 0x80 then 1 else if code < 0x800 then 2 else if code < 0x10000 then 3 else 4

def textLength (text : List Char) : Nat :=
  text.foldl (fun n c => n + utf8Length c.toNat) 0

mutual

def minLength? : Node → Option Nat
  | .nothing => some 0
  | .literal text => some (textLength text)
  | .chars set _ => set.spans.head?.map fun span => utf8Length span.1
  | .look _ => some 0
  | .repetition least _ _ body => body.minLength?.map (least * ·)
  | .capture body => body.minLength?
  | .sequence items => minLengthSum? items
  | .either branches => minLengthLeast? branches

def minLengthSum? : List Node → Option Nat
  | [] => some 0
  | n :: ns => do
    let a ← n.minLength?
    let b ← minLengthSum? ns
    some (a + b)

def minLengthLeast? : List Node → Option Nat
  | [] => none
  | [n] => n.minLength?
  | n :: m :: ns => do
    let a ← n.minLength?
    let b ← minLengthLeast? (m :: ns)
    some (min a b)

end

mutual

/-- The greatest number of bytes of a match, if it is bounded and every part can match. -/
def maxLength? : Node → Option Nat
  | .nothing => some 0
  | .literal text => some (textLength text)
  | .chars set _ => set.spans.getLast?.map fun span => utf8Length span.2
  | .look _ => some 0
  | .repetition _ most _ body => do
    let count ← most
    let length ← body.maxLength?
    some (length * count)
  | .capture body => body.maxLength?
  | .sequence items => maxLengthSum? items
  | .either branches => maxLengthGreatest? branches

def maxLengthSum? : List Node → Option Nat
  | [] => some 0
  | n :: ns => do
    let a ← n.maxLength?
    let b ← maxLengthSum? ns
    some (a + b)

def maxLengthGreatest? : List Node → Option Nat
  | [] => none
  | [n] => n.maxLength?
  | n :: m :: ns => do
    let a ← n.maxLength?
    let b ← maxLengthGreatest? (m :: ns)
    some (max a b)

end

def isEmptyOnly (n : Node) : Bool := n.maxLength? == some 0

def isFilled (n : Node) : Bool := n.minLength?.any (0 < ·)

mutual

def opensWith (condition : Look) : Node → Bool
  | .look c => c == condition
  | .repetition least _ _ body => decide (0 < least) && body.opensWith condition
  | .capture body => body.opensWith condition
  | .sequence items => opensSequence condition items
  | .either branches => opensEach condition branches
  | _ => false

/-- What takes no characters lets the condition of the next part through. -/
def opensSequence (condition : Look) : List Node → Bool
  | [] => false
  | n :: ns => n.opensWith condition || (n.isEmptyOnly && opensSequence condition ns)

def opensEach (condition : Look) : List Node → Bool
  | [] => true
  | n :: ns => n.opensWith condition && opensEach condition ns

end

mutual

def closesWith (condition : Look) : Node → Bool
  | .look c => c == condition
  | .repetition least _ _ body => decide (0 < least) && body.closesWith condition
  | .capture body => body.closesWith condition
  | .sequence items => (closesSequence condition items).1
  | .either branches => closesEach condition branches
  | _ => false

def closesSequence (condition : Look) : List Node → Bool × Bool
  | [] => (false, true)
  | n :: ns =>
    let (closes, hollow) := closesSequence condition ns
    (closes || (hollow && n.closesWith condition), hollow && n.isEmptyOnly)

def closesEach (condition : Look) : List Node → Bool
  | [] => true
  | n :: ns => n.closesWith condition && closesEach condition ns

end

mutual

/-- Whether two expressions are the same term; every capture is one of its own. -/
def same : Node → Node → Bool
  | .nothing, .nothing => true
  | .literal a, .literal b => a == b
  | .chars a p, .chars b q => a == b && p == q
  | .look a, .look b => a == b
  | .repetition least most greedy a, .repetition least' most' greedy' b =>
    least == least' && most == most' && greedy == greedy' && same a b
  | .sequence as, .sequence bs => sameAll as bs
  | .either as, .either bs => sameAll as bs
  | _, _ => false

def sameAll : List Node → List Node → Bool
  | [], [] => true
  | a :: as, b :: bs => same a b && sameAll as bs
  | _, _ => false

end

def ofSet (set : CharSet) (bytes : Bool) : Node :=
  match set.spans with
  | [] => never
  | [(a, b)] => if a = b then .literal [Char.ofNat a] else .chars set bytes
  | _ => .chars set bytes

/-- What matches the empty text only need not be repeated. -/
def repeated (least : Nat) (most : Option Nat) (greedy : Bool) (body : Node) : Node :=
  let least := if body.isEmptyOnly then min least 1 else least
  let most := if body.isEmptyOnly then some (min (most.getD 1) 1) else most
  if least = 0 ∧ most = some 0 then .nothing
  else if least = 1 ∧ most = some 1 then body
  else .repetition least most greedy body

def items : Node → List Node
  | .nothing => []
  | .sequence items => items
  | n => [n]

def joinLiterals : List Node → List Node
  | [] => []
  | n :: ns =>
    match n, joinLiterals ns with
    | .literal a, .literal b :: rest => .literal (a ++ b) :: rest
    | n, rest => n :: rest

def sequenceOf (nodes : List Node) : Node :=
  match joinLiterals (nodes.flatMap items) with
  | [] => .nothing
  | [n] => n
  | ns => .sequence ns

def branches : Node → List Node
  | .either branches => branches
  | n => [n]

def single? : Node → Option (Nat × Nat)
  | .literal [c] => some (c.toNat, c.toNat)
  | _ => none

def spans? : Node → Option (List (Nat × Nat))
  | .chars set _ => some set.spans
  | _ => none

/-- A set, if all alternatives are single characters or all are sets. -/
def unionSet? (nodes : List Node) : Option CharSet :=
  ((nodes.mapM single?).or ((nodes.mapM spans?).map List.flatten)).map .ofSpans

def simpleEitherOf (nodes : List Node) : Node :=
  match nodes.flatMap branches with
  | [] => never
  | [n] => n
  | ns =>
    match unionSet? ns with
    | some set => ofSet set false
    | none => .either ns

def commonLength : List Node → List Node → Nat
  | a :: as, b :: bs => if same a b then commonLength as bs + 1 else 0
  | _, _ => 0

def sequenceItems? : Node → Option (List Node)
  | .sequence items => some items
  | _ => none

def commonStart? (nodes : List Node) : Option (List Node × List (List Node)) := do
  let rows ← nodes.mapM sequenceItems?
  let first ← rows.head?
  let length := rows.foldl (fun n row => min n (commonLength first row)) first.length
  if length = 0 then none else some (first.take length, rows.map (·.drop length))

def eitherOf (nodes : List Node) : Node :=
  match simpleEitherOf nodes with
  | .either ns =>
    match commonStart? ns with
    | some (first, rests) => sequenceOf (first ++ [simpleEitherOf (rests.map sequenceOf)])
    | none => .either ns
  | n => n

end Node

end EventSchema.Pattern
