import EventSchema.Pattern.Footprint
import EventSchema.Pattern.Meaning

/-!
Programs that search a text for a regular expression in one pass. A program is an array of
instructions; the search keeps the set of instructions that can be reached at the current position,
and adds the first one at every position, since a match may start anywhere.
-/

set_option autoImplicit false

namespace EventSchema.Pattern

inductive Instruction where
  | chars (set : Text.Ranges) (next : Nat)
  | look (condition : Look) (next : Nat)
  | fork (first second : Nat)
  | matched

structure Program where
  code : Array Instruction
  start : Nat

namespace Node

/-- Writes `count` copies of something, each going on to the one written before it. -/
def copies (write : Nat → Array Instruction → Nat × Array Instruction) :
    Nat → Nat → Array Instruction → Nat × Array Instruction
  | 0, next, code => (next, code)
  | count + 1, next, code =>
    let (entry, code) := write next code
    copies write count entry code

def optionals (write : Nat → Array Instruction → Nat × Array Instruction) (exit : Nat) :
    Nat → Nat → Array Instruction → Nat × Array Instruction
  | 0, next, code => (next, code)
  | count + 1, next, code =>
    let (entry, code) := write next code
    optionals write exit count code.size (code.push (.fork entry exit))

def loop (write : Nat → Array Instruction → Nat × Array Instruction) (next : Nat)
    (code : Array Instruction) : Nat × Array Instruction :=
  let fork := code.size
  let (entry, code) := write fork (code.push (.fork next next))
  (fork, code.setIfInBounds fork (.fork entry next))

def writeText : List Char → Nat → Array Instruction → Nat × Array Instruction
  | [], next, code => (next, code)
  | c :: rest, next, code =>
    let (after, code) := writeText rest next code
    (code.size, code.push (.chars ⟨#[(c.toNat, c.toNat)]⟩ after))

mutual

def write : Node → Nat → Array Instruction → Nat × Array Instruction
  | .nothing, next, code => (next, code)
  | .literal text, next, code => writeText text next code
  | .chars set _, next, code => (code.size, code.push (.chars ⟨set.spans.toArray⟩ next))
  | .capture body, next, code => write body next code
  | .look condition, next, code => (code.size, code.push (.look condition next))
  | .sequence items, next, code => writeAll items next code
  | .either branches, next, code => writeEither branches next code
  | .repetition least most _ body, next, code =>
    let (entry, code) := match most with
      | none => loop (write body) next code
      | some most => optionals (write body) next (most - least) next code
    copies (write body) least entry code

def writeAll : List Node → Nat → Array Instruction → Nat × Array Instruction
  | [], next, code => (next, code)
  | n :: ns, next, code =>
    let (rest, code) := writeAll ns next code
    write n rest code

def writeEither : List Node → Nat → Array Instruction → Nat × Array Instruction
  | [], next, code => (next, code)
  | [n], next, code => write n next code
  | n :: m :: ns, next, code =>
    let (others, code) := writeEither (m :: ns) next code
    let (entry, code) := write n next code
    (code.size, code.push (.fork entry others))

end

end Node

def isAsciiWordChar (c : Char) : Bool := c.isAlphanum || c == '_'

namespace Look

def isWord (unicode : Bool) (c : Option Char) : Bool :=
  c.any fun c => if unicode then Property.isWordChar c else isAsciiWordChar c

/-- Whether the condition holds between two neighbouring characters; at an end of the text there
is none. -/
def holds (before after : Option Char) : Look → Bool
  | .start => before.isNone
  | .finish => after.isNone
  | .lineStart false => before.all (· == '\n')
  | .lineEnd false => after.all (· == '\n')
  | .lineStart true => before.all fun c => c == '\n' || (c == '\r' && after != some '\n')
  | .lineEnd true => after.all fun c => c == '\r' || (c == '\n' && before != some '\r')
  | .boundary u => isWord u before != isWord u after
  | .notBoundary u => isWord u before == isWord u after
  | .wordStart u => !isWord u before && isWord u after
  | .wordEnd u => isWord u before && !isWord u after
  | .wordStartHalf u => !isWord u before
  | .wordEndHalf u => !isWord u after

end Look

namespace Program

def ofNode (node : Node) : Program :=
  let (start, code) := node.write 0 #[.matched]
  ⟨code, start⟩

def ofAst? (ast : Ast) : Option Program := do
  let (node, _) ← ast.meaning? {}
  if node.fits then some (ofNode node) else none

def ofText? (text : String) : Option Program :=
  (Ast.ofText? text).bind ofAst?

/-- The instructions at a position: which were reached, which of them take a character, and whether
the match is complete. -/
structure Reached where
  marks : Array Bool
  waiting : List Nat
  matched : Bool

/-- Follows forks and conditions from the pending instructions; `fuel` bounds the steps, of which
each instruction takes at most three. -/
def follow (p : Program) (before after : Option Char) : Nat → List Nat → Reached → Reached
  | 0, _, r => r
  | _ + 1, [], r => r
  | fuel + 1, i :: pending, r =>
    if r.marks.getD i true then follow p before after fuel pending r
    else
      let r := { r with marks := r.marks.setIfInBounds i true }
      match p.code[i]? with
      | none => follow p before after fuel pending r
      | some .matched => { r with matched := true }
      | some (.chars _ _) =>
        follow p before after fuel pending { r with waiting := i :: r.waiting }
      | some (.look condition next) =>
        if condition.holds before after then follow p before after fuel (next :: pending) r
        else follow p before after fuel pending r
      | some (.fork first second) => follow p before after fuel (first :: second :: pending) r

def advance (p : Program) (c : Char) (waiting : List Nat) : List Nat :=
  waiting.filterMap fun i => match p.code[i]? with
    | some (Instruction.chars set next) => if set.contains c.toNat then some next else none
    | _ => none

def reach (p : Program) (before after : Option Char) (pending : List Nat) : Reached :=
  let pending := p.start :: pending
  p.follow before after (3 * p.code.size + pending.length + 1) pending
    ⟨Array.replicate p.code.size false, [], false⟩

def searchFrom (p : Program) (before : Option Char) (pending : List Nat) : List Char → Bool
  | [] => (p.reach before none pending).matched
  | c :: rest =>
    let r := p.reach before (some c) pending
    r.matched || searchFrom p (some c) (p.advance c r.waiting) rest

def finds (p : Program) (text : String) : Bool :=
  p.searchFrom none [] text.toList

end Program

end EventSchema.Pattern
