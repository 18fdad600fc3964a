import EventSchema.Pattern.Ast
import EventSchema.Pattern.Property
import EventSchema.Text.Blank
import EventSchema.Text.Letter

/-!
Reading regular expressions. There is no look-around and no back-reference, escapes of letters that
mean nothing are refused, and so is a repetition without a count or without something to repeat. In
verbose mode blanks and comments between the parts are passed over.
-/

set_option autoImplicit false

namespace EventSchema.Pattern

/-- What is left to read, whether blanks count, and the names given to groups so far. -/
structure Cursor where
  rest : List Char
  verbose : Bool
  names : List (List Char)

namespace Cursor

/-- Passes over blanks and over comments, which end with their line. -/
def dropSpace (comment : Bool) : List Char → List Char
  | [] => []
  | c :: rest =>
    if comment then dropSpace (c != '\n') rest
    else if Text.isBlank c then dropSpace false rest
    else if c == '#' then dropSpace true rest
    else c :: rest

def skip (cur : Cursor) : Cursor :=
  if cur.verbose then { cur with rest := dropSpace false cur.rest } else cur

def goto (cur : Cursor) (rest : List Char) : Cursor :=
  skip { cur with rest }

end Cursor

/-- The character after the next one, where a comment only counts up to its first character. -/
def peekPast (verbose : Bool) (rest : List Char) : Option Char :=
  if verbose then
    match rest.dropWhile Text.isBlank with
    | '#' :: after => (after.dropWhile Text.isBlank).head?
    | after => after.head?
  else rest.head?

def isMeta (c : Char) : Bool :=
  ['\\', '.', '+', '*', '?', '(', ')', '|', '[', ']', '\x7b', '\x7d', '^', '$', '#', '&', '-',
    '~'].contains c

/-- Characters that may be escaped though they mean themselves. -/
def isEscapable (c : Char) : Bool :=
  isMeta c || (decide (c.toNat < 128) && !c.isAlphanum && c != '<' && c != '>')

def charOfCode? (n : Nat) : Option Char :=
  if n < 0xd800 ∨ (0xdfff < n ∧ n < 0x110000) then some (Char.ofNat n) else none

def readHexDigits? : Nat → List Char → Cursor → Option (List Char × Cursor)
  | 0, digits, cur => some (digits.reverse, cur)
  | count + 1, digits, cur =>
    match cur.rest with
    | c :: rest =>
      if (Text.hexValue c).isSome then readHexDigits? count (c :: digits) (cur.goto rest) else none
    | [] => none

def readBraced? : Nat → List Char → Cursor → Option (List Char × List Char)
  | 0, _, _ => none
  | fuel + 1, chars, cur =>
    match cur.rest with
    | '\x7d' :: rest => some (chars.reverse, rest)
    | c :: rest => readBraced? fuel (c :: chars) (cur.goto rest)
    | [] => none

def readHex? (count : Nat) (byte : Bool) (cur : Cursor) : Option (CharLiteral × Cursor) :=
  match cur.rest with
  | '\x7b' :: rest => do
    let inner := cur.goto rest
    let (digits, after) ← readBraced? (inner.rest.length + 1) [] inner
    if digits.isEmpty || digits.any fun c => (Text.hexValue c).isNone then none
    else
      let c ← charOfCode? (Text.hexNumber digits)
      some (⟨c, false⟩, cur.goto after)
  | _ => do
    let (digits, cur) ← readHexDigits? count [] cur
    let c ← charOfCode? (Text.hexNumber digits)
    some (⟨c, byte⟩, cur)

def cutAt? (mark : List Char) : List Char → List Char → Option (List Char × List Char)
  | _, [] => none
  | before, c :: rest =>
    if mark.isPrefixOf (c :: rest) then some (before.reverse, (c :: rest).drop mark.length)
    else cutAt? mark (c :: before) rest

def queryOf (name : List Char) : PropertyQuery :=
  match cutAt? ['!', '='] [] name with
  | some (p, v) => .value p v true
  | none =>
    match cutAt? [':'] [] name with
    | some (p, v) => .value p v false
    | none =>
      match cutAt? ['='] [] name with
      | some (p, v) => .value p v false
      | none => .name name

def readProperty? (cur : Cursor) : Option (PropertyQuery × Cursor) :=
  match cur.rest with
  | '\x7b' :: rest => do
    let inner := cur.goto rest
    let (name, after) ← readBraced? (inner.rest.length + 1) [] inner
    some (queryOf name, { cur with rest := after })
  | '\\' :: _ => none
  | c :: rest => some (.name [c], cur.goto rest)
  | [] => none

inductive Atom where
  | literal (c : CharLiteral)
  | dot
  | assertion (a : Assertion)
  | property (query : PropertyQuery) (negated : Bool)
  | perl (kind : PerlClass) (negated : Bool)

def Atom.toAst : Atom → Ast
  | .literal c => .literal c
  | .dot => .dot
  | .assertion a => .assertion a
  | .property query negated => .property query negated
  | .perl kind negated => .perl kind negated

def isBoundaryChar (c : Char) : Bool := c.isAlpha || c == '-'

def readBoundaryName : Nat → List Char → Cursor → List Char × Cursor
  | 0, name, cur => (name.reverse, cur)
  | fuel + 1, name, cur =>
    match cur.rest with
    | c :: rest =>
      if isBoundaryChar c then readBoundaryName fuel (c :: name) (cur.goto rest)
      else (name.reverse, cur)
    | [] => (name.reverse, cur)

/-- After a word boundary: a kind in braces, unless the braces are those of a repetition. -/
def readBoundary? (cur : Cursor) : Option (Assertion × Cursor) :=
  match cur.rest with
  | '\x7b' :: rest =>
    let inner := cur.goto rest
    match inner.rest with
    | [] => none
    | c :: _ =>
      if !isBoundaryChar c then some (.wordBoundary, cur)
      else
        let (name, after) := readBoundaryName inner.rest.length [] inner
        match after.rest with
        | '\x7d' :: rest =>
          let done (a : Assertion) := some (a, { after with rest })
          match String.ofList name with
          | "start" => done .wordStart
          | "end" => done .wordEnd
          | "start-half" => done .wordStartHalf
          | "end-half" => done .wordEndHalf
          | _ => none
        | _ => none
  | _ => some (.wordBoundary, cur)

def readEscape? (cur : Cursor) : Option (Atom × Cursor) :=
  match cur.rest with
  | [] => none
  | c :: rest =>
    let next := { cur with rest }
    let spaced := cur.goto rest
    let literal (d : Char) := some (Atom.literal ⟨d, false⟩, next)
    let hex (count : Nat) (byte : Bool) :=
      (readHex? count byte spaced).map fun (c, cur) => (Atom.literal c, cur)
    match c with
    | 'x' => hex 2 true
    | 'u' => hex 4 false
    | 'U' => hex 8 false
    | 'p' => (readProperty? spaced).map fun (q, cur) => (.property q false, cur)
    | 'P' => (readProperty? spaced).map fun (q, cur) => (.property q true, cur)
    | 'd' => some (.perl .digit false, next)
    | 'D' => some (.perl .digit true, next)
    | 's' => some (.perl .space false, next)
    | 'S' => some (.perl .space true, next)
    | 'w' => some (.perl .word false, next)
    | 'W' => some (.perl .word true, next)
    | 'a' => literal '\x07'
    | 'f' => literal '\x0c'
    | 't' => literal '\t'
    | 'n' => literal '\n'
    | 'r' => literal '\r'
    | 'v' => literal '\x0b'
    | 'A' => some (.assertion .textStart, next)
    | 'z' => some (.assertion .textEnd, next)
    | 'b' => (readBoundary? next).map fun (a, cur) => (.assertion a, cur)
    | 'B' => some (.assertion .notWordBoundary, next)
    | '<' => some (.assertion .wordStart, next)
    | '>' => some (.assertion .wordEnd, next)
    | _ => if isEscapable c then literal c else none

def readAtom? (cur : Cursor) : Option (Atom × Cursor) :=
  match cur.rest with
  | '\\' :: rest => readEscape? { cur with rest }
  | '.' :: rest => some (.dot, { cur with rest })
  | '^' :: rest => some (.assertion .lineStart, { cur with rest })
  | '$' :: rest => some (.assertion .lineEnd, { cur with rest })
  | c :: rest => some (.literal ⟨c, false⟩, { cur with rest })
  | [] => none

def asciiClass? : String → Option (List (Nat × Nat))
  | "alnum" => some [(48, 57), (65, 90), (97, 122)]
  | "alpha" => some [(65, 90), (97, 122)]
  | "ascii" => some [(0, 127)]
  | "blank" => some [(9, 9), (32, 32)]
  | "cntrl" => some [(0, 31), (127, 127)]
  | "digit" => some [(48, 57)]
  | "graph" => some [(33, 126)]
  | "lower" => some [(97, 122)]
  | "print" => some [(32, 126)]
  | "punct" => some [(33, 47), (58, 64), (91, 96), (123, 126)]
  | "space" => some [(9, 13), (32, 32)]
  | "upper" => some [(65, 90)]
  | "word" => some [(48, 57), (65, 90), (95, 95), (97, 122)]
  | "xdigit" => some [(48, 57), (65, 70), (97, 102)]
  | _ => none

def readAsciiClass? : List Char → Option (ClassItem × List Char)
  | ':' :: rest =>
    let (negated, rest) := match rest with
      | '^' :: after => (true, after)
      | _ => (false, rest)
    match rest.span (· != ':') with
    | (name, ':' :: ']' :: after) =>
      (asciiClass? (String.ofList name)).map fun spans => (.ascii spans negated, after)
    | _ => none
  | _ => none

def itemOf? : Atom → Option ClassItem
  | .literal c => some (.literal c)
  | .perl kind negated => some (.perl kind negated)
  | .property query negated => some (.property query negated)
  | .dot | .assertion _ => none

def literalOf? : Atom → Option CharLiteral
  | .literal c => some c
  | _ => none

def readClassAtom? (cur : Cursor) : Option (Atom × Cursor) :=
  match cur.rest with
  | '\\' :: rest => readEscape? { cur with rest }
  | c :: rest => some (.literal ⟨c, false⟩, { cur with rest })
  | [] => none

def readRange? (cur : Cursor) : Option (ClassItem × Cursor) := do
  let (first, cur) ← readClassAtom? cur
  let cur := cur.skip
  match cur.rest with
  | [] => none
  | '-' :: rest =>
    let past := peekPast cur.verbose rest
    if past = some ']' ∨ past = some '-' then some (← itemOf? first, cur)
    else
      let cur := cur.goto rest
      let (last, cur) ← readClassAtom? cur
      let first ← literalOf? first
      let last ← literalOf? last
      if first.char.toNat ≤ last.char.toNat then some (.range first last, cur) else none
  | _ => some (← itemOf? first, cur)

/-- Hyphens at the start of a class stand for themselves. -/
def readHyphens : Nat → List ClassItem → Cursor → List ClassItem × Cursor
  | 0, items, cur => (items, cur)
  | fuel + 1, items, cur =>
    match cur.rest with
    | '-' :: rest => readHyphens fuel (.literal ⟨'-', false⟩ :: items) (cur.goto rest)
    | _ => (items, cur)

/-- After an opening bracket: the caret, the hyphens, and a bracket that comes first. The items are
given last first. -/
def readClassStart (cur : Cursor) : Bool × List ClassItem × Cursor :=
  let cur := cur.skip
  let (negated, cur) := match cur.rest with
    | '^' :: rest => (true, cur.goto rest)
    | _ => (false, cur)
  let (items, cur) := readHyphens cur.rest.length [] cur
  match items, cur.rest with
  | [], ']' :: rest => (negated, [.literal ⟨']', false⟩], cur.goto rest)
  | _, _ => (negated, items, cur)

def combine : Option (ClassSet × SetOp) → ClassSet → ClassSet
  | none, set => set
  | some (left, kind), set => .op kind left set

/-- The items of a class up to its closing bracket, last first in `items`; `pending` is what stands
before the last operator. -/
def readClass? : Nat → Option (ClassSet × SetOp) → List ClassItem → Cursor →
    Option (ClassSet × Cursor)
  | 0, _, _, _ => none
  | fuel + 1, pending, items, cur =>
    let cur := cur.skip
    let set := combine pending (.union items.reverse)
    match cur.rest with
    | [] => none
    | '[' :: rest =>
      match readAsciiClass? rest with
      | some (item, rest) => readClass? fuel pending (item :: items) { cur with rest }
      | none => do
        let (negated, first, inner) := readClassStart { cur with rest }
        let (set, cur) ← readClass? fuel none first inner
        readClass? fuel pending (.bracketed set negated :: items) cur
    | ']' :: rest => some (set, { cur with rest })
    | '&' :: '&' :: rest => readClass? fuel (some (set, .intersection)) [] { cur with rest }
    | '-' :: '-' :: rest => readClass? fuel (some (set, .difference)) [] { cur with rest }
    | '~' :: '~' :: rest => readClass? fuel (some (set, .symmetricDifference)) [] { cur with rest }
    | _ => do
      let (item, cur) ← readRange? cur
      readClass? fuel pending (item :: items) cur

def flagOf? : Char → Option Flag
  | 'i' => some .ignoreCase
  | 'm' => some .multiLine
  | 's' => some .dotNewline
  | 'U' => some .swapGreed
  | 'u' => some .unicode
  | 'R' => some .carriageReturn
  | 'x' => some .verbose
  | _ => none

/-- Flags up to a colon or a closing parenthesis, with that mark. One minus may switch the flags
after it off; no flag may be given twice. -/
def readFlags? (negated : Bool) (dangling : Bool) (flags : FlagSet) :
    List Char → Option (FlagSet × Char × List Char)
  | [] => none
  | c :: rest =>
    if c = ':' ∨ c = ')' then if dangling then none else some (flags.reverse, c, rest)
    else if c = '-' then if negated then none else readFlags? true true flags rest
    else do
      let flag ← flagOf? c
      if flags.any (·.1 == flag) then none
      else readFlags? negated false ((flag, !negated) :: flags) rest

def FlagSet.verbose? (flags : FlagSet) : Option Bool :=
  flags.lookup .verbose

def isNameStart (c : Char) : Bool :=
  c == '_' || Text.isLetter c

def isNamePart (c : Char) : Bool :=
  c == '_' || c == '.' || c == '[' || c == ']' || Text.isLetterOrNumber c

def readGroupName? (cur : Cursor) : Option Cursor :=
  match cur.rest.span (· != '>') with
  | (c :: cs, '>' :: rest) =>
    if isNameStart c && cs.all isNamePart && !cur.names.contains (c :: cs) then
      some { cur with rest, names := (c :: cs) :: cur.names }
    else none
  | _ => none

inductive Opening where
  | group (flags : FlagSet)
  | capture
  /-- Flags for the rest of the enclosing group. -/
  | setFlags (flags : FlagSet)

def readOpening? (cur : Cursor) : Option (Opening × Cursor) :=
  let cur := cur.skip
  match cur.rest with
  | '?' :: '=' :: _ => none
  | '?' :: '!' :: _ => none
  | '?' :: '<' :: '=' :: _ => none
  | '?' :: '<' :: '!' :: _ => none
  | '?' :: 'P' :: '<' :: rest => (readGroupName? { cur with rest }).map (.capture, ·)
  | '?' :: '<' :: rest => (readGroupName? { cur with rest }).map (.capture, ·)
  | '?' :: rest => do
    let (flags, mark, rest) ← readFlags? false false [] rest
    if mark = ')' then
      if flags.isEmpty then none else some (.setFlags flags, { cur with rest })
    else some (.group flags, { cur with rest })
  | _ => some (.capture, cur)

def Opening.flags : Opening → FlagSet
  | .group flags => flags
  | .setFlags flags => flags
  | .capture => []

def Opening.close (opening : Opening) (body : Ast) : Ast :=
  match opening with
  | .capture => .capture body
  | _ => .group opening.flags body

def repeatable? : List Ast → Option (Ast × List Ast)
  | [] => none
  | .empty :: _ => none
  | .setFlags _ :: _ => none
  | a :: rest => some (a, rest)

def readGreed (cur : Cursor) : Bool × Cursor :=
  match cur.rest with
  | '?' :: rest => (false, { cur with rest })
  | _ => (true, cur)

def readDigits : Nat → List Char → Cursor → List Char × Cursor
  | 0, digits, cur => (digits.reverse, cur)
  | fuel + 1, digits, cur =>
    match cur.rest with
    | c :: rest =>
      if c.isDigit then readDigits fuel (c :: digits) (cur.goto rest)
      else (digits.reverse, cur)
    | [] => (digits.reverse, cur)

def countLimit : Nat := Nat.pow 2 32

/-- A count, or nothing where no digit stands; too large a count fails. -/
def readCount? (cur : Cursor) : Option (Option Nat × Cursor) :=
  let cur := { cur with rest := cur.rest.dropWhile Text.isBlank }
  let (digits, cur) := readDigits cur.rest.length [] cur
  let cur := { cur with rest := cur.rest.dropWhile Text.isBlank }.skip
  if digits.isEmpty then some (none, cur)
  else
    let n := digits.foldl (fun n c => 10 * n + (c.toNat - 48)) 0
    if n < countLimit then some (some n, cur) else none

def readCounts? (cur : Cursor) : Option (Nat × Option Nat × Bool × Cursor) := do
  let (least, cur) ← readCount? cur.skip
  let least ← least
  match cur.rest with
  | '\x7d' :: rest => some (least, some least, readGreed (cur.goto rest))
  | ',' :: rest =>
    let cur := cur.goto rest
    match cur.rest with
    | '\x7d' :: rest => some (least, none, readGreed (cur.goto rest))
    | _ =>
      let (most, cur) ← readCount? cur
      let most ← most
      match cur.rest with
      | '\x7d' :: rest =>
        if least ≤ most then some (least, some most, readGreed (cur.goto rest)) else none
      | _ => none
  | _ => none

def sequenceOf : List Ast → Ast
  | [] => .empty
  | [a] => a
  | as => .sequence as

def eitherOf : List Ast → Ast
  | [a] => a
  | as => .either as

mutual

def readBranches? : Nat → Cursor → Option (List Ast × Cursor)
  | 0, _ => none
  | fuel + 1, cur => do
    let (branch, cur) ← readSequence? fuel [] cur
    match cur.rest with
    | '|' :: rest =>
      let (branches, cur) ← readBranches? fuel { cur with rest }
      some (branch :: branches, cur)
    | _ => some ([branch], cur)

def readSequence? : Nat → List Ast → Cursor → Option (Ast × Cursor)
  | 0, _, _ => none
  | fuel + 1, items, cur =>
    let cur := cur.skip
    match cur.rest with
    | [] => some (sequenceOf items.reverse, cur)
    | '|' :: _ => some (sequenceOf items.reverse, cur)
    | ')' :: _ => some (sequenceOf items.reverse, cur)
    | '(' :: rest => do
      let (opening, inner) ← readOpening? { cur with rest }
      match opening with
      | .setFlags flags =>
        readSequence? fuel (.setFlags flags :: items)
          { inner with verbose := flags.verbose?.getD inner.verbose }
      | _ =>
        let (branches, after) ← readBranches? fuel
          { inner with verbose := opening.flags.verbose?.getD inner.verbose }
        match after.rest with
        | ')' :: rest =>
          readSequence? fuel (opening.close (eitherOf branches) :: items)
            { after with rest, verbose := cur.verbose }
        | _ => none
    | '[' :: rest => do
      let (negated, first, inner) := readClassStart { cur with rest }
      let (set, cur) ← readClass? (2 * inner.rest.length + 2) none first inner
      readSequence? fuel (.bracketed set negated :: items) cur
    | '*' :: rest => do
      let (a, before) ← repeatable? items
      let (greedy, cur) := readGreed { cur with rest }
      readSequence? fuel (.repetition 0 none greedy a :: before) cur
    | '+' :: rest => do
      let (a, before) ← repeatable? items
      let (greedy, cur) := readGreed { cur with rest }
      readSequence? fuel (.repetition 1 none greedy a :: before) cur
    | '?' :: rest => do
      let (a, before) ← repeatable? items
      let (greedy, cur) := readGreed { cur with rest }
      readSequence? fuel (.repetition 0 (some 1) greedy a :: before) cur
    | '\x7b' :: rest => do
      let (a, before) ← repeatable? items
      let (least, most, greedy, cur) ← readCounts? { cur with rest }
      readSequence? fuel (.repetition least most greedy a :: before) cur
    | _ => do
      let (atom, cur) ← readAtom? cur
      readSequence? fuel (atom.toAst :: items) cur

end

def maxDepth : Nat := 250

def Ast.ofText? (text : String) : Option Ast := do
  let cs := text.toList
  let (branches, cur) ← readBranches? (2 * cs.length + 2) ⟨cs, false, []⟩
  let ast := eitherOf branches
  if cur.rest.isEmpty && decide (ast.depth ≤ maxDepth) then some ast else none

end EventSchema.Pattern
