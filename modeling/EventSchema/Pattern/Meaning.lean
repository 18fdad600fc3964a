import EventSchema.Pattern.Node
import EventSchema.Pattern.Reader

/-!
What a regular expression means once its flags are applied. Where Unicode is switched off, classes
are sets of bytes, and one that would hold a byte above 127 has no meaning in text.
-/

set_option autoImplicit false

namespace EventSchema.Pattern

structure Flags where
  ignoreCase : Bool := false
  multiLine : Bool := false
  dotNewline : Bool := false
  unicode : Bool := true
  carriageReturn : Bool := false
  swapGreed : Bool := false

namespace Flags

def set (flags : Flags) : Flag → Bool → Flags
  | .ignoreCase, on => { flags with ignoreCase := on }
  | .multiLine, on => { flags with multiLine := on }
  | .dotNewline, on => { flags with dotNewline := on }
  | .unicode, on => { flags with unicode := on }
  | .carriageReturn, on => { flags with carriageReturn := on }
  | .swapGreed, on => { flags with swapGreed := on }
  | .verbose, _ => flags

def setAll (flags : Flags) (changes : FlagSet) : Flags :=
  changes.foldl (fun flags change => flags.set change.1 change.2) flags

def fold (flags : Flags) (set : CharSet) : CharSet :=
  if !flags.ignoreCase then set
  else if flags.unicode then set.foldCase
  else set.foldAsciiCase

/-- The complement, which text has for sets of bytes only if they stay ASCII. -/
def negate? (flags : Flags) (negated : Bool) (set : CharSet) : Option CharSet :=
  if !negated then some set
  else if flags.unicode then some set.complement
  else
    let others : CharSet := set.complement.inter ⟨[(0, 255)]⟩
    if others.isAscii then some others else none

def asciiWord : CharSet := ⟨[(48, 57), (65, 90), (95, 95), (97, 122)]⟩

def perl? (flags : Flags) (kind : PerlClass) (negated : Bool) : Option CharSet :=
  let set := match kind, flags.unicode with
    | .digit, true => Property.digits
    | .space, true => Property.spaces
    | .word, true => Property.wordChars
    | .digit, false => ⟨[(48, 57)]⟩
    | .space, false => ⟨[(9, 13), (32, 32)]⟩
    | .word, false => asciiWord
  flags.negate? negated set

def query? : PropertyQuery → Option (CharSet × Bool)
  | .name name => (Property.byName? name).map (·, false)
  | .value property value differs => (Property.byValue? property value).map (·, differs)

def property? (flags : Flags) (query : PropertyQuery) (negated : Bool) : Option CharSet := do
  if !flags.unicode then none
  else
    let (set, differs) ← query? query
    flags.negate? (negated != differs) (flags.fold set)

/-- A character of an expression; a byte above 127 is none. -/
def literal? (flags : Flags) (c : CharLiteral) : Option Char :=
  if !flags.unicode && c.byte && decide (127 < c.char.toNat) then none else some c.char

def classLiteral? (flags : Flags) (c : CharLiteral) : Option Nat :=
  if !flags.unicode && decide (127 < c.char.toNat) then none else some c.char.toNat

end Flags

mutual

def ClassSet.meaning? (flags : Flags) : ClassSet → Option CharSet
  | .union items => (ClassSet.meaningAll? flags items).map .ofSpans
  | .op kind left right => do
    let a ← left.meaning? flags
    let b ← right.meaning? flags
    let a := flags.fold a
    let b := flags.fold b
    some (match kind with
      | .intersection => a.inter b
      | .difference => a.diff b
      | .symmetricDifference => a.symmetricDiff b)

def ClassItem.meaning? (flags : Flags) : ClassItem → Option CharSet
  | .literal c => (flags.classLiteral? c).map fun n => ⟨[(n, n)]⟩
  | .range first last => do
    let a ← flags.classLiteral? first
    let b ← flags.classLiteral? last
    some ⟨[(a, b)]⟩
  | .ascii spans negated => flags.negate? negated (flags.fold ⟨spans⟩)
  | .property query negated => flags.property? query negated
  | .perl kind negated => flags.perl? kind negated
  | .bracketed set negated => do
    let inner ← set.meaning? flags
    flags.negate? negated (flags.fold inner)

def ClassSet.meaningAll? (flags : Flags) : List ClassItem → Option (List (Nat × Nat))
  | [] => some []
  | item :: items => do
    let set ← item.meaning? flags
    let spans ← ClassSet.meaningAll? flags items
    some (set.spans ++ spans)

end

def Assertion.look (flags : Flags) : Assertion → Look
  | .lineStart => if flags.multiLine then .lineStart flags.carriageReturn else .start
  | .lineEnd => if flags.multiLine then .lineEnd flags.carriageReturn else .finish
  | .textStart => .start
  | .textEnd => .finish
  | .wordBoundary => .boundary flags.unicode
  | .notWordBoundary => .notBoundary flags.unicode
  | .wordStart => .wordStart flags.unicode
  | .wordEnd => .wordEnd flags.unicode
  | .wordStartHalf => .wordStartHalf flags.unicode
  | .wordEndHalf => .wordEndHalf flags.unicode

def Flags.node (flags : Flags) (set : CharSet) : Node := .ofSet set (!flags.unicode)

def Flags.dot? (flags : Flags) : Option CharSet :=
  if !flags.unicode then none
  else if flags.dotNewline then some .all
  else if flags.carriageReturn then some (CharSet.complement ⟨[(10, 10), (13, 13)]⟩)
  else some (CharSet.complement ⟨[(10, 10)]⟩)

mutual

def Ast.meaning? (flags : Flags) : Ast → Option (Node × Flags)
  | .empty => some (.nothing, flags)
  | .setFlags changes => some (.nothing, flags.setAll changes)
  | .literal c => (flags.literal? c).map fun c => (flags.node (flags.fold (.ofChar c)), flags)
  | .dot => flags.dot?.map fun set => (flags.node set, flags)
  | .assertion a => some (.look (a.look flags), flags)
  | .property query negated => (flags.property? query negated).map fun set => (flags.node set, flags)
  | .perl kind negated => (flags.perl? kind negated).map fun set => (flags.node set, flags)
  | .bracketed set negated => do
    let inner ← set.meaning? flags
    let chars ← flags.negate? negated (flags.fold inner)
    some (flags.node chars, flags)
  | .repetition least most greedy body => do
    let (node, after) ← body.meaning? flags
    some (.repeated least most (greedy != after.swapGreed) node, after)
  | .group changes body => do
    let (node, _) ← body.meaning? (flags.setAll changes)
    some (node, flags)
  | .capture body => do
    let (node, _) ← body.meaning? flags
    some (.capture node, flags)
  | .either branches => do
    let (nodes, after) ← Ast.meanings? flags branches
    some (.eitherOf nodes, after)
  | .sequence items => do
    let (nodes, after) ← Ast.meanings? flags items
    some (.sequenceOf nodes, after)

/-- Expressions one after the other, each under the flags that the one before it left. -/
def Ast.meanings? (flags : Flags) : List Ast → Option (List Node × Flags)
  | [] => some ([], flags)
  | a :: rest => do
    let (node, flags) ← a.meaning? flags
    let (nodes, flags) ← Ast.meanings? flags rest
    some (node :: nodes, flags)

end

end EventSchema.Pattern
