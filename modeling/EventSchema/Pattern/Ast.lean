/-!
Regular expressions as they are written. Groups, alternatives and sequences nest; so do bracketed
classes, whose sets are combined by three operators of equal rank, from left to right.
-/

set_option autoImplicit false

namespace EventSchema.Pattern

inductive Flag where
  | ignoreCase
  | multiLine
  | dotNewline
  | swapGreed
  | unicode
  | carriageReturn
  | verbose
deriving DecidableEq, Repr

/-- Flags that are set, in order, with whether each is switched on. -/
abbrev FlagSet := List (Flag × Bool)

inductive Assertion where
  | lineStart
  | lineEnd
  | textStart
  | textEnd
  | wordBoundary
  | notWordBoundary
  | wordStart
  | wordEnd
  | wordStartHalf
  | wordEndHalf
deriving DecidableEq, Repr

/-- A character; `byte` marks the two-digit form, which is a byte where Unicode is off. -/
structure CharLiteral where
  char : Char
  byte : Bool := false
deriving DecidableEq, Repr

inductive PropertyQuery where
  | name (name : List Char)
  | value (property value : List Char) (differs : Bool)
deriving DecidableEq, Repr

inductive PerlClass where
  | digit
  | space
  | word
deriving DecidableEq, Repr

inductive SetOp where
  | intersection
  | difference
  | symmetricDifference
deriving DecidableEq, Repr

mutual

inductive ClassSet where
  | union (items : List ClassItem)
  | op (kind : SetOp) (left right : ClassSet)

inductive ClassItem where
  | literal (c : CharLiteral)
  | range (first last : CharLiteral)
  | ascii (spans : List (Nat × Nat)) (negated : Bool)
  | property (query : PropertyQuery) (negated : Bool)
  | perl (kind : PerlClass) (negated : Bool)
  | bracketed (set : ClassSet) (negated : Bool)

end

inductive Ast where
  | empty
  | setFlags (flags : FlagSet)
  | literal (c : CharLiteral)
  | dot
  | assertion (a : Assertion)
  | property (query : PropertyQuery) (negated : Bool)
  | perl (kind : PerlClass) (negated : Bool)
  | bracketed (set : ClassSet) (negated : Bool)
  | repetition (least : Nat) (most : Option Nat) (greedy : Bool) (body : Ast)
  | group (flags : FlagSet) (body : Ast)
  | capture (body : Ast)
  | either (branches : List Ast)
  | sequence (items : List Ast)

mutual

def ClassSet.depth : ClassSet → Nat
  | .union [] => 0
  | .union [item] => item.depth
  | .union (a :: b :: items) => ClassSet.depthAll (a :: b :: items) + 1
  | .op _ left right => max left.depth right.depth + 1

def ClassItem.depth : ClassItem → Nat
  | .bracketed set _ => set.depth + 1
  | _ => 0

def ClassSet.depthAll : List ClassItem → Nat
  | [] => 0
  | item :: items => max item.depth (ClassSet.depthAll items)

end

mutual

def Ast.depth : Ast → Nat
  | .bracketed set _ => set.depth + 1
  | .repetition _ _ _ body => body.depth + 1
  | .group _ body => body.depth + 1
  | .capture body => body.depth + 1
  | .either branches => Ast.depthAll branches + 1
  | .sequence items => Ast.depthAll items + 1
  | _ => 0

def Ast.depthAll : List Ast → Nat
  | [] => 0
  | a :: rest => max a.depth (Ast.depthAll rest)

end

end EventSchema.Pattern
