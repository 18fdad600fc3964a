import EventSchema.Pattern.CharSet

/-!
Spans of code points as rows of byte ranges. A row says which byte may stand first, second and so on
in the encoded form of a character; a span is cut until every combination of bytes of a row is the
form of one of its characters.
-/

set_option autoImplicit false

namespace EventSchema.Pattern

structure ByteRange where
  first : Nat
  last : Nat
deriving DecidableEq, Repr

namespace ByteRange

def encode (code : Nat) : List Nat :=
  if code < 0x80 then [code]
  else if code < 0x800 then [0xc0 + code / 64, 0x80 + code % 64]
  else if code < 0x10000 then [0xe0 + code / 4096, 0x80 + code / 64 % 64, 0x80 + code % 64]
  else [0xf0 + code / 262144, 0x80 + code / 4096 % 64, 0x80 + code / 64 % 64, 0x80 + code % 64]

/-- The last code point before a change of the encoded length, if there is one in the span. -/
def lengthCut? (low high : Nat) : Option Nat :=
  [0x7f, 0x7ff, 0xffff].find? fun bound => decide (low ≤ bound ∧ bound < high)

/-- Where a span that covers several blocks of the given size has to be cut so that its parts are
full blocks or lie in one. -/
def blockCut? (low high size : Nat) : Option Nat :=
  if low / size = high / size then none
  else if low % size ≠ 0 then some ((low / size + 1) * size - 1)
  else if high % size ≠ size - 1 then some (high / size * size - 1)
  else none

/-- The last code point of the first part of a span that is no row. -/
def cut? (low high : Nat) : Option Nat :=
  (lengthCut? low high).or
    (if high < 0x80 then none else [64, 4096, 262144].findSome? (blockCut? low high))

def rowsOfSpan (low high : Nat) : List (List ByteRange) :=
  match cut? low high with
  | none => [((encode low).zip (encode high)).map fun (a, b) => ⟨a, b⟩]
  | some last =>
    if _h : low ≤ last ∧ last < high then rowsOfSpan low last ++ rowsOfSpan (last + 1) high else []
termination_by high + 1 - low
decreasing_by
  · omega
  · omega

def withoutSurrogates (span : Nat × Nat) : List (Nat × Nat) :=
  if span.1 < 0xe000 ∧ 0xd7ff < span.2 then
    [(span.1, 0xd7ff), (0xe000, span.2)].filter fun part => decide (part.1 ≤ part.2)
  else [span]

def rows (set : CharSet) : List (List ByteRange) :=
  (set.spans.flatMap withoutSurrogates).flatMap fun span => rowsOfSpan span.1 span.2

end ByteRange

end EventSchema.Pattern
