import EventSchema.Pattern.Folding
import EventSchema.Text.Ranges
import EventSchema.Text.Upper

set_option autoImplicit false

namespace EventSchema.Pattern

structure CharSet where
  spans : List (Nat × Nat)
deriving DecidableEq, Repr

namespace CharSet

def maxCode : Nat := 0x10ffff

def empty : CharSet := ⟨[]⟩

/-- Joins neighbours and overlaps in spans that are sorted by their first code point. -/
def mergeSorted : List (Nat × Nat) → List (Nat × Nat)
  | [] => []
  | [span] => [span]
  | (a, b) :: (c, d) :: rest =>
    if c ≤ b + 1 then mergeSorted ((a, max b d) :: rest)
    else (a, b) :: mergeSorted ((c, d) :: rest)
termination_by spans => spans.length

def ofSpans (spans : List (Nat × Nat)) : CharSet :=
  ⟨mergeSorted (spans.mergeSort fun a b => decide (a.1 ≤ b.1))⟩

def ofChar (c : Char) : CharSet := ⟨[(c.toNat, c.toNat)]⟩

def ofTable (text : String) : CharSet := ofSpans (Text.Ranges.ofText text).spans.toList

def union (a b : CharSet) : CharSet := ofSpans (a.spans ++ b.spans)

/-- The next character after a code point; there are none among the surrogates. -/
def after (n : Nat) : Nat := if n = 0xd7ff then 0xe000 else n + 1

def before (n : Nat) : Nat := if n = 0xe000 then 0xd7ff else n - 1

/-- The spans between the given ones. Between two that touch the surrogates from below and from
above lie their own ends. -/
def gaps : List (Nat × Nat) → List (Nat × Nat)
  | (_, b) :: (c, d) :: rest =>
    let low := after b
    let high := before c
    (min low high, max low high) :: gaps ((c, d) :: rest)
  | [(_, b)] => if b < maxCode then [(after b, maxCode)] else []
  | [] => []

def complement (s : CharSet) : CharSet :=
  match s.spans with
  | [] => ⟨[(0, maxCode)]⟩
  | (a, b) :: rest => ⟨(if 0 < a then [(0, before a)] else []) ++ gaps ((a, b) :: rest)⟩

def overlap (p q : Nat × Nat) : List (Nat × Nat) :=
  if max p.1 q.1 ≤ min p.2 q.2 then [(max p.1 q.1, min p.2 q.2)] else []

/-- Walks along two sorted lists of spans, and leaves a span behind where the other goes on. -/
def interSpans : Nat → List (Nat × Nat) → List (Nat × Nat) → List (Nat × Nat)
  | 0, _, _ => []
  | _ + 1, [], _ => []
  | _ + 1, _, [] => []
  | fuel + 1, p :: ps, q :: qs =>
    overlap p q ++
      if p.2 < q.2 then interSpans fuel ps (q :: qs) else interSpans fuel (p :: ps) qs

def inter (a b : CharSet) : CharSet :=
  ⟨interSpans (a.spans.length + b.spans.length) a.spans b.spans⟩

def diffSpans : Nat → List (Nat × Nat) → List (Nat × Nat) → List (Nat × Nat)
  | 0, _, _ => []
  | _ + 1, [], _ => []
  | _ + 1, ps, [] => ps
  | fuel + 1, p :: ps, q :: qs =>
    if p.2 < q.1 then p :: diffSpans fuel ps (q :: qs)
    else if q.2 < p.1 then diffSpans fuel (p :: ps) qs
    else
      (if p.1 < q.1 then [(p.1, before q.1)] else []) ++
        if q.2 < p.2 then diffSpans fuel ((after q.2, p.2) :: ps) qs
        else diffSpans fuel ps (q :: qs)

def diff (a b : CharSet) : CharSet :=
  ⟨diffSpans (a.spans.length + b.spans.length + 1) a.spans b.spans⟩

def symmetricDiff (a b : CharSet) : CharSet := (a.union b).diff (a.inter b)

def all : CharSet := ⟨[(0, maxCode)]⟩

def contains (s : CharSet) (n : Nat) : Bool :=
  s.spans.any fun span => decide (span.1 ≤ n) && decide (n ≤ span.2)

def isAscii (s : CharSet) : Bool := s.spans.all fun span => decide (span.2 < 128)

def foldingGroups : List (List Nat) :=
  (Text.tablePieces foldingText).map fun piece =>
    (Text.splitAt (· == ',') piece).map Text.hexNumber

/-- Adds every character that differs from a member by case only. -/
def foldCase (s : CharSet) : CharSet :=
  let table : Text.Ranges := ⟨s.spans.toArray⟩
  ofSpans (s.spans ++ (foldingGroups.filter (·.any table.contains)).flatMap
    fun group => group.map fun n => (n, n))

def foldAsciiCase (s : CharSet) : CharSet :=
  let letters := (List.range 26).filter fun i => s.contains (65 + i) || s.contains (97 + i)
  ofSpans (s.spans ++ letters.flatMap fun i => [(65 + i, 65 + i), (97 + i, 97 + i)])

end CharSet

end EventSchema.Pattern
