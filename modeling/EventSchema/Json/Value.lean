import EventSchema.Number.Shortest
import EventSchema.Text.Order

set_option autoImplicit false

namespace EventSchema

/-- Whole numbers of 64 bits, signed or not, are exact; all others are binary numbers. -/
inductive Number where
  | natural (n : Nat)
  /-- The number `-n`, for `n` from 1 to `2 ^ 63`. -/
  | negative (n : Nat)
  | real (x : Binary64)
deriving DecidableEq, Repr

inductive Json where
  | null
  | bool (b : Bool)
  | num (n : Number)
  | str (s : String)
  | arr (items : List Json)
  | obj (members : List (String × Json))
deriving Repr

namespace Json

mutual

def collapse : Json → Json
  | .arr items => .arr (collapseItems items)
  | .obj members => .obj (Text.sortKeys (collapseMembers members))
  | other => other

def collapseItems : List Json → List Json
  | [] => []
  | item :: items => collapse item :: collapseItems items

def collapseMembers : List (String × Json) → List (String × Json)
  | [] => []
  | (key, value) :: members => (key, collapse value) :: collapseMembers members

end

mutual

def same : Json → Json → Bool
  | .null, .null => true
  | .bool a, .bool b => a == b
  | .num a, .num b => a == b
  | .str a, .str b => a == b
  | .arr as, .arr bs => sameItems as bs
  | .obj as, .obj bs => sameMembers as bs
  | _, _ => false

def sameItems : List Json → List Json → Bool
  | [], [] => true
  | a :: as, b :: bs => same a b && sameItems as bs
  | _, _ => false

def sameMembers : List (String × Json) → List (String × Json) → Bool
  | [], [] => true
  | (j, a) :: as, (k, b) :: bs => j == k && same a b && sameMembers as bs
  | _, _ => false

end

mutual

theorem same_iff (a b : Json) : same a b = true ↔ a = b := by
  cases a <;> cases b <;> simp [same, sameItems_iff, sameMembers_iff]

theorem sameItems_iff (as bs : List Json) : sameItems as bs = true ↔ as = bs := by
  cases as with
  | nil => cases bs <;> simp [sameItems]
  | cons a as => cases bs with
    | nil => simp [sameItems]
    | cons b bs => simp [sameItems, same_iff a b, sameItems_iff as bs]

theorem sameMembers_iff (as bs : List (String × Json)) : sameMembers as bs = true ↔ as = bs := by
  match as, bs with
  | [], [] => simp [sameMembers]
  | [], b :: bs => simp [sameMembers]
  | a :: as, [] => simp [sameMembers]
  | (j, a) :: as, (k, b) :: bs =>
    simp [sameMembers, same_iff a b, sameMembers_iff as bs, and_assoc]

end

instance : DecidableEq Json := fun a b => decidable_of_iff _ (same_iff a b)

/-- The last value given for a key. -/
def get? (key : String) : Json → Option Json
  | .obj members => members.reverse.lookup key
  | _ => none

def ofNat (n : Nat) : Json := .num (.natural n)

def ofOption {α : Type} (f : α → Json) : Option α → Json
  | some a => f a
  | none => .null

def strings (names : List String) : Json := .arr (names.map .str)

end Json

end EventSchema
