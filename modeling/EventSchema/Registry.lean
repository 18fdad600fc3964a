import EventSchema.Text.Order
import EventSchema.Text.Quoted

set_option autoImplicit false

namespace EventSchema

structure Registry (α : Type) where
  entries : List (String × α)

namespace Registry

variable {α : Type}

def ofList (pairs : List (String × α)) : Registry α :=
  ⟨Text.sortKeys pairs⟩

def get? (r : Registry α) (key : String) : Option α :=
  r.entries.lookup key

/-- With every key once, a registry is the table that it was made from. -/
theorem get?_ofList {pairs : List (String × α)} (h : (pairs.map Prod.fst).Nodup) (key : String) :
    (ofList pairs).get? key = pairs.lookup key := by
  rw [get?, ofList, Text.lookup_sortKeys]
  induction pairs with
  | nil => rfl
  | cons pair rest ih =>
    obtain ⟨name, value⟩ := pair
    obtain ⟨hn, hr⟩ := List.nodup_cons.1 h
    rw [List.reverse_cons, List.lookup_append, ih hr]
    simp only [Text.lookup_cons_ite]
    by_cases hk : key = name
    · subst hk
      have hnone : rest.lookup key = none := by
        rw [List.lookup_eq_none_iff]
        intro p hp
        simpa using fun he => hn (List.mem_map.2 ⟨p, hp, he.symm⟩)
      simp [hnone]
    · simp [hk]

def contains (r : Registry α) (key : String) : Bool :=
  (r.get? key).isSome

def keys (r : Registry α) : List String :=
  r.entries.map Prod.fst

def size (r : Registry α) : Nat :=
  r.entries.length

def isEmpty (r : Registry α) : Bool :=
  r.entries.isEmpty

def display (r : Registry α) : String :=
  "\x7b" ++ String.intercalate ", " (r.keys.map Text.Quoted.text) ++ "\x7d"

end Registry

end EventSchema
