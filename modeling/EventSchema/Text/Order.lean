set_option autoImplicit false

namespace EventSchema.Text

def insertName (name : String) : List String → List String
  | [] => [name]
  | other :: rest =>
    if name = other then other :: rest
    else if name < other then name :: other :: rest
    else other :: insertName name rest

def sortNames (names : List String) : List String :=
  names.foldr insertName []

theorem mem_insertName {x name : String} {names : List String} :
    x ∈ insertName name names ↔ x = name ∨ x ∈ names := by
  induction names with
  | nil => simp [insertName]
  | cons other rest ih =>
    rw [insertName]
    split
    · next h => subst h; simp
    · split
      · simp
      · rw [List.mem_cons, ih, List.mem_cons]
        grind

theorem mem_sortNames {x : String} {names : List String} : x ∈ sortNames names ↔ x ∈ names := by
  induction names with
  | nil => simp [sortNames]
  | cons name rest ih =>
    have step : sortNames (name :: rest) = insertName name (sortNames rest) := rfl
    rw [step, mem_insertName, ih, List.mem_cons]

theorem pairwise_insertName {name : String} {names : List String}
    (h : names.Pairwise (· < ·)) : (insertName name names).Pairwise (· < ·) := by
  induction names with
  | nil => simp [insertName]
  | cons other rest ih =>
    obtain ⟨ho, hr⟩ := List.pairwise_cons.1 h
    rw [insertName]
    split
    · exact h
    · next hne =>
      split
      · next hlt =>
        refine List.pairwise_cons.2 ⟨?_, h⟩
        intro x hx
        rcases List.mem_cons.1 hx with rfl | hx
        · exact hlt
        · exact String.lt_trans hlt (ho x hx)
      · next hge =>
        refine List.pairwise_cons.2 ⟨?_, ih hr⟩
        intro x hx
        rcases mem_insertName.1 hx with rfl | hx
        · exact String.not_le.1 fun hle => hne (String.le_antisymm hle (String.not_lt.1 hge))
        · exact ho x hx

theorem pairwise_sortNames (names : List String) : (sortNames names).Pairwise (· < ·) := by
  induction names with
  | nil => exact .nil
  | cons name rest ih => exact pairwise_insertName ih

theorem nodup_sortNames (names : List String) : (sortNames names).Nodup := by
  refine (pairwise_sortNames names).imp ?_
  intro a b hab he
  subst he
  exact String.lt_irrefl a hab

def insertKey {α : Type} (key : String) (value : α) : List (String × α) → List (String × α)
  | [] => [(key, value)]
  | (other, old) :: rest =>
    if key = other then (key, value) :: rest
    else if key < other then (key, value) :: (other, old) :: rest
    else (other, old) :: insertKey key value rest

/-- The sorted table of some pairs; the last value given for a key counts. -/
def sortKeys {α : Type} (pairs : List (String × α)) : List (String × α) :=
  pairs.foldl (fun table pair => insertKey pair.1 pair.2 table) []

theorem lookup_cons_ite {α β : Type} [DecidableEq α] (a key : α) (value : β)
    (rest : List (α × β)) :
    ((key, value) :: rest).lookup a = if a = key then some value else rest.lookup a := by
  rw [List.lookup_cons]
  by_cases h : a = key
  · simp [h]
  · simp [h, beq_eq_false_iff_ne.2 h]

theorem lookup_of_mem {α β : Type} [BEq α] [LawfulBEq α] {table : List (α × β)}
    (h : (table.map Prod.fst).Nodup) {key : α} {value : β} (hm : (key, value) ∈ table) :
    table.lookup key = some value := by
  induction table with
  | nil => cases hm
  | cons entry rest ih =>
    obtain ⟨hn, hr⟩ := List.nodup_cons.1 h
    rw [List.lookup_cons]
    rcases List.mem_cons.1 hm with rfl | hm
    · simp
    · have hne : key ≠ entry.1 := by
        rintro rfl
        exact hn (List.mem_map.2 ⟨_, hm, rfl⟩)
      simp [beq_eq_false_iff_ne.2 hne, ih hr hm]

theorem lookup_insertKey {α : Type} (key name : String) (value : α) (table : List (String × α)) :
    (insertKey key value table).lookup name =
      if name = key then some value else table.lookup name := by
  induction table with
  | nil => exact lookup_cons_ite name key value []
  | cons head rest ih =>
    obtain ⟨other, old⟩ := head
    rw [insertKey]
    split
    · next he =>
      subst he
      simp only [lookup_cons_ite]
      split <;> rfl
    · next hne =>
      split
      · simp only [lookup_cons_ite]
      · rw [lookup_cons_ite, ih, lookup_cons_ite]
        by_cases h : name = key
        · subst h
          simp [hne]
        · simp [h]

/-- The last value given for a key is the one that is found. -/
theorem lookup_sortKeys {α : Type} (name : String) (pairs : List (String × α)) :
    (sortKeys pairs).lookup name = pairs.reverse.lookup name := by
  suffices h : ∀ table : List (String × α),
      (pairs.foldl (fun table pair => insertKey pair.1 pair.2 table) table).lookup name =
        (pairs.reverse ++ table).lookup name by
    simpa [sortKeys] using h []
  induction pairs with
  | nil => simp
  | cons pair rest ih =>
    intro table
    obtain ⟨key, value⟩ := pair
    rw [List.foldl_cons, ih, List.lookup_append, lookup_insertKey, List.reverse_cons,
      List.append_assoc, List.lookup_append, List.singleton_append, lookup_cons_ite]

/-- The first name that stands further left in the list, too. -/
def firstRepeatFrom (seen : List String) : List String → Option String
  | [] => none
  | name :: rest => if name ∈ seen then some name else firstRepeatFrom (name :: seen) rest

def firstRepeat (names : List String) : Option String :=
  firstRepeatFrom [] names

theorem firstRepeatFrom_eq_none {seen names : List String} :
    firstRepeatFrom seen names = none ↔ names.Nodup ∧ ∀ x ∈ names, x ∉ seen := by
  induction names generalizing seen with
  | nil => simp [firstRepeatFrom]
  | cons name rest ih =>
    rw [firstRepeatFrom]
    split
    · next h => simp [h]
    · next h =>
      rw [ih, List.nodup_cons]
      grind

theorem firstRepeat_eq_none {names : List String} : firstRepeat names = none ↔ names.Nodup := by
  simp [firstRepeat, firstRepeatFrom_eq_none]

end EventSchema.Text
