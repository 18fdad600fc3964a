import EventSchema.Proofs.Decoding
import EventSchema.Proofs.References

set_option autoImplicit false

namespace EventSchema

namespace Text

variable {α : Type}

theorem map_fst_insertKey (key : String) (value : α) (table : List (String × α)) :
    (insertKey key value table).map Prod.fst = insertName key (table.map Prod.fst) := by
  induction table with
  | nil => rfl
  | cons entry rest ih =>
    rw [insertKey, List.map_cons, insertName]
    split
    · next he => rw [List.map_cons, he]
    · split
      · rfl
      · rw [List.map_cons, ih]

theorem mem_of_mem_insertKey {key : String} {value : α} {table : List (String × α)}
    {entry : String × α} (h : entry ∈ insertKey key value table) :
    entry = (key, value) ∨ entry ∈ table := by
  induction table with
  | nil => exact .inl (List.mem_singleton.1 h)
  | cons other rest ih =>
    rw [insertKey] at h
    split at h
    · exact (List.mem_cons.1 h).imp_right (List.mem_cons_of_mem _)
    · split at h
      · exact List.mem_cons.1 h
      · rcases List.mem_cons.1 h with rfl | h
        · exact .inr (List.mem_cons_self ..)
        · exact (ih h).imp_right (List.mem_cons_of_mem _)

theorem insertKey_of_greater {key : String} {value : α} {table : List (String × α)}
    (h : ∀ entry ∈ table, entry.1 < key) : insertKey key value table = table ++ [(key, value)] := by
  induction table with
  | nil => rfl
  | cons other rest ih =>
    obtain ⟨ho, hrest⟩ := List.forall_mem_cons.1 h
    have hne : key ≠ other.1 := by
      rintro rfl
      exact String.lt_irrefl _ ho
    have hge : ¬ key < other.1 := fun hlt => String.lt_irrefl _ (String.lt_trans hlt ho)
    rw [insertKey, if_neg hne, if_neg hge, ih hrest]
    rfl

theorem sortKeys_concat (pairs : List (String × α)) (pair : String × α) :
    sortKeys (pairs ++ [pair]) = insertKey pair.1 pair.2 (sortKeys pairs) := by
  rw [sortKeys, List.foldl_concat]
  rfl

theorem pairwise_sortKeys (pairs : List (String × α)) :
    ((sortKeys pairs).map Prod.fst).Pairwise (· < ·) := by
  induction pairs using List.reverseRecOn with
  | nil => exact .nil
  | append_singleton pairs pair ih =>
    rw [sortKeys_concat, map_fst_insertKey]
    exact pairwise_insertName ih

theorem mem_of_mem_sortKeys {pairs : List (String × α)} {entry : String × α}
    (h : entry ∈ sortKeys pairs) : entry ∈ pairs := by
  induction pairs using List.reverseRecOn with
  | nil => exact h
  | append_singleton pairs pair ih =>
    rw [sortKeys_concat] at h
    rcases mem_of_mem_insertKey h with rfl | h
    · exact List.mem_append_right _ (List.mem_singleton_self _)
    · exact List.mem_append_left _ (ih h)

theorem sortKeys_of_pairwise {pairs : List (String × α)}
    (h : (pairs.map Prod.fst).Pairwise (· < ·)) : sortKeys pairs = pairs := by
  induction pairs using List.reverseRecOn with
  | nil => rfl
  | append_singleton pairs pair ih =>
    rw [List.map_append, List.pairwise_append] at h
    have hlast : ∀ entry ∈ pairs, entry.1 < pair.1 :=
      fun entry he => h.2.2 _ (List.mem_map_of_mem he) _ (List.mem_singleton_self _)
    rw [sortKeys_concat, ih h.1, insertKey_of_greater hlast]

theorem mem_sortKeys {pairs : List (String × α)} {entry : String × α} :
    entry ∈ sortKeys pairs ↔ pairs.reverse.lookup entry.1 = some entry.2 := by
  rw [← lookup_sortKeys]
  constructor
  · exact lookup_of_mem ((pairwise_sortKeys pairs).imp fun h => String.ne_of_lt h)
  · intro h
    obtain ⟨front, back, hsplit, -⟩ := List.lookup_eq_some_iff.1 h
    rw [hsplit]
    exact List.mem_append_right _ (List.mem_cons_self ..)

/-- A table is known by the last value of each key. -/
theorem sortKeys_congr {pairs others : List (String × α)}
    (h : ∀ name, others.reverse.lookup name = pairs.reverse.lookup name) :
    sortKeys others = sortKeys pairs := by
  have hsorted : ∀ pairs : List (String × α), (sortKeys pairs).Pairwise (·.1 < ·.1) :=
    fun pairs => List.pairwise_map.1 (pairwise_sortKeys pairs)
  have hnodup : ∀ pairs : List (String × α), (sortKeys pairs).Nodup := fun pairs =>
    (hsorted pairs).imp fun hlt => by
      rintro rfl
      exact String.lt_irrefl _ hlt
  have hperm : (sortKeys others).Perm (sortKeys pairs) :=
    (List.perm_ext_iff_of_nodup (hnodup others) (hnodup pairs)).2 fun entry => by
      rw [mem_sortKeys, mem_sortKeys, h]
  exact hperm.eq_of_pairwise
    (fun a b _ _ hab hba => (String.lt_irrefl _ (String.lt_trans hab hba)).elim)
    (hsorted others) (hsorted pairs)

end Text

namespace Datatype

open Json (IsReadable IsWritable Restores)

/-- At every node the fields are in order, and no key is given twice. -/
def IsSorted (dt : Datatype) : Prop :=
  ∀ node ∈ dt.walk, ∀ fields, node.fields = some fields → (fields.map Prod.fst).Pairwise (· < ·)

theorem isSorted_node {name : String} {of : Option Datatype}
    {fields : Option (List (String × Datatype))} {nullable : Bool} :
    (node name of fields nullable).IsSorted ↔ (∀ dt, of = some dt → dt.IsSorted) ∧
      ∀ list, fields = some list →
        (list.map Prod.fst).Pairwise (· < ·) ∧ ∀ f ∈ list, f.2.IsSorted := by
  have hof : (∀ dt, of = some dt → dt.IsSorted) ↔ ∀ node ∈ walkOf of,
      ∀ list, node.fields = some list → (list.map Prod.fst).Pairwise (· < ·) := by
    cases of <;> simp [walkOf, IsSorted]
  have hfields : (∀ list, fields = some list → ∀ f ∈ list, f.2.IsSorted) ↔
      ∀ node ∈ walkFields fields,
        ∀ list, node.fields = some list → (list.map Prod.fst).Pairwise (· < ·) := by
    cases fields with
    | none => simp [walkFields]
    | some list =>
      simp only [walkFields, mem_walkList, Option.some.injEq, forall_eq', IsSorted]
      constructor
      · rintro h node ⟨f, hf, hn⟩
        exact h f hf node hn
      · intro h f hf node hn
        exact h node ⟨f, hf, hn⟩
  rw [IsSorted, walk, List.forall_mem_cons, List.forall_mem_append, ← hof, ← hfields]
  simp only [Datatype.fields]
  grind

theorem fieldValues_eq_map (fields : List (String × Datatype)) :
    fieldValues fields = fields.map fun f => (f.1, f.2.toJson) := by
  induction fields with
  | nil => rfl
  | cons f fields ih => rw [fieldValues, ih]; rfl

section Encoding

mutual

theorem ofPart?_toJson (dt : Datatype) (h : dt.IsSorted) : ofPart? dt.toJson = some (some dt) := by
  match dt, h with
  | .node name of fields nullable, h =>
    obtain ⟨hof, hfields⟩ := isSorted_node.1 h
    have hofs : ∀ dt, of = some dt → ofPart? dt.toJson = some (some dt) :=
      fun dt he => ofPart?_toJson dt (hof dt he)
    have hlists : ∀ list, fields = some list →
        fieldsPart? (.obj (fieldValues list)) = some (some list) := by
      intro list he
      obtain ⟨hkeys, hall⟩ := hfields list he
      rw [fieldsPart?, fieldList?_fieldValues list hall, Option.map_some,
        Text.sortKeys_of_pairwise hkeys]
    cases of <;> cases fields <;> cases nullable <;>
      simp [toJson, ofMembers, fieldMembers, ofPart?, partsOf?, Parts.finish?, hofs, hlists]

theorem fieldList?_fieldValues (fields : List (String × Datatype))
    (h : ∀ f ∈ fields, f.2.IsSorted) : fieldList? (fieldValues fields) = some fields := by
  match fields, h with
  | [], _ => rfl
  | (key, dt) :: fields, h =>
    obtain ⟨hdt, hrest⟩ := List.forall_mem_cons.1 h
    simp only [fieldValues, fieldList?, ofPart?_toJson dt hdt, fieldList?_fieldValues fields hrest,
      Option.bind_eq_bind, Option.bind_some]

end

end Encoding

structure Fits (depth : Nat) (dt : Datatype) : Prop where
  sorted : dt.IsSorted
  writable : IsWritable depth dt.toJson

structure FieldsFit (depth : Nat) (fields : List (String × Datatype)) : Prop where
  keys : (fields.map Prod.fst).Pairwise (· < ·)
  sorted : ∀ f ∈ fields, f.2.IsSorted
  writable : IsWritable depth (.obj (fieldValues fields))

structure Parts.Fit (depth : Nat) (parts : Parts) : Prop where
  of : ∀ dt, parts.of = some (some dt) → dt.Fits depth
  fields : ∀ list, parts.fields = some (some list) → FieldsFit depth list

theorem Fits.node {depth : Nat} {of : Option Datatype}
    {fields : Option (List (String × Datatype))} (hof : ∀ dt, of = some dt → dt.Fits depth)
    (hfields : ∀ list, fields = some list → FieldsFit depth list) (name : String)
    (nullable : Bool) : (Datatype.node name of fields nullable).Fits (depth + 1) where
  sorted := isSorted_node.2 ⟨fun dt he => (hof dt he).sorted,
    fun list he => ⟨(hfields list he).keys, (hfields list he).sorted⟩⟩
  writable := by
    rw [toJson]
    refine .obj (List.forall_mem_cons.2 ⟨.str name, ?_⟩)
    rw [List.forall_mem_append, List.forall_mem_append]
    refine ⟨⟨?_, ?_⟩, ?_⟩
    · cases of with
      | none => exact List.forall_mem_nil _
      | some dt => exact List.forall_mem_singleton.2 (hof dt rfl).writable
    · cases fields with
      | none => exact List.forall_mem_nil _
      | some list => exact List.forall_mem_singleton.2 (hfields list rfl).writable
    · cases nullable with
      | false => exact List.forall_mem_nil _
      | true => exact List.forall_mem_singleton.2 (.bool true)

theorem FieldsFit.sortKeys {depth : Nat} {fields : List (String × Datatype)}
    (h : ∀ f ∈ fields, f.2.Fits depth) : FieldsFit (depth + 1) (Text.sortKeys fields) where
  keys := Text.pairwise_sortKeys fields
  sorted f hf := (h f (Text.mem_of_mem_sortKeys hf)).sorted
  writable := by
    rw [fieldValues_eq_map]
    refine .obj (List.forall_mem_map.2 fun f hf => ?_)
    exact (h f (Text.mem_of_mem_sortKeys hf)).writable

theorem Parts.Fit.fits {depth : Nat} {parts : Parts} (h : parts.Fit depth) {dt : Datatype}
    (hdt : parts.finish? = some dt) : dt.Fits (depth + 1) := by
  simp only [Parts.finish?, Option.bind_eq_bind, Option.bind_eq_some_iff] at hdt
  obtain ⟨name, -, he⟩ := hdt
  cases he
  refine .node (fun dt he => h.of dt ?_) (fun list he => h.fields list ?_) _ _
  · cases hof : parts.of with
    | none => simp [hof] at he
    | some of => simpa [hof] using he
  · cases hfields : parts.fields with
    | none => simp [hfields] at he
    | some fields => simpa [hfields] using he

mutual

theorem fits_of_ofPart? (v : Json) {depth : Nat} (hv : IsReadable depth v) {dt : Datatype}
    (h : ofPart? v = some (some dt)) : dt.Fits depth := by
  match v, hv, h with
  | .obj members, hv, h =>
    obtain ⟨below, rfl, hall⟩ := hv.of_obj
    simp only [ofPart?, Option.map_eq_some_iff, Option.bind_eq_some_iff, Option.some.injEq] at h
    obtain ⟨_, ⟨parts, hparts, hdt⟩, rfl⟩ := h
    exact (fit_of_partsOf? members hall hparts).fits hdt
  | .arr [.str name], hv, h =>
    obtain ⟨below, rfl, -⟩ := hv.of_arr
    cases h
    exact .node (fun _ he => by cases he) (fun _ he => by cases he) name false
  | .arr [.str name, of], hv, h =>
    obtain ⟨below, rfl, hall⟩ := hv.of_arr
    simp only [ofPart?, Option.bind_eq_bind, Option.bind_eq_some_iff, Option.some.injEq] at h
    obtain ⟨_, hof, rfl⟩ := h
    refine .node (fun dt he => ?_) (fun _ he => by cases he) name false
    exact fits_of_ofPart? of (hall of (by simp)) (he ▸ hof)
  | .arr [.str name, of, fields], hv, h =>
    obtain ⟨below, rfl, hall⟩ := hv.of_arr
    simp only [ofPart?, Option.bind_eq_bind, Option.bind_eq_some_iff, Option.some.injEq] at h
    obtain ⟨_, hof, _, hfields, rfl⟩ := h
    refine .node (fun dt he => ?_) (fun list he => ?_) name false
    · exact fits_of_ofPart? of (hall of (by simp)) (he ▸ hof)
    · exact fieldsFit_of_fieldsPart? fields (hall fields (by simp)) (he ▸ hfields)
  | .arr [.str name, of, fields, .bool nullable], hv, h =>
    obtain ⟨below, rfl, hall⟩ := hv.of_arr
    simp only [ofPart?, Option.bind_eq_bind, Option.bind_eq_some_iff, Option.some.injEq] at h
    obtain ⟨_, hof, _, hfields, rfl⟩ := h
    refine .node (fun dt he => ?_) (fun list he => ?_) name nullable
    · exact fits_of_ofPart? of (hall of (by simp)) (he ▸ hof)
    · exact fieldsFit_of_fieldsPart? fields (hall fields (by simp)) (he ▸ hfields)

theorem fieldsFit_of_fieldsPart? (v : Json) {depth : Nat} (hv : IsReadable depth v)
    {fields : List (String × Datatype)} (h : fieldsPart? v = some (some fields)) :
    FieldsFit depth fields := by
  match v, hv, h with
  | .obj members, hv, h =>
    obtain ⟨below, rfl, hall⟩ := hv.of_obj
    simp only [fieldsPart?, Option.map_eq_some_iff, Option.some.injEq] at h
    obtain ⟨list, hlist, rfl⟩ := h
    exact .sortKeys (fits_of_fieldList? members hall hlist)

theorem fits_of_fieldList? (members : List (String × Json)) {depth : Nat}
    (hv : ∀ x ∈ members, IsReadable depth x.2) {fields : List (String × Datatype)}
    (h : fieldList? members = some fields) : ∀ f ∈ fields, f.2.Fits depth := by
  match members, hv, h with
  | [], _, h =>
    cases h
    exact List.forall_mem_nil _
  | (key, value) :: members, hv, h =>
    obtain ⟨hvalue, hmembers⟩ := List.forall_mem_cons.1 hv
    simp only [fieldList?, Option.bind_eq_bind, Option.bind_eq_some_iff, Option.some.injEq] at h
    obtain ⟨_, hpart, dt, rfl, rest, hrest, rfl⟩ := h
    exact List.forall_mem_cons.2
      ⟨fits_of_ofPart? value hvalue hpart, fits_of_fieldList? members hmembers hrest⟩

theorem fit_of_partsOf? (members : List (String × Json)) {depth : Nat}
    (hv : ∀ x ∈ members, IsReadable depth x.2) {parts : Parts}
    (h : partsOf? members = some parts) : parts.Fit depth := by
  match members, hv, h with
  | [], _, h =>
    cases h
    exact ⟨fun _ he => (by cases he), fun _ he => (by cases he)⟩
  | (key, value) :: members, hv, h =>
    obtain ⟨hvalue, hmembers⟩ := List.forall_mem_cons.1 hv
    simp only [partsOf?, Option.bind_eq_bind, Option.bind_eq_some_iff] at h
    obtain ⟨others, hothers, h⟩ := h
    have hfit := fit_of_partsOf? members hmembers hothers
    -- The four keys in the order in which they are tried, each given at most once.
    split at h
    · split at h
      · cases h
        exact ⟨hfit.of, hfit.fields⟩
      · cases h
    · split at h
      · split at h
        · simp only [Option.bind_eq_some_iff, Option.some.injEq] at h
          obtain ⟨_, hof, rfl⟩ := h
          refine ⟨fun dt he => ?_, hfit.fields⟩
          exact fits_of_ofPart? value hvalue (Option.some.inj he ▸ hof)
        · cases h
      · split at h
        · split at h
          · simp only [Option.bind_eq_some_iff, Option.some.injEq] at h
            obtain ⟨_, hfields, rfl⟩ := h
            refine ⟨hfit.of, fun list he => ?_⟩
            exact fieldsFit_of_fieldsPart? value hvalue (Option.some.inj he ▸ hfields)
          · cases h
        · split at h
          · split at h
            · cases h
              exact ⟨hfit.of, hfit.fields⟩
            · cases h
          · cases h

end

theorem ofJson?_eq_some {v : Json} {dt : Datatype} :
    ofJson? v = some dt ↔ ofPart? v = some (some dt) := by
  simp [ofJson?, Option.bind_eq_some_iff]

theorem restores (floor : Nat) : Restores floor ofJson? toJson := by
  intro depth v dt _ hv h
  have hfits := fits_of_ofPart? v hv (ofJson?_eq_some.1 h)
  exact ⟨ofJson?_eq_some.2 (ofPart?_toJson dt hfits.sorted), hfits.writable⟩

end Datatype

end EventSchema
