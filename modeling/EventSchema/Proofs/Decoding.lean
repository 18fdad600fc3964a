import EventSchema.Json.Decode
import EventSchema.Proofs.JsonText
import EventSchema.Proofs.Outcome

set_option autoImplicit false

namespace EventSchema.Json

/-- The value of a text that nests at most so deep. -/
def IsReadable (depth : Nat) (v : Json) : Prop :=
  ∃ tree : Tree, tree.value? depth = some v

structure IsWritable (depth : Nat) (v : Json) : Prop where
  whole : v.IsWhole
  height : v.height ≤ depth

section Readable

variable {depth : Nat}

theorem isReadable_of_mem_items {trees : List Tree} {items : List Json}
    (h : Tree.itemValues? depth trees = some items) : ∀ v ∈ items, IsReadable depth v := by
  induction trees generalizing items with
  | nil =>
    cases h
    exact List.forall_mem_nil _
  | cons tree trees ih =>
    simp only [Tree.itemValues?, Option.bind_eq_bind, Option.bind_eq_some_iff] at h
    obtain ⟨v, hv, rest, hrest, h⟩ := h
    cases h
    exact List.forall_mem_cons.2 ⟨⟨tree, hv⟩, ih hrest⟩

theorem isReadable_of_mem_members {trees : List (Option String × Tree)}
    {members : List (String × Json)} (h : Tree.memberValues? depth trees = some members) :
    ∀ x ∈ members, IsReadable depth x.2 := by
  induction trees generalizing members with
  | nil =>
    cases h
    exact List.forall_mem_nil _
  | cons x trees ih =>
    simp only [Tree.memberValues?, Option.bind_eq_bind, Option.bind_eq_some_iff] at h
    obtain ⟨key, -, v, hv, rest, hrest, h⟩ := h
    cases h
    exact List.forall_mem_cons.2 ⟨⟨x.2, hv⟩, ih hrest⟩

theorem IsReadable.of_arr {items : List Json} (h : IsReadable depth (.arr items)) :
    ∃ below, depth = below + 1 ∧ ∀ v ∈ items, IsReadable below v := by
  obtain ⟨tree, ht⟩ := h
  cases tree with
  | arr trees =>
    cases depth with
    | zero => simp [Tree.value?] at ht
    | succ below =>
      simp only [Tree.value?, Option.map_eq_some_iff, arr.injEq] at ht
      obtain ⟨_, hi, rfl⟩ := ht
      exact ⟨below, rfl, isReadable_of_mem_items hi⟩
  | obj trees => cases depth <;> simp [Tree.value?] at ht
  | null | bool | num | str => simp [Tree.value?] at ht

theorem IsReadable.of_obj {members : List (String × Json)} (h : IsReadable depth (.obj members)) :
    ∃ below, depth = below + 1 ∧ ∀ x ∈ members, IsReadable below x.2 := by
  obtain ⟨tree, ht⟩ := h
  cases tree with
  | obj trees =>
    cases depth with
    | zero => simp [Tree.value?] at ht
    | succ below =>
      simp only [Tree.value?, Option.map_eq_some_iff, obj.injEq] at ht
      obtain ⟨_, hm, rfl⟩ := ht
      exact ⟨below, rfl, isReadable_of_mem_members hm⟩
  | arr trees => cases depth <;> simp [Tree.value?] at ht
  | null | bool | num | str => simp [Tree.value?] at ht

theorem IsReadable.natural_lt {n : Nat} (h : IsReadable depth (.num (.natural n))) :
    n < wordLimit := by
  obtain ⟨tree, ht⟩ := h
  cases tree with
  | num numeral =>
    simp only [Tree.value?, Option.map_eq_some_iff, num.injEq] at ht
    obtain ⟨_, hn, rfl⟩ := ht
    unfold Numeral.number? at hn
    simp only at hn
    split at hn
    · split at hn
      · next hlt =>
        cases hn
        simp only [Bool.and_eq_true, decide_eq_true_eq] at hlt
        exact hlt.2
      · split at hn
        · cases hn
        · simp at hn
    · simp at hn
  | arr trees => cases depth <;> simp [Tree.value?] at ht
  | obj trees => cases depth <;> simp [Tree.value?] at ht
  | null | bool | str => simp [Tree.value?] at ht

theorem IsReadable.of_record? {v : Json} (h : IsReadable depth v) {strict : Bool}
    {names : List String} {given : List (Option Json)} (hg : record? strict names v = some given) :
    ∃ below, depth = below + 1 ∧ ∀ value, some value ∈ given → IsReadable below value := by
  cases v with
  | obj members =>
    obtain ⟨below, rfl, hall⟩ := h.of_obj
    refine ⟨below, rfl, fun value hv => ?_⟩
    simp only [record?] at hg
    split at hg
    · cases hg
    · split at hg
      · cases hg
      · cases hg
        obtain ⟨name, -, hl⟩ := List.mem_map.1 hv
        obtain ⟨before, after, rfl, -⟩ := List.lookup_eq_some_iff.1 hl
        exact hall (name, value) (List.mem_append_right _ (List.mem_cons_self ..))
  | arr items =>
    obtain ⟨below, rfl, hall⟩ := h.of_arr
    refine ⟨below, rfl, fun value hv => ?_⟩
    simp only [record?] at hg
    split at hg
    · cases hg
      simpa using hall value (by simpa using hv)
    · cases hg
  | null | bool | num | str => cases hg

end Readable

section Writable

variable {depth : Nat}

theorem IsWritable.mono {v : Json} (h : IsWritable depth v) {more : Nat} (hd : depth ≤ more) :
    IsWritable more v :=
  ⟨h.whole, Nat.le_trans h.height hd⟩

theorem IsWritable.null : IsWritable depth .null := ⟨trivial, Nat.zero_le _⟩

theorem IsWritable.bool (b : Bool) : IsWritable depth (.bool b) := ⟨trivial, Nat.zero_le _⟩

theorem IsWritable.str (s : String) : IsWritable depth (.str s) := ⟨trivial, Nat.zero_le _⟩

theorem IsWritable.arr {items : List Json} (h : ∀ v ∈ items, IsWritable depth v) :
    IsWritable (depth + 1) (.arr items) := by
  have hall : AreWhole items ∧ heightItems items ≤ depth := by
    induction items with
    | nil => exact ⟨trivial, Nat.zero_le _⟩
    | cons v items ih =>
      obtain ⟨hv, hitems⟩ := List.forall_mem_cons.1 h
      exact ⟨⟨hv.whole, (ih hitems).1⟩, Nat.max_le.2 ⟨hv.height, (ih hitems).2⟩⟩
  exact ⟨hall.1, Nat.succ_le_succ hall.2⟩

theorem IsWritable.obj {members : List (String × Json)} (h : ∀ x ∈ members, IsWritable depth x.2) :
    IsWritable (depth + 1) (.obj members) := by
  have hall : MembersWhole members ∧ heightMembers members ≤ depth := by
    induction members with
    | nil => exact ⟨trivial, Nat.zero_le _⟩
    | cons x members ih =>
      obtain ⟨hx, hmembers⟩ := List.forall_mem_cons.1 h
      exact ⟨⟨hx.whole, (ih hmembers).1⟩, Nat.max_le.2 ⟨hx.height, (ih hmembers).2⟩⟩
  exact ⟨hall.1, Nat.succ_le_succ hall.2⟩

end Writable

/-- What is decoded from a readable value is decoded from its own encoding, too, which can be
written at the same depth, unless that is below the floor. -/
def Restores {α : Type} (floor : Nat) (decode? : Json → Option α) (encode : α → Json) : Prop :=
  ∀ ⦃depth v a⦄, floor ≤ depth → IsReadable depth v → decode? v = some a →
    decode? (encode a) = some a ∧ IsWritable depth (encode a)

namespace Restores

variable {α : Type} {floor : Nat} {decode? : Json → Option α} {encode : α → Json}

theorem mono (h : Restores floor decode? encode) {other : Nat} (hle : floor ≤ other) :
    Restores other decode? encode :=
  fun _ _ _ hd => h (Nat.le_trans hle hd)

theorem text : Restores floor text? .str :=
  fun _ _ s _ _ _ => ⟨rfl, .str s⟩

theorem flag : Restores floor flag? .bool :=
  fun _ _ b _ _ _ => ⟨rfl, .bool b⟩

theorem natural : Restores floor natural? ofNat := by
  intro depth v n _ hv h
  refine ⟨rfl, ?_, Nat.zero_le _⟩
  unfold natural? at h
  split at h
  · cases h
    exact hv.natural_lt
  · cases h

theorem variant {variants : List (String × α)} {name : α → String}
    (h : ∀ a, variants.lookup (name a) = some a) :
    Restores floor (variant? variants) fun a => .str (name a) :=
  fun _ _ a _ _ _ => ⟨h a, .str _⟩

theorem list (h : Restores floor decode? encode) :
    Restores (floor + 1) (list? decode?) fun items => .arr (items.map encode) := by
  intro depth v as hd hv ha
  cases v with
  | arr items =>
    obtain ⟨below, rfl, hall⟩ := hv.of_arr
    have hfloor := Nat.le_of_succ_le_succ hd
    suffices hs : (as.map encode).mapM decode? = some as ∧
        ∀ v ∈ as.map encode, IsWritable below v from ⟨hs.1, .arr hs.2⟩
    rw [list?] at ha
    clear hv hd
    induction items generalizing as with
    | nil =>
      cases ha
      exact ⟨rfl, List.forall_mem_nil _⟩
    | cons v items ih =>
      simp only [List.mapM_cons, Option.bind_eq_bind, Option.bind_eq_some_iff] at ha
      obtain ⟨a, ha, rest, hrest, hsome⟩ := ha
      cases hsome
      obtain ⟨hv, hitems⟩ := List.forall_mem_cons.1 hall
      obtain ⟨hback, hwrite⟩ := h hfloor hv ha
      obtain ⟨hbacks, hwrites⟩ := ih hrest hitems
      refine ⟨?_, List.forall_mem_cons.2 ⟨hwrite, hwrites⟩⟩
      rw [List.map_cons, List.mapM_cons, hback, hbacks]
      rfl
  | null | bool | num | str | obj => cases ha

end Restores

/-- A field of a record: what is decoded from its value or its absence, and what is written. -/
structure Field (α : Type) where
  name : String
  Content : Type
  content : α → Content
  decode? : Option Json → Option Content
  encode : Content → Option Json

namespace Field

variable {α β : Type} (name : String) (read? : Json → Option β) (write : β → Json)

def required (content : α → β) : Field α :=
  ⟨name, β, content, required? read?, fun b => some (write b)⟩

/-- It is written even if it has its default. -/
def defaulted (default : β) (content : α → β) : Field α :=
  ⟨name, β, content, defaulted? read? default, fun b => some (write b)⟩

def listed (content : α → List β) : Field α :=
  defaulted name (list? read?) (fun items => .arr (items.map write)) [] content

def nullable (content : α → Option β) : Field α :=
  ⟨name, Option β, content, optional? read?, fun b => some (.ofOption write b)⟩

/-- It is left out if there is nothing. -/
def omitted (content : α → Option β) : Field α :=
  ⟨name, Option β, content, optional? read?, fun b => b.map write⟩

def Restores (floor : Nat) (f : Field α) : Prop :=
  ∀ ⦃depth given c⦄, floor ≤ depth → (∀ v, given = some v → IsReadable depth v) →
    f.decode? given = some c →
      f.decode? (f.encode c) = some c ∧ ∀ v, f.encode c = some v → IsWritable depth v

variable {name read? write} {floor : Nat} (h : Json.Restores floor read? write)
include h

theorem Restores.required {content : α → β} :
    (Field.required name read? write content).Restores floor := by
  rintro depth (_ | v) c hd hv hc
  · cases hc
  · obtain ⟨hback, hwrite⟩ := h hd (hv v rfl) hc
    refine ⟨hback, ?_⟩
    rintro _ ⟨⟩
    exact hwrite

theorem Restores.defaulted {default : β} (hdefault : read? (write default) = some default)
    (hwritable : IsWritable floor (write default)) {content : α → β} :
    (Field.defaulted name read? write default content).Restores floor := by
  rintro depth (_ | v) c hd hv hc
  · cases hc
    refine ⟨hdefault, ?_⟩
    rintro _ ⟨⟩
    exact hwritable.mono hd
  · obtain ⟨hback, hwrite⟩ := h hd (hv v rfl) hc
    refine ⟨hback, ?_⟩
    rintro _ ⟨⟩
    exact hwrite

theorem Restores.listed {content : α → List β} :
    (Field.listed name read? write content).Restores (floor + 1) :=
  .defaulted h.list rfl (.arr (List.forall_mem_nil _))

theorem restores_of_optional? {depth : Nat} {given : Option Json} {b : β} (hd : floor ≤ depth)
    (hv : ∀ v, given = some v → IsReadable depth v) (hb : optional? read? given = some (some b)) :
    read? (write b) = some b ∧ IsWritable depth (write b) := by
  unfold optional? at hb
  split at hb
  · cases hb
  · cases hb
  · next v _ =>
    obtain ⟨_, hr, hsome⟩ := Option.map_eq_some_iff.1 hb
    cases hsome
    exact h hd (hv v rfl) hr

omit h in
theorem optional?_some {v : Json} (hv : v ≠ .null) :
    optional? read? (some v) = (read? v).map some := by
  rw [optional?]
  rintro rfl
  exact hv rfl

variable (hnull : ∀ b, write b ≠ .null)
include hnull

theorem Restores.nullable {content : α → Option β} :
    (Field.nullable name read? write content).Restores floor := by
  rintro depth given (_ | b) hd hv hc
  · refine ⟨rfl, ?_⟩
    rintro _ ⟨⟩
    exact .null
  · obtain ⟨hback, hwrite⟩ := restores_of_optional? h hd hv hc
    refine ⟨(optional?_some (hnull b)).trans (by rw [hback]; rfl), ?_⟩
    rintro _ ⟨⟩
    exact hwrite

theorem Restores.omitted {content : α → Option β} :
    (Field.omitted name read? write content).Restores floor := by
  rintro depth given (_ | b) hd hv hc
  · refine ⟨rfl, ?_⟩
    rintro _ ⟨⟩
  · obtain ⟨hback, hwrite⟩ := restores_of_optional? h hd hv hc
    refine ⟨(optional?_some (hnull b)).trans (by rw [hback]; rfl), ?_⟩
    rintro _ ⟨⟩
    exact hwrite

end Field

section Records

variable {α : Type}

def Reads (fields : List (Field α)) (v : Json) (a : α) : Prop :=
  ∃ given, record? true (fields.map Field.name) v = some given ∧
    List.Forall₂ (fun f g => f.decode? g = some (f.content a)) fields given

/-- The members of a record, without the fields that are left out. -/
def members (fields : List (Field α)) (a : α) : List (String × Json) :=
  fields.filterMap fun f => (f.encode (f.content a)).map fun v => (f.name, v)

/-- The record is told by its fields, both when it is decoded and when it is encoded. -/
structure IsRecord (fields : List (Field α)) (decode? : Json → Option α) (encode : α → Json) :
    Prop where
  distinct : (fields.map Field.name).Nodup
  reads : ∀ v a, decode? v = some a ↔ Reads fields v a
  writes : ∀ a, encode a = .obj (members fields a)

variable {fields : List (Field α)} {decode? : Json → Option α} {encode : α → Json}

theorem IsRecord.of_row {row? : List (Option Json) → Option α}
    (distinct : (fields.map Field.name).Nodup)
    (decodes : ∀ v, decode? v = (record? true (fields.map Field.name) v).bind row?)
    (row : ∀ given a, row? given = some a ↔
      List.Forall₂ (fun f g => f.decode? g = some (f.content a)) fields given)
    (writes : ∀ a, encode a = .obj (members fields a)) : IsRecord fields decode? encode where
  distinct := distinct
  reads v a := by
    rw [decodes, Option.bind_eq_some_iff]
    exact exists_congr fun given => and_congr_right fun _ => row given a
  writes := writes

theorem IsRecord.pair {f g : Field α} (build : f.Content → g.Content → α)
    (distinct : [f.name, g.name].Nodup)
    (contents : ∀ b c, f.content (build b c) = b ∧ g.content (build b c) = c)
    (eta : ∀ a, build (f.content a) (g.content a) = a)
    (decodes : ∀ v, decode? v = (record? true [f.name, g.name] v).bind fun given =>
      match given with
      | [x, y] => (f.decode? x).bind fun b => (g.decode? y).bind fun c => some (build b c)
      | _ => none)
    (writes : ∀ a, encode a = .obj (members [f, g] a)) : IsRecord [f, g] decode? encode := by
  refine .of_row distinct decodes (fun given a => ?_) writes
  constructor
  · intro h
    split at h
    · simp only [Option.bind_eq_some_iff, Option.some.injEq] at h
      obtain ⟨b, hb, c, hc, rfl⟩ := h
      obtain ⟨hf, hg⟩ := contents b c
      exact .cons (hf.symm ▸ hb) (.cons (hg.symm ▸ hc) .nil)
    · cases h
  · rintro (_ | ⟨hb, _ | ⟨hc, _ | _⟩⟩)
    simp only [Option.bind_eq_some_iff, Option.some.injEq]
    exact ⟨_, hb, _, hc, eta a⟩

theorem mem_members {a : α} {x : String × Json} : x ∈ members fields a ↔
    ∃ f ∈ fields, f.name = x.1 ∧ f.encode (f.content a) = some x.2 := by
  simp only [members, List.mem_filterMap, Option.map_eq_some_iff]
  constructor
  · rintro ⟨f, hf, v, hv, rfl⟩
    exact ⟨f, hf, rfl, hv⟩
  · rintro ⟨f, hf, hn, hv⟩
    exact ⟨f, hf, x.2, hv, Prod.ext hn rfl⟩

theorem keys_sublist (fields : List (Field α)) (a : α) :
    ((members fields a).map Prod.fst).Sublist (fields.map Field.name) := by
  induction fields with
  | nil => exact .slnil
  | cons f fields ih =>
    rw [members, List.filterMap_cons]
    cases f.encode (f.content a) with
    | none => exact ih.cons _
    | some v => exact ih.cons_cons _

section Distinct

variable (h : (fields.map Field.name).Nodup) (a : α)
include h

theorem lookup_members {f : Field α} (hf : f ∈ fields) :
    (members fields a).lookup f.name = f.encode (f.content a) := by
  cases hv : f.encode (f.content a) with
  | some v =>
    exact Text.lookup_of_mem (h.sublist (keys_sublist fields a)) (mem_members.2 ⟨f, hf, rfl, hv⟩)
  | none =>
    refine List.lookup_eq_none_iff.2 fun x hx => bne_iff_ne.2 fun he => ?_
    obtain ⟨g, hg, hn, hw⟩ := mem_members.1 hx
    rw [List.inj_on_of_nodup_map h hg hf (hn.trans he.symm), hv] at hw
    cases hw

theorem record?_members : record? true (fields.map Field.name) (.obj (members fields a)) =
    some (fields.map fun f => f.encode (f.content a)) := by
  have hkeys := keys_sublist fields a
  have hknown : ((members fields a).any fun x =>
      !(fields.map Field.name).contains x.1) = false := by
    simp only [List.any_eq_false, Bool.not_eq_true', Bool.not_eq_false, List.contains_iff_mem]
    exact fun x hx => hkeys.subset (List.mem_map_of_mem hx)
  have honce : Text.firstRepeat (((members fields a).map Prod.fst).filter
      (fields.map Field.name).contains) = none :=
    Text.firstRepeat_eq_none.2 (h.sublist (List.filter_sublist.trans hkeys))
  simp only [record?, hknown, honce]
  simp only [Bool.and_false, Bool.false_eq_true, if_false, Option.isSome_none, List.map_map,
    Option.some.injEq]
  exact List.map_congr_left fun f hf => lookup_members h a hf

end Distinct

theorem IsRecord.restores (h : IsRecord fields decode? encode) {floor : Nat}
    (hfields : fields.Forall (Field.Restores floor)) : Restores (floor + 1) decode? encode := by
  rw [List.forall_iff_forall_mem] at hfields
  intro depth v a hd hv ha
  obtain ⟨given, hgiven, hall⟩ := (h.reads v a).1 ha
  obtain ⟨below, rfl, hbelow⟩ := hv.of_record? hgiven
  have hfield : ∀ f ∈ fields, f.decode? (f.encode (f.content a)) = some (f.content a) ∧
      ∀ v, f.encode (f.content a) = some v → IsWritable below v := by
    intro f hf
    obtain ⟨g, hg, hfg⟩ := Outcome.mem_of_forall₂ hall hf
    refine hfields f hf (Nat.le_of_succ_le_succ hd) (fun v he => ?_) hfg
    exact hbelow v (he ▸ hg)
  constructor
  · refine (h.reads _ a).2 ⟨_, h.writes a ▸ record?_members h.distinct a, ?_⟩
    rw [List.forall₂_map_right_iff, List.forall₂_same]
    exact fun f hf => (hfield f hf).1
  · rw [h.writes]
    refine .obj fun x hx => ?_
    obtain ⟨f, hf, -, hv⟩ := mem_members.1 hx
    exact (hfield f hf).2 x.2 hv

end Records

end EventSchema.Json
