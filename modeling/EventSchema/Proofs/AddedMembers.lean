import EventSchema.Log.Envelope
import EventSchema.Proofs.DatatypeValues

/-!
Members that are added to the text of a value. A record that is not strict looks at the values of
the names that it declares, so that a member under another name changes nothing in it, and neither
does one inside the value of another name. What is put into a value that a later one of the same
name replaces is lost before any record looks. Whether the text still has a value depends on the
added one alone, and on how deep it is put.
-/

set_option autoImplicit false

namespace EventSchema.Json

namespace Tree

inductive Inserts (key : String) (added : Tree) : Tree → Tree → Prop
  | mk {before after : List (Option String × Tree)} :
      Inserts key added (.obj (before ++ after)) (.obj (before ++ (some key, added) :: after))

/-- An object in the tree has one member more, whose value stands so many levels deep. -/
inductive Gains (key : String) (added : Tree) : Nat → Tree → Tree → Prop
  | here {t u : Tree} (h : Inserts key added t u) : Gains key added 1 t u
  | member {levels : Nat} {name : Option String} {t u : Tree}
      {before after : List (Option String × Tree)} (h : Gains key added levels t u) :
      Gains key added (levels + 1) (.obj (before ++ (name, t) :: after))
        (.obj (before ++ (name, u) :: after))
  | item {levels : Nat} {t u : Tree} {before after : List Tree} (h : Gains key added levels t u) :
      Gains key added (levels + 1) (.arr (before ++ t :: after)) (.arr (before ++ u :: after))

/-- The member is added inside a value that a later one of the same name replaces. -/
inductive Overwritten (key : String) (added : Tree) : Nat → Tree → Tree → Prop
  | here {levels : Nat} {name : String} {t u : Tree} {before after : List (Option String × Tree)}
      (hlater : some name ∈ after.map Prod.fst) (h : Gains key added levels t u) :
      Overwritten key added (levels + 1) (.obj (before ++ (some name, t) :: after))
        (.obj (before ++ (some name, u) :: after))
  | member {levels : Nat} {name : Option String} {t u : Tree}
      {before after : List (Option String × Tree)} (h : Overwritten key added levels t u) :
      Overwritten key added (levels + 1) (.obj (before ++ (name, t) :: after))
        (.obj (before ++ (name, u) :: after))
  | item {levels : Nat} {t u : Tree} {before after : List Tree}
      (h : Overwritten key added levels t u) :
      Overwritten key added (levels + 1) (.arr (before ++ t :: after)) (.arr (before ++ u :: after))

/-- The member is added where a record that declares these names does not look: under another name,
or inside the value of another name. -/
inductive PassedOver (key : String) (added : Tree) (names : List String) :
    Nat → Tree → Tree → Prop
  | here {t u : Tree} (hk : key ∉ names) (h : Inserts key added t u) :
      PassedOver key added names 1 t u
  | undeclared {levels : Nat} {name : String} {t u : Tree}
      {before after : List (Option String × Tree)} (hn : name ∉ names)
      (h : Gains key added levels t u) :
      PassedOver key added names (levels + 1) (.obj (before ++ (some name, t) :: after))
        (.obj (before ++ (some name, u) :: after))

inductive InField (names : List String) (name : String) (R : Tree → Tree → Prop) :
    Tree → Tree → Prop
  | member {t u : Tree} {before after : List (Option String × Tree)}
      (hlast : some name ∉ after.map Prod.fst) (h : R t u) :
      InField names name R (.obj (before ++ (some name, t) :: after))
        (.obj (before ++ (some name, u) :: after))
  | item {t u : Tree} {before after : List Tree} (hpos : names.idxOf name = before.length)
      (h : R t u) :
      InField names name R (.arr (before ++ t :: after)) (.arr (before ++ u :: after))

section Depth

theorem isSome_itemValues? (depth : Nat) (items : List Tree) :
    (itemValues? depth items).isSome = items.all fun t => (t.value? depth).isSome := by
  induction items with
  | nil => rfl
  | cons t items ih =>
    rw [itemValues?, List.all_cons, ← ih]
    cases t.value? depth <;> cases itemValues? depth items <;> rfl

theorem isSome_memberValues? (depth : Nat) (members : List (Option String × Tree)) :
    (memberValues? depth members).isSome =
      members.all fun m => m.1.isSome && (m.2.value? depth).isSome := by
  induction members with
  | nil => rfl
  | cons m members ih =>
    obtain ⟨name, t⟩ := m
    rw [memberValues?, List.all_cons, ← ih]
    cases name <;> cases t.value? depth <;> cases memberValues? depth members <;> rfl

variable {key name : String} {added t u : Tree} {names : List String} {levels depth : Nat}

theorem Gains.isSome_value? (h : Gains key added levels t u) (ht : (t.value? depth).isSome) :
    (u.value? depth).isSome = (added.value? (depth - levels)).isSome := by
  induction h generalizing depth with
  | here h =>
    obtain ⟨before, after⟩ := h
    cases depth with
    | zero => simp [value?] at ht
    | succ depth =>
      simp only [value?, Option.isSome_map, isSome_memberValues?, List.all_append, List.all_cons,
        Bool.and_eq_true] at ht ⊢
      simp [ht]
  | member h ih =>
    cases depth with
    | zero => simp [value?] at ht
    | succ depth =>
      simp only [value?, Option.isSome_map, isSome_memberValues?, List.all_append, List.all_cons,
        Bool.and_eq_true] at ht ⊢
      simp [ht, ih ht.2.1.2]
  | item h ih =>
    cases depth with
    | zero => simp [value?] at ht
    | succ depth =>
      simp only [value?, Option.isSome_map, isSome_itemValues?, List.all_append, List.all_cons,
        Bool.and_eq_true] at ht ⊢
      simp [ht, ih ht.2.1]

theorem PassedOver.gains (h : PassedOver key added names levels t u) :
    Gains key added levels t u := by
  cases h with
  | here hk h => exact .here h
  | undeclared hn h => exact .member h

theorem Overwritten.gains (h : Overwritten key added levels t u) : Gains key added levels t u := by
  induction h with
  | here hlater h => exact .member h
  | member _ ih => exact .member ih
  | item _ ih => exact .item ih

theorem InField.overwritten (h : InField names name (Overwritten key added levels) t u) :
    Overwritten key added (levels + 1) t u := by
  cases h with
  | member hlast h => exact .member h
  | item hpos h => exact .item h

theorem InField.gains {R : Tree → Tree → Prop} (hr : ∀ {t u}, R t u → Gains key added levels t u)
    (h : InField names name R t u) : Gains key added (levels + 1) t u := by
  cases h with
  | member hlast h => exact .member (hr h)
  | item hpos h => exact .item (hr h)

end Depth

section Values

variable {depth : Nat}

theorem keys_of_memberValues? {members : List (Option String × Tree)}
    {values : List (String × Json)} (h : memberValues? depth members = some values) :
    members.map Prod.fst = values.map (some ∘ Prod.fst) := by
  induction members generalizing values with
  | nil =>
    cases h
    rfl
  | cons m members ih =>
    obtain ⟨name, t⟩ := m
    simp only [memberValues?, Option.bind_eq_bind, Option.bind_eq_some_iff] at h
    obtain ⟨key, rfl, v, -, rest, hrest, h⟩ := h
    cases h
    rw [List.map_cons, List.map_cons, ih hrest]
    rfl

theorem memberValues?_append_cons {before after : List (Option String × Tree)}
    {name : Option String} {t : Tree} {values : List (String × Json)}
    (h : memberValues? depth (before ++ (name, t) :: after) = some values) :
    ∃ front key v back, values = front ++ (key, v) :: back ∧ name = some key ∧
      t.value? depth = some v ∧ memberValues? depth before = some front ∧
      memberValues? depth after = some back := by
  induction before generalizing values with
  | nil =>
    simp only [List.nil_append, memberValues?, Option.bind_eq_bind, Option.bind_eq_some_iff] at h
    obtain ⟨key, rfl, v, hv, back, hback, h⟩ := h
    cases h
    exact ⟨[], key, v, back, rfl, rfl, hv, rfl, hback⟩
  | cons m before ih =>
    obtain ⟨other, o⟩ := m
    simp only [List.cons_append, memberValues?, Option.bind_eq_bind, Option.bind_eq_some_iff] at h
    obtain ⟨first, rfl, a, ha, rest, hrest, h⟩ := h
    cases h
    obtain ⟨front, key, v, back, rfl, hname, hv, hfront, hback⟩ := ih hrest
    refine ⟨(first, a) :: front, key, v, back, rfl, hname, hv, ?_, hback⟩
    simp only [memberValues?, ha, hfront, Option.bind_eq_bind, Option.bind_some]

theorem memberValues?_append {before after : List (Option String × Tree)}
    {values : List (String × Json)} (h : memberValues? depth (before ++ after) = some values) :
    ∃ front back, values = front ++ back ∧ memberValues? depth before = some front ∧
      memberValues? depth after = some back := by
  cases after with
  | nil => exact ⟨values, [], by simp, by simpa using h, rfl⟩
  | cons m after =>
    obtain ⟨name, t⟩ := m
    obtain ⟨front, key, v, back, rfl, rfl, hv, hfront, hback⟩ := memberValues?_append_cons h
    refine ⟨front, (key, v) :: back, rfl, hfront, ?_⟩
    simp only [memberValues?, hv, hback, Option.bind_eq_bind, Option.bind_some]

theorem itemValues?_append_cons {before after : List Tree} {t : Tree} {values : List Json}
    (h : itemValues? depth (before ++ t :: after) = some values) :
    ∃ front v back, values = front ++ v :: back ∧ front.length = before.length ∧
      t.value? depth = some v ∧ itemValues? depth before = some front ∧
      itemValues? depth after = some back := by
  induction before generalizing values with
  | nil =>
    simp only [List.nil_append, itemValues?, Option.bind_eq_bind, Option.bind_eq_some_iff] at h
    obtain ⟨v, hv, back, hback, h⟩ := h
    cases h
    exact ⟨[], v, back, rfl, rfl, hv, rfl, hback⟩
  | cons o before ih =>
    simp only [List.cons_append, itemValues?, Option.bind_eq_bind, Option.bind_eq_some_iff] at h
    obtain ⟨a, ha, rest, hrest, h⟩ := h
    cases h
    obtain ⟨front, v, back, rfl, hlength, hv, hfront, hback⟩ := ih hrest
    refine ⟨a :: front, v, back, rfl, by simp [hlength], hv, ?_, hback⟩
    simp only [itemValues?, ha, hfront, Option.bind_eq_bind, Option.bind_some]

variable {v w : Json}

theorem exists_obj_of_value? {members : List (Option String × Tree)}
    (h : (obj members).value? depth = some v) : ∃ values, v = .obj values := by
  cases depth with
  | zero => cases h
  | succ below =>
    obtain ⟨values, -, rfl⟩ := Option.map_eq_some_iff.1 h
    exact ⟨values, rfl⟩

theorem value?_member {before after : List (Option String × Tree)} {name : Option String} {t : Tree}
    (h : (obj (before ++ (name, t) :: after)).value? depth = some v) :
    ∃ below front key a back, depth = below + 1 ∧ name = some key ∧ t.value? below = some a ∧
      v = .obj (front ++ (key, a) :: back) ∧ memberValues? below before = some front ∧
      memberValues? below after = some back := by
  cases depth with
  | zero => cases h
  | succ below =>
    obtain ⟨ms, hms, rfl⟩ := Option.map_eq_some_iff.1 h
    obtain ⟨front, key, a, back, rfl, hname, ha, hfront, hback⟩ := memberValues?_append_cons hms
    exact ⟨below, front, key, a, back, rfl, hname, ha, rfl, hfront, hback⟩

theorem value?_member_apart {before after : List (Option String × Tree)} {name : Option String}
    {t u : Tree} (ht : (obj (before ++ (name, t) :: after)).value? depth = some v)
    (hu : (obj (before ++ (name, u) :: after)).value? depth = some w) :
    ∃ below front key a b back, depth = below + 1 ∧ name = some key ∧ t.value? below = some a ∧
      u.value? below = some b ∧ v = .obj (front ++ (key, a) :: back) ∧
      w = .obj (front ++ (key, b) :: back) ∧ after.map Prod.fst = back.map (some ∘ Prod.fst) := by
  obtain ⟨below, front, key, a, back, rfl, rfl, ha, rfl, hfront, hback⟩ := value?_member ht
  obtain ⟨below', front', key', b, back', hdepth, hkey, hb, rfl, hfront', hback'⟩ :=
    value?_member hu
  cases hdepth
  cases hfront.symm.trans hfront'
  cases hback.symm.trans hback'
  cases hkey
  exact ⟨below, front, key, a, b, back, rfl, rfl, ha, hb, rfl, rfl, keys_of_memberValues? hback⟩

theorem value?_item {before after : List Tree} {t : Tree}
    (h : (arr (before ++ t :: after)).value? depth = some v) :
    ∃ below front a back, depth = below + 1 ∧ t.value? below = some a ∧
      v = .arr (front ++ a :: back) ∧ front.length = before.length ∧
      itemValues? below before = some front ∧ itemValues? below after = some back := by
  cases depth with
  | zero => cases h
  | succ below =>
    obtain ⟨as, has, rfl⟩ := Option.map_eq_some_iff.1 h
    obtain ⟨front, a, back, rfl, hlength, ha, hfront, hback⟩ := itemValues?_append_cons has
    exact ⟨below, front, a, back, rfl, ha, rfl, hlength, hfront, hback⟩

theorem value?_item_apart {before after : List Tree} {t u : Tree}
    (ht : (arr (before ++ t :: after)).value? depth = some v)
    (hu : (arr (before ++ u :: after)).value? depth = some w) :
    ∃ below front a b back, depth = below + 1 ∧ t.value? below = some a ∧
      u.value? below = some b ∧ v = .arr (front ++ a :: back) ∧ w = .arr (front ++ b :: back) ∧
      front.length = before.length := by
  obtain ⟨below, front, a, back, rfl, ha, rfl, hlength, hfront, hback⟩ := value?_item ht
  obtain ⟨below', front', b, back', hdepth, hb, rfl, -, hfront', hback'⟩ := value?_item hu
  cases hdepth
  cases hfront.symm.trans hfront'
  cases hback.symm.trans hback'
  exact ⟨below, front, a, b, back, rfl, ha, hb, rfl, rfl, hlength⟩

theorem Inserts.value?_apart {key : String} {added t u : Tree} (h : Inserts key added t u)
    (ht : t.value? depth = some v) (hu : u.value? depth = some w) :
    ∃ front a back, v = .obj (front ++ back) ∧ w = .obj (front ++ (key, a) :: back) := by
  obtain ⟨before, after⟩ := h
  obtain ⟨below, front, key, a, back, rfl, hkey, -, rfl, hfront, hback⟩ := value?_member hu
  cases hkey
  obtain ⟨ms, hms, rfl⟩ := Option.map_eq_some_iff.1 ht
  obtain ⟨front', back', rfl, hfront', hback'⟩ := memberValues?_append hms
  cases hfront.symm.trans hfront'
  cases hback.symm.trans hback'
  exact ⟨front, a, back, rfl, rfl⟩

end Values

theorem InField.imp {R S : Tree → Tree → Prop} {names : List String} {name : String} {t u : Tree}
    (hrs : ∀ {t u}, R t u → S t u) (h : InField names name R t u) : InField names name S t u := by
  cases h with
  | member hlast h => exact .member hlast (hrs h)
  | item hpos h => exact .item hpos (hrs h)

end Tree

section Records

theorem get?_append (front back : List (String × Json)) (name : String) :
    (obj (front ++ back)).get? name = ((obj back).get? name).or ((obj front).get? name) := by
  simp [get?, List.lookup_append]

theorem get?_cons (key : String) (v : Json) (rest : List (String × Json)) (name : String) :
    (obj ((key, v) :: rest)).get? name =
      ((obj rest).get? name).or (if name = key then some v else none) := by
  rw [← List.singleton_append, get?_append]
  congr 1
  exact Text.lookup_cons_ite name key v []

theorem isSome_get? {members : List (String × Json)} {name : String} :
    ((obj members).get? name).isSome ↔ name ∈ members.map Prod.fst := by
  simp only [get?, List.lookup_isSome_iff, List.mem_reverse, beq_iff_eq, List.mem_map]
  exact exists_congr fun _ => and_congr_right fun _ => eq_comm

theorem get?_eq_none {members : List (String × Json)} {name : String}
    (h : name ∉ members.map Prod.fst) : (obj members).get? name = none := by
  rw [← isSome_get?] at h
  simpa using h

theorem collapseMembers_eq (members : List (String × Json)) :
    collapseMembers members = members.map (Prod.map id collapse) := by
  induction members with
  | nil => rfl
  | cons m members ih => rw [collapseMembers, ih]; rfl

theorem lookup_collapse (members : List (String × Json)) (name : String) :
    (Text.sortKeys (collapseMembers members)).lookup name =
      ((obj members).get? name).map collapse := by
  rw [Text.lookup_sortKeys, collapseMembers_eq, ← List.map_reverse, get?]
  induction members.reverse with
  | nil => rfl
  | cons m rest ih =>
    obtain ⟨key, v⟩ := m
    rw [List.map_cons, Prod.map, Text.lookup_cons_ite, Text.lookup_cons_ite, ih, id]
    split <;> rfl

theorem collapse_obj_congr {ms ns : List (String × Json)}
    (h : ∀ name, (obj ns).get? name = (obj ms).get? name) :
    (obj ns).collapse = (obj ms).collapse := by
  rw [collapse, collapse]
  refine congrArg obj (Text.sortKeys_congr fun name => ?_)
  rw [← Text.lookup_sortKeys, ← Text.lookup_sortKeys, lookup_collapse, lookup_collapse, h]

theorem exactRecord?_collapse (names : List String) (members : List (String × Json)) :
    exactRecord? false names (obj members).collapse =
      some (names.map fun name => ((obj members).get? name).map collapse) := by
  have hkeys := (Text.pairwise_sortKeys (collapseMembers members)).imp fun h => String.ne_of_lt h
  have honce : Text.firstRepeat (((Text.sortKeys (collapseMembers members)).map Prod.fst).filter
      names.contains) = none := Text.firstRepeat_eq_none.2 (List.Nodup.filter _ hkeys)
  rw [collapse, exactRecord?]
  · simp [record?, honce, lookup_collapse]
  · simp

theorem collapseItems_eq (items : List Json) : collapseItems items = items.map collapse := by
  induction items with
  | nil => rfl
  | cons item items ih => rw [collapseItems, ih]; rfl

theorem exactRecord?_collapse_arr {names : List String} (hn : names.Nodup) (items : List Json) :
    exactRecord? false names (arr items).collapse =
      if items.length = names.length then
        some (names.map fun name => items[names.idxOf name]?.map collapse)
      else none := by
  rw [collapse, exactRecord?, collapseItems_eq, List.length_map]
  split
  · next hl =>
    refine congrArg some (List.ext_getElem (by simp [hl]) fun i hi hj => ?_)
    have hname : i < names.length := by simpa using hj
    have hitem : i < items.length := hl ▸ hname
    simp [hn.idxOf_getElem i hname, List.getElem?_eq_getElem hitem]
  · rfl

theorem exists_map_of_exactRecord? {names : List String} (hn : names.Nodup) {v : Json}
    {parts : List (Option Json)} (h : exactRecord? false names v.collapse = some parts) :
    ∃ f, exactRecord? false names v.collapse = some (names.map f) := by
  cases v with
  | obj members => exact ⟨_, exactRecord?_collapse names members⟩
  | arr items =>
    rw [exactRecord?_collapse_arr hn] at h ⊢
    exact ⟨_, if_pos (Option.ite_none_right_eq_some.1 h).1⟩
  | null | bool | num | str => cases h

theorem exactRecord?_collapse_eq_none {names : List String} {members : List (String × Json)}
    {key : String} (hk : key ∉ names) (h : ((obj members).get? key).isSome) :
    exactRecord? true names (obj members).collapse = none := by
  have hlookup := congrArg Option.isSome (lookup_collapse members key)
  rw [Option.isSome_map, h, List.lookup_isSome_iff] at hlookup
  obtain ⟨m, hm, he⟩ := hlookup
  have hforeign : (Text.sortKeys (collapseMembers members)).any
      (fun m => !names.contains m.1) = true :=
    List.any_eq_true.2 ⟨m, hm, by simpa [← eq_of_beq he] using hk⟩
  rw [collapse, exactRecord?]
  · simp only [record?, hforeign, Bool.true_and, if_true]
  · simp

theorem exactRecord?_of_strict {names : List String} {v : Json} {parts : List (Option Json)}
    (h : exactRecord? true names v = some parts) : exactRecord? false names v = some parts := by
  cases v with
  | obj members =>
    rw [exactRecord?, record?] at h ⊢
    · exact (Option.ite_none_left_eq_some.1 h).2
    all_goals simp
  | arr items => exact h
  | null | bool | num | str => cases h

theorem eq_of_variant?_collapse {α : Type} {variants : List (String × α)}
    {members : List (String × Json)} {x : α}
    (h : variant? variants (obj members).collapse = some x) {key : String} {v : Json}
    (hkey : (obj members).get? key = some v) :
    v.collapse = .null ∧ variants.lookup key = some x := by
  have hlookup := lookup_collapse members key
  rw [hkey, Option.map_some] at hlookup
  rw [collapse] at h
  generalize Text.sortKeys (collapseMembers members) = table at h hlookup
  match table, h with
  | [(name, .null)], h =>
    rw [Text.lookup_cons_ite] at hlookup
    obtain ⟨rfl, hnull⟩ := Option.ite_none_right_eq_some.1 hlookup
    exact ⟨(Option.some.inj hnull).symm, h⟩

end Records

namespace Tree

section Reading

variable {key name : String} {added t u : Tree} {names : List String} {levels depth : Nat}
  {v w : Json}

theorem PassedOver.get?_eq (h : PassedOver key added names levels t u)
    (ht : t.value? depth = some v) (hu : u.value? depth = some w) :
    ∃ ms ns, v = .obj ms ∧ w = .obj ns ∧
      ∀ name ∈ names, (Json.obj ns).get? name = (Json.obj ms).get? name := by
  cases h with
  | here hk h =>
    obtain ⟨front, a, back, rfl, rfl⟩ := h.value?_apart ht hu
    refine ⟨_, _, rfl, rfl, fun name hn => ?_⟩
    have hne : name ≠ key := fun he => hk (he ▸ hn)
    rw [get?_append, get?_append, get?_cons, if_neg hne, Option.or_none]
  | @undeclared levels other t u before after hn h =>
    obtain ⟨below, front, found, a, b, back, -, hfound, -, -, rfl, rfl, -⟩ :=
      value?_member_apart ht hu
    obtain rfl := Option.some.inj hfound
    refine ⟨_, _, rfl, rfl, fun name hname => ?_⟩
    have hne : name ≠ other := fun he => hn (he ▸ hname)
    rw [get?_append, get?_append, get?_cons, get?_cons, if_neg hne, if_neg hne]

/-- What is lost changes nothing in the value. -/
theorem Overwritten.collapse_eq (h : Overwritten key added levels t u)
    (ht : t.value? depth = some v) (hu : u.value? depth = some w) : w.collapse = v.collapse := by
  induction h generalizing depth v w with
  | @here levels name t u before after hlater h =>
    obtain ⟨below, front, found, a, b, back, -, hfound, -, -, rfl, rfl, hkeys⟩ :=
      value?_member_apart ht hu
    obtain rfl := Option.some.inj hfound
    have hback : name ∈ back.map Prod.fst := by simpa [hkeys] using hlater
    refine collapse_obj_congr fun other => ?_
    rw [get?_append, get?_append, get?_cons, get?_cons]
    by_cases he : other = name
    · -- the later value is the one that is found
      obtain ⟨later, hl⟩ := Option.isSome_iff_exists.1 (isSome_get?.2 hback)
      rw [he, hl]
      rfl
    · rw [if_neg he, if_neg he]
  | member h ih =>
    obtain ⟨below, front, found, a, b, back, -, -, ha, hb, rfl, rfl, -⟩ := value?_member_apart ht hu
    simp only [collapse, collapseMembers_eq, List.map_append, List.map_cons, Prod.map, ih ha hb]
  | item h ih =>
    obtain ⟨below, front, a, b, back, -, ha, hb, rfl, rfl, -⟩ := value?_item_apart ht hu
    simp only [collapse, collapseItems_eq, List.map_append, List.map_cons, ih ha hb]

theorem PassedOver.exactRecord?_eq (h : PassedOver key added names levels t u)
    (ht : t.value? depth = some v) (hu : u.value? depth = some w) :
    exactRecord? false names w.collapse = exactRecord? false names v.collapse := by
  obtain ⟨ms, ns, rfl, rfl, hget⟩ := h.get?_eq ht hu
  rw [exactRecord?_collapse, exactRecord?_collapse]
  exact congrArg some (List.map_congr_left fun name hn => by rw [hget name hn])

theorem Inserts.exists_obj (h : Inserts key added t u) (hu : u.value? depth = some w) :
    ∃ members, w = .obj members ∧ ((Json.obj members).get? key).isSome := by
  obtain ⟨before, after⟩ := h
  obtain ⟨below, front, found, a, back, -, hfound, -, rfl, -⟩ := value?_member hu
  obtain rfl := Option.some.inj hfound
  exact ⟨_, rfl, isSome_get?.2 (by simp)⟩

theorem Gains.obj_or_arr (h : Gains key added levels t u) (ht : t.value? depth = some v) :
    (∃ members, v = .obj members) ∨ ∃ front a back t' u' below inner,
      v = .arr (front ++ a :: back) ∧ Gains key added inner t' u' ∧ t'.value? below = some a := by
  cases h with
  | here h =>
    cases h
    exact .inl (exists_obj_of_value? ht)
  | member => exact .inl (exists_obj_of_value? ht)
  | item h =>
    obtain ⟨below, front, a, back, -, ha, rfl, -⟩ := value?_item ht
    exact .inr ⟨front, a, back, _, _, below, _, rfl, h, ha⟩

theorem Gains.ne_null (h : Gains key added levels t u) (ht : t.value? depth = some v) :
    v.collapse ≠ .null := by
  rcases h.obj_or_arr ht with ⟨_, rfl⟩ | ⟨_, _, _, _, _, _, _, rfl, -⟩ <;> simp [collapse]

theorem Gains.ne_null_after (h : Gains key added levels t u) (hu : u.value? depth = some w) :
    w.collapse ≠ .null := by
  cases h with
  | here h =>
    obtain ⟨members, rfl, -⟩ := h.exists_obj hu
    simp [collapse]
  | member =>
    obtain ⟨members, rfl⟩ := exists_obj_of_value? hu
    simp [collapse]
  | item =>
    obtain ⟨below, front, a, back, -, -, rfl, -⟩ := value?_item hu
    simp [collapse]

theorem Gains.text?_eq_none (h : Gains key added levels t u) (ht : t.value? depth = some v) :
    Json.text? v.collapse = none := by
  rcases h.obj_or_arr ht with ⟨_, rfl⟩ | ⟨_, _, _, _, _, _, _, rfl, -⟩ <;> rfl

theorem Gains.texts?_eq_none (h : Gains key added levels t u) (ht : t.value? depth = some v) :
    Json.list? Json.text? v.collapse = none := by
  rcases h.obj_or_arr ht with ⟨_, rfl⟩ | ⟨front, a, back, t', u', below, inner, rfl, h, ha⟩
  · rfl
  · rw [collapse, collapseItems_eq, List.map_append, List.map_cons, Json.list?, List.mapM_append,
      List.mapM_cons, h.text?_eq_none ha]
    cases List.mapM Json.text? (front.map collapse) <;> rfl

theorem Gains.overwritten_or_inserts {α : Type} {variants : List (String × α)} {x : α}
    (h : Gains key added levels t u) (ht : t.value? depth = some v)
    (hv : variant? variants v.collapse = some x) :
    Overwritten key added levels t u ∨ levels = 1 ∧ Inserts key added t u := by
  cases h with
  | here h => exact .inr ⟨rfl, h⟩
  | @member levels name t u before after h =>
    obtain ⟨below, front, found, a, back, -, rfl, ha, rfl, -, hback⟩ := value?_member ht
    by_cases hlater : some found ∈ after.map Prod.fst
    · exact .inl (.here hlater h)
    · have hnone : (Json.obj back).get? found = none :=
        get?_eq_none (by simpa [keys_of_memberValues? hback] using hlater)
      have hget : (Json.obj (front ++ (found, a) :: back)).get? found = some a := by
        simp [get?_append, get?_cons, hnone]
      exact absurd (eq_of_variant?_collapse hv hget).1 (h.ne_null ha)
  | item h =>
    obtain ⟨below, front, a, back, -, -, rfl, -⟩ := value?_item ht
    cases hv

theorem PassedOver.inserts_of_strict (h : PassedOver key added names levels t u)
    (ht : t.value? depth = some v) {parts : List (Option Json)}
    (hv : exactRecord? true names v.collapse = some parts) :
    levels = 1 ∧ Inserts key added t u := by
  cases h with
  | here _ h => exact ⟨rfl, h⟩
  | undeclared hn h =>
    obtain ⟨below, front, found, a, back, -, hfound, -, rfl, -⟩ := value?_member ht
    obtain rfl := Option.some.inj hfound
    rw [exactRecord?_collapse_eq_none hn (isSome_get?.2 (by simp))] at hv
    cases hv

theorem Inserts.exactRecord?_eq_none (h : Inserts key added t u) (hk : key ∉ names)
    (hu : u.value? depth = some w) : exactRecord? true names w.collapse = none := by
  obtain ⟨members, rfl, hget⟩ := h.exists_obj hu
  exact exactRecord?_collapse_eq_none hk hget

theorem InField.exactRecord?_apart {R : Tree → Tree → Prop} (h : InField names name R t u)
    (hn : names.Nodup) (ht : t.value? depth = some v)
    (hu : u.value? depth = some w) {parts : List (Option Json)}
    (hv : exactRecord? false names v.collapse = some parts) :
    ∃ t' u' below a b, ∃ f g : String → Option Json, R t' u' ∧
      t'.value? below = some a ∧ u'.value? below = some b ∧
      f name = some a.collapse ∧ g name = some b.collapse ∧
      (∀ other ∈ names, other ≠ name → g other = f other) ∧ parts = names.map f ∧
      exactRecord? false names w.collapse = some (names.map g) := by
  cases h with
  | @member t' u' before after hlast h =>
    obtain ⟨below, front, found, a, b, back, -, hfound, ha, hb, rfl, rfl, hkeys⟩ :=
      value?_member_apart ht hu
    obtain rfl := Option.some.inj hfound
    rw [exactRecord?_collapse] at hv
    have hnone : (Json.obj back).get? name = none := get?_eq_none (by simpa [hkeys] using hlast)
    refine ⟨t', u', below, a, b, _, _, h, ha, hb, ?_, ?_, ?_, (Option.some.inj hv).symm,
      exactRecord?_collapse _ _⟩
    · simp [get?_append, get?_cons, hnone]
    · simp [get?_append, get?_cons, hnone]
    · intro other _ hne
      simp [get?_append, get?_cons, hne]
  | @item t' u' before after hpos h =>
    obtain ⟨below, front, a, b, back, -, ha, hb, rfl, rfl, hlength⟩ := value?_item_apart ht hu
    have hplace : names.idxOf name = front.length := hpos.trans hlength.symm
    rw [exactRecord?_collapse_arr hn, Option.ite_none_right_eq_some] at hv
    obtain ⟨hcount, hv⟩ := hv
    have hcount' : (front ++ b :: back).length = names.length := by simpa using hcount
    refine ⟨t', u', below, a, b, _, _, h, ha, hb, ?_, ?_, fun other ho hne => ?_,
      (Option.some.inj hv).symm, (exactRecord?_collapse_arr hn _).trans (if_pos hcount')⟩
    · simp [hplace]
    · simp [hplace]
    · -- another name has another place
      have hother : names.idxOf other ≠ front.length := fun he =>
        hne ((List.idxOf_inj ho).1 (he.trans hplace.symm))
      have hsame : (front ++ b :: back)[names.idxOf other]? =
          (front ++ a :: back)[names.idxOf other]? := by grind
      rw [hsame]

theorem InField.exactRecord?_field {R : Tree → Tree → Prop} (h : InField names name R t u)
    (hn : names.Nodup) (hm : name ∈ names) (ht : t.value? depth = some v)
    {f : String → Option Json} (hv : exactRecord? false names v.collapse = some (names.map f)) :
    ∃ t' u' below a, R t' u' ∧ t'.value? below = some a ∧ f name = some a.collapse ∧
      ∀ S : Tree → Tree → Prop, S t' u' → InField names name S t u := by
  cases h with
  | @member t' u' before after hlast h =>
    obtain ⟨below, front, found, a, back, -, hfound, ha, rfl, -, hback⟩ := value?_member ht
    obtain rfl := Option.some.inj hfound
    rw [exactRecord?_collapse, Option.some.injEq] at hv
    have hnone : (Json.obj back).get? name = none :=
      get?_eq_none (by simpa [keys_of_memberValues? hback] using hlast)
    have hf := List.map_inj_left.1 hv name hm
    refine ⟨t', u', below, a, h, ha, ?_, fun S hs => .member hlast hs⟩
    rw [← hf]
    simp [get?_append, get?_cons, hnone]
  | @item t' u' before after hpos h =>
    obtain ⟨below, front, a, back, -, ha, rfl, hlength, -⟩ := value?_item ht
    rw [exactRecord?_collapse_arr hn, Option.ite_none_right_eq_some, Option.some.injEq] at hv
    have hf := List.map_inj_left.1 hv.2 name hm
    refine ⟨t', u', below, a, h, ha, ?_, fun S hs => .item hpos hs⟩
    rw [← hf, hpos, ← hlength]
    simp

/-- A member under a new key is added to a record where it is lost, where the record does not look,
or inside the value that it takes for one of its fields. -/
theorem Gains.passedOver_or_inField (h : Gains key added levels t u) (hk : key ∉ names)
    (hn : names.Nodup) (ht : t.value? depth = some v) {parts : List (Option Json)}
    (hv : exactRecord? false names v.collapse = some parts) :
    Overwritten key added levels t u ∨ PassedOver key added names levels t u ∨
      ∃ name ∈ names, ∃ below, levels = below + 1 ∧
        InField names name (Gains key added below) t u := by
  cases h with
  | here h => exact .inr (.inl (.here hk h))
  | @member levels name t u before after h =>
    obtain ⟨below, _, found, _, _, -, rfl, -⟩ := value?_member ht
    by_cases hlater : some found ∈ after.map Prod.fst
    · exact .inl (.here hlater h)
    · by_cases hname : found ∈ names
      · exact .inr (.inr ⟨found, hname, levels, rfl, .member hlater h⟩)
      · exact .inr (.inl (.undeclared hname h))
  | @item levels t u before after h =>
    obtain ⟨below, front, a, back, -, -, rfl, hlength, -⟩ := value?_item ht
    rw [exactRecord?_collapse_arr hn, Option.ite_none_right_eq_some] at hv
    have hplace : before.length < names.length := by
      rw [← hv.1, List.length_append, hlength, List.length_cons]
      omega
    exact .inr (.inr ⟨names[before.length], List.getElem_mem hplace, levels, rfl,
      .item (hn.idxOf_getElem _ hplace) h⟩)

end Reading

end Tree

end EventSchema.Json
