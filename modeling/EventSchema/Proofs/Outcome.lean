import EventSchema.Check.Names
import Mathlib.Data.List.Forall2
import Mathlib.Data.List.Nodup

set_option autoImplicit false

namespace EventSchema.Outcome

variable {ε α β : Type}

theorem bind_eq_ok {x : Except ε α} {f : α → Except ε β} {b : β} :
    x >>= f = .ok b ↔ ∃ a, x = .ok a ∧ f a = .ok b := by
  cases x with
  | error e => simp [bind, Except.bind]
  | ok a => simp [bind, Except.bind]

theorem bind_eq_error {x : Except ε α} {f : α → Except ε β} {e : ε} :
    x >>= f = .error e ↔ x = .error e ∨ ∃ a, x = .ok a ∧ f a = .error e := by
  cases x with
  | error d => simp [bind, Except.bind]
  | ok a => simp [bind, Except.bind]

theorem andThen_eq_ok {x : Except ε Unit} {y : Except ε β} {b : β} :
    (x >>= fun _ => y) = .ok b ↔ x = .ok () ∧ y = .ok b := by
  rw [bind_eq_ok]
  exact ⟨fun ⟨(), h⟩ => h, fun h => ⟨(), h⟩⟩

theorem map_eq_ok {x : Except ε α} {f : α → β} {b : β} :
    x.map f = .ok b ↔ ∃ a, x = .ok a ∧ f a = b := by
  cases x with
  | error e => simp [Except.map]
  | ok a => simp [Except.map]

theorem map_eq_error {x : Except ε α} {f : α → β} {e : ε} :
    x.map f = .error e ↔ x = .error e := by
  cases x with
  | error d => simp [Except.map]
  | ok a => simp [Except.map]

theorem mapError_eq_ok {δ : Type} {x : Except ε α} {f : ε → δ} {a : α} :
    x.mapError f = .ok a ↔ x = .ok a := by
  cases x with
  | error e => simp [Except.mapError]
  | ok b => simp [Except.mapError]

theorem eq_ok_of_toOption {x : Except ε α} {a : α} (h : x.toOption = some a) : x = .ok a := by
  cases x with
  | error e => cases h
  | ok b =>
    cases h
    rfl

theorem exists_eq_ok_of_isSome {x : Except ε α} (h : x.toOption.isSome = true) : ∃ a, x = .ok a :=
  (Option.isSome_iff_exists.1 h).imp fun _ ha => eq_ok_of_toOption ha

theorem pair_eq_ok_of_toOption {σ : Type} {x : σ × Except ε α} {s : σ} {a : α}
    (h : (x.1, x.2.toOption) = (s, some a)) : x = (s, .ok a) :=
  Prod.ext (Prod.ext_iff.1 h).1 (eq_ok_of_toOption (Prod.ext_iff.1 h).2)

theorem isOk_eq_true_iff {x : Except ε Unit} : x.isOk = true ↔ x = .ok () := by
  cases x with
  | error e => simp [Except.isOk, Except.toBool]
  | ok a => simp [Except.isOk, Except.toBool]

theorem forM_eq_ok {f : α → Except ε Unit} {xs : List α} :
    xs.forM f = .ok () ↔ ∀ x ∈ xs, f x = .ok () := by
  induction xs with
  | nil => simp [List.forM, pure, Except.pure]
  | cons x xs ih =>
    have hs : (x :: xs).forM f = f x >>= fun _ => xs.forM f := rfl
    rw [hs, andThen_eq_ok, List.forall_mem_cons, ih]

theorem forM_eq_error {f : α → Except ε Unit} {xs : List α} {e : ε} :
    xs.forM f = .error e ↔ ∃ before x after, xs = before ++ x :: after ∧
      (∀ y ∈ before, f y = .ok ()) ∧ f x = .error e := by
  induction xs with
  | nil => simp [List.forM, pure, Except.pure]
  | cons x xs ih =>
    have hs : (x :: xs).forM f = f x >>= fun _ => xs.forM f := rfl
    rw [hs, bind_eq_error, ih]
    constructor
    · rintro (hx | ⟨u, hx, before, y, after, rfl, hb, hy⟩)
      · exact ⟨[], x, xs, rfl, List.forall_mem_nil _, hx⟩
      · exact ⟨x :: before, y, after, rfl, List.forall_mem_cons.2 ⟨hx, hb⟩, hy⟩
    · rintro ⟨before, y, after, he, hb, hy⟩
      cases before with
      | nil =>
        cases he
        exact .inl hy
      | cons z before =>
        cases he
        obtain ⟨hz, hb⟩ := List.forall_mem_cons.1 hb
        exact .inr ⟨(), hz, before, y, after, rfl, hb, hy⟩

theorem forM_flatMap {f : β → Except ε Unit} {g : α → List β} {k : α → Except ε Unit}
    {xs : List α} (hk : ∀ x ∈ xs, (g x).forM f = k x) : (xs.flatMap g).forM f = xs.forM k := by
  induction xs with
  | nil => rfl
  | cons x xs ih =>
    obtain ⟨hx, hxs⟩ := List.forall_mem_cons.1 hk
    have hs : (x :: xs).forM k = k x >>= fun _ => xs.forM k := rfl
    rw [List.flatMap_cons, hs, ← hx, ← ih hxs]
    exact List.forM_append

theorem forall₂_of_mapM_eq_ok {f : α → Except ε β} {xs : List α} {ys : List β}
    (h : xs.mapM f = .ok ys) : List.Forall₂ (fun x y => f x = .ok y) xs ys := by
  induction xs generalizing ys with
  | nil =>
    cases h
    exact .nil
  | cons x xs ih =>
    rw [List.mapM_cons] at h
    obtain ⟨y, hy, h⟩ := bind_eq_ok.1 h
    obtain ⟨rest, hr, h⟩ := bind_eq_ok.1 h
    cases h
    exact .cons hy (ih hr)

theorem mem_of_forall₂ {α β : Type*} {R : α → β → Prop} {xs : List α} {ys : List β}
    (h : List.Forall₂ R xs ys) {x : α} (hx : x ∈ xs) : ∃ y ∈ ys, R x y := by
  induction h with
  | nil => cases hx
  | cons hy _ ih =>
    rcases List.mem_cons.1 hx with rfl | hx
    · exact ⟨_, by simp, hy⟩
    · obtain ⟨y, hm, he⟩ := ih hx
      exact ⟨y, List.mem_cons_of_mem _ hm, he⟩

theorem map_eq_of_forall₂ {γ : Type} {R : α → β → Prop} {f : α → γ} {g : β → γ}
    (hr : ∀ a b, R a b → g b = f a) {xs : List α} {ys : List β} (h : List.Forall₂ R xs ys) :
    ys.map g = xs.map f := by
  induction h with
  | nil => rfl
  | cons hab _ ih => rw [List.map_cons, List.map_cons, hr _ _ hab, ih]

theorem sublist_of_forall₂ {γ : Type} {R : α → Option β → Prop} {f : α → γ} {g : β → γ}
    (hr : ∀ a b, R a (some b) → g b = f a) {xs : List α} {ys : List (Option β)}
    (h : List.Forall₂ R xs ys) : ((ys.filterMap id).map g).Sublist (xs.map f) := by
  induction h with
  | nil => exact .slnil
  | @cons x y xs ys hxy _ ih =>
    cases y with
    | none => exact ih.cons (f x)
    | some y =>
      have hkept : (some y :: ys).filterMap id = y :: ys.filterMap id := rfl
      rw [hkept, List.map_cons, List.map_cons, hr x y hxy]
      exact ih.cons_cons (f x)

theorem mem_of_mapM_eq_ok {f : α → Except ε β} {xs : List α} {ys : List β}
    (h : xs.mapM f = .ok ys) {x : α} (hx : x ∈ xs) : ∃ y ∈ ys, f x = .ok y :=
  mem_of_forall₂ (forall₂_of_mapM_eq_ok h) hx

theorem mem_iff_of_mapM_eq_ok {f : α → Except ε β} {xs : List α} {ys : List β}
    (h : xs.mapM f = .ok ys) {y : β} : y ∈ ys ↔ ∃ x ∈ xs, f x = .ok y := by
  constructor
  · exact mem_of_forall₂ (forall₂_of_mapM_eq_ok h).flip
  · rintro ⟨x, hx, hy⟩
    obtain ⟨z, hz, he⟩ := mem_of_mapM_eq_ok h hx
    rw [hy, Except.ok.injEq] at he
    exact he ▸ hz

theorem flatMap_of_mapM_eq_ok {γ : Type} {f : α → Except ε β} {g : β → List γ} {k : α → List γ}
    {xs : List α} {ys : List β} (h : xs.mapM f = .ok ys)
    (hk : ∀ x ∈ xs, ∀ y, f x = .ok y → g y = k x) : ys.flatMap g = xs.flatMap k := by
  induction xs generalizing ys with
  | nil =>
    cases h
    rfl
  | cons x xs ih =>
    obtain ⟨hx, hxs⟩ := List.forall_mem_cons.1 hk
    rw [List.mapM_cons] at h
    obtain ⟨y, hy, h⟩ := bind_eq_ok.1 h
    obtain ⟨rest, hr, h⟩ := bind_eq_ok.1 h
    cases h
    rw [List.flatMap_cons, List.flatMap_cons, hx y hy, ih hr hxs]

theorem mapM_eq_ok_map {f : α → Except ε β} {g : α → β} {xs : List α}
    (h : ∀ a ∈ xs, f a = .ok (g a)) : xs.mapM f = .ok (xs.map g) := by
  induction xs with
  | nil => rfl
  | cons a xs ih =>
    obtain ⟨ha, hxs⟩ := List.forall_mem_cons.1 h
    rw [List.mapM_cons, ha, ih hxs]
    rfl

theorem mapM_eq_some_map {f : α → Option β} {g : α → β} {xs : List α}
    (h : ∀ a ∈ xs, f a = some (g a)) : xs.mapM f = some (xs.map g) := by
  induction xs with
  | nil => rfl
  | cons a xs ih =>
    obtain ⟨ha, hxs⟩ := List.forall_mem_cons.1 h
    rw [List.mapM_cons, ha, ih hxs]
    rfl

theorem mapM_eq_error {f : α → Except ε β} {xs : List α} {e : ε} (h : xs.mapM f = .error e) :
    ∃ x ∈ xs, f x = .error e := by
  induction xs with
  | nil => simp [pure, Except.pure] at h
  | cons x xs ih =>
    rw [List.mapM_cons] at h
    rcases bind_eq_error.1 h with hx | ⟨y, -, ht⟩
    · exact ⟨x, by simp, hx⟩
    rcases bind_eq_error.1 ht with hr | ⟨ys, -, hn⟩
    · obtain ⟨z, hz, he⟩ := ih hr
      exact ⟨z, List.mem_cons_of_mem _ hz, he⟩
    · cases hn

theorem exists_mapM_eq_ok {f : α → Except ε β} {xs : List α} :
    (∃ ys, xs.mapM f = .ok ys) ↔ ∀ x ∈ xs, ∃ y, f x = .ok y := by
  constructor
  · rintro ⟨ys, h⟩ x hx
    obtain ⟨y, -, hy⟩ := mem_of_mapM_eq_ok h hx
    exact ⟨y, hy⟩
  · intro h
    cases hm : xs.mapM f with
    | ok ys => exact ⟨ys, rfl⟩
    | error e =>
      obtain ⟨x, hx, he⟩ := mapM_eq_error hm
      obtain ⟨y, hy⟩ := h x hx
      rw [he] at hy
      cases hy

theorem find?_of_mem {ν : Type} [BEq ν] [LawfulBEq ν] {name : α → ν} {xs : List α}
    (h : (xs.map name).Nodup) {a : α} (ha : a ∈ xs) :
    xs.find? (fun x => name x == name a) = some a := by
  cases hf : xs.find? (fun x => name x == name a) with
  | none => exact absurd (List.find?_eq_none.1 hf a ha) (by simp)
  | some other =>
    have hname : name other = name a := by simpa using List.find?_some hf
    rw [List.inj_on_of_nodup_map h (List.mem_of_find?_eq_some hf) ha hname]

def FailsOnly (P : ε → Prop) (x : Except ε α) : Prop :=
  ∀ e, x = .error e → P e

namespace FailsOnly

variable {P : ε → Prop} {x : Except ε α}

theorem ok (a : α) : FailsOnly P (.ok a) := by
  intro e h
  cases h

theorem error {e : ε} (h : P e) : FailsOnly P (.error e : Except ε α) := by
  intro other ho
  cases ho
  exact h

theorem of_eq_ok (h : ∃ a, x = .ok a) : FailsOnly P x := by
  obtain ⟨a, rfl⟩ := h
  exact ok a

theorem mono {Q : ε → Prop} (h : FailsOnly P x) (hq : ∀ e, P e → Q e) : FailsOnly Q x :=
  fun e he => hq e (h e he)

theorem bind {f : α → Except ε β} (h : FailsOnly P x)
    (hf : ∀ a, x = .ok a → FailsOnly P (f a)) : FailsOnly P (x >>= f) := by
  intro e he
  rcases bind_eq_error.1 he with he | ⟨a, ha, he⟩
  · exact h e he
  · exact hf a ha e he

theorem map (f : α → β) (h : FailsOnly P x) : FailsOnly P (x.map f) :=
  fun e he => h e (map_eq_error.1 he)

theorem mapM {f : α → Except ε β} {xs : List α} (h : ∀ a ∈ xs, FailsOnly P (f a)) :
    FailsOnly P (xs.mapM f) := by
  intro e he
  obtain ⟨a, ha, he⟩ := mapM_eq_error he
  exact h a ha e he

theorem ok_or_error (h : FailsOnly P x) : (∃ a, x = .ok a) ∨ ∃ e, x = .error e ∧ P e := by
  cases hx : x with
  | ok a => exact .inl ⟨a, rfl⟩
  | error e => exact .inr ⟨e, rfl, h e hx⟩

end FailsOnly

end EventSchema.Outcome
