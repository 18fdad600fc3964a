import EventSchema.Proofs.FileTree

set_option autoImplicit false

namespace EventSchema.Disk.FileTree

variable {t : FileTree} {location : Location} {entry : Entry} {base root : Path}

section Children

theorem follow_append (front back : List String) : t.follow location (front ++ back) =
    t.follow location front >>= fun found => t.follow found back := by
  induction front generalizing location with
  | nil => rfl
  | cons piece front ih =>
    rw [List.cons_append, follow, follow]
    split
    · rfl
    · split
      · exact ih
      · split
        · exact ih
        · split
          · rfl
          · exact ih
    · rfl

theorem follow_name (hf : t.get? location = some .folder) {name : String} (hn : IsName name) :
    t.follow location [name] = .ok (location ++ [name]) := by
  simp [follow, hf, hn.1, hn.2.1, Nat.not_lt.2 hn.2.2]

theorem eq_of_follow_empty {found : Location} (h : t.follow location [""] = .ok found) :
    found = location := by
  simpa [Path.isIdle, Path.step] using follow_eq h

theorem locate_child {name : String} (hl : t.locate base = .ok location)
    (hf : t.get? location = some .folder) (hn : IsName name)
    (hs : checkSpelling (base.child name) = .ok ()) :
    t.locate (base.child name) = .ok (location ++ [name]) := by
  obtain ⟨pieces⟩ := base
  obtain ⟨-, hfollow⟩ := Outcome.andThen_eq_ok.1 hl
  refine Outcome.andThen_eq_ok.2 ⟨hs, ?_⟩
  by_cases hlast : pieces.getLast? = some ""
  · -- The slash at the end of the base is the one before the name.
    obtain ⟨front, rfl⟩ := List.getLast?_eq_some_iff.1 hlast
    obtain ⟨found, hfront, hempty⟩ := Outcome.bind_eq_ok.1 (follow_append front [""] ▸ hfollow)
    obtain rfl := eq_of_follow_empty hempty
    have hpieces : (Path.child ⟨front ++ [""]⟩ name).pieces = front ++ [name] := by
      simp [Path.child, Path.join, Path.isAbsolute_singleton]
    rw [hpieces, follow_append]
    exact Outcome.bind_eq_ok.2 ⟨location, hfront, follow_name hf hn⟩
  · have hpieces : (Path.child ⟨pieces⟩ name).pieces = pieces ++ [name] := by
      simp [Path.child, Path.join, Path.isAbsolute_singleton, hlast]
    rw [hpieces, follow_append]
    exact Outcome.bind_eq_ok.2 ⟨location, hfollow, follow_name hf hn⟩

variable {rel : Location}

theorem Proper.locate_foldl_child (h : t.Proper) (hl : t.locate base = .ok location)
    (hg : t.get? (location ++ rel) = some entry)
    (hs : checkSpelling (rel.foldl Path.child base) = .ok ()) :
    t.locate (rel.foldl Path.child base) = .ok (location ++ rel) := by
  induction rel generalizing base location with
  | nil => simpa using hl
  | cons name rest ih =>
    have hfolder := h.get?_of_append (List.cons_ne_nil name rest) hg
    have hname := h.isName hg name (by simp)
    have hchild := locate_child hl hfolder hname (checkSpelling_of_foldl hs)
    rw [List.append_cons] at hg ⊢
    exact ih hchild hg hs

theorem Proper.spells_child (h : t.Proper) (hg : t.get? (location ++ rel) = some entry)
    (base : Path) : (rel.foldl Path.child base).names = base.names ++ rel ∧
      (rel.foldl Path.child base).place = base.place ++ rel := by
  have hnames : ∀ name ∈ rel, IsName name :=
    fun name hn => h.isName hg name (List.mem_append_right _ hn)
  exact ⟨Path.names_foldl_child (fun name hn => (hnames name hn).1) base,
    Path.place_foldl_child (fun name hn => ⟨(hnames name hn).1, (hnames name hn).2.1⟩) base⟩

theorem Proper.locate_below_iff (h : t.Proper) (hf : t.isFolder base = true)
    (hg : t.get? (base.place ++ rel) = some entry) :
    t.locate (rel.foldl Path.child base) = .ok (rel.foldl Path.child base).place ↔
      checkSpelling (rel.foldl Path.child base) = .ok () := by
  constructor
  · exact fun hl => (locate_eq hl).1
  · intro hs
    rw [(h.spells_child hg base).2]
    exact h.locate_foldl_child (isFolder_iff_place.1 hf).1 hg hs

theorem Proper.read_below_iff (h : t.Proper) (hf : t.isFolder base = true)
    (hg : t.get? (base.place ++ rel) = some entry) {content : String} :
    t.read (rel.foldl Path.child base) = .ok content ↔
      entry = .text content ∧ checkSpelling (rel.foldl Path.child base) = .ok () := by
  rw [read_eq_ok_iff, h.locate_below_iff hf hg, (h.spells_child hg base).2, hg, Option.some.injEq,
    and_comm]

end Children

section Walks

theorem WellFormed.mem_below_iff (h : t.WellFormed) {rel : Location} :
    (rel, entry) ∈ t.below location ↔ rel ≠ [] ∧ t.get? (location ++ rel) = some entry := by
  simp only [below, List.mem_filterMap, Option.ite_none_right_eq_some, Bool.and_eq_true,
    decide_eq_true_eq, Option.some.injEq, Prod.mk.injEq]
  constructor
  · rintro ⟨⟨place, found⟩, hmem, ⟨hpre, hne⟩, hrel, rfl⟩
    obtain ⟨back, rfl⟩ := List.isPrefixOf_iff_prefix.1 hpre
    simp only [List.drop_left] at hrel
    subst hrel
    have hback : back ≠ [] := fun hnil => hne (by simp [hnil])
    exact ⟨hback, (h.mem_entries_iff (by simp [hback])).1 hmem⟩
  · rintro ⟨hrel, hg⟩
    refine ⟨(location ++ rel, entry), (h.mem_entries_iff (by simp [hrel])).2 hg, ?_⟩
    simpa using hrel

theorem WellFormed.nodup_below (h : t.WellFormed) (location : Location) :
    ((t.below location).map Prod.fst).Nodup := by
  refine List.pairwise_map.2 (List.Pairwise.filterMap _ ?_ (List.pairwise_map.1 h.nodup))
  rintro ⟨a, x⟩ ⟨b, y⟩ hab c hc d hd he
  simp only [Option.ite_none_right_eq_some, Bool.and_eq_true, Option.some.injEq] at hc hd
  obtain ⟨⟨ha, -⟩, rfl⟩ := hc
  obtain ⟨⟨hb, -⟩, rfl⟩ := hd
  obtain ⟨a, rfl⟩ := List.isPrefixOf_iff_prefix.1 ha
  obtain ⟨b, rfl⟩ := List.isPrefixOf_iff_prefix.1 hb
  simp only [List.drop_left] at he
  exact hab (by rw [he])

/-- A walk through a folder visits the folder and what it reaches below it. -/
theorem Proper.mem_walk_iff (h : t.Proper) {path : Path} (hf : t.isFolder root = true) :
    (path, entry) ∈ t.walk root ↔ (path = root ∧ entry = .folder) ∨ ∃ rel, rel ≠ [] ∧
      t.get? (root.place ++ rel) = some entry ∧
      checkSpelling (rel.dropLast.foldl Path.child root) = .ok () ∧
      path = rel.foldl Path.child root := by
  obtain ⟨hl, hg⟩ := isFolder_iff_place.1 hf
  have hfind := find_eq_ok_iff.2 ⟨hl, rfl, hg⟩
  simp only [walk, hfind, List.mem_cons, Prod.mk.injEq, List.mem_map, List.mem_filter, Prod.exists,
    Outcome.isOk_eq_true_iff]
  refine or_congr_right ?_
  constructor
  · rintro ⟨rel, found, ⟨hmem, hopen⟩, rfl, rfl⟩
    obtain ⟨hrel, hg⟩ := h.mem_below_iff.1 hmem
    exact ⟨rel, hrel, hg, hopen, rfl⟩
  · rintro ⟨rel, hrel, hg, hopen, rfl⟩
    exact ⟨rel, entry, ⟨h.mem_below_iff.2 ⟨hrel, hg⟩, hopen⟩, rfl, rfl⟩

end Walks

end EventSchema.Disk.FileTree
