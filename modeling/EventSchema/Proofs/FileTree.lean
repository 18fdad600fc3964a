import Mathlib.Data.List.Induction
import EventSchema.Disk.Tree
import EventSchema.Proofs.Outcome
import EventSchema.Text.Order

set_option autoImplicit false

namespace EventSchema.Disk

namespace Path

/-- The path has no steps up. -/
def IsDirect (p : Path) : Prop :=
  ∀ piece ∈ p.pieces, piece ≠ ".."

theorem alike_iff {p q : Path} : p.alike q = true ↔ p.names = q.names := by
  simp [alike]

theorem pieces_join (base : Path) {p : Path} (h : p.isAbsolute = false) :
    ∃ front, (base.join p).pieces = front ++ p.pieces ∧ ∀ piece ∈ front, piece ∈ base.pieces := by
  unfold join
  rw [if_neg (by simp [h])]
  split
  · exact ⟨base.pieces.dropLast, rfl, fun _ hm => (List.dropLast_subset _) hm⟩
  · exact ⟨base.pieces, rfl, fun _ => id⟩

theorem IsDirect.join {base p : Path} (hb : base.IsDirect) (hp : p.IsDirect)
    (h : p.isAbsolute = false) : (base.join p).IsDirect := by
  obtain ⟨front, he, hfront⟩ := pieces_join base h
  intro piece hpiece
  rw [he, List.mem_append] at hpiece
  rcases hpiece with hpiece | hpiece
  · exact hb piece (hfront piece hpiece)
  · exact hp piece hpiece

theorem isAbsolute_singleton (name : String) : isAbsolute ⟨[name]⟩ = false := by
  simp [isAbsolute]

theorem names_child (base : Path) {name : String} (h : isIdle name = false) :
    (base.child name).names = base.names ++ [name] := by
  rw [Path.child, names_join (isAbsolute_singleton name)]
  simp [names, h]

theorem foldl_child_eq (base : Path) {location : List String} (h : location ≠ []) :
    location.foldl Path.child base =
      (location.dropLast.foldl Path.child base).child (location.getLast h) := by
  conv_lhs => rw [← List.dropLast_concat_getLast h]
  rw [List.foldl_append]
  rfl

theorem names_foldl_child {location : List String} (h : ∀ name ∈ location, isIdle name = false)
    (base : Path) : (location.foldl Path.child base).names = base.names ++ location := by
  induction location generalizing base with
  | nil => simp
  | cons name rest ih =>
    obtain ⟨hname, hrest⟩ := List.forall_mem_cons.1 h
    rw [List.foldl_cons, ih hrest, names_child base hname, List.append_assoc, List.singleton_append]

/-- Where a name leads from a location. A step up from the root stays there. -/
def step (location : List String) (name : String) : List String :=
  if name = ".." then location.dropLast else location ++ [name]

/-- Where the path leads, if all that it goes through are folders. -/
def place (p : Path) : List String :=
  p.names.foldl step []

theorem foldl_step {names : List String} (h : ∀ name ∈ names, name ≠ "..")
    (location : List String) : names.foldl step location = location ++ names := by
  induction names generalizing location with
  | nil => simp
  | cons name rest ih =>
    obtain ⟨hname, hrest⟩ := List.forall_mem_cons.1 h
    rw [List.foldl_cons, ih hrest, step, if_neg hname, List.append_assoc, List.singleton_append]

theorem IsDirect.place_eq {p : Path} (h : p.IsDirect) : p.place = p.names :=
  foldl_step (fun name hn => h name (List.mem_of_mem_filter hn)) []

theorem place_join {base p : Path} (h : p.isAbsolute = false) :
    (base.join p).place = p.names.foldl step base.place := by
  rw [place, names_join h, List.foldl_append]
  rfl

theorem place_foldl_child {location : List String}
    (h : ∀ name ∈ location, isIdle name = false ∧ name ≠ "..") (base : Path) :
    (location.foldl Path.child base).place = base.place ++ location := by
  rw [place, names_foldl_child (fun name hn => (h name hn).1), List.foldl_append,
    foldl_step fun name hn => (h name hn).2]
  rfl

end Path

namespace FileTree

def IsName (name : String) : Prop :=
  Path.isIdle name = false ∧ name ≠ ".." ∧ name.utf8ByteSize ≤ nameLimit

structure Proper (t : FileTree) : Prop extends WellFormed t where
  names : ∀ e ∈ t.entries, ∀ name ∈ e.1, IsName name

def fileAt (t : FileTree) (location : Location) : Option Entry :=
  match t.get? location with
  | some .folder => none
  | found => found

variable {t : FileTree} {location : Location} {entry : Entry}

theorem fileAt_eq_some_iff : t.fileAt location = some entry ↔
    t.get? location = some entry ∧ entry ≠ .folder := by
  unfold fileAt
  split
  · next h => simp [h, eq_comm]
  · next h =>
    constructor
    · intro hf
      refine ⟨hf, ?_⟩
      rintro rfl
      exact h hf
    · exact And.left

theorem fileAt_eq_none_of_folder (h : t.get? location = some .folder) :
    t.fileAt location = none := by
  simp [fileAt, h]

theorem fileAt_congr {u : FileTree} (h : t.get? location = u.get? location) :
    t.fileAt location = u.fileAt location := by
  simp [fileAt, h]

/-- What is a folder stays one. -/
def KeepsFolders (t u : FileTree) : Prop :=
  ∀ location, t.get? location = some .folder → u.get? location = some .folder

theorem KeepsFolders.refl (t : FileTree) : KeepsFolders t t :=
  fun _ => id

theorem KeepsFolders.trans {u v : FileTree} (h : KeepsFolders t u) (h' : KeepsFolders u v) :
    KeepsFolders t v :=
  fun location hf => h' location (h location hf)

section WellFormed

theorem WellFormed.nodup (h : t.WellFormed) : (t.entries.map Prod.fst).Nodup := by
  refine List.pairwise_map.2 (h.sorted.imp ?_)
  intro a b hab he
  rw [he] at hab
  exact List.lt_irrefl _ hab

theorem WellFormed.mem_entries_iff (h : t.WellFormed) (hn : location ≠ []) :
    (location, entry) ∈ t.entries ↔ t.get? location = some entry := by
  rw [get?, if_neg hn]
  constructor
  · exact Text.lookup_of_mem h.nodup
  · intro hl
    obtain ⟨front, back, he, -⟩ := List.lookup_eq_some_iff.1 hl
    simp [he]

theorem WellFormed.mem_entries_of_file (h : t.WellFormed) (hg : t.get? location = some entry)
    (he : entry ≠ .folder) : (location, entry) ∈ t.entries := by
  refine (h.mem_entries_iff ?_).2 hg
  rintro rfl
  cases hg
  exact he rfl

theorem WellFormed.get?_dropLast (h : t.WellFormed) (hg : t.get? location = some entry) :
    t.get? location.dropLast = some .folder := by
  by_cases hn : location = []
  · subst hn
    rfl
  · exact (h.rooted _ ((h.mem_entries_iff hn).2 hg)).2

theorem WellFormed.get?_of_append (h : t.WellFormed) {back : Location} (hb : back ≠ [])
    (hg : t.get? (location ++ back) = some entry) : t.get? location = some .folder := by
  induction back using List.reverseRecOn generalizing entry with
  | nil => exact absurd rfl hb
  | append_singleton front name ih =>
    have hup := h.get?_dropLast hg
    rw [← List.append_assoc, List.dropLast_concat] at hup
    by_cases hf : front = []
    · simpa [hf] using hup
    · exact ih hf hup

theorem Proper.isName (h : t.Proper) (hg : t.get? location = some entry) :
    ∀ name ∈ location, IsName name := by
  by_cases hn : location = []
  · simp [hn]
  · exact h.names _ ((h.mem_entries_iff hn).2 hg)

end WellFormed

section Put

theorem mem_insertEntry {e : Location × Entry} {entries : List (Location × Entry)}
    (h : e ∈ insertEntry location entry entries) : e = (location, entry) ∨ e ∈ entries := by
  induction entries with
  | nil => simpa [insertEntry] using h
  | cons head rest ih =>
    obtain ⟨other, old⟩ := head
    rw [insertEntry] at h
    split at h
    · rcases List.mem_cons.1 h with h | h
      · exact .inl h
      · exact .inr (List.mem_cons_of_mem _ h)
    · split at h
      · exact List.mem_cons.1 h
      · rcases List.mem_cons.1 h with h | h
        · exact .inr (h ▸ List.mem_cons_self)
        · exact (ih h).imp_right (List.mem_cons_of_mem _)

theorem pairwise_insertEntry {entries : List (Location × Entry)}
    (h : entries.Pairwise fun a b => a.1 < b.1) :
    (insertEntry location entry entries).Pairwise fun a b => a.1 < b.1 := by
  induction entries with
  | nil => simp [insertEntry]
  | cons head rest ih =>
    obtain ⟨other, old⟩ := head
    obtain ⟨hhead, hrest⟩ := List.pairwise_cons.1 h
    rw [insertEntry]
    split
    · next he =>
      subst he
      exact List.pairwise_cons.2 ⟨hhead, hrest⟩
    · next hne =>
      split
      · next hlt =>
        refine List.pairwise_cons.2 ⟨?_, h⟩
        intro e he
        rcases List.mem_cons.1 he with rfl | he
        · exact hlt
        · exact List.lt_trans hlt (hhead e he)
      · next hge =>
        refine List.pairwise_cons.2 ⟨?_, ih hrest⟩
        intro e he
        rcases mem_insertEntry he with rfl | he
        · exact List.not_le.1 fun hle => hne (List.le_antisymm hle (List.not_lt.1 hge))
        · exact hhead e he

theorem keepsFolders_put (hfree : t.get? location ≠ some .folder) :
    KeepsFolders t (t.put location entry) := by
  intro other ho
  rw [get?_put_of_ne, ho]
  rintro rfl
  exact hfree ho

theorem Proper.put (h : t.Proper) (hup : t.get? location.dropLast = some .folder)
    (hfree : t.get? location ≠ some .folder) (hnames : ∀ name ∈ location, IsName name) :
    (t.put location entry).Proper := by
  have hn : location ≠ [] := by
    rintro rfl
    exact hfree rfl
  have hkeeps : KeepsFolders t (t.put location entry) := keepsFolders_put hfree
  refine ⟨⟨pairwise_insertEntry h.sorted, ?_⟩, ?_⟩
  · intro e he
    rcases mem_insertEntry he with rfl | he
    · exact ⟨hn, hkeeps _ hup⟩
    · exact ⟨(h.rooted e he).1, hkeeps _ (h.rooted e he).2⟩
  · intro e he
    rcases mem_insertEntry he with rfl | he
    · exact hnames
    · exact h.names e he

theorem fileAt_put_self (hn : location ≠ []) (he : entry ≠ .folder) :
    (t.put location entry).fileAt location = some entry :=
  fileAt_eq_some_iff.2 ⟨get?_put_self t entry hn, he⟩

theorem fileAt_put_of_ne {other : Location} (hne : other ≠ location) :
    (t.put location entry).fileAt other = t.fileAt other :=
  fileAt_congr (get?_put_of_ne t entry hne)

end Put

section Erase

theorem Proper.erase (h : t.Proper) (location : Location) : (t.erase location).Proper := by
  refine ⟨⟨h.sorted.filter _, ?_⟩, fun e he => h.names e (List.mem_of_mem_filter he)⟩
  intro e he
  obtain ⟨hmem, hkeep⟩ := List.mem_filter.1 he
  obtain ⟨hn, hup⟩ := h.rooted e hmem
  refine ⟨hn, ?_⟩
  by_cases hd : e.1.dropLast = []
  · rw [hd]
    rfl
  · rw [get?_erase t location hd, if_neg, hup]
    intro hpre
    have hall := (List.isPrefixOf_iff_prefix.1 hpre).trans (List.dropLast_prefix e.1)
    simp [List.isPrefixOf_iff_prefix.2 hall] at hkeep

theorem Proper.get?_erase_file (h : t.Proper) (hf : t.get? location = some entry)
    (he : entry ≠ .folder) (other : Location) :
    (t.erase location).get? other = if other = location then none else t.get? other := by
  have hn : location ≠ [] := by
    rintro rfl
    cases hf
    exact he rfl
  by_cases ho : other = []
  · subst ho
    rw [if_neg hn.symm]
    rfl
  · rw [get?_erase t location ho]
    split
    · next hpre =>
      split
      · rfl
      · next hne =>
        obtain ⟨back, rfl⟩ := List.isPrefixOf_iff_prefix.1 hpre
        have hback : back ≠ [] := by
          rintro rfl
          exact hne (List.append_nil location)
        cases hg : t.get? (location ++ back) with
        | none => rfl
        | some found =>
          have hfolder := h.get?_of_append hback hg
          rw [hf, Option.some.injEq] at hfolder
          exact absurd hfolder he
    · next hpre => rw [if_neg fun heq => hpre (by simp [heq])]

end Erase

section Spelling

theorem utf8ByteSize_text_concat (front : List String) (name : String) :
    (Path.text ⟨front ++ [name]⟩).utf8ByteSize =
      (Path.text ⟨front⟩).utf8ByteSize + (if front = [] then 0 else 1) + name.utf8ByteSize := by
  induction front with
  | nil => simp [Path.text]
  | cons piece rest ih =>
    have hslash : "/".utf8ByteSize = 1 := rfl
    cases rest with
    | nil =>
      simp only [Path.text, List.cons_append, List.nil_append, String.intercalate_cons_cons,
        String.intercalate_singleton, String.utf8ByteSize_append, hslash]
      simp
    | cons next rest =>
      simp only [Path.text, List.cons_append, String.intercalate_cons_cons,
        String.utf8ByteSize_append, hslash] at ih ⊢
      simp only [ih]
      simp
      omega

theorem checkSpelling_eq_ok {p : Path} : checkSpelling p = .ok () ↔
    (∀ piece ∈ p.pieces, '\x00' ∉ piece.toList) ∧ p.text.utf8ByteSize ≤ pathLimit := by
  unfold checkSpelling
  split
  · next hnull => simpa using fun hall => absurd hnull (by simpa using hall)
  · next hnull =>
    split
    · next hlong => simp [Nat.not_le.2 hlong]
    · next hshort => simpa [Nat.not_lt.1 hshort] using hnull

theorem checkSpelling_of_child {base : Path} {name : String}
    (h : checkSpelling (base.child name) = .ok ()) : checkSpelling base = .ok () := by
  obtain ⟨pieces⟩ := base
  obtain ⟨hnull, hshort⟩ := checkSpelling_eq_ok.1 h
  by_cases hlast : pieces.getLast? = some ""
  · obtain ⟨front, rfl⟩ := List.getLast?_eq_some_iff.1 hlast
    have hc : Path.child ⟨front ++ [""]⟩ name = ⟨front ++ [name]⟩ := by
      simp [Path.child, Path.join, Path.isAbsolute_singleton]
    rw [hc] at hnull hshort
    refine checkSpelling_eq_ok.2 ⟨?_, ?_⟩
    · intro piece hp
      rcases List.mem_append.1 hp with hp | hp
      · exact hnull piece (List.mem_append_left _ hp)
      · simp [List.mem_singleton.1 hp]
    · have hempty : "".utf8ByteSize = 0 := rfl
      rw [utf8ByteSize_text_concat] at hshort ⊢
      omega
  · have hc : Path.child ⟨pieces⟩ name = ⟨pieces ++ [name]⟩ := by
      simp [Path.child, Path.join, Path.isAbsolute_singleton, hlast]
    rw [hc] at hnull hshort
    refine checkSpelling_eq_ok.2 ⟨fun piece hp => hnull piece (List.mem_append_left _ hp), ?_⟩
    rw [utf8ByteSize_text_concat] at hshort
    omega

theorem checkSpelling_of_foldl {base : Path} {rel : Location}
    (h : checkSpelling (rel.foldl Path.child base) = .ok ()) : checkSpelling base = .ok () := by
  induction rel generalizing base with
  | nil => exact h
  | cons name rest ih => exact checkSpelling_of_child (ih h)

end Spelling

section Paths

theorem Proper.of_follow (h : t.Proper) {pieces : List String} {found : Location}
    (hf : t.follow location pieces = .ok found)
    (hup : t.get? location.dropLast = some .folder) (hnames : ∀ name ∈ location, IsName name) :
    t.get? found.dropLast = some .folder ∧ ∀ name ∈ found, IsName name := by
  induction pieces generalizing location with
  | nil =>
    cases hf
    exact ⟨hup, hnames⟩
  | cons piece rest ih =>
    rw [follow] at hf
    split at hf
    · cases hf
    · next hfolder =>
      split at hf
      · exact ih hf hup hnames
      · next hidle =>
        split at hf
        · exact ih hf (h.get?_dropLast hup) fun name hn => hnames name (List.dropLast_subset _ hn)
        · next hdots =>
          split at hf
          · cases hf
          · next hlong =>
            refine ih hf (by rwa [List.dropLast_concat]) ?_
            intro name hn
            rcases List.mem_append.1 hn with hn | hn
            · exact hnames name hn
            · rw [List.mem_singleton.1 hn]
              exact ⟨by simpa using hidle, hdots, Nat.not_lt.1 hlong⟩
    · cases hf

theorem follow_eq {pieces : List String} {found : Location}
    (hf : t.follow location pieces = .ok found) :
    found = (pieces.filter (! Path.isIdle ·)).foldl Path.step location := by
  induction pieces generalizing location with
  | nil =>
    cases hf
    simp
  | cons piece rest ih =>
    rw [follow] at hf
    split at hf
    · cases hf
    · split at hf
      · next hidle =>
        rw [ih hf]
        simp [hidle]
      · next hidle =>
        rw [List.filter_cons_of_pos (by simpa using hidle), List.foldl_cons, Path.step]
        split at hf
        · next hup => rw [if_pos hup, ih hf]
        · next hup =>
          split at hf
          · cases hf
          · rw [if_neg hup, ih hf]
    · cases hf

theorem KeepsFolders.follow {u : FileTree} (h : KeepsFolders t u) {pieces : List String}
    {found : Location} (hf : t.follow location pieces = .ok found) :
    u.follow location pieces = .ok found := by
  induction pieces generalizing location with
  | nil => exact hf
  | cons piece rest ih =>
    rw [FileTree.follow] at hf ⊢
    split at hf
    · cases hf
    · next hfolder =>
      rw [h location hfolder]
      split at hf
      · next hidle => simpa [hidle] using ih hf
      · next hidle =>
        split at hf
        · next hup =>
          rw [if_neg hidle, if_pos hup]
          exact ih hf
        · next hup =>
          split at hf
          · cases hf
          · next hshort => simpa [hidle, hup, hshort] using ih hf
    · cases hf

theorem Proper.follow_of_get? (h : t.Proper) {pieces : List String}
    (hd : ∀ piece ∈ pieces, piece ≠ "..")
    (hg : t.get? (location ++ pieces.filter (! Path.isIdle ·)) = some entry)
    (hlast : entry = .folder ∨ ∀ piece ∈ pieces.getLast?, Path.isIdle piece = false) :
    t.follow location pieces = .ok (location ++ pieces.filter (! Path.isIdle ·)) := by
  induction pieces generalizing location with
  | nil => simp [follow]
  | cons piece rest ih =>
    obtain ⟨hpiece, hrest⟩ := List.forall_mem_cons.1 hd
    have hlast' : entry = .folder ∨ ∀ piece ∈ rest.getLast?, Path.isIdle piece = false := by
      refine hlast.imp_right fun hl other ho => hl other ?_
      rw [List.getLast?_cons, ho]
      rfl
    -- The way goes on, unless all pieces that are left are idle, and then a folder is at its end.
    have hfolder : t.get? location = some .folder := by
      by_cases hnil : (piece :: rest).filter (! Path.isIdle ·) = []
      · rw [hnil, List.append_nil] at hg
        rcases hlast with rfl | hl
        · exact hg
        · have hidle := List.filter_eq_nil_iff.1 hnil _
            (List.getLast_mem (List.cons_ne_nil piece rest))
          have hsolid := hl _ (List.getLast?_eq_some_getLast (List.cons_ne_nil piece rest))
          simp [hsolid] at hidle
      · exact h.get?_of_append hnil hg
    rw [follow, hfolder]
    cases hidle : Path.isIdle piece with
    | true =>
      rw [List.filter_cons_of_neg (by simp [hidle])] at hg ⊢
      simpa using ih hrest hg hlast'
    | false =>
      rw [List.filter_cons_of_pos (by simp [hidle])] at hg ⊢
      have hname : IsName piece := h.isName hg piece (by simp)
      have hshort := Nat.not_lt.2 hname.2.2
      rw [List.append_cons] at hg ⊢
      simpa [hpiece, hshort] using ih hrest hg hlast'

variable {path : Path}

theorem locate_eq {found : Location} (hl : t.locate path = .ok found) :
    checkSpelling path = .ok () ∧ found = path.place := by
  obtain ⟨hs, hf⟩ := Outcome.andThen_eq_ok.1 hl
  exact ⟨hs, follow_eq hf⟩

theorem KeepsFolders.locate {u : FileTree} (h : KeepsFolders t u) {found : Location}
    (hl : t.locate path = .ok found) : u.locate path = .ok found := by
  obtain ⟨hs, hf⟩ := Outcome.andThen_eq_ok.1 hl
  exact Outcome.andThen_eq_ok.2 ⟨hs, h.follow hf⟩

theorem Proper.of_locate (h : t.Proper) {found : Location} (hl : t.locate path = .ok found) :
    t.get? found.dropLast = some .folder ∧ ∀ name ∈ found, IsName name :=
  h.of_follow (Outcome.andThen_eq_ok.1 hl).2 rfl (List.forall_mem_nil _)

theorem Proper.find_eq_ok (h : t.Proper) (hp : path.IsDirect)
    (hs : checkSpelling path = .ok ()) (hg : t.get? path.names = some entry)
    (hlast : entry = .folder ∨ ∀ piece ∈ path.pieces.getLast?, Path.isIdle piece = false) :
    t.find path = .ok (path.names, entry) := by
  have hloc : t.locate path = .ok path.names :=
    Outcome.andThen_eq_ok.2 ⟨hs, h.follow_of_get? hp hg hlast⟩
  rw [find, hloc]
  simp only [bind, Except.bind, hg]

theorem find_eq_ok_iff : t.find path = .ok (location, entry) ↔
    t.locate path = .ok path.place ∧ location = path.place ∧ t.get? path.place = some entry := by
  constructor
  · intro hf
    obtain ⟨found, hl, hf⟩ := Outcome.bind_eq_ok.1 hf
    obtain ⟨-, rfl⟩ := locate_eq hl
    split at hf
    · cases hf
    · next hg =>
      cases hf
      exact ⟨hl, rfl, hg⟩
  · rintro ⟨hl, rfl, hg⟩
    rw [find, hl]
    simp only [bind, Except.bind, hg]

theorem isFolder_iff_place : t.isFolder path = true ↔
    t.locate path = .ok path.place ∧ t.get? path.place = some .folder := by
  unfold isFolder
  constructor
  · intro hi
    split at hi
    · next hf =>
      obtain ⟨hl, -, hg⟩ := find_eq_ok_iff.1 hf
      exact ⟨hl, hg⟩
    · cases hi
  · rintro ⟨hl, hg⟩
    rw [find_eq_ok_iff.2 ⟨hl, rfl, hg⟩]

theorem read_eq_ok_iff {content : String} : t.read path = .ok content ↔
    t.locate path = .ok path.place ∧ t.get? path.place = some (.text content) := by
  constructor
  · intro hr
    obtain ⟨found, hf, hr⟩ := Outcome.bind_eq_ok.1 hr
    obtain ⟨hl, -, hg⟩ := find_eq_ok_iff.1 hf
    split at hr
    · cases hr
      exact ⟨hl, hg⟩
    · cases hr
    · cases hr
  · rintro ⟨hl, hg⟩
    rw [read, find_eq_ok_iff.2 ⟨hl, rfl, hg⟩]
    rfl

theorem Proper.isFolder_iff (h : t.Proper) (hp : path.IsDirect) :
    t.isFolder path = true ↔ checkSpelling path = .ok () ∧ t.get? path.names = some .folder := by
  rw [isFolder_iff_place, hp.place_eq]
  constructor
  · rintro ⟨hl, hg⟩
    exact ⟨(locate_eq hl).1, hg⟩
  · rintro ⟨hs, hg⟩
    have hf := h.find_eq_ok hp hs hg (.inl rfl)
    exact ⟨hp.place_eq ▸ (find_eq_ok_iff.1 hf).1, hg⟩

theorem Proper.read_eq_ok (h : t.Proper) (hp : path.IsDirect) (hs : checkSpelling path = .ok ())
    (hlast : ∀ piece ∈ path.pieces.getLast?, Path.isIdle piece = false) {content : String}
    (hg : t.fileAt path.names = some (.text content)) : t.read path = .ok content := by
  rw [read, h.find_eq_ok hp hs (fileAt_eq_some_iff.1 hg).1 (.inr hlast)]
  rfl

end Paths

section Operations

variable {path : Path} {u : FileTree}

theorem Proper.makeFolder (h : t.Proper) (hm : t.makeFolder path = .ok u) :
    u.Proper ∧ (∀ other, u.fileAt other = t.fileAt other) ∧ KeepsFolders t u := by
  obtain ⟨-, hm⟩ := Outcome.andThen_eq_ok.1 hm
  obtain ⟨location, hl, hm⟩ := Outcome.bind_eq_ok.1 hm
  split at hm
  · cases hm
  · next hnone =>
    cases hm
    obtain ⟨hup, hnames⟩ := h.of_locate hl
    have hfree : t.get? location ≠ some .folder := by simp [hnone]
    refine ⟨h.put hup hfree hnames, ?_, keepsFolders_put hfree⟩
    intro other
    by_cases ho : other = location
    · subst ho
      have hn : other ≠ [] := by
        rintro rfl
        cases hnone
      rw [fileAt_eq_none_of_folder (get?_put_self t .folder hn)]
      simp [fileAt, hnone]
    · exact fileAt_put_of_ne ho

theorem Proper.makeFoldersFrom (h : t.Proper) (paths : List Path) :
    (t.makeFoldersFrom paths).1.Proper ∧
      (∀ other, (t.makeFoldersFrom paths).1.fileAt other = t.fileAt other) ∧
      KeepsFolders t (t.makeFoldersFrom paths).1 := by
  induction paths generalizing t with
  | nil => exact ⟨h, fun _ => rfl, .refl t⟩
  | cons path above ih =>
    obtain ⟨hp, hfiles, hfolders⟩ := ih h
    rw [FileTree.makeFoldersFrom]
    split
    · next hm => exact h.makeFolder hm
    · split
      · next he =>
        rw [he] at hp hfiles hfolders
        exact ⟨hp, hfiles, hfolders⟩
      · next he =>
        rw [he] at hp hfiles hfolders
        split
        · next hm =>
          obtain ⟨hp', hfiles', hfolders'⟩ := hp.makeFolder hm
          exact ⟨hp', fun other => (hfiles' other).trans (hfiles other), hfolders.trans hfolders'⟩
        · exact ⟨hp, hfiles, hfolders⟩
    · exact ⟨h, fun _ => rfl, .refl t⟩

theorem Proper.write (h : t.Proper) (he : entry ≠ .folder) (hw : t.write path entry = .ok u) :
    u.Proper ∧ t.locate path = .ok path.place ∧ u.fileAt path.place = some entry ∧
      (∀ other, other ≠ path.place → u.fileAt other = t.fileAt other) ∧ KeepsFolders t u := by
  obtain ⟨location, hl, hw⟩ := Outcome.bind_eq_ok.1 hw
  obtain ⟨hup, hnames⟩ := h.of_locate hl
  obtain ⟨-, rfl⟩ := locate_eq hl
  split at hw
  · cases hw
  · next hfree =>
    cases hw
    have hn : path.place ≠ [] := fun hnil => hfree (by rw [hnil]; rfl)
    exact ⟨h.put hup hfree hnames, hl, fileAt_put_self hn he, fun _ => fileAt_put_of_ne,
      keepsFolders_put hfree⟩

theorem Proper.remove (h : t.Proper) (hr : t.remove path = .ok u) :
    u.Proper ∧ (∀ other, u.get? other = if other = path.place then none else t.get? other) ∧
      ∀ other, u.get? other = some .folder ↔ t.get? other = some .folder := by
  obtain ⟨⟨location, found⟩, hf, hr⟩ := Outcome.bind_eq_ok.1 hr
  obtain ⟨-, rfl, hg⟩ := find_eq_ok_iff.1 hf
  split at hr
  · cases hr
  · next hne he =>
    cases he
    cases hr
    have hget := h.get?_erase_file hg hne
    refine ⟨h.erase _, hget, ?_⟩
    intro other
    rw [hget]
    split
    · next heq => simpa [heq, hg] using hne
    · rfl

end Operations

end FileTree

end EventSchema.Disk
