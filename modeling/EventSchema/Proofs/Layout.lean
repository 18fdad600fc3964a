import Mathlib.Data.List.Chain
import Mathlib.Data.List.DropRight
import EventSchema.Text.Tidy

/-!
The layout of tidy text. A text is blank lines and lines that hold something; tidying keeps the
latter in order, without the blanks at their ends, and in front of each of them one empty line if
blank lines stood there and an empty line may stand between its neighbours. What comes of this is in
its layout already, so that tidying it again changes nothing.
-/

set_option autoImplicit false

namespace EventSchema.Text

/-- Nothing is left of a blank line without the blanks at its end. -/
def isBlankLine (line : List Char) : Bool :=
  (trimEnd line).isEmpty

/-- Whether an empty line may stand below the first line and above the second one. -/
def MayPart (above : Option (List Char)) (below : List Char) : Prop :=
  ∃ line, above = some line ∧ line ≠ [] ∧ line.getLast? ≠ some '\x7b' ∧
    (trimStart below).head? ≠ some '\x7d'

/-- What is kept of lines, below the last line that was kept before them. -/
inductive Arranged : Option (List Char) → List (List Char) → List (List Char) → Prop
  | done {above : Option (List Char)} {gap : List (List Char)}
      (hgap : ∀ blank ∈ gap, isBlankLine blank = true) : Arranged above gap []
  | joined {above : Option (List Char)} {gap rest kept : List (List Char)} {line : List Char}
      (hgap : ∀ blank ∈ gap, isBlankLine blank = true) (hline : isBlankLine line = false)
      (hjoined : gap = [] ∨ ¬ MayPart above (trimEnd line))
      (tail : Arranged (some (trimEnd line)) rest kept) :
      Arranged above (gap ++ line :: rest) (trimEnd line :: kept)
  | parted {above : Option (List Char)} {gap rest kept : List (List Char)} {line : List Char}
      (hgap : ∀ blank ∈ gap, isBlankLine blank = true) (hline : isBlankLine line = false)
      (hparted : gap ≠ [] ∧ MayPart above (trimEnd line))
      (tail : Arranged (some (trimEnd line)) rest kept) :
      Arranged above (gap ++ line :: rest) ([] :: trimEnd line :: kept)

/-- Whether a line may follow another one: an empty one stands neither below an empty line or an
opening brace nor above a closing one. -/
def MayFollow (above below : List Char) : Prop :=
  (below = [] → above ≠ [] ∧ above.getLast? ≠ some '\x7b') ∧
    (above = [] → (trimStart below).head? ≠ some '\x7d')

structure IsTidy (text : String) : Prop where
  trimmed : ∀ line ∈ lines text.toList, trimEnd line = line
  starts : (lines text.toList).head? ≠ some []
  follows : (lines text.toList).IsChain MayFollow
  ends : ∃ init c, text.toList = init ++ [c, '\n'] ∧ c ≠ '\n'

section Lines

theorem dropReturn_sublist (cs : List Char) : (dropReturn cs).Sublist cs := by
  unfold dropReturn
  split
  · exact List.sublist_cons_self _ _
  · exact List.Sublist.refl _

theorem newline_not_mem_linesFrom {current cs : List Char} (h : '\n' ∉ current) :
    ∀ line ∈ linesFrom current cs, '\n' ∉ line := by
  fun_induction linesFrom current cs with
  | case1 => simp
  | case2 current hne => simpa using h
  | case3 current rest ih =>
    refine List.forall_mem_cons.2 ⟨fun hm => ?_, ih List.not_mem_nil⟩
    exact h ((dropReturn_sublist current).subset (List.mem_reverse.1 hm))
  | case4 current c rest hc ih =>
    exact ih fun hm => (List.mem_cons.1 hm).elim (fun he => hc he.symm) h

theorem trimEnd_trimEnd (line : List Char) : trimEnd (trimEnd line) = trimEnd line :=
  List.rdropWhile_idempotent isBlank line

theorem dropReturn_of_trimmed {line : List Char} (h : trimEnd line = line) :
    dropReturn line.reverse = line.reverse := by
  unfold dropReturn
  split
  · next rest hrest =>
    rw [trimEnd, hrest] at h
    have hlength := congrArg List.length h
    have hdrop := (List.dropWhile_suffix isBlank (l := rest)).length_le
    have hline := congrArg List.length hrest
    simp [isBlank] at hlength hline
    omega
  · rfl

theorem lines_joinLines {kept : List (List Char)} (hne : kept ≠ [])
    (hn : ∀ line ∈ kept, '\n' ∉ line) (ht : ∀ line ∈ kept, trimEnd line = line) :
    lines (joinLines kept ++ ['\n']) = kept := by
  have hfirst : ∀ line rest, '\n' ∉ line → trimEnd line = line →
      lines (line ++ '\n' :: rest) = line :: lines rest := by
    intro line rest hline htrim
    rw [lines, linesFrom_append hline, List.append_nil, linesFrom, dropReturn_of_trimmed htrim,
      List.reverse_reverse, lines]
  induction kept with
  | nil => exact absurd rfl hne
  | cons line rest ih =>
    obtain ⟨hline, hn⟩ := List.forall_mem_cons.1 hn
    obtain ⟨htrim, ht⟩ := List.forall_mem_cons.1 ht
    cases rest with
    | nil => exact hfirst line [] hline htrim
    | cons next rest =>
      rw [joinLines, List.append_assoc, List.cons_append, hfirst line _ hline htrim,
        ih (List.cons_ne_nil next rest) hn ht]

theorem exists_joinLines_concat (init : List (List Char)) (last : List Char) :
    ∃ before, joinLines (init ++ [last]) = before ++ last := by
  induction init with
  | nil => exact ⟨[], rfl⟩
  | cons line init ih =>
    obtain ⟨before, hb⟩ := ih
    refine ⟨line ++ '\n' :: before, ?_⟩
    cases init with
    | nil => simpa [joinLines] using hb
    | cons next init => simpa [joinLines] using hb

end Lines

section Arrangements

variable {above : Option (List Char)} {gap rest ls kept : List (List Char)} {line : List Char}

theorem find?_gap (hgap : ∀ blank ∈ gap, blank = []) (hline : line ≠ []) :
    (gap ++ line :: rest).find? (! ·.isEmpty) = some line := by
  rw [List.find?_append, List.find?_eq_none.2 (by simpa using hgap)]
  simp [hline]

theorem tidyFrom_gap (hgap : ∀ blank ∈ gap, blank = []) : tidyFrom above gap = [] := by
  induction gap with
  | nil => rfl
  | cons blank gap ih =>
    obtain ⟨hblank, hrest⟩ := List.forall_mem_cons.1 hgap
    have hclose : closesBelow gap = true := by
      rw [closesBelow, List.find?_eq_none.2 (by simpa using hrest)]
    simp [tidyFrom, hblank, hclose, ih hrest]

theorem mayPart_iff : MayPart above line ↔
    opensAbove above = false ∧ ((trimStart line).head? == some '\x7d') = false := by
  cases above with
  | none => simp [MayPart, opensAbove]
  | some last => simp [MayPart, opensAbove, and_assoc]

theorem tidyFrom_empty [Decidable (MayPart above line)] (hgap : ∀ blank ∈ gap, blank = [])
    (hline : line ≠ []) :
    tidyFrom above ([] :: (gap ++ line :: rest)) =
      if MayPart above line then [] :: tidyFrom (some []) (gap ++ line :: rest)
      else tidyFrom above (gap ++ line :: rest) := by
  rw [tidyFrom, closesBelow, find?_gap hgap hline]
  split_ifs with hdrop hpart hpart
  · simp [mayPart_iff.1 hpart] at hdrop
  · rfl
  · rfl
  · exact absurd (mayPart_iff.2 (by simpa using hdrop)) hpart

theorem tidyFrom_joined (hgap : ∀ blank ∈ gap, blank = []) (hline : line ≠ [])
    (hjoined : gap = [] ∨ ¬ MayPart above line) :
    tidyFrom above (gap ++ line :: rest) = line :: tidyFrom (some line) rest := by
  classical
  induction gap with
  | nil => simp [tidyFrom, hline]
  | cons blank gap ih =>
    obtain ⟨rfl, hrest⟩ := List.forall_mem_cons.1 hgap
    have hpart : ¬ MayPart above line := by simpa using hjoined
    rw [List.cons_append, tidyFrom_empty hrest hline, if_neg hpart, ih hrest (.inr hpart)]

theorem tidyFrom_parted (hgap : ∀ blank ∈ gap, blank = []) (hline : line ≠ [])
    (hparted : gap ≠ [] ∧ MayPart above line) :
    tidyFrom above (gap ++ line :: rest) = [] :: line :: tidyFrom (some line) rest := by
  classical
  obtain ⟨hne, hpart⟩ := hparted
  cases gap with
  | nil => exact absurd rfl hne
  | cons blank gap =>
    obtain ⟨rfl, hrest⟩ := List.forall_mem_cons.1 hgap
    have hempty : ¬ MayPart (some []) line := by simp [MayPart]
    rw [List.cons_append, tidyFrom_empty hrest hline, if_pos hpart,
      tidyFrom_joined hrest hline (.inr hempty)]

theorem trimEnd_of_gap (hgap : ∀ blank ∈ gap, isBlankLine blank = true) :
    ∀ blank ∈ gap.map trimEnd, blank = [] :=
  List.forall_mem_map.2 fun blank hm => List.isEmpty_iff.1 (hgap blank hm)

theorem trimEnd_ne_nil (hline : isBlankLine line = false) : trimEnd line ≠ [] :=
  List.isEmpty_eq_false_iff.1 hline

/-- Tidying arranges lines; the blank ones that come first are held back until it is known what
follows them. -/
theorem arranged_tidyFrom (hgap : ∀ blank ∈ gap, isBlankLine blank = true) :
    Arranged above (gap ++ ls) (tidyFrom above ((gap ++ ls).map trimEnd)) := by
  induction ls generalizing above gap with
  | nil =>
    rw [List.append_nil, tidyFrom_gap (trimEnd_of_gap hgap)]
    exact .done hgap
  | cons line rest ih =>
    cases hline : isBlankLine line with
    | true =>
      have hmore : ∀ blank ∈ gap ++ [line], isBlankLine blank = true :=
        List.forall_mem_append.2 ⟨hgap, List.forall_mem_singleton.2 hline⟩
      simpa using ih hmore
    | false =>
      have hempty := trimEnd_of_gap hgap
      have hne := trimEnd_ne_nil hline
      have htail : Arranged (some (trimEnd line)) ([] ++ rest) _ := ih (List.forall_mem_nil _)
      rw [List.map_append, List.map_cons]
      by_cases hparted : gap ≠ [] ∧ MayPart above (trimEnd line)
      · rw [tidyFrom_parted hempty hne (by simpa using hparted)]
        exact .parted hgap hline hparted htail
      · have hjoined : gap = [] ∨ ¬ MayPart above (trimEnd line) := by
          simpa [or_iff_not_imp_left] using hparted
        rw [tidyFrom_joined hempty hne (by simpa using hjoined)]
        exact .joined hgap hline hjoined htail

theorem arranged_tidyLines (ls : List (List Char)) : Arranged none ls (tidyLines ls) :=
  arranged_tidyFrom (List.forall_mem_nil (isBlankLine · = true))

namespace Arranged

variable (h : Arranged above ls kept)
include h

theorem eq_nil_or_mem : ∀ line ∈ kept, line = [] ∨ ∃ full ∈ ls, line = trimEnd full := by
  induction h with
  | done => simp
  | joined _ _ _ _ ih => grind
  | parted _ _ _ _ ih => grind

theorem trimmed : ∀ line ∈ kept, trimEnd line = line := by
  intro line hm
  rcases h.eq_nil_or_mem line hm with rfl | ⟨full, -, rfl⟩
  · rfl
  · exact trimEnd_trimEnd full

theorem newline_not_mem (hn : ∀ line ∈ ls, '\n' ∉ line) : ∀ line ∈ kept, '\n' ∉ line := by
  intro line hm
  rcases h.eq_nil_or_mem line hm with rfl | ⟨full, hfull, rfl⟩
  · exact List.not_mem_nil
  · exact fun hc => hn full hfull ((List.rdropWhile_prefix isBlank full).subset hc)

theorem filter_eq : kept.filter (! isBlankLine ·) = (ls.filter (! isBlankLine ·)).map trimEnd := by
  have hgone : ∀ gap : List (List Char), (∀ blank ∈ gap, isBlankLine blank = true) →
      gap.filter (! isBlankLine ·) = [] := by
    intro gap hgap
    simpa using hgap
  have hstay : ∀ line, isBlankLine line = false → isBlankLine (trimEnd line) = false := by
    intro line hline
    rw [isBlankLine, trimEnd_trimEnd]
    exact hline
  induction h with
  | done hgap => simp [hgone _ hgap]
  | joined hgap hline _ _ ih => simp [hgone _ hgap, hline, hstay _ hline, ih]
  | parted hgap hline _ _ ih =>
    have hempty : isBlankLine [] = true := rfl
    simp [hgone _ hgap, hline, hstay _ hline, hempty, ih]

theorem follows (ha : ∀ line ∈ above, line ≠ []) : (above.toList ++ kept).IsChain MayFollow := by
  induction h with
  | @done above gap _ => cases above <;> simp
  | @joined above gap rest kept line _ hline _ _ ih =>
    have hne := trimEnd_ne_nil hline
    have htail := ih (by simpa using hne)
    cases above with
    | none => exact htail
    | some last =>
      exact .cons_cons ⟨fun he => absurd he hne, fun he => absurd he (ha last rfl)⟩ htail
  | @parted above gap rest kept line _ hline hparted _ ih =>
    have hne := trimEnd_ne_nil hline
    have htail := ih (by simpa using hne)
    obtain ⟨last, rfl, hlast, hopen, hclose⟩ := hparted.2
    exact .cons_cons ⟨fun _ => ⟨hlast, hopen⟩, fun he => absurd he hlast⟩
      (.cons_cons ⟨fun he => absurd he hne, fun _ => hclose⟩ htail)

theorem getLast?_ne : kept.getLast? ≠ some [] := by
  induction h with
  | done => simp
  | @joined above gap rest kept line _ hline _ _ ih =>
    cases kept with
    | nil => simpa using trimEnd_ne_nil hline
    | cons next kept => simpa using ih
  | @parted above gap rest kept line _ hline _ _ ih =>
    cases kept with
    | nil => simpa using trimEnd_ne_nil hline
    | cons next kept => simpa using ih

theorem tidyFrom_eq : tidyFrom above kept = kept := by
  induction h with
  | done => rfl
  | @joined above gap rest kept line _ hline _ _ ih =>
    have hstep : tidyFrom above ([] ++ trimEnd line :: kept) = _ :=
      tidyFrom_joined (List.forall_mem_nil _) (trimEnd_ne_nil hline) (.inl rfl)
    rw [← List.nil_append (trimEnd line :: kept), hstep, ih]
    rfl
  | @parted above gap rest kept line _ hline hparted _ ih =>
    have hstep : tidyFrom above ([[]] ++ trimEnd line :: kept) = _ :=
      tidyFrom_parted (List.forall_mem_singleton.2 rfl) (trimEnd_ne_nil hline)
        ⟨List.cons_ne_nil _ _, hparted.2⟩
    rw [← List.singleton_append, hstep, ih]
    rfl

end Arranged

theorem head?_ne_of_arranged (h : Arranged none ls kept) : kept.head? ≠ some [] := by
  cases h with
  | done => simp
  | joined _ hline => simpa using trimEnd_ne_nil hline
  | parted _ _ hparted =>
    obtain ⟨last, hlast, -⟩ := hparted.2
    cases hlast

theorem tidyLines_tidyLines (ls : List (List Char)) :
    tidyLines (tidyLines ls) = tidyLines ls := by
  have harranged := arranged_tidyLines ls
  have hmap : (tidyLines ls).map trimEnd = tidyLines ls :=
    (List.map_congr_left harranged.trimmed).trans (List.map_id _)
  rw [tidyLines, hmap, harranged.tidyFrom_eq]

end Arrangements

section Texts

variable {text : String}

theorem toList_tidy (text : String) :
    (tidy text).toList = joinLines (tidyLines (lines text.toList)) ++ ['\n'] :=
  String.toList_ofList

theorem tidyLines_eq_nil_iff {ls : List (List Char)} :
    tidyLines ls = [] ↔ ∀ line ∈ ls, isBlankLine line = true := by
  have hfilter := (arranged_tidyLines ls).filter_eq
  constructor
  · intro hnil
    simpa [hnil] using hfilter.symm
  · intro hblank
    exact tidyFrom_gap (trimEnd_of_gap hblank)

theorem tidy_of_blank (h : ∀ line ∈ lines text.toList, isBlankLine line = true) :
    tidy text = "\n" := by
  rw [← String.toList_inj, toList_tidy, tidyLines_eq_nil_iff.2 h]
  rfl

theorem lines_tidy (h : ∃ line ∈ lines text.toList, isBlankLine line = false) :
    lines (tidy text).toList = tidyLines (lines text.toList) := by
  have harranged := arranged_tidyLines (lines text.toList)
  rw [toList_tidy]
  refine lines_joinLines ?_ ?_ harranged.trimmed
  · rw [Ne, tidyLines_eq_nil_iff]
    simpa using h
  · exact harranged.newline_not_mem (newline_not_mem_linesFrom List.not_mem_nil)

theorem ends_tidy (h : ∃ line ∈ lines text.toList, isBlankLine line = false) :
    ∃ init c, (tidy text).toList = init ++ [c, '\n'] ∧ c ≠ '\n' := by
  have harranged := arranged_tidyLines (lines text.toList)
  have hlines := harranged.newline_not_mem (newline_not_mem_linesFrom List.not_mem_nil)
  have hlast := harranged.getLast?_ne
  rcases List.eq_nil_or_concat' (tidyLines (lines text.toList)) with hnil | ⟨init, last, hconcat⟩
  · obtain ⟨line, hm, hline⟩ := h
    rw [tidyLines_eq_nil_iff.1 hnil line hm] at hline
    cases hline
  · rw [toList_tidy, hconcat]
    rw [hconcat, List.getLast?_concat] at hlast
    rw [hconcat] at hlines
    obtain ⟨before, hb⟩ := exists_joinLines_concat init last
    rcases List.eq_nil_or_concat' last with rfl | ⟨front, c, rfl⟩
    · exact absurd rfl hlast
    · refine ⟨before ++ front, c, by simp [hb], ?_⟩
      rintro rfl
      exact hlines (front ++ ['\n']) (by simp) (by simp)

theorem isTidy_tidy (h : ∃ line ∈ lines text.toList, isBlankLine line = false) :
    IsTidy (tidy text) := by
  have harranged := arranged_tidyLines (lines text.toList)
  rw [← lines_tidy h] at harranged
  exact {
    trimmed := harranged.trimmed
    starts := head?_ne_of_arranged harranged
    follows := by simpa using harranged.follows (by simp)
    ends := ends_tidy h }

theorem blank_or_shown (text : String) :
    (∀ line ∈ lines text.toList, isBlankLine line = true) ∨
      ∃ line ∈ lines text.toList, isBlankLine line = false := by
  by_cases h : ∀ line ∈ lines text.toList, isBlankLine line = true
  · exact .inl h
  · exact .inr (by simpa using h)

theorem filter_lines_tidy (text : String) :
    (lines (tidy text).toList).filter (! isBlankLine ·) =
      ((lines text.toList).filter (! isBlankLine ·)).map trimEnd := by
  rcases blank_or_shown text with hblank | hshown
  · have hnone : (lines text.toList).filter (! isBlankLine ·) = [] := by simpa using hblank
    rw [tidy_of_blank hblank, hnone]
    rfl
  · rw [lines_tidy hshown, (arranged_tidyLines _).filter_eq]

theorem tidy_tidy (text : String) : tidy (tidy text) = tidy text := by
  rcases blank_or_shown text with hblank | hshown
  · rw [tidy_of_blank hblank]
    rfl
  · rw [← String.toList_inj, toList_tidy, lines_tidy hshown, tidyLines_tidyLines, ← toList_tidy]

/-- The lines of a tidy text that hold something are those of the text that it comes from. A blank
text becomes a single line feed, any other one is arranged in its layout, and a text that is tidy
already stays as it is. -/
theorem tidy_normal_form (text : String) :
    (lines (tidy text).toList).filter (! isBlankLine ·) =
      ((lines text.toList).filter (! isBlankLine ·)).map trimEnd ∧
    ((∀ line ∈ lines text.toList, isBlankLine line = true) → tidy text = "\n") ∧
    ((∃ line ∈ lines text.toList, isBlankLine line = false) → IsTidy (tidy text) ∧
      Arranged none (lines text.toList) (lines (tidy text).toList)) ∧
    tidy (tidy text) = tidy text := by
  refine ⟨filter_lines_tidy text, tidy_of_blank, fun h => ⟨isTidy_tidy h, ?_⟩, tidy_tidy text⟩
  rw [lines_tidy h]
  exact arranged_tidyLines _

/-- Blank lines at the start, after an opening brace, before a closing one, twice in a row and at
the end, with endings of both kinds; and a text of blanks only. -/
theorem tidy_normal_form_braces :
    let source := "\r\n\nfn a() \x7b \n\n  x; \t\n \n  y;\r\n\n \n  \x7d\n\n\nfn b() \x7b\x7d\n\n"
    let blank := " \r\n\t\n"
    (∃ line ∈ lines source.toList, isBlankLine line = false) ∧ IsTidy (tidy source) ∧
      tidy source = "fn a() \x7b\n  x;\n\n  y;\n  \x7d\n\nfn b() \x7b\x7d\n" ∧
      tidy (tidy source) = tidy source ∧
      (∀ line ∈ lines blank.toList, isBlankLine line = true) ∧ tidy blank = "\n" := by
  intro source blank
  have hshown : ∃ line ∈ lines source.toList, isBlankLine line = false := by decide +kernel
  have hblank : ∀ line ∈ lines blank.toList, isBlankLine line = true := by decide +kernel
  obtain ⟨-, -, hlayout, hagain⟩ := tidy_normal_form source
  exact ⟨hshown, (hlayout hshown).1, by decide +kernel, hagain, hblank,
    (tidy_normal_form blank).2.1 hblank⟩

end Texts

end EventSchema.Text
