import EventSchema.Naming.Words
import Mathlib

set_option autoImplicit false

namespace EventSchema

namespace Text

theorem splitAt_ne_nil (cut : Char → Bool) (cs : List Char) : splitAt cut cs ≠ [] := by
  fun_cases splitAt cut cs <;> simp

theorem not_cut_of_mem_splitAt {cut : Char → Bool} {cs piece : List Char}
    (h : piece ∈ splitAt cut cs) : ∀ c ∈ piece, cut c = false := by
  induction cs generalizing piece with
  | nil => simp_all [splitAt]
  | cons c rest ih =>
    rw [splitAt] at h
    split at h
    · rcases List.mem_cons.1 h with rfl | h
      · simp
      · exact ih h
    · next hc =>
      cases hs : splitAt cut rest with
      | nil => exact absurd hs (splitAt_ne_nil cut rest)
      | cons first pieces =>
        rw [hs] at h ih
        rcases List.mem_cons.1 h with rfl | h
        · exact List.forall_mem_cons.2 ⟨by simpa using hc, ih (by simp)⟩
        · exact ih (List.mem_cons_of_mem _ h)

theorem splitAt_eq_singleton {cut : Char → Bool} {cs : List Char} (h : ∀ c ∈ cs, cut c = false) :
    splitAt cut cs = [cs] := by
  induction cs with
  | nil => rfl
  | cons c rest ih =>
    obtain ⟨hc, hr⟩ := List.forall_mem_cons.1 h
    simp [splitAt, hc, ih hr]

theorem not_cut_of_not_mem {mark : Char} {cs : List Char} (h : mark ∉ cs) :
    ∀ c ∈ cs, (c == mark) = false :=
  fun _ hc => beq_eq_false_iff_ne.2 (ne_of_mem_of_not_mem hc h)

theorem splitAt_append_cons {cut : Char → Bool} {piece : List Char} {c : Char}
    (h : ∀ d ∈ piece, cut d = false) (hc : cut c = true) (rest : List Char) :
    splitAt cut (piece ++ c :: rest) = piece :: splitAt cut rest := by
  induction piece with
  | nil => simp [splitAt, hc]
  | cons d piece ih =>
    obtain ⟨hd, hp⟩ := List.forall_mem_cons.1 h
    simp [splitAt, hd, ih hp]

end Text

namespace Naming

theorem forall_ascii {P : Char → Prop} (h : ∀ n < 128, P (Char.ofNat n)) {c : Char}
    (hc : c.toNat < 128) : P c := by
  simpa using h c.toNat hc

theorem ascii_of_isAlphanum {c : Char} (h : c.isAlphanum = true) : c.toNat < 128 := by
  simp only [Char.isAlphanum, Char.isAlpha, Char.isUpper, Char.isLower, Char.isDigit,
    Bool.or_eq_true, Bool.and_eq_true, decide_eq_true_eq, ge_iff_le, UInt32.le_iff_toNat_le] at h
  have hv : c.toNat = c.val.toNat := rfl
  simp at h
  omega

theorem toLower_ne_underscore {c : Char} (h : c.isAlphanum = true) : c.toLower ≠ '_' :=
  forall_ascii (P := fun c => c.isAlphanum = true → c.toLower ≠ '_') (by decide)
    (ascii_of_isAlphanum h) h

theorem toUpper_toLower {c : Char} (h : c.isAlphanum = true) : c.toLower.toUpper = c.toUpper :=
  forall_ascii (P := fun c => c.isAlphanum = true → c.toLower.toUpper = c.toUpper) (by decide)
    (ascii_of_isAlphanum h) h

theorem word_of_mem_words {s : String} {w : List Char} (h : w ∈ words s) :
    w ≠ [] ∧ ∀ c ∈ w, c.isAlphanum = true := by
  obtain ⟨piece, hp, hw⟩ := List.mem_flatMap.1 h
  refine ⟨ne_nil_of_mem_splitRun hw, fun c hc => ?_⟩
  have hmem : c ∈ piece := flatten_splitRun piece ▸ List.mem_flatten.2 ⟨w, hw, hc⟩
  simpa using Text.not_cut_of_mem_splitAt hp c hmem

/-- Words come back when their joint text is cut at a class of characters that underscores are in
and no character of the words. -/
theorem splitAt_joinWords {cut : Char → Bool} (hc : cut '_' = true) {ws : List (List Char)}
    (hn : ws ≠ []) (h : ∀ w ∈ ws, ∀ c ∈ w, cut c = false) :
    Text.splitAt cut (joinWords ws) = ws := by
  fun_induction joinWords ws with
  | case1 => contradiction
  | case2 word => exact Text.splitAt_eq_singleton (h word (by simp))
  | case3 word next rest ih =>
    obtain ⟨hw, hr⟩ := List.forall_mem_cons.1 h
    rw [Text.splitAt_append_cons hw hc, ih (by simp) hr]

theorem joinWords_ne_nil {ws : List (List Char)} (hn : ws ≠ []) (h : ∀ w ∈ ws, w ≠ []) :
    joinWords ws ≠ [] := by
  fun_cases joinWords ws with
  | case1 => contradiction
  | case2 word => exact h word (by simp)
  | case3 word next rest => simp

theorem joinWords_inj {ws vs : List (List Char)} (hw : ∀ w ∈ ws, w ≠ [] ∧ '_' ∉ w)
    (hv : ∀ v ∈ vs, v ≠ [] ∧ '_' ∉ v) (h : joinWords ws = joinWords vs) : ws = vs := by
  by_cases hws : ws = []
  · subst hws
    by_cases hvs : vs = []
    · exact hvs.symm
    · exact absurd h.symm (joinWords_ne_nil hvs fun v hm => (hv v hm).1)
  · by_cases hvs : vs = []
    · subst hvs
      exact absurd h (joinWords_ne_nil hws fun w hm => (hw w hm).1)
    · have hback : ∀ us : List (List Char), us ≠ [] → (∀ u ∈ us, u ≠ [] ∧ '_' ∉ u) →
          Text.splitAt (· == '_') (joinWords us) = us := fun us hn hu =>
        splitAt_joinWords rfl hn fun u hm => Text.not_cut_of_not_mem (hu u hm).2
      rw [← hback ws hws hw, h, hback vs hvs hv]

def foldedWords (s : String) : List (List Char) :=
  (words s).map (·.map Char.toLower)

theorem folded_of_mem_foldedWords {s : String} {w : List Char} (h : w ∈ foldedWords s) :
    w ≠ [] ∧ '_' ∉ w := by
  obtain ⟨v, hv, rfl⟩ := List.mem_map.1 h
  obtain ⟨hn, ha⟩ := word_of_mem_words hv
  refine ⟨by simpa using hn, fun hm => ?_⟩
  obtain ⟨c, hc, he⟩ := List.mem_map.1 hm
  exact toLower_ne_underscore (ha c hc) he

theorem snake_eq_iff {a b : String} : snake a = snake b ↔ foldedWords a = foldedWords b := by
  refine ⟨fun h => ?_, fun h => congrArg (String.ofList ∘ joinWords) h⟩
  exact joinWords_inj (fun _ => folded_of_mem_foldedWords) (fun _ => folded_of_mem_foldedWords)
    (String.ofList_injective h)

/-- Capitals stand only where words start. -/
def IsPlain (s : String) : Prop :=
  ∀ w ∈ words s, ∀ c ∈ w.tail, c.isUpper = false

instance (s : String) : Decidable (IsPlain s) :=
  decidable_of_iff ((words s).all fun w => w.tail.all fun c => !c.isUpper) (by simp [IsPlain])

theorem raiseFirst_map_toLower {w : List Char} (ha : ∀ c ∈ w, c.isAlphanum = true)
    (h : ∀ c ∈ w.tail, c.isUpper = false) : raiseFirst (w.map Char.toLower) = raiseFirst w := by
  cases w with
  | nil => rfl
  | cons c rest =>
    have hr : rest.map Char.toLower = rest.map id :=
      List.map_congr_left fun d hd => Char.toLower_eq_of_not_isUpper (by simp [h d hd])
    simp [raiseFirst, toUpper_toLower (ha c (by simp)), hr]

theorem pascal_of_isPlain {s : String} (h : IsPlain s) :
    pascal s = String.ofList ((foldedWords s).flatMap raiseFirst) := by
  have hw : (words s).map raiseFirst = (words s).map fun w => raiseFirst (w.map Char.toLower) :=
    List.map_congr_left fun w hm =>
      (raiseFirst_map_toLower (word_of_mem_words hm).2 (h w hm)).symm
  rw [pascal, foldedWords, List.flatMap_map, List.flatMap_def, List.flatMap_def, hw]

theorem pascal_eq_of_snake_eq {a b : String} (ha : IsPlain a) (hb : IsPlain b)
    (h : snake a = snake b) : pascal a = pascal b := by
  rw [pascal_of_isPlain ha, pascal_of_isPlain hb, snake_eq_iff.1 h]

theorem splitRun_cons (c : Char) (cs : List Char) :
    ∃ word words, splitRun (c :: cs) = (c :: word) :: words := by
  cases cs with
  | nil => exact ⟨[], [], rfl⟩
  | cons d rest =>
    rw [splitRun]
    split
    · exact ⟨[], _, rfl⟩
    · split
      · next word words _ => exact ⟨word, words, rfl⟩
      · exact ⟨[], [], rfl⟩

theorem isUpper_of_mem_tail_splitRun {cs w : List Char} (h : w ∈ (splitRun cs).tail) :
    ∃ c rest, w = c :: rest ∧ c.isUpper = true := by
  fun_induction splitRun cs with
  | case1 => simp at h
  | case2 c => simp at h
  | case3 c d rest hs ih =>
    obtain ⟨word, words, hw⟩ := splitRun_cons d rest
    rw [List.tail_cons, hw] at h
    rcases List.mem_cons.1 h with rfl | h
    · exact ⟨d, word, rfl, (Bool.and_eq_true_iff.1 hs).1⟩
    · exact ih (by simpa [hw] using h)
  | case4 c d rest _ first words hw ih => exact ih (by simpa [hw] using h)
  | case5 => simp at h

theorem raiseFirst_eq_self {c : Char} (h : c.isLower = false) (rest : List Char) :
    raiseFirst (c :: rest) = c :: rest := by
  rw [raiseFirst, Char.toUpper_eq_of_not_isLower (by simp [h])]

theorem flatMap_raiseFirst_splitRun {c : Char} {cs : List Char} (h : c.isLower = false) :
    (splitRun (c :: cs)).flatMap raiseFirst = c :: cs := by
  obtain ⟨word, words, hw⟩ := splitRun_cons c cs
  have hraise : ∀ w ∈ splitRun (c :: cs), raiseFirst w = w := by
    rw [hw, List.forall_mem_cons]
    refine ⟨raiseFirst_eq_self h word, fun w hm => ?_⟩
    have htail : w ∈ (splitRun (c :: cs)).tail := by rwa [hw]
    obtain ⟨d, rest, rfl, hd⟩ := isUpper_of_mem_tail_splitRun htail
    exact raiseFirst_eq_self (by simpa using Char.not_isLower_of_isUpper hd) rest
  rw [List.flatMap_def, List.map_congr_left hraise, List.map_id', flatten_splitRun]

theorem pascal_eq_self {s : String} (ha : ∀ c ∈ s.toList, c.isAlphanum = true)
    (hh : s.toList.head?.any Char.isLower = false) : pascal s = s := by
  cases hs : s.toList with
  | nil => simp [pascal, words, wordsOf, Text.splitAt, splitRun, String.toList_eq_nil_iff.1 hs]
  | cons c cs =>
    have hc : c.isLower = false := by simpa [hs] using hh
    have hcut : Text.splitAt (! ·.isAlphanum) s.toList = [s.toList] :=
      Text.splitAt_eq_singleton fun d hd => by simp [ha d hd]
    rw [pascal, words, wordsOf, hcut, List.flatMap_singleton, hs, flatMap_raiseFirst_splitRun hc,
      ← hs, String.ofList_toList]

end Naming

end EventSchema
