import EventSchema.Proofs.LegalIdentifiers

set_option autoImplicit false

namespace EventSchema.Naming

def IsSnakeWord (w : List Char) : Prop :=
  w ≠ [] ∧ ∀ c ∈ w, c.isLower = true ∨ c.isDigit = true

inductive IsSnakeText : List Char → Prop
  | word {w : List Char} (h : IsSnakeWord w) : IsSnakeText w
  | more {w rest : List Char} (h : IsSnakeWord w) (tail : IsSnakeText rest) :
      IsSnakeText (w ++ '_' :: rest)

theorem isSnakeText_joinWords {ws : List (List Char)} (hn : ws ≠ [])
    (h : ∀ w ∈ ws, IsSnakeWord w) : IsSnakeText (joinWords ws) := by
  fun_induction joinWords ws with
  | case1 => contradiction
  | case2 word => exact .word (h word (by simp))
  | case3 word next rest ih =>
    obtain ⟨hw, hr⟩ := List.forall_mem_cons.1 h
    exact .more hw (ih (by simp) hr)

theorem isLower_or_isDigit_toLower {c : Char} (h : c.isAlphanum = true) :
    c.toLower.isLower = true ∨ c.toLower.isDigit = true := by
  have hl := isAlphanum_toLower h
  simpa [Char.isAlphanum, Char.isAlpha] using hl

theorem isSnakeWord_of_mem_foldedWords {s : String} {w : List Char} (h : w ∈ foldedWords s) :
    IsSnakeWord w := by
  obtain ⟨v, hv, rfl⟩ := List.mem_map.1 h
  obtain ⟨hn, ha⟩ := word_of_mem_words hv
  refine ⟨by simpa using hn, fun c hc => ?_⟩
  obtain ⟨d, hd, rfl⟩ := List.mem_map.1 hc
  exact isLower_or_isDigit_toLower (ha d hd)

theorem snake_eq_empty_or_isSnakeText (s : String) :
    snake s = "" ∨ IsSnakeText (snake s).toList := by
  by_cases hn : foldedWords s = []
  · exact .inl (congrArg (String.ofList ∘ joinWords) hn)
  · refine .inr ?_
    rw [snake, String.toList_ofList]
    exact isSnakeText_joinWords hn fun w hw => isSnakeWord_of_mem_foldedWords hw

section Cases

/-- The words of a name, each of their characters changed by `f`, with underscores between them:
the snake style is that of `Char.toLower`, the screaming style that of `Char.toUpper`. -/
def inCase (f : Char → Char) (s : String) : String :=
  String.ofList (joinWords ((words s).map (·.map f)))

/-- A change of characters after which no word starts within a word. -/
structure IsEven (f : Char → Char) : Prop where
  alphanum : ∀ c : Char, c.isAlphanum = true → (f c).isAlphanum = true
  starts : ∀ (c d : Char) (after : Option Char), startsWord (f c) (f d) (after.map f) = false

theorem isEven_toLower : IsEven Char.toLower where
  alphanum := fun _ => isAlphanum_toLower
  starts := by simp [startsWord]

theorem isEven_toUpper : IsEven Char.toUpper where
  alphanum := fun _ => isAlphanum_toUpper
  starts := by
    intro c d after
    cases after <;> simp [startsWord]

variable {f g : Char → Char}

theorem IsEven.splitRun_map (hf : IsEven f) {w : List Char} (hn : w ≠ []) :
    splitRun (w.map f) = [w.map f] := by
  induction w with
  | nil => exact absurd rfl hn
  | cons c rest ih =>
    cases rest with
    | nil => rfl
    | cons d rest =>
      have htail := ih (List.cons_ne_nil d rest)
      rw [List.map_cons] at htail
      rw [List.map_cons, List.map_cons, splitRun, List.head?_map, hf.starts, htail]
      rfl

theorem IsEven.words_inCase (hf : IsEven f) (s : String) :
    words (inCase f s) = (words s).map (·.map f) := by
  by_cases hn : words s = []
  · rw [inCase, hn]
    rfl
  · have hcut : ∀ w ∈ (words s).map (·.map f), ∀ c ∈ w, (! c.isAlphanum) = false := by
      intro w hw c hc
      obtain ⟨v, hv, rfl⟩ := List.mem_map.1 hw
      obtain ⟨d, hd, rfl⟩ := List.mem_map.1 hc
      simp [hf.alphanum d ((word_of_mem_words hv).2 d hd)]
    have hsplit : ∀ w ∈ words s, splitRun (w.map f) = [w.map f] :=
      fun w hw => hf.splitRun_map (word_of_mem_words hw).1
    have hne : (words s).map (·.map f) ≠ [] := by simpa using hn
    calc words (inCase f s)
        = ((words s).map (·.map f)).flatMap splitRun := by
          rw [inCase, words, wordsOf, String.toList_ofList, splitAt_joinWords rfl hne hcut]
      _ = (words s).flatMap fun w => [w.map f] := by
          rw [List.flatMap_map, List.flatMap_congr hsplit]
      _ = (words s).map (·.map f) := List.map_eq_flatMap.symm

/-- Where the second change makes up for the first one, the first one leaves no trace. -/
theorem IsEven.inCase_inCase (hf : IsEven f) (h : ∀ c, g (f c) = g c) (s : String) :
    inCase g (inCase f s) = inCase g s := by
  have hword : ∀ w : List Char, (w.map f).map g = w.map g := fun w => by simp [h]
  rw [inCase, hf.words_inCase, List.map_map, inCase]
  exact congrArg (String.ofList ∘ joinWords) (List.map_congr_left fun w _ => hword w)

end Cases

theorem snake_snake (s : String) : snake (snake s) = snake s :=
  isEven_toLower.inCase_inCase Char.toLower_toLower_eq_toLower s

theorem screaming_screaming (s : String) : screaming (screaming s) = screaming s :=
  isEven_toUpper.inCase_inCase Char.toUpper_toUpper_eq_toUpper s

theorem snake_screaming (s : String) : snake (screaming s) = snake s :=
  isEven_toUpper.inCase_inCase Char.toLower_toUpper_eq_toLower s

theorem screaming_snake (s : String) : screaming (snake s) = screaming s :=
  isEven_toLower.inCase_inCase Char.toUpper_toLower_eq_toUpper s

theorem snake_eq_iff_screaming_eq {a b : String} :
    snake a = snake b ↔ screaming a = screaming b := by
  constructor
  · intro h
    rw [← screaming_snake a, h, screaming_snake]
  · intro h
    rw [← snake_screaming a, h, snake_screaming]

theorem isLower_head_pascal (s : String) : (pascal s).toList.head?.any Char.isLower = false := by
  rw [head?_pascal]
  cases s.toList.find? Char.isAlphanum <;> simp

theorem pascal_pascal (s : String) : pascal (pascal s) = pascal s :=
  pascal_eq_self (fun _ => isAlphanum_of_mem_pascal) (isLower_head_pascal s)

theorem map_toLower_raiseFirst (w : List Char) :
    (raiseFirst w).map Char.toLower = w.map Char.toLower := by
  cases w with
  | nil => rfl
  | cons c rest => simp [raiseFirst]

theorem map_toLower_pascal (s : String) :
    (pascal s).toList.map Char.toLower = (s.toList.filter Char.isAlphanum).map Char.toLower := by
  rw [pascal, String.toList_ofList, ← flatten_words, List.flatMap_def, List.map_flatten,
    List.map_flatten, List.map_map]
  exact congrArg List.flatten (List.map_congr_left fun w _ => map_toLower_raiseFirst w)

theorem length_pascal (s : String) :
    (pascal s).toList.length = (s.toList.filter Char.isAlphanum).length := by
  simpa using congrArg List.length (map_toLower_pascal s)

/-- The words of a name are what is left when it is cut, the snake style has one form, all styles
are reached in one step, and the snake and the screaming style tell the same names apart. -/
theorem case_styles_lawful (s : String) :
    [] ∉ words s ∧ (words s).flatten = s.toList.filter Char.isAlphanum ∧
      (snake s = "" ∨ IsSnakeText (snake s).toList) ∧
      (snake (snake s) = snake s ∧ screaming (screaming s) = screaming s ∧
        pascal (pascal s) = pascal s) ∧
      (snake (screaming s) = snake s ∧ screaming (snake s) = screaming s ∧
        ∀ t, snake s = snake t ↔ screaming s = screaming t) ∧
      (pascal s).toList.length = (s.toList.filter Char.isAlphanum).length ∧
      (pascal s).toList.map Char.toLower =
        (s.toList.filter Char.isAlphanum).map Char.toLower := by
  have hwords : [] ∉ words s := fun h => (word_of_mem_words h).1 rfl
  exact ⟨hwords, flatten_words s, snake_eq_empty_or_isSnakeText s,
    ⟨snake_snake s, screaming_screaming s, pascal_pascal s⟩,
    ⟨snake_screaming s, screaming_snake s, fun _ => snake_eq_iff_screaming_eq⟩,
    length_pascal s, map_toLower_pascal s⟩

example : snake "U2FEnrolled-SSHKey" = "u2f_enrolled_ssh_key" ∧
    pascal "u2f_enrolled-SSHKey" = "U2fEnrolledSSHKey" := by
  decide

end EventSchema.Naming
