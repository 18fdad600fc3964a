import EventSchema.Backend.Identifier
import EventSchema.Proofs.Words

set_option autoImplicit false

namespace EventSchema

namespace Naming

theorem isAlphanum_toLower {c : Char} (h : c.isAlphanum = true) : c.toLower.isAlphanum = true :=
  forall_ascii (P := fun c => c.isAlphanum = true → c.toLower.isAlphanum = true) (by decide)
    (ascii_of_isAlphanum h) h

theorem isAlphanum_of_mem_foldedWords {s : String} {w : List Char} (h : w ∈ foldedWords s) :
    ∀ c ∈ w, c.isAlphanum = true := by
  obtain ⟨v, hv, rfl⟩ := List.mem_map.1 h
  intro c hc
  obtain ⟨d, hd, rfl⟩ := List.mem_map.1 hc
  exact isAlphanum_toLower ((word_of_mem_words hv).2 d hd)

theorem mem_joinWords {ws : List (List Char)} {c : Char} (h : c ∈ joinWords ws) :
    c = '_' ∨ ∃ w ∈ ws, c ∈ w := by
  fun_induction joinWords ws with
  | case1 => cases h
  | case2 word => exact .inr ⟨word, by simp, h⟩
  | case3 word next rest ih =>
    rcases List.mem_append.1 h with h | h
    · exact .inr ⟨word, by simp, h⟩
    · rcases List.mem_cons.1 h with h | h
      · exact .inl h
      · rcases ih h with h | ⟨w, hw, hc⟩
        · exact .inl h
        · exact .inr ⟨w, List.mem_cons_of_mem _ hw, hc⟩

theorem mem_of_getLast?_joinWords {ws : List (List Char)} (hn : ∀ w ∈ ws, w ≠ []) {c : Char}
    (h : (joinWords ws).getLast? = some c) : ∃ w ∈ ws, c ∈ w := by
  fun_induction joinWords ws with
  | case1 => cases h
  | case2 word => exact ⟨word, by simp, List.mem_of_getLast? h⟩
  | case3 word next rest ih =>
    obtain ⟨-, hr⟩ := List.forall_mem_cons.1 hn
    have hlast : (joinWords (next :: rest)).getLast? = some c := by
      cases hj : joinWords (next :: rest) with
      | nil => exact absurd hj (joinWords_ne_nil (by simp) hr)
      | cons d ds => simpa [hj, List.getLast?_append, List.getLast?_cons_cons] using h
    obtain ⟨w, hw, hc⟩ := ih hr hlast
    exact ⟨w, List.mem_cons_of_mem _ hw, hc⟩

theorem numberSign_not_mem_snake (s : String) : '#' ∉ (snake s).toList := by
  rw [snake, String.toList_ofList]
  intro h
  rcases mem_joinWords h with h | ⟨w, hw, hc⟩
  · exact absurd h (by decide)
  · exact absurd (isAlphanum_of_mem_foldedWords hw _ hc) (by decide)

theorem getLast?_snake_ne (s : String) : (snake s).toList.getLast? ≠ some '_' := by
  rw [snake, String.toList_ofList]
  intro h
  obtain ⟨w, hw, hc⟩ :=
    mem_of_getLast?_joinWords (fun w hw => (folded_of_mem_foldedWords hw).1) h
  exact (folded_of_mem_foldedWords hw).2 hc

end Naming

namespace Backend

def unescape (ident : String) : String :=
  if '#' ∈ ident.toList then String.ofList (ident.toList.drop 2)
  else if ident.toList.getLast? = some '_' then String.ofList ident.toList.dropLast
  else ident

theorem unescape_escapeKeyword {name : String} (hs : '#' ∉ name.toList)
    (hl : name.toList.getLast? ≠ some '_') : unescape (escapeKeyword name) = name := by
  unfold escapeKeyword
  split
  · simp [unescape, hs, hl]
  · split
    · simp [unescape, hs]
    · simp [unescape]

theorem escapeKeyword_snake_inj {a b : String}
    (h : escapeKeyword (Naming.snake a) = escapeKeyword (Naming.snake b)) :
    Naming.snake a = Naming.snake b := by
  have hu := congrArg unescape h
  rwa [unescape_escapeKeyword (Naming.numberSign_not_mem_snake a) (Naming.getLast?_snake_ne a),
    unescape_escapeKeyword (Naming.numberSign_not_mem_snake b) (Naming.getLast?_snake_ne b)] at hu

end Backend

end EventSchema
