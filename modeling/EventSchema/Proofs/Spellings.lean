import EventSchema.Proofs.LiteralText
import EventSchema.Proofs.QuotedText

/-!
Spellings of a text between quotes. A spelling may pick a short escape, a code or the character
itself for each character on its own, so it is no single text. All spellings stay on one line and
between their quotes, and a reader takes each of them for the text that it was made from, and no
other text on one line: what a literal denotes hangs neither on the characters that its writer takes
to be printable nor on the digits of a code.
-/

set_option autoImplicit false

namespace EventSchema.Text.Quoted

open Frontend (StaysInside)

/-- The inside of a literal on one line, and what it denotes. -/
structure Denotes (body cs : List Char) : Prop where
  oneLine : '\n' ∉ body ∧ '\r' ∉ body
  inside : StaysInside body
  /-- The literal ends at its own quote, whatever follows. -/
  reads : ∀ rest, read? (body ++ '"' :: rest) = some (cs, rest)

section Pieces

variable {c : Char} {piece : List Char}

theorem staysInside_of_writes (h : Writes c piece) : StaysInside piece := by
  cases h with
  | plain hq hb hn hr => exact .plain hq hb
  | short h => exact .escape _
  | @code digits h =>
    have hdigits : StaysInside digits := .of_plain fun d hd =>
      ⟨ne_of_mem_of_not_mem hd (mark_not_mem_digits h (by decide)),
        ne_of_mem_of_not_mem hd (mark_not_mem_digits h (by decide))⟩
    have hopen : StaysInside ['\\', 'u', '\x7b'] :=
      (StaysInside.escape 'u').append (.plain (by decide) (by decide))
    exact (hopen.append hdigits).append (.plain (by decide) (by decide))

theorem ends_not_mem_of_writes (h : Writes c piece) : '\n' ∉ piece ∧ '\r' ∉ piece := by
  cases h with
  | plain hq hb hn hr => simp [Ne.symm hn, Ne.symm hr]
  | @short mark h =>
    have hmark : mark ≠ '\n' ∧ mark ≠ '\r' := by
      constructor
      · rintro rfl
        cases h
      · rintro rfl
        cases h
    simp [Ne.symm hmark.1, Ne.symm hmark.2]
  | @code digits h =>
    have hn : '\n' ∉ digits := mark_not_mem_digits h (by decide)
    have hr : '\r' ∉ digits := mark_not_mem_digits h (by decide)
    simp [hn, hr]

end Pieces

theorem denotes_of_spells {cs body : List Char} (h : Spells cs body) : Denotes body cs where
  oneLine := by
    induction h with
    | nil => simp
    | cons head tail ih =>
      obtain ⟨hn, hr⟩ := ends_not_mem_of_writes head
      simp [hn, hr, ih]
  inside := by
    induction h with
    | nil => exact .nil
    | cons head tail ih => exact (staysInside_of_writes head).append ih
  reads := read?_of_spells h

section Converse

theorem readCode?_of_not_mem {cs : List Char} (h : '\x7d' ∉ cs) (digits : List Char) :
    readCode? digits cs = none := by
  induction cs generalizing digits with
  | nil => simp [readCode?]
  | cons c cs ih =>
    have hc : c ≠ '\x7d' := fun he => h (by simp [he])
    simpa [readCode?, hc] using ih (fun hm => h (List.mem_cons_of_mem c hm)) (digits ++ [c])

theorem exists_of_readCode? {cs value rest : List Char}
    (h : readCode? [] cs = some (value, rest)) : ∃ digits c more later,
      cs = digits ++ '\x7d' :: more ∧ value = c :: later ∧ codePoint? digits = some c ∧
        read? more = some (later, rest) := by
  have hclose : '\x7d' ∈ cs := by
    by_contra hn
    rw [readCode?_of_not_mem hn] at h
    cases h
  obtain ⟨digits, more, rfl, hdigits⟩ := List.eq_append_cons_of_mem hclose
  rw [readCode?_append hdigits, List.nil_append] at h
  obtain ⟨c, hc, h⟩ := Option.bind_eq_some_iff.1 h
  obtain ⟨⟨later, _⟩, hread, he⟩ := Option.map_eq_some_iff.1 h
  cases he
  exact ⟨digits, c, more, later, rfl, rfl, hc, hread⟩

/-- What a reader takes first: the closing quote, or a writing of the first character; only a line
feed need not be escaped for it. -/
theorem step_of_read? {cs value rest : List Char} (h : read? cs = some (value, rest)) :
    value = [] ∧ cs = '"' :: rest ∨ ∃ c piece more later, cs = piece ++ more ∧ piece ≠ [] ∧
      value = c :: later ∧ read? more = some (later, rest) ∧ ('\n' ∉ piece → Writes c piece) := by
  fun_cases read? cs with
  | case1 => simp [read?] at h
  | case2 tail =>
    rw [read?] at h
    cases h
    exact .inl ⟨rfl, rfl⟩
  | case3 tail =>
    rw [read?] at h
    obtain ⟨digits, c, more, later, rfl, rfl, hc, hread⟩ := exists_of_readCode? h
    exact .inr ⟨c, ['\\', 'u', '\x7b'] ++ digits ++ ['\x7d'], more, later, by simp, by simp, rfl,
      hread, fun _ => .code hc⟩
  | case4 mark tail hmark =>
    rw [read?] at h
    · obtain ⟨c, hc, h⟩ := Option.bind_eq_some_iff.1 h
      obtain ⟨⟨later, _⟩, hread, he⟩ := Option.map_eq_some_iff.1 h
      cases he
      exact .inr ⟨c, ['\\', mark], tail, later, rfl, by simp, rfl, hread, fun _ => .short hc⟩
    · exact hmark
  | case5 c tail hq hcode hshort hrefused =>
    rw [read?, if_pos hrefused] at h
    · cases h
    · exact hq
    · exact hcode
    · exact hshort
  | case6 c tail hq hcode hshort hplain =>
    rw [read?, if_neg hplain] at h
    · obtain ⟨⟨later, _⟩, hread, he⟩ := Option.map_eq_some_iff.1 h
      cases he
      obtain ⟨hb, hr⟩ := not_or.1 hplain
      refine .inr ⟨c, [c], tail, later, rfl, by simp, rfl, hread, fun hn => ?_⟩
      exact .plain hq hb (fun he => hn (by simp [he])) hr
    · exact hq
    · exact hcode
    · exact hshort

/-- What is read on one line is a spelling, up to the quote at its end. -/
theorem exists_spells_of_read? {cs value rest : List Char} (h : read? cs = some (value, rest)) :
    ∃ body, cs = body ++ '"' :: rest ∧ ('\n' ∉ body → Spells value body) := by
  induction hn : cs.length using Nat.strong_induction_on generalizing cs value with
  | h n ih =>
    rcases step_of_read? h with ⟨rfl, rfl⟩ | ⟨c, piece, more, later, rfl, hp, rfl, hread, hw⟩
    · exact ⟨[], rfl, fun _ => .nil⟩
    · have hshorter : more.length < n := by
        have hlength := List.length_pos_iff.2 hp
        rw [List.length_append] at hn
        omega
      obtain ⟨body, rfl, hs⟩ := ih _ hshorter hread rfl
      refine ⟨piece ++ body, by simp, fun hline => ?_⟩
      obtain ⟨hpiece, hbody⟩ := not_or.1 (List.mem_append.not.1 hline)
      exact .cons (hw hpiece) (hs hbody)

theorem read?_append {cs more : List Char} (hn : '\n' ∉ cs) (hq : '"' ∉ more) :
    read? (cs ++ more) = (read? cs).map (Prod.map id (· ++ more)) := by
  cases hread : read? cs with
  | some found =>
    obtain ⟨value, rest⟩ := found
    obtain ⟨body, rfl, hs⟩ := exists_spells_of_read? hread
    have hbody := hs fun hm => hn (List.mem_append_left _ hm)
    rw [List.append_assoc, List.cons_append, read?_of_spells hbody]
    rfl
  | none =>
    cases hlonger : read? (cs ++ more) with
    | none => rfl
    | some found =>
      obtain ⟨value, rest⟩ := found
      obtain ⟨body, he, hs⟩ := exists_spells_of_read? hlonger
      -- the quote that ends the literal is not in what was added
      rcases List.append_eq_append_iff.1 he with ⟨later, -, hl⟩ | ⟨within, rfl, hw⟩
      · exact absurd (hl ▸ List.mem_append_right _ List.mem_cons_self) hq
      · cases within with
        | nil =>
          obtain rfl : '"' :: rest = more := hw
          exact absurd List.mem_cons_self hq
        | cons d within =>
          obtain ⟨rfl, -⟩ := List.cons.inj hw
          have hbody := hs fun hm => hn (List.mem_append_left _ hm)
          rw [read?_of_spells hbody] at hread
          cases hread

end Converse

theorem spells_iff_denotes {cs body : List Char} : Spells cs body ↔ Denotes body cs := by
  refine ⟨denotes_of_spells, fun h => ?_⟩
  obtain ⟨other, he, hs⟩ := exists_spells_of_read? (h.reads [])
  obtain rfl := List.append_cancel_right he
  exact hs h.oneLine.1

end EventSchema.Text.Quoted
