import EventSchema.Proofs.JsonTokens

/-!
What the reader of JSON takes. A text of a value is taken wherever it stands, whatever follows it
and however much fuel is left, as long as the fuel is enough; and everything that the reader ever
takes is such a text. So the accepted documents are the texts of trees with blanks around them.
-/

set_option autoImplicit false

namespace EventSchema.Json

namespace Tree

section Texts

attribute [local simp] read? readItems? readMembers?

/-- The text is taken by the reader as `a`, up to its end and no further. It has no blanks around
it, and is not taken for the end of an array or object. -/
structure IsTextOf {α : Type} (read : Nat → List Char → Option (α × List Char)) (a : α)
    (text : List Char) : Prop where
  starts : ∃ c tail, text = c :: tail ∧ isSpace c = false ∧ c ≠ ']' ∧ c ≠ '\x7d'
  ends : ∃ init c, text = init ++ [c] ∧ isSpace c = false
  reads : ∀ rest fuel, Stops rest → 2 * text.length ≤ fuel →
    read fuel (text ++ rest) = some (a, rest)

theorem read?_skipSpace (fuel : Nat) (cs : List Char) :
    read? fuel (skipSpace cs) = read? fuel cs := by
  cases fuel with
  | zero => rfl
  | succ fuel => simp only [read?, skipSpace_skipSpace]

theorem readItems?_skipSpace (fuel : Nat) (cs : List Char) :
    readItems? fuel (skipSpace cs) = readItems? fuel cs := by
  cases fuel with
  | zero => rfl
  | succ fuel => simp only [readItems?, read?_skipSpace]

theorem readMembers?_skipSpace (fuel : Nat) (cs : List Char) :
    readMembers? fuel (skipSpace cs) = readMembers? fuel cs := by
  cases fuel with
  | zero => rfl
  | succ fuel => simp only [readMembers?, skipSpace_skipSpace]

variable {α : Type} {read : Nat → List Char → Option (α × List Char)} {a : α} {text : List Char}

theorem IsTextOf.skipSpace_eq (h : IsTextOf read a text) (rest : List Char) :
    skipSpace (text ++ rest) = text ++ rest := by
  obtain ⟨c, tail, rfl, hc, -⟩ := h.starts
  exact skipSpace_cons hc _

theorem IsTextOf.reads_blanks (h : IsTextOf read a text)
    (hskip : ∀ fuel cs, read fuel (skipSpace cs) = read fuel cs) {blanks rest : List Char}
    (hb : AllSpace blanks) {fuel : Nat} (hr : Stops rest) (hf : 2 * text.length ≤ fuel) :
    read fuel (blanks ++ (text ++ rest)) = some (a, rest) := by
  rw [← hskip, skipSpace_append hb, hskip]
  exact h.reads rest fuel hr hf

theorem isText_null : IsTextOf read? .null "null".toList where
  starts := ⟨'n', "ull".toList, rfl, rfl, by decide, by decide⟩
  ends := ⟨"nul".toList, 'l', rfl, rfl⟩
  reads := by
    intro rest fuel _ hf
    cases fuel with
    | zero => cases hf
    | succ fuel => rfl

theorem isText_true : IsTextOf read? (.bool true) "true".toList where
  starts := ⟨'t', "rue".toList, rfl, rfl, by decide, by decide⟩
  ends := ⟨"tru".toList, 'e', rfl, rfl⟩
  reads := by
    intro rest fuel _ hf
    cases fuel with
    | zero => cases hf
    | succ fuel => rfl

theorem isText_false : IsTextOf read? (.bool false) "false".toList where
  starts := ⟨'f', "alse".toList, rfl, rfl, by decide, by decide⟩
  ends := ⟨"fals".toList, 'e', rfl, rfl⟩
  reads := by
    intro rest fuel _ hf
    cases fuel with
    | zero => cases hf
    | succ fuel => rfl

theorem isText_str {content : Option String} {body : List Char}
    (h : IsStringBody (some []) content body) :
    IsTextOf read? (.str content) ('"' :: (body ++ ['"'])) where
  starts := ⟨'"', _, rfl, rfl, by decide, by decide⟩
  ends := ⟨'"' :: body, '"', rfl, rfl⟩
  reads := by
    intro rest fuel _ hf
    cases fuel with
    | zero => cases hf
    | succ fuel =>
      have hs := h rest ((body ++ '"' :: rest).length + 1) (by rw [List.length_append]; omega)
      simp only [read?, List.cons_append, List.append_assoc, List.nil_append,
        skipSpace_cons (c := '"') rfl, hs, Option.bind_eq_bind, Option.bind_some]

theorem isText_num {n : Numeral} (h : IsNumeralText false n text) :
    IsTextOf read? (.num n) text := by
  obtain ⟨d, ds, rfl, hd⟩ := h.starts
  have hne : ∀ c : Char, c.isDigit = false → d ≠ c := by
    rintro c hc rfl
    exact absurd hd (by simp [hc])
  refine ⟨⟨d, ds, rfl, isSpace_of_isDigit hd, hne _ rfl, hne _ rfl⟩, ?_, ?_⟩
  · have hlast := List.getLast_mem (List.cons_ne_nil d ds)
    exact ⟨_, _, (List.dropLast_append_getLast (List.cons_ne_nil d ds)).symm, h.solid _ hlast⟩
  · intro rest fuel hr hf
    cases fuel with
    | zero => cases hf
    | succ fuel =>
      have hn := h.reads rest hr
      simp only [List.cons_append] at hn
      simp only [read?, List.cons_append, skipSpace_cons (isSpace_of_isDigit hd)]
      split
      · next he => exact absurd (List.cons.inj he).1 (hne _ rfl)
      · next he => exact absurd (List.cons.inj he).1 (hne _ rfl)
      · next he => exact absurd (List.cons.inj he).1 (hne _ rfl)
      · next he => exact absurd (List.cons.inj he).1 (hne _ rfl)
      · next he => exact absurd (List.cons.inj he).1 (hne _ rfl)
      · next he => exact absurd (List.cons.inj he).1 (hne _ rfl)
      · next he => exact absurd (List.cons.inj he).1 (hne _ rfl)
      · simp only [hn, Option.bind_eq_bind, Option.bind_some]

theorem isText_negative {n : Numeral} (h : IsNumeralText true n text) :
    IsTextOf read? (.num n) ('-' :: text) := by
  obtain ⟨d, ds, rfl, hd⟩ := h.starts
  refine ⟨⟨'-', _, rfl, rfl, by decide, by decide⟩, ?_, ?_⟩
  · have hlast := List.getLast_mem (List.cons_ne_nil d ds)
    refine ⟨'-' :: (d :: ds).dropLast, _, ?_, h.solid _ hlast⟩
    rw [List.cons_append, List.dropLast_append_getLast]
  · intro rest fuel hr hf
    cases fuel with
    | zero => cases hf
    | succ fuel =>
      have hn := h.reads rest hr
      simp only [List.cons_append] at hn
      simp only [read?, List.cons_append, skipSpace_cons (c := '-') rfl, hn, Option.bind_eq_bind,
        Option.bind_some]

theorem isText_nilArr {blanks : List Char} (hb : AllSpace blanks) :
    IsTextOf read? (.arr []) ('[' :: (blanks ++ [']'])) where
  starts := ⟨'[', _, rfl, rfl, by decide, by decide⟩
  ends := ⟨'[' :: blanks, ']', rfl, rfl⟩
  reads := by
    intro rest fuel _ hf
    cases fuel with
    | zero => cases hf
    | succ fuel =>
      simp only [read?, List.cons_append, List.append_assoc, List.nil_append,
        skipSpace_cons (c := '[') rfl, skipSpace_append hb, skipSpace_cons (c := ']') rfl]

theorem isText_arr {items : List Tree} {blanks : List Char} (hb : AllSpace blanks)
    (h : IsTextOf readItems? items text) :
    IsTextOf read? (.arr items) ('[' :: (blanks ++ text)) where
  starts := ⟨'[', _, rfl, rfl, by decide, by decide⟩
  ends := by
    obtain ⟨init, c, rfl, hc⟩ := h.ends
    exact ⟨'[' :: (blanks ++ init), c, by simp, hc⟩
  reads := by
    intro rest fuel hr hf
    cases fuel with
    | zero => cases hf
    | succ fuel =>
      have hitems := h.reads rest fuel hr (by simp at hf; omega)
      obtain ⟨c, tail, rfl, -, hc, -⟩ := h.starts
      simp only [read?, List.cons_append, List.append_assoc, skipSpace_cons (c := '[') rfl,
        skipSpace_append hb]
      rw [← List.cons_append, h.skipSpace_eq, List.cons_append]
      split
      · next he => exact absurd (List.cons.inj he).1 hc
      · simp only [← List.cons_append, hitems, Option.bind_eq_bind, Option.bind_some]

theorem isText_nilObj {blanks : List Char} (hb : AllSpace blanks) :
    IsTextOf read? (.obj []) ('\x7b' :: (blanks ++ ['\x7d'])) where
  starts := ⟨'\x7b', _, rfl, rfl, by decide, by decide⟩
  ends := ⟨'\x7b' :: blanks, '\x7d', rfl, rfl⟩
  reads := by
    intro rest fuel _ hf
    cases fuel with
    | zero => cases hf
    | succ fuel =>
      simp only [read?, List.cons_append, List.append_assoc, List.nil_append,
        skipSpace_cons (c := '\x7b') rfl, skipSpace_append hb, skipSpace_cons (c := '\x7d') rfl]

theorem isText_obj {members : List (Option String × Tree)} {blanks : List Char}
    (hb : AllSpace blanks) (h : IsTextOf readMembers? members text) :
    IsTextOf read? (.obj members) ('\x7b' :: (blanks ++ text)) where
  starts := ⟨'\x7b', _, rfl, rfl, by decide, by decide⟩
  ends := by
    obtain ⟨init, c, rfl, hc⟩ := h.ends
    exact ⟨'\x7b' :: (blanks ++ init), c, by simp, hc⟩
  reads := by
    intro rest fuel hr hf
    cases fuel with
    | zero => cases hf
    | succ fuel =>
      have hmembers := h.reads rest fuel hr (by simp at hf; omega)
      obtain ⟨c, tail, rfl, -, -, hc⟩ := h.starts
      simp only [read?, List.cons_append, List.append_assoc, skipSpace_cons (c := '\x7b') rfl,
        skipSpace_append hb]
      rw [← List.cons_append, h.skipSpace_eq, List.cons_append]
      split
      · next he => exact absurd (List.cons.inj he).1 hc
      · simp only [← List.cons_append, hmembers, Option.bind_eq_bind, Option.bind_some]

theorem stops_mark (c : Char) (h : c = ',' ∨ c = ']' ∨ c = '\x7d') (rest : List Char) :
    Stops (c :: rest) := by
  apply Stops.cons
  rcases h with rfl | rfl | rfl <;> decide

variable {item : Tree} {blanks before : List Char}

theorem isText_lastItem (h : IsTextOf read? item text) (hb : AllSpace blanks) :
    IsTextOf readItems? [item] (text ++ (blanks ++ [']'])) where
  starts := by
    obtain ⟨c, tail, rfl, hc⟩ := h.starts
    exact ⟨c, _, rfl, hc⟩
  ends := ⟨text ++ blanks, ']', by simp, rfl⟩
  reads := by
    intro rest fuel hr hf
    cases fuel with
    | zero => simp at hf
    | succ fuel =>
      have hitem := h.reads (blanks ++ ']' :: rest) fuel (hb.stops (stops_mark _ (by simp) _))
        (by simp at hf; omega)
      simp only [readItems?, List.append_assoc, List.singleton_append, hitem, Option.bind_eq_bind,
        Option.bind_some, skipSpace_append hb, skipSpace_cons (c := ']') rfl]

theorem isText_consItem {items : List Tree} {itemsText : List Char}
    (h : IsTextOf read? item text) (hb : AllSpace blanks) (hb' : AllSpace before)
    (hi : IsTextOf readItems? items itemsText) :
    IsTextOf readItems? (item :: items)
      (text ++ (blanks ++ ',' :: (before ++ itemsText))) where
  starts := by
    obtain ⟨c, tail, rfl, hc⟩ := h.starts
    exact ⟨c, _, rfl, hc⟩
  ends := by
    obtain ⟨init, c, rfl, hc⟩ := hi.ends
    exact ⟨text ++ (blanks ++ ',' :: (before ++ init)), c, by simp, hc⟩
  reads := by
    intro rest fuel hr hf
    cases fuel with
    | zero => simp at hf
    | succ fuel =>
      have hitem := h.reads (blanks ++ ',' :: (before ++ (itemsText ++ rest))) fuel
        (hb.stops (stops_mark _ (by simp) _)) (by simp at hf; omega)
      have hitems := hi.reads_blanks readItems?_skipSpace hb' hr
        (show 2 * itemsText.length ≤ fuel by simp at hf; omega)
      simp only [readItems?, List.append_assoc, List.cons_append, hitem, Option.bind_eq_bind,
        Option.bind_some, skipSpace_append hb, skipSpace_cons (c := ',') rfl, hitems]

variable {key : Option String} {body gap : List Char}

theorem isText_lastMember (hk : IsStringBody (some []) key body) (hg : AllSpace gap)
    (hb : AllSpace before) (h : IsTextOf read? item text) (hb' : AllSpace blanks) :
    IsTextOf readMembers? [(key, item)]
      ('"' :: (body ++ '"' :: (gap ++ ':' :: (before ++ (text ++ (blanks ++ ['\x7d'])))))) where
  starts := ⟨'"', _, rfl, rfl, by decide, by decide⟩
  ends := ⟨'"' :: (body ++ '"' :: (gap ++ ':' :: (before ++ (text ++ blanks)))), '\x7d', by simp,
    rfl⟩
  reads := by
    intro rest fuel hr hf
    cases fuel with
    | zero => simp at hf
    | succ fuel =>
      have hkey := fun tail =>
        hk tail ((body ++ '"' :: tail).length + 1) (by rw [List.length_append]; omega)
      have hvalue := h.reads_blanks read?_skipSpace hb
        (hb'.stops (stops_mark '\x7d' (by simp) rest))
        (show 2 * text.length ≤ fuel by simp at hf; omega)
      simp only [readMembers?, List.append_assoc, List.cons_append, List.nil_append,
        skipSpace_cons (c := '"') rfl, hkey, Option.bind_eq_bind, Option.bind_some,
        skipSpace_append hg, skipSpace_cons (c := ':') rfl, hvalue, skipSpace_append hb',
        skipSpace_cons (c := '\x7d') rfl]

theorem isText_consMember {members : List (Option String × Tree)} {next membersText : List Char}
    (hk : IsStringBody (some []) key body) (hg : AllSpace gap)
    (hb : AllSpace before) (h : IsTextOf read? item text) (hb' : AllSpace blanks)
    (hn : AllSpace next) (hm : IsTextOf readMembers? members membersText) :
    IsTextOf readMembers? ((key, item) :: members)
      ('"' :: (body ++ '"' :: (gap ++ ':' :: (before ++ (text ++ (blanks ++
        ',' :: (next ++ membersText))))))) where
  starts := ⟨'"', _, rfl, rfl, by decide, by decide⟩
  ends := by
    obtain ⟨init, c, rfl, hc⟩ := hm.ends
    exact ⟨'"' :: (body ++ '"' :: (gap ++ ':' :: (before ++ (text ++ (blanks ++
      ',' :: (next ++ init)))))), c, by simp, hc⟩
  reads := by
    intro rest fuel hr hf
    cases fuel with
    | zero => simp at hf
    | succ fuel =>
      have hkey := fun tail =>
        hk tail ((body ++ '"' :: tail).length + 1) (by rw [List.length_append]; omega)
      have hvalue := h.reads_blanks read?_skipSpace hb
        (hb'.stops (stops_mark ',' (by simp) (next ++ (membersText ++ rest))))
        (show 2 * text.length ≤ fuel by simp at hf; omega)
      have hmembers := hm.reads_blanks readMembers?_skipSpace hn hr
        (show 2 * membersText.length ≤ fuel by simp at hf; omega)
      simp only [readMembers?, List.append_assoc, List.cons_append,
        skipSpace_cons (c := '"') rfl, hkey, Option.bind_eq_bind, Option.bind_some,
        skipSpace_append hg, skipSpace_cons (c := ':') rfl, hvalue, skipSpace_append hb',
        skipSpace_cons (c := ',') rfl, hmembers]

end Texts

/-- Whatever a reader takes, blanks before it aside, is a text of what it gives. -/
def TakesTexts {α : Type} (read : Nat → List Char → Option (α × List Char)) (fuel : Nat) : Prop :=
  ∀ cs a r, read fuel cs = some (a, r) → ∃ text, skipSpace cs = text ++ r ∧ IsTextOf read a text

theorem read?_succ_takes {fuel : Nat} (hi : TakesTexts readItems? fuel)
    (hm : TakesTexts readMembers? fuel) : TakesTexts read? (fuel + 1) := by
  intro cs t r h
  rw [read?] at h
  split at h
  · next rest he =>
    cases h
    exact ⟨_, he, isText_null⟩
  · next rest he =>
    cases h
    exact ⟨_, he, isText_true⟩
  · next rest he =>
    cases h
    exact ⟨_, he, isText_false⟩
  · next rest he =>
    simp only [Option.bind_eq_bind, Option.bind_eq_some_iff, Option.some.injEq,
      Prod.mk.injEq] at h
    obtain ⟨⟨content, tail⟩, hs, rfl, rfl⟩ := h
    obtain ⟨body, rfl, hb⟩ := isStringBody_of_readString? hs
    exact ⟨_, by simp [he], isText_str hb⟩
  · next rest he =>
    obtain ⟨blanks, hb, hrest⟩ := exists_blanks rest
    split at h
    · next tail ht =>
      cases h
      refine ⟨_, ?_, isText_nilArr hb⟩
      rw [he, hrest, ht]
      simp
    · simp only [Option.bind_eq_bind, Option.bind_eq_some_iff, Option.some.injEq,
        Prod.mk.injEq] at h
      obtain ⟨⟨items, tail⟩, hread, rfl, rfl⟩ := h
      obtain ⟨text, htext, ht⟩ := hi _ _ _ hread
      rw [skipSpace_skipSpace] at htext
      refine ⟨'[' :: (blanks ++ text), ?_, isText_arr hb ht⟩
      rw [he, hrest, htext]
      simp
  · next rest he =>
    obtain ⟨blanks, hb, hrest⟩ := exists_blanks rest
    split at h
    · next tail ht =>
      cases h
      refine ⟨_, ?_, isText_nilObj hb⟩
      rw [he, hrest, ht]
      simp
    · simp only [Option.bind_eq_bind, Option.bind_eq_some_iff, Option.some.injEq,
        Prod.mk.injEq] at h
      obtain ⟨⟨members, tail⟩, hread, rfl, rfl⟩ := h
      obtain ⟨text, htext, ht⟩ := hm _ _ _ hread
      rw [skipSpace_skipSpace] at htext
      refine ⟨'\x7b' :: (blanks ++ text), ?_, isText_obj hb ht⟩
      rw [he, hrest, htext]
      simp
  · next rest he =>
    simp only [Option.bind_eq_bind, Option.bind_eq_some_iff, Option.some.injEq,
      Prod.mk.injEq] at h
    obtain ⟨⟨n, tail⟩, hn, rfl, rfl⟩ := h
    obtain ⟨text, rfl, ht⟩ := isNumeralText_of_readNumeral? hn
    exact ⟨'-' :: text, he, isText_negative ht⟩
  · simp only [Option.bind_eq_bind, Option.bind_eq_some_iff, Option.some.injEq,
      Prod.mk.injEq] at h
    obtain ⟨⟨n, tail⟩, hn, rfl, rfl⟩ := h
    obtain ⟨text, he, ht⟩ := isNumeralText_of_readNumeral? hn
    exact ⟨text, he, isText_num ht⟩

theorem readItems?_succ_takes {fuel : Nat} (hv : TakesTexts read? fuel)
    (hi : TakesTexts readItems? fuel) : TakesTexts readItems? (fuel + 1) := by
  intro cs items r h
  simp only [readItems?, Option.bind_eq_bind, Option.bind_eq_some_iff] at h
  obtain ⟨⟨item, rest⟩, hread, h⟩ := h
  obtain ⟨text, htext, ht⟩ := hv _ _ _ hread
  obtain ⟨blanks, hb, hrest⟩ := exists_blanks rest
  simp only at h
  split at h
  · next tail he =>
    simp only [Option.bind_eq_some_iff, Option.some.injEq, Prod.mk.injEq] at h
    obtain ⟨⟨items, after⟩, hitems, rfl, rfl⟩ := h
    obtain ⟨before, hb', htail⟩ := exists_blanks tail
    obtain ⟨itemsText, hi', hit⟩ := hi _ _ _ hitems
    refine ⟨_, ?_, isText_consItem ht hb hb' hit⟩
    rw [htext, hrest, he, htail, hi']
    simp
  · next tail he =>
    cases h
    refine ⟨_, ?_, isText_lastItem ht hb⟩
    rw [htext, hrest, he]
    simp
  · cases h

theorem readMembers?_succ_takes {fuel : Nat} (hv : TakesTexts read? fuel)
    (hm : TakesTexts readMembers? fuel) : TakesTexts readMembers? (fuel + 1) := by
  intro cs members r h
  rw [readMembers?] at h
  split at h
  · next rest he =>
    simp only [Option.bind_eq_bind, Option.bind_eq_some_iff] at h
    obtain ⟨⟨key, afterKey⟩, hkey, h⟩ := h
    obtain ⟨body, rfl, hk⟩ := isStringBody_of_readString? hkey
    obtain ⟨gap, hg, hgap⟩ := exists_blanks afterKey
    simp only at h
    split at h
    · next colon hc =>
      simp only [Option.bind_eq_some_iff] at h
      obtain ⟨⟨value, afterValue⟩, hread, h⟩ := h
      obtain ⟨before, hb, hbefore⟩ := exists_blanks colon
      obtain ⟨text, htext, ht⟩ := hv _ _ _ hread
      obtain ⟨blanks, hb', hblanks⟩ := exists_blanks afterValue
      simp only at h
      split at h
      · next comma hcomma =>
        simp only [Option.bind_eq_some_iff, Option.some.injEq, Prod.mk.injEq] at h
        obtain ⟨⟨members, after⟩, hmembers, rfl, rfl⟩ := h
        obtain ⟨next, hn, hnext⟩ := exists_blanks comma
        obtain ⟨membersText, hmt, hmi⟩ := hm _ _ _ hmembers
        refine ⟨_, ?_, isText_consMember hk hg hb ht hb' hn hmi⟩
        rw [he, hgap, hc, hbefore, htext, hblanks, hcomma, hnext, hmt]
        simp
      · next close hclose =>
        cases h
        refine ⟨_, ?_, isText_lastMember hk hg hb ht hb'⟩
        rw [he, hgap, hc, hbefore, htext, hblanks, hclose]
        simp
      · cases h
    · cases h
  · cases h

theorem readers_take_texts (fuel : Nat) :
    TakesTexts read? fuel ∧ TakesTexts readItems? fuel ∧ TakesTexts readMembers? fuel := by
  induction fuel with
  | zero =>
    refine ⟨?_, ?_, ?_⟩ <;>
    · intro cs a r h
      cases h
  | succ fuel ih =>
    obtain ⟨hv, hi, hm⟩ := ih
    exact ⟨read?_succ_takes hi hm, readItems?_succ_takes hv hi, readMembers?_succ_takes hv hm⟩

/-- The accepted documents are the texts of trees, with blanks around them. -/
theorem ofChars?_eq_some_iff {cs : List Char} {t : Tree} :
    ofChars? cs = some t ↔ ∃ before text after, cs = before ++ (text ++ after) ∧
      AllSpace before ∧ AllSpace after ∧ IsTextOf read? t text := by
  constructor
  · intro h
    simp only [ofChars?, Option.bind_eq_bind, Option.bind_eq_some_iff] at h
    obtain ⟨⟨tree, rest⟩, hread, h⟩ := h
    simp only at h
    split at h
    · next hrest =>
      cases h
      obtain ⟨text, htext, ht⟩ := (readers_take_texts _).1 _ _ _ hread
      obtain ⟨before, hb, hcs⟩ := exists_blanks cs
      obtain ⟨after, ha, hafter⟩ := exists_blanks rest
      rw [List.isEmpty_iff.1 hrest, List.append_nil] at hafter
      exact ⟨before, text, rest, by rw [← htext]; exact hcs, hb, hafter ▸ ha, ht⟩
    · cases h
  · rintro ⟨before, text, after, rfl, hb, ha, ht⟩
    have hstop : Stops after := by simpa using ha.stops Stops.nil
    have hread := ht.reads_blanks read?_skipSpace hb hstop
      (show 2 * text.length ≤ 2 * (before ++ (text ++ after)).length + 2 by simp; omega)
    have hempty : skipSpace after = [] := by simpa [skipSpace] using skipSpace_append ha []
    simp only [ofChars?, hread, hempty, Option.bind_eq_bind, Option.bind_some, List.isEmpty_nil,
      if_true]

end Tree

end EventSchema.Json
