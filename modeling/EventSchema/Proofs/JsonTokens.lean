import Mathlib.Data.List.DropRight
import Mathlib.Data.List.TakeDrop
import EventSchema.Json.Reader
import EventSchema.Proofs.Digits

set_option autoImplicit false

namespace EventSchema.Json

open Text

def AllSpace (cs : List Char) : Prop :=
  ∀ c ∈ cs, isSpace c = true

theorem AllSpace.nil : AllSpace [] := List.forall_mem_nil _

theorem skipSpace_append {blanks : List Char} (h : AllSpace blanks) (cs : List Char) :
    skipSpace (blanks ++ cs) = skipSpace cs :=
  List.dropWhile_append_of_pos h

theorem skipSpace_cons {c : Char} (h : isSpace c = false) (cs : List Char) :
    skipSpace (c :: cs) = c :: cs := by
  simp [skipSpace, h]

@[simp] theorem skipSpace_skipSpace (cs : List Char) : skipSpace (skipSpace cs) = skipSpace cs :=
  List.dropWhile_idempotent _ _

theorem exists_blanks (cs : List Char) : ∃ blanks, AllSpace blanks ∧ cs = blanks ++ skipSpace cs :=
  ⟨cs.takeWhile isSpace, fun _ => List.mem_takeWhile_imp, List.takeWhile_append_dropWhile.symm⟩

section Strings

attribute [local simp] readString?

/-- The reader takes `body` and the quote after it. -/
def IsStringBody (acc : Option (List Char)) (content : Option String) (body : List Char) : Prop :=
  ∀ rest fuel, body.length < fuel →
    readString? fuel acc (body ++ '"' :: rest) = some (content, rest)

variable {acc : Option (List Char)} {content : Option String} {body : List Char}

theorem IsStringBody.nil :
    IsStringBody acc (acc.map fun cs => String.ofList cs.reverse) [] := by
  intro rest fuel hf
  cases fuel with
  | zero => omega
  | succ fuel => rfl

theorem IsStringBody.plain {c : Char} (hq : c ≠ '"') (hb : c ≠ '\\') (hc : ¬ c.toNat < 0x20)
    (h : IsStringBody (acc.map (c :: ·)) content body) : IsStringBody acc content (c :: body) := by
  intro rest fuel hf
  cases fuel with
  | zero => omega
  | succ fuel =>
    have hrest := h rest fuel (by simpa using hf)
    rw [List.cons_append, readString?, if_neg (by simp [hb, hc]), hrest]
    · exact hq
    · exact fun _ he => absurd he hb
    · exact fun _ _ he => absurd he hb

theorem IsStringBody.short {c d : Char} (hd : shortEscape? c = some d)
    (h : IsStringBody (acc.map (d :: ·)) content body) :
    IsStringBody acc content ('\\' :: c :: body) := by
  intro rest fuel hf
  have hu : c ≠ 'u' := by
    rintro rfl
    cases hd
  cases fuel with
  | zero => omega
  | succ fuel =>
    have hrest := h rest fuel (by simp at hf; omega)
    rw [List.cons_append, List.cons_append, readString?, hd]
    · exact hrest
    · exact hu

theorem readUnit?_eq_some {cs r : List Char} {unit : Nat} (h : readUnit? cs = some (unit, r)) :
    ∃ digits, cs = digits ++ r ∧ digits.length = 4 ∧
      ∀ rest, readUnit? (digits ++ rest) = some (unit, rest) := by
  match cs, h with
  | a :: b :: c :: d :: tail, h =>
    simp only [readUnit?, Option.bind_eq_bind, Option.bind_eq_some_iff, Option.some.injEq,
      Prod.mk.injEq] at h
    obtain ⟨i, hi, j, hj, k, hk, l, hl, rfl, rfl⟩ := h
    exact ⟨[a, b, c, d], rfl, rfl, fun rest => by simp [readUnit?, hi, hj, hk, hl]⟩

variable {code low : Nat} {digits lowDigits : List Char}

theorem IsStringBody.unit (hd : ∀ rest, readUnit? (digits ++ rest) = some (code, rest))
    (hh : isHighSurrogate code = false) (hl : isLowSurrogate code = false)
    (h : IsStringBody (acc.map (Char.ofNat code :: ·)) content body) :
    IsStringBody acc content ('\\' :: 'u' :: (digits ++ body)) := by
  intro rest fuel hf
  cases fuel with
  | zero => omega
  | succ fuel =>
    have hrest := h rest fuel (by simp at hf; omega)
    simpa [hd, hh, hl] using hrest

theorem IsStringBody.loneLow (hd : ∀ rest, readUnit? (digits ++ rest) = some (code, rest))
    (hh : isHighSurrogate code = false) (hl : isLowSurrogate code = true)
    (h : IsStringBody none content body) :
    IsStringBody acc content ('\\' :: 'u' :: (digits ++ body)) := by
  intro rest fuel hf
  cases fuel with
  | zero => omega
  | succ fuel =>
    have hrest := h rest fuel (by simp at hf; omega)
    simpa [hd, hh, hl] using hrest

/-- What follows a lone half is no other escape of this kind; the quote after the body keeps that
so, whatever comes behind it. -/
theorem IsStringBody.loneHigh (hd : ∀ rest, readUnit? (digits ++ rest) = some (code, rest))
    (hh : isHighSurrogate code = true) {r : List Char}
    (hn : ∀ after, body ++ '"' :: r ≠ '\\' :: 'u' :: after) (h : IsStringBody none content body) :
    IsStringBody acc content ('\\' :: 'u' :: (digits ++ body)) := by
  intro rest fuel hf
  cases fuel with
  | zero => omega
  | succ fuel =>
    have hrest := h rest fuel (by simp at hf; omega)
    have hstop : ∀ after, body ++ '"' :: rest ≠ '\\' :: 'u' :: after := by
      intro after he
      match body, hn, he with
      | [c], _, he => simp at he
      | c :: d :: tail, hn, he =>
        simp only [List.cons_append, List.cons.injEq] at he
        exact hn (tail ++ '"' :: r) (by simp [he.1, he.2.1])
    simp only [List.cons_append, List.append_assoc, readString?, hd, hh, Option.bind_eq_bind,
      Option.bind_some, if_true]
    exact hrest

theorem IsStringBody.pair (hd : ∀ rest, readUnit? (digits ++ rest) = some (code, rest))
    (hh : isHighSurrogate code = true)
    (hld : ∀ rest, readUnit? (lowDigits ++ rest) = some (low, rest))
    (h : IsStringBody (if isLowSurrogate low then acc.map (pairChar code low :: ·) else none)
      content body) :
    IsStringBody acc content ('\\' :: 'u' :: (digits ++ '\\' :: 'u' :: (lowDigits ++ body))) := by
  intro rest fuel hf
  cases fuel with
  | zero => omega
  | succ fuel =>
    have hrest := h rest fuel (by simp at hf; omega)
    simp only [List.cons_append, List.append_assoc, readString?, hd, hh, hld, Option.bind_eq_bind,
      Option.bind_some, if_true]
    split
    · next hl => simpa [hl] using hrest
    · next hl => simpa [hl] using hrest

theorem isStringBody_of_readString? {fuel : Nat} {cs r : List Char}
    (h : readString? fuel acc cs = some (content, r)) :
    ∃ body, cs = body ++ '"' :: r ∧ IsStringBody acc content body := by
  fun_induction readString? fuel acc cs with
  | case1 => cases h
  | case2 => cases h
  | case3 fuel acc rest =>
    cases h
    exact ⟨[], rfl, .nil⟩
  | case4 fuel acc rest ihPair ihLone ihUnit =>
    simp only [Option.bind_eq_bind, Option.bind_eq_some_iff] at h
    obtain ⟨⟨unit, tail⟩, hu, h⟩ := h
    obtain ⟨digits, rfl, -, hd⟩ := readUnit?_eq_some hu
    simp only at h
    split at h
    · next hh =>
      split at h
      · simp only [Option.bind_eq_some_iff] at h
        obtain ⟨⟨low, after⟩, hl, h⟩ := h
        obtain ⟨lowDigits, rfl, -, hld⟩ := readUnit?_eq_some hl
        simp only at h
        split at h
        · next hlow =>
          obtain ⟨body, rfl, hb⟩ := ihPair unit low after h
          refine ⟨_, ?_, .pair hd hh hld (by simpa [hlow] using hb)⟩
          simp
        · next hlow =>
          obtain ⟨body, rfl, hb⟩ := ihLone after h
          refine ⟨_, ?_, .pair hd hh hld (by simpa [hlow] using hb)⟩
          simp
      · next hn =>
        obtain ⟨body, rfl, hb⟩ := ihLone tail h
        refine ⟨_, ?_, .loneHigh hd hh hn hb⟩
        simp
    · next hh =>
      split at h
      · next hl =>
        obtain ⟨body, rfl, hb⟩ := ihLone tail h
        refine ⟨_, ?_, .loneLow hd (by simpa using hh) hl hb⟩
        simp
      · next hl =>
        obtain ⟨body, rfl, hb⟩ := ihUnit unit tail h
        refine ⟨_, ?_, .unit hd (by simpa using hh) (by simpa using hl) hb⟩
        simp
  | case5 fuel acc c rest hu ih =>
    obtain ⟨d, hd, h⟩ := Option.bind_eq_some_iff.1 h
    obtain ⟨body, rfl, hb⟩ := ih d h
    exact ⟨_, rfl, .short hd hb⟩
  | case6 => cases h
  | case7 fuel acc c rest hq _ _ hc ih =>
    obtain ⟨body, rfl, hb⟩ := ih h
    rw [not_or] at hc
    exact ⟨_, rfl, .plain hq hc.1 hc.2 hb⟩

end Strings

section Numerals

/-- A number that stands before this text ends there. -/
def Stops (rest : List Char) : Prop :=
  ∀ c ∈ rest.head?, c.isDigit = false ∧ c ≠ '.' ∧ c ≠ 'e' ∧ c ≠ 'E'

theorem Stops.endsDigits {rest : List Char} (h : Stops rest) : EndsDigits rest :=
  fun c hc => (h c hc).1

theorem Stops.nil : Stops [] := by
  rintro c ⟨⟩

theorem Stops.cons {c : Char} (h : c.isDigit = false ∧ c ≠ '.' ∧ c ≠ 'e' ∧ c ≠ 'E')
    (rest : List Char) : Stops (c :: rest) := by
  rintro d ⟨⟩
  exact h

theorem stops_of_isSpace {c : Char} (h : isSpace c = true) (rest : List Char) :
    Stops (c :: rest) := by
  simp only [isSpace, Bool.or_eq_true, beq_iff_eq] at h
  apply Stops.cons
  rcases h with ((rfl | rfl) | rfl) | rfl <;> decide

theorem AllSpace.stops {blanks : List Char} (h : AllSpace blanks) {rest : List Char}
    (hr : Stops rest) : Stops (blanks ++ rest) := by
  cases blanks with
  | nil => exact hr
  | cons c blanks => exact stops_of_isSpace (h c List.mem_cons_self) _

theorem isSpace_of_isDigit {c : Char} (h : c.isDigit = true) : isSpace c = false := by
  by_contra hs
  rw [Bool.not_eq_false] at hs
  simp only [isSpace, Bool.or_eq_true, beq_iff_eq] at hs
  rcases hs with ((rfl | rfl) | rfl) | rfl <;> cases h

theorem takeDigits_eq (cs : List Char) :
    takeDigits cs = (cs.takeWhile Char.isDigit, cs.dropWhile Char.isDigit) :=
  List.span_eq_takeWhile_dropWhile ..

theorem takeDigits_append {digits rest : List Char} (hd : ∀ c ∈ digits, c.isDigit = true)
    (hr : EndsDigits rest) : takeDigits (digits ++ rest) = (digits, rest) := by
  obtain ⟨ht, hd⟩ := span_digits hd hr
  rw [takeDigits_eq, ht, hd]

theorem of_takeDigits_eq {cs digits r : List Char} (h : takeDigits cs = (digits, r)) :
    cs = digits ++ r ∧ (∀ c ∈ digits, c.isDigit = true) ∧ EndsDigits r := by
  rw [takeDigits_eq, Prod.mk.injEq] at h
  obtain ⟨rfl, rfl⟩ := h
  exact ⟨List.takeWhile_append_dropWhile.symm, fun _ => List.mem_takeWhile_imp,
    endsDigits_dropWhile cs⟩

theorem readWhole?_append {d : Char} {ds rest : List Char}
    (hd : ∀ c ∈ d :: ds, c.isDigit = true) (hz : d = '0' → ds = []) (hr : EndsDigits rest) :
    readWhole? (d :: ds ++ rest) = some (d :: ds, rest) := by
  rw [readWhole?, takeDigits_append hd hr]
  split
  · next he => cases he
  · next he =>
    simp only [Prod.mk.injEq, List.cons.injEq] at he
    cases (hz he.1.1).symm.trans he.1.2
  · next he =>
    cases he
    rfl

theorem readWhole?_eq_some {cs whole r : List Char} (h : readWhole? cs = some (whole, r)) :
    cs = whole ++ r ∧ (∀ c ∈ whole, c.isDigit = true) ∧
      ∃ d ds, whole = d :: ds ∧ (d = '0' → ds = []) := by
  rw [readWhole?] at h
  split at h
  · cases h
  · cases h
  · next digits rest hn hz he =>
    cases h
    obtain ⟨hcs, hd, -⟩ := of_takeDigits_eq he
    refine ⟨hcs, hd, ?_⟩
    match whole, hn, hz with
    | [], hn, _ => exact absurd rfl hn
    | [d], _, _ => exact ⟨d, [], rfl, fun _ => rfl⟩
    | d :: e :: ds, _, hz => exact ⟨d, e :: ds, rfl, fun hd => absurd (by rw [hd]) (hz e ds)⟩

theorem readFraction?_eq_some {cs r : List Char} {fraction : Option (List Char)}
    (h : readFraction? cs = some (fraction, r)) :
    ∃ text, cs = text ++ r ∧ (∀ c ∈ text, isSpace c = false) ∧ (∀ c ∈ text.head?, c = '.') ∧
      ∀ rest, EndsDigits rest → rest.head? ≠ some '.' →
        readFraction? (text ++ rest) = some (fraction, rest) := by
  unfold readFraction? at h
  split at h
  · next tail =>
    split at h
    · cases h
    · next digits rest hn he =>
      cases h
      obtain ⟨rfl, hd, -⟩ := of_takeDigits_eq he
      refine ⟨'.' :: digits, rfl, ?_, by simp, ?_⟩
      · intro c hc
        rcases List.mem_cons.1 hc with rfl | hc
        · rfl
        · exact isSpace_of_isDigit (hd c hc)
      · intro rest hr _
        rw [List.cons_append, readFraction?, takeDigits_append hd hr]
        split
        · next hnil =>
          cases hnil
          exact absurd rfl hn
        · next he' =>
          cases he'
          rfl
  · next hn =>
    cases h
    refine ⟨[], rfl, by simp, by simp, ?_⟩
    intro rest _ hp
    rw [List.nil_append, readFraction?]
    rintro tail rfl
    exact hp rfl

theorem readExponentDigits?_eq_some {negative : Bool} {cs r : List Char}
    {exponent : Option Exponent} (h : readExponentDigits? negative cs = some (exponent, r)) :
    ∃ digits, cs = digits ++ r ∧ (∀ c ∈ digits, c.isDigit = true) ∧ digits ≠ [] ∧
      ∀ rest, EndsDigits rest →
        readExponentDigits? negative (digits ++ rest) = some (exponent, rest) := by
  rw [readExponentDigits?] at h
  split at h
  · cases h
  · next digits rest hn he =>
    cases h
    obtain ⟨rfl, hd, -⟩ := of_takeDigits_eq he
    refine ⟨digits, rfl, hd, hn, ?_⟩
    intro rest hr
    rw [readExponentDigits?, takeDigits_append hd hr]
    split
    · next hnil =>
      cases hnil
      exact absurd rfl hn
    · next he' =>
      cases he'
      rfl

theorem readExponent?_eq_some {cs r : List Char} {exponent : Option Exponent}
    (h : readExponent? cs = some (exponent, r)) :
    ∃ text, cs = text ++ r ∧ (∀ c ∈ text, isSpace c = false) ∧
      (∀ c ∈ text.head?, c = 'e' ∨ c = 'E') ∧
      ∀ rest, Stops rest → readExponent? (text ++ rest) = some (exponent, rest) := by
  unfold readExponent? at h
  split at h
  · next mark tail =>
    split at h
    · next hm =>
      have hmark : isSpace mark = false := by rcases hm with rfl | rfl <;> rfl
      -- The sign, if any, is kept; the digits are those of `readExponentDigits?`.
      have key : ∀ (sign digits : List Char), tail = sign ++ (digits ++ r) →
          (∀ c ∈ sign, isSpace c = false) → (∀ c ∈ digits, c.isDigit = true) →
          (∀ rest, Stops rest →
            readExponent? (mark :: (sign ++ (digits ++ rest))) = some (exponent, rest)) →
          ∃ text, mark :: tail = text ++ r ∧ (∀ c ∈ text, isSpace c = false) ∧
            (∀ c ∈ text.head?, c = 'e' ∨ c = 'E') ∧
            ∀ rest, Stops rest → readExponent? (text ++ rest) = some (exponent, rest) := by
        intro sign digits htail hs hd hreads
        refine ⟨mark :: (sign ++ digits), by simp [htail], ?_, by simpa using hm, ?_⟩
        · intro c hc
          rcases List.mem_cons.1 hc with rfl | hc
          · exact hmark
          · rcases List.mem_append.1 hc with hc | hc
            · exact hs c hc
            · exact isSpace_of_isDigit (hd c hc)
        · intro rest hr
          simpa using hreads rest hr
      split at h
      · obtain ⟨digits, rfl, hd, -, hreads⟩ := readExponentDigits?_eq_some h
        refine key ['+'] digits rfl (by simp [isSpace]) hd fun rest hr => ?_
        simpa [readExponent?, hm] using hreads rest hr.endsDigits
      · obtain ⟨digits, rfl, hd, -, hreads⟩ := readExponentDigits?_eq_some h
        refine key ['-'] digits rfl (by simp [isSpace]) hd fun rest hr => ?_
        simpa [readExponent?, hm] using hreads rest hr.endsDigits
      · next hplus hminus =>
        obtain ⟨digits, rfl, hd, hne, hreads⟩ := readExponentDigits?_eq_some h
        refine key [] digits rfl (by simp) hd fun rest hr => ?_
        obtain ⟨d, ds, rfl⟩ := List.exists_cons_of_ne_nil hne
        have hp : d ≠ '+' := fun he => hplus (ds ++ r) (by simp [he])
        have hq : d ≠ '-' := fun he => hminus (ds ++ r) (by simp [he])
        simpa [readExponent?, hm, hp, hq] using hreads rest hr.endsDigits
    · next hm =>
      cases h
      refine ⟨[], rfl, by simp, by simp, fun rest hr => ?_⟩
      cases rest with
      | nil => rfl
      | cons c rest =>
        have hc := hr c rfl
        simp [readExponent?, hc.2.2]
  · cases h
    refine ⟨[], rfl, by simp, by simp, fun rest hr => ?_⟩
    cases rest with
    | nil => rfl
    | cons c rest =>
      have hc := hr c rfl
      simp [readExponent?, hc.2.2]

structure IsNumeralText (negative : Bool) (n : Numeral) (text : List Char) : Prop where
  starts : ∃ d ds, text = d :: ds ∧ d.isDigit = true
  solid : ∀ c ∈ text, isSpace c = false
  reads : ∀ rest, Stops rest → readNumeral? negative (text ++ rest) = some (n, rest)

theorem isNumeralText_of_readNumeral? {negative : Bool} {n : Numeral} {cs r : List Char}
    (h : readNumeral? negative cs = some (n, r)) :
    ∃ text, cs = text ++ r ∧ IsNumeralText negative n text := by
  simp only [readNumeral?, Option.bind_eq_bind, Option.bind_eq_some_iff, Option.some.injEq,
    Prod.mk.injEq] at h
  obtain ⟨⟨whole, cs₁⟩, hw, ⟨fraction, cs₂⟩, hf, ⟨exponent, cs₃⟩, he, rfl, rfl⟩ := h
  obtain ⟨rfl, hdigits, d, ds, rfl, hz⟩ := readWhole?_eq_some hw
  obtain ⟨ftext, rfl, hfsolid, hfhead, hfreads⟩ := readFraction?_eq_some hf
  obtain ⟨etext, rfl, hesolid, hehead, hereads⟩ := readExponent?_eq_some he
  refine ⟨d :: ds ++ (ftext ++ etext), by simp, ⟨d, _, rfl, hdigits d List.mem_cons_self⟩, ?_, ?_⟩
  · intro c hc
    rcases List.mem_append.1 hc with hc | hc
    · exact isSpace_of_isDigit (hdigits c hc)
    · rcases List.mem_append.1 hc with hc | hc
      · exact hfsolid c hc
      · exact hesolid c hc
  · intro rest hr
    -- Each part ends where the next one starts, and a missing part leaves this to the one after.
    have hexp : EndsDigits (etext ++ rest) ∧ (etext ++ rest).head? ≠ some '.' := by
      cases etext with
      | nil => exact ⟨hr.endsDigits, fun hc => (hr _ hc).2.1 rfl⟩
      | cons c etext =>
        rcases hehead c rfl with rfl | rfl <;> exact ⟨.cons rfl _, by simp⟩
    have hfrac : EndsDigits (ftext ++ (etext ++ rest)) := by
      cases ftext with
      | nil => exact hexp.1
      | cons c ftext =>
        cases hfhead c rfl
        exact .cons rfl _
    simp only [readNumeral?, List.append_assoc, readWhole?_append hdigits hz hfrac,
      hfreads _ hexp.1 hexp.2, hereads rest hr, Option.bind_eq_bind, Option.bind_some]

end Numerals

end EventSchema.Json
