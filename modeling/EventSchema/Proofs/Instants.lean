import EventSchema.Instant
import EventSchema.Proofs.Digits

set_option autoImplicit false

namespace EventSchema.Instant

open Text

theorem decimal_eq_ofDigitChars (digits : List Char) :
    decimal digits = Nat.ofDigitChars 10 digits 0 := by
  simp [decimal, Nat.ofDigitChars, digitValue, Nat.mul_comm]

theorem decimal_padded (width n : Nat) : decimal (padded width n) = n := by
  rw [decimal_eq_ofDigitChars, padded, Nat.ofDigitChars_append, Nat.ofDigitChars_replicate_zero,
    Nat.mul_zero, Nat.ofDigitChars_toDigits (by decide) (by decide)]

theorem isDigit_of_mem_padded {width n : Nat} {c : Char} (h : c ∈ padded width n) :
    c.isDigit = true := by
  rcases List.mem_append.1 h with h | h
  · rw [List.eq_of_mem_replicate h]
    rfl
  · exact Nat.isDigit_of_mem_toDigits (by decide) (by decide) h

theorem padded_ne_nil (width n : Nat) : padded width n ≠ [] := by
  simp [padded, Nat.toDigits_ne_nil]

theorem padded_eq_cons (width n : Nat) :
    ∃ d ds, padded width n = d :: ds ∧ d.isDigit = true := by
  cases h : padded width n with
  | nil => exact absurd h (padded_ne_nil width n)
  | cons d ds => exact ⟨d, ds, rfl, isDigit_of_mem_padded (h ▸ List.mem_cons_self)⟩

theorem length_padded {width n : Nat} (hw : 0 < width) (h : n < Nat.pow 10 width) :
    (padded width n).length = width := by
  have hlen := (Nat.length_toDigits_le_iff (by decide : 1 < 10) hw).2 h
  simp only [padded, List.length_append, List.length_replicate]
  omega

theorem readNumber?_padded (width n : Nat) {rest : List Char} (hr : EndsDigits rest) :
    readNumber? (padded width n ++ rest) = some (n, rest) := by
  obtain ⟨ht, hd⟩ := span_digits (fun c (hc : c ∈ padded width n) => isDigit_of_mem_padded hc) hr
  have hne : (padded width n).isEmpty = false := by simpa using padded_ne_nil width n
  simp only [readNumber?, ht, hd, hne, Bool.false_eq_true, if_false, decimal_padded]

theorem readShort?_padded {width n most : Nat} (rest : List Char)
    (hl : (padded width n).length ≤ most)
    (hr : (padded width n).length = most ∨ EndsDigits rest) :
    readShort? most (padded width n ++ rest) = some (n, rest) := by
  have hdigits : ∀ c ∈ padded width n, c.isDigit = true := fun _ => isDigit_of_mem_padded
  have htake : ((padded width n ++ rest).take most).takeWhile Char.isDigit = padded width n := by
    rw [List.take_append, List.take_of_length_le hl]
    refine (span_digits hdigits ?_).1
    rcases hr with hfull | hends
    · simp [hfull, EndsDigits.nil]
    · intro c hc
      rw [List.head?_take] at hc
      split at hc
      · cases hc
      · exact hends c hc
  have hne : (padded width n).isEmpty = false := by simpa using padded_ne_nil width n
  simp only [readShort?, htake, hne, Bool.false_eq_true, if_false, decimal_padded,
    List.drop_left]

theorem trimStart_padded (width n : Nat) (rest : List Char) :
    Text.trimStart (padded width n ++ rest) = padded width n ++ rest := by
  obtain ⟨d, ds, he, hd⟩ := padded_eq_cons width n
  simp [he, Text.trimStart, isBlank_of_isDigit hd]

theorem readField?_padded {n : Nat} (h : n < 100) (rest : List Char) :
    readField? (padded 2 n ++ rest) = some (n, rest) := by
  have hl : (padded 2 n).length = 2 := length_padded (by decide) h
  rw [readField?, trimStart_padded, readShort?_padded rest hl.le (.inl hl)]

theorem readMark?_cons (mark : Char) (h : Text.isBlank mark = false) (rest : List Char) :
    readMark? mark (mark :: rest) = some rest := by
  simp [readMark?, Text.trimStart, h]

theorem readYear?_yearText {year : Int} {rest : List Char} (hr : EndsDigits rest) :
    readYear? (yearText year ++ rest) = some (year, rest) := by
  rw [yearText]
  split
  · next h =>
    have hl : (padded 4 year.natAbs).length = 4 :=
      length_padded (by decide) (by simp only [Nat.pow_eq]; omega)
    have hshort := readShort?_padded rest hl.le (.inl hl)
    rw [readYear?, trimStart_padded]
    split
    · next he =>
      obtain ⟨d, ds, hp, hd⟩ := padded_eq_cons 4 year.natAbs
      simp only [hp, List.cons_append, List.cons.injEq] at he
      simp [he.1] at hd
    · next he =>
      obtain ⟨d, ds, hp, hd⟩ := padded_eq_cons 4 year.natAbs
      simp only [hp, List.cons_append, List.cons.injEq] at he
      simp [he.1] at hd
    · rw [hshort]
      simp only [Option.map_some, Option.some.injEq, Prod.mk.injEq, and_true]
      omega
  · next h =>
    split
    · next hneg =>
      have htrim : ∀ cs, Text.trimStart ('-' :: cs) = '-' :: cs := fun cs => rfl
      simp only [readYear?, List.cons_append, htrim, readNumber?_padded 4 year.natAbs hr,
        Option.map_some, Option.some.injEq, Prod.mk.injEq, and_true]
      omega
    · next hneg =>
      have htrim : ∀ cs, Text.trimStart ('+' :: cs) = '+' :: cs := fun cs => rfl
      simp only [readYear?, List.cons_append, htrim, readNumber?_padded 4 year.natAbs hr,
        Option.map_some, Option.some.injEq, Prod.mk.injEq, and_true]
      omega

theorem readFraction?_point {width n : Nat} {rest : List Char} (hl : width ≤ 9)
    (hw : 0 < width) (hn : n < Nat.pow 10 width) (hr : EndsDigits rest) :
    readFraction? ('.' :: padded width n ++ rest) = some (n * Nat.pow 10 (9 - width), rest) := by
  have hlen := length_padded hw hn
  have hshort := readShort?_padded rest (hlen.trans_le hl) (.inr hr)
  have hdrop : rest.dropWhile Char.isDigit = rest := by
    simpa using (span_digits (List.forall_mem_nil _) hr).2
  simp only [readFraction?, List.cons_append, hshort, Option.bind_eq_bind, Option.bind_some,
    List.length_append, hlen, Nat.add_sub_cancel, hdrop, Nat.pow_eq]

theorem readFraction?_fractionText {nano : Nat} {rest : List Char} (hn : nano < 1000000000)
    (hr : EndsDigits rest) (hp : rest.head? ≠ some '.') :
    readFraction? (fractionText nano ++ rest) = some (nano, rest) := by
  rw [fractionText]
  split
  · next h =>
    subst h
    rw [List.nil_append, readFraction?]
    rintro rest rfl
    exact hp rfl
  · split
    · rw [readFraction?_point (by decide) (by decide) (by simp only [Nat.pow_eq]; omega) hr]
      simp only [Option.some.injEq, Prod.mk.injEq, and_true, Nat.pow_eq]
      omega
    · split
      · rw [readFraction?_point (by decide) (by decide) (by simp only [Nat.pow_eq]; omega) hr]
        simp only [Option.some.injEq, Prod.mk.injEq, and_true, Nat.pow_eq]
        omega
      · rw [readFraction?_point (by decide) (by decide) hn hr]
        simp

theorem withoutOffset_zero {t : Instant} (hh : t.hour ≤ 23) (hm : t.minute ≤ 59) :
    t.withoutOffset 0 = t := by
  have htotal : t.hour * 60 + t.minute < 1440 := by omega
  obtain ⟨year, month, day, hour, minute, second, nano⟩ := t
  simp only [withoutOffset, minutesPerDay, Int.sub_zero] at *
  rw [if_neg (by omega), if_pos (by omega)]
  simp only [Instant.mk.injEq, and_true, true_and]
  omega

theorem bounds_of_isValid {t : Instant} (h : t.isValid = true) :
    t.month ≤ 12 ∧ t.day ≤ 31 ∧ t.hour ≤ 23 ∧ t.minute ≤ 59 ∧ t.second ≤ 60 ∧
      t.nano < 1000000000 := by
  simp only [isValid, Bool.and_eq_true, decide_eq_true_eq] at h
  have hdays : daysIn t.year t.month ≤ 31 := by
    unfold daysIn
    split
    · split <;> decide
    · split <;> decide
  omega

theorem readLocal?_text {t : Instant} (h : t.isValid = true) :
    readLocal? t.text.toList = some (t, ['Z']) := by
  obtain ⟨hmonth, hday, hhour, hminute, hsecond, hnano⟩ := bounds_of_isValid h
  simp only [text, String.toList_ofList, List.append_assoc, List.cons_append, readLocal?,
    readYear?_yearText (.cons (c := '-') rfl _), Option.bind_eq_bind, Option.bind_some,
    readMark?_cons '-' rfl, readMark?_cons ':' rfl,
    readField?_padded (show t.month < 100 by omega), readField?_padded (show t.day < 100 by omega),
    readField?_padded (show t.hour < 100 by omega),
    readField?_padded (show t.minute < 100 by omega),
    readField?_padded (show t.second < 100 by omega),
    readFraction?_fractionText hnano (.cons (c := 'Z') rfl []) (by simp)]
  rfl

theorem ofText?_text {t : Instant} (h : t.isValid = true) : ofText? t.text = some t := by
  obtain ⟨-, -, hhour, hminute, -, -⟩ := bounds_of_isValid h
  have htrim : Text.trimStart ['Z'] = ['Z'] := rfl
  simp only [ofText?, ofChars?, readLocal?_text h, Option.bind_eq_bind, Option.bind_some, htrim,
    readOffset?, withoutOffset_zero hhour hminute, h, Bool.true_and]
  rfl

theorem isValid_of_ofText? {s : String} {t : Instant} (h : ofText? s = some t) :
    t.isValid = true := by
  simp only [ofText?, ofChars?, Option.bind_eq_bind, Option.bind_eq_some_iff] at h
  obtain ⟨a, -, b, -, h⟩ := h
  split at h
  · next hv =>
    cases h
    simp only [Bool.and_eq_true] at hv
    exact hv.1.2
  · cases h

end EventSchema.Instant
