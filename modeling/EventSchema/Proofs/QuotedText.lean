import EventSchema.Text.Quoted
import EventSchema.Text.Ranges
import Mathlib.Data.Nat.Digits.Defs
import Mathlib.Tactic.SplitIfs

set_option autoImplicit false

namespace EventSchema.Text.Quoted

def unescape? (c : Char) : Option Char :=
  if c = '0' then some (Char.ofNat 0)
  else if c = 't' then some '\t'
  else if c = 'r' then some '\r'
  else if c = 'n' then some '\n'
  else if c ∈ ['\\', '"', '\''] then some c
  else none

def isHexDigit (c : Char) : Bool :=
  (hexValue c).isSome

def codePoint? (digits : List Char) : Option Char :=
  let n := hexNumber digits
  if digits ≠ [] ∧ digits.length ≤ 6 ∧ digits.all isHexDigit ∧ n.isValidChar then
    some (Char.ofNat n)
  else none

mutual

/-- What a literal says from where its text goes on, and what follows its end. -/
def read? : List Char → Option (List Char × List Char)
  | [] => none
  | '"' :: rest => some ([], rest)
  | '\\' :: 'u' :: '\x7b' :: rest => readCode? [] rest
  | '\\' :: c :: rest => do
    let value ← unescape? c
    (read? rest).map (Prod.map (value :: ·) id)
  | c :: rest => if c = '\\' ∨ c = '\r' then none else (read? rest).map (Prod.map (c :: ·) id)

/-- The same from within a code, of which some digits have been read. -/
def readCode? (digits : List Char) : List Char → Option (List Char × List Char)
  | [] => none
  | '\x7d' :: rest => do
    let value ← codePoint? digits
    (read? rest).map (Prod.map (value :: ·) id)
  | c :: rest => readCode? (digits ++ [c]) rest

end

section Codes

theorem hexValue_digitChar : ∀ d < 16, hexValue d.digitChar = some d := by
  decide

theorem hexNumber_append (cs : List Char) {c : Char} {d : Nat} (h : hexValue c = some d) :
    hexNumber (cs ++ [c]) = 16 * hexNumber cs + d := by
  simp [hexNumber, List.foldl_append, h]

theorem hexDigits_eq (n : Nat) :
    hexDigits n =
      if n < 16 then [n.digitChar] else hexDigits (n / 16) ++ [(n % 16).digitChar] :=
  Nat.toDigits_eq_if (by decide)

theorem hexNumber_hexDigits (n : Nat) : hexNumber (hexDigits n) = n := by
  induction n using Nat.strong_induction_on with
  | h n ih =>
    rw [hexDigits_eq]
    split_ifs with hn
    · simp [hexNumber, hexValue_digitChar n hn]
    · rw [hexNumber_append _ (hexValue_digitChar _ (Nat.mod_lt n (by decide))),
        ih (n / 16) (by omega), Nat.div_add_mod]

theorem isHexDigit_of_mem_hexDigits {n : Nat} : ∀ d ∈ hexDigits n, isHexDigit d = true := by
  induction n using Nat.strong_induction_on with
  | h n ih =>
    rw [hexDigits_eq]
    split_ifs with hn
    · simp [isHexDigit, hexValue_digitChar n hn]
    · rw [List.forall_mem_append]
      refine ⟨ih (n / 16) (by omega), ?_⟩
      simp [isHexDigit, hexValue_digitChar _ (Nat.mod_lt n (by decide))]

theorem length_hexDigits (c : Char) : (hexDigits c.toNat).length ≤ 6 := by
  refine (Nat.length_toDigits_le_iff (by decide) (by decide)).2 ?_
  have hvalid : c.toNat < 0x110000 := by
    rcases c.valid with h | h
    · exact Nat.lt_trans h (by decide)
    · exact h.2
  omega

theorem codePoint?_hexDigits (c : Char) : codePoint? (hexDigits c.toNat) = some c := by
  have hvalid : c.toNat.isValidChar := c.valid
  rw [codePoint?, hexNumber_hexDigits]
  simp only [Char.ofNat_toNat]
  exact if_pos ⟨Nat.toDigits_ne_nil, length_hexDigits c,
    List.all_eq_true.2 isHexDigit_of_mem_hexDigits, hvalid⟩

theorem readCode?_append {digits : List Char} (h : '\x7d' ∉ digits) (before rest : List Char) :
    readCode? before (digits ++ '\x7d' :: rest) = (codePoint? (before ++ digits)).bind fun value =>
      (read? rest).map (Prod.map (value :: ·) id) := by
  induction digits generalizing before with
  | nil => simp [readCode?]
  | cons d digits ih =>
    have hd : d ≠ '\x7d' := fun he => h (by simp [he])
    have hdigits : '\x7d' ∉ digits := fun hm => h (List.mem_cons_of_mem d hm)
    have hstep : readCode? before (d :: (digits ++ '\x7d' :: rest)) =
        readCode? (before ++ [d]) (digits ++ '\x7d' :: rest) := by
      simp [readCode?]
    rw [List.cons_append, hstep, ih hdigits, List.append_assoc, List.singleton_append]

end Codes

section Spellings

inductive Writes (c : Char) : List Char → Prop
  | plain (hq : c ≠ '"') (hb : c ≠ '\\') (hn : c ≠ '\n') (hr : c ≠ '\r') : Writes c [c]
  | short {mark : Char} (h : unescape? mark = some c) : Writes c ['\\', mark]
  | code {digits : List Char} (h : codePoint? digits = some c) :
      Writes c (['\\', 'u', '\x7b'] ++ digits ++ ['\x7d'])

/-- The ways to write a text: one for each of its characters, which need not be the same for two
that are equal. -/
inductive Spells : List Char → List Char → Prop
  | nil : Spells [] []
  | cons {c : Char} {cs piece body : List Char} (head : Writes c piece) (tail : Spells cs body) :
      Spells (c :: cs) (piece ++ body)

theorem isHexDigit_of_codePoint? {digits : List Char} {c : Char}
    (h : codePoint? digits = some c) : ∀ d ∈ digits, isHexDigit d = true := by
  obtain ⟨⟨-, -, hdigits, -⟩, -⟩ := Option.ite_none_right_eq_some.1 h
  exact List.all_eq_true.1 hdigits

theorem mark_not_mem_digits {digits : List Char} {c : Char} (h : codePoint? digits = some c)
    {mark : Char} (hm : isHexDigit mark = false) : mark ∉ digits := by
  intro hmem
  rw [isHexDigit_of_codePoint? h mark hmem] at hm
  cases hm

theorem read?_of_writes {c : Char} {piece : List Char} (h : Writes c piece) (rest : List Char) :
    read? (piece ++ rest) = (read? rest).map (Prod.map (c :: ·) id) := by
  cases h with
  | plain hq hb hn hr => simp [read?, hb, hr]
  | @short mark h =>
    have hmark : mark ≠ 'u' := by
      rintro rfl
      cases h
    simp [read?, hmark, h]
  | @code digits h =>
    have hread := readCode?_append (mark_not_mem_digits h (by decide)) [] rest
    rw [List.nil_append, h, Option.bind_some] at hread
    simpa [read?] using hread

theorem read?_of_spells {cs body : List Char} (h : Spells cs body) (rest : List Char) :
    read? (body ++ '"' :: rest) = some (cs, rest) := by
  induction h with
  | nil => rfl
  | cons head tail ih =>
    rw [List.append_assoc, read?_of_writes head, ih]
    rfl

theorem writes_escape (c : Char) : Writes c (escape '"' c) := by
  unfold escape
  split_ifs with h0 ht hr hn hb hq hh
  · exact .short (by rw [h0]; rfl)
  · exact .short (by rw [ht]; rfl)
  · exact .short (by rw [hr]; rfl)
  · exact .short (by rw [hn]; rfl)
  · exact .short (by rw [hb]; rfl)
  · exact .short (by rw [hq]; rfl)
  · exact .code (codePoint?_hexDigits c)
  · exact .plain hq hb hn hr

theorem spells_body (cs : List Char) : Spells cs (body '"' cs) := by
  induction cs with
  | nil => exact .nil
  | cons c cs ih => exact .cons (writes_escape c) ih

end Spellings

theorem read?_body (cs rest : List Char) :
    read? (body '"' cs ++ '"' :: rest) = some (cs, rest) :=
  read?_of_spells (spells_body cs) rest

theorem toList_text (s : String) : (text s).toList = '"' :: (body '"' s.toList ++ ['"']) := by
  simp [text]

end EventSchema.Text.Quoted
