import Mathlib.Tactic.IntervalCases
import EventSchema.Json.Writer
import EventSchema.Proofs.JsonGrammar

set_option autoImplicit false

namespace EventSchema

def Number.IsWhole : Number → Prop
  | .natural n => n < Json.wordLimit
  | .negative n => 0 < n ∧ n ≤ Nat.pow 2 63
  | .real _ => False

namespace Json

mutual

/-- All numbers in the value are whole ones of 64 bits. -/
def IsWhole : Json → Prop
  | .num n => n.IsWhole
  | .arr items => AreWhole items
  | .obj members => MembersWhole members
  | _ => True

def AreWhole : List Json → Prop
  | [] => True
  | item :: items => item.IsWhole ∧ AreWhole items

def MembersWhole : List (String × Json) → Prop
  | [] => True
  | (_, value) :: members => value.IsWhole ∧ MembersWhole members

end

mutual

def height : Json → Nat
  | .arr items => heightItems items + 1
  | .obj members => heightMembers members + 1
  | _ => 0

def heightItems : List Json → Nat
  | [] => 0
  | item :: items => max item.height (heightItems items)

def heightMembers : List (String × Json) → Nat
  | [] => 0
  | (_, value) :: members => max value.height (heightMembers members)

end

def numeralOf : Number → Numeral
  | .natural n => ⟨false, decimalDigits n, none, none⟩
  | .negative n => ⟨true, decimalDigits n, none, none⟩
  | .real _ => ⟨false, [], none, none⟩

mutual

def treeOf : Json → Tree
  | .null => .null
  | .bool b => .bool b
  | .num n => .num (numeralOf n)
  | .str s => .str (some s)
  | .arr items => .arr (treesOf items)
  | .obj members => .obj (memberTreesOf members)

def treesOf : List Json → List Tree
  | [] => []
  | item :: items => treeOf item :: treesOf items

def memberTreesOf : List (String × Json) → List (Option String × Tree)
  | [] => []
  | (key, value) :: members => (some key, treeOf value) :: memberTreesOf members

end

section Strings

theorem hexValue_hexDigit :
    ∀ n < 0x20, Text.hexValue (hexDigit (n / 16)) = some (n / 16) ∧
      Text.hexValue (hexDigit n) = some (n % 16) := by
  decide

theorem readUnit?_hexDigits {n : Nat} (h : n < 0x20) (rest : List Char) :
    readUnit? (['0', '0', hexDigit (n / 16), hexDigit n] ++ rest) = some (n, rest) := by
  obtain ⟨hhigh, hlow⟩ := hexValue_hexDigit n h
  have hzero : Text.hexValue '0' = some 0 := rfl
  simp only [readUnit?, List.cons_append, List.nil_append, hzero, hhigh, hlow,
    Option.bind_eq_bind, Option.bind_some, Option.some.injEq, Prod.mk.injEq, and_true]
  omega

theorem IsStringBody.escapeChar {acc : Option (List Char)} {content : Option String}
    {body : List Char} {c : Char} (h : IsStringBody (acc.map (c :: ·)) content body) :
    IsStringBody acc content (escapeChar c ++ body) := by
  unfold Json.escapeChar
  split_ifs with hq hb h8 hf hn hr ht hc
  · exact .short (by rw [hq]; rfl) h
  · exact .short (by rw [hb]; rfl) h
  · exact .short (by rw [h8]; rfl) h
  · exact .short (by rw [hf]; rfl) h
  · exact .short (by rw [hn]; rfl) h
  · exact .short (by rw [hr]; rfl) h
  · exact .short (by rw [ht]; rfl) h
  · have hhigh : isHighSurrogate c.toNat = false := by simp [isHighSurrogate]; omega
    have hlow : isLowSurrogate c.toNat = false := by simp [isLowSurrogate]; omega
    exact .unit (readUnit?_hexDigits hc) hhigh hlow (by rwa [Char.ofNat_toNat])
  · exact .plain hq hb hc h

theorem isStringBody_escaped (acc s : List Char) :
    IsStringBody (some acc) (some (String.ofList (acc.reverse ++ s))) (s.flatMap escapeChar) := by
  induction s generalizing acc with
  | nil => simpa using @IsStringBody.nil (some acc)
  | cons c s ih =>
    rw [List.flatMap_cons]
    exact .escapeChar (by simpa using ih (c :: acc))

theorem quote_toList (s : String) :
    (quote s).toList = '"' :: (s.toList.flatMap escapeChar ++ ['"']) := by
  simp [quote]

theorem isStringBody_quote (s : String) :
    IsStringBody (some []) (some s) (s.toList.flatMap escapeChar) := by
  simpa using isStringBody_escaped [] s.toList

end Strings

section Numbers

theorem head_toDigits {n : Nat} (h : 0 < n) : ∃ d ds, Nat.toDigits 10 n = d :: ds ∧ d ≠ '0' := by
  induction n using Nat.strongRecOn with
  | ind n ih =>
    rw [Nat.toDigits_eq_if (by decide)]
    split
    · next hn =>
      refine ⟨_, [], rfl, ?_⟩
      interval_cases n <;> decide
    · next hn =>
      obtain ⟨d, ds, he, hd⟩ := ih (n / 10) (by omega) (by omega)
      exact ⟨d, _, by rw [he]; rfl, hd⟩

theorem decimalDigits_eq_cons (n : Nat) :
    ∃ d ds, decimalDigits n = d :: ds ∧ (d = '0' → ds = []) := by
  rcases Nat.eq_zero_or_pos n with rfl | hn
  · exact ⟨'0', [], rfl, fun _ => rfl⟩
  · obtain ⟨d, ds, he, hd⟩ := head_toDigits hn
    exact ⟨d, ds, he, fun h => absurd h hd⟩

theorem isDigit_of_mem_decimalDigits {n : Nat} {c : Char} (h : c ∈ decimalDigits n) :
    c.isDigit = true :=
  Nat.isDigit_of_mem_toDigits (by decide) (by decide) h

theorem digitsValue_decimalDigits (n : Nat) : digitsValue (decimalDigits n) = n :=
  Nat.ofDigitChars_toDigits (by decide) (by decide)

theorem isNumeralText_decimalDigits (negative : Bool) (n : Nat) :
    IsNumeralText negative ⟨negative, decimalDigits n, none, none⟩ (decimalDigits n) := by
  obtain ⟨d, ds, he, hz⟩ := decimalDigits_eq_cons n
  have hdigits : ∀ c ∈ decimalDigits n, c.isDigit = true := fun _ => isDigit_of_mem_decimalDigits
  refine ⟨⟨d, ds, he, hdigits d (by simp [he])⟩, fun c hc => isSpace_of_isDigit (hdigits c hc), ?_⟩
  intro rest hr
  rw [he] at hdigits ⊢
  have hfraction : readFraction? rest = some (none, rest) := by
    rw [readFraction?]
    rintro tail rfl
    exact (hr '.' rfl).2.1 rfl
  have hexponent : readExponent? rest = some (none, rest) := by
    cases rest with
    | nil => rfl
    | cons c rest => simp [readExponent?, (hr c rfl).2.2]
  simp only [readNumeral?, readWhole?_append hdigits hz hr.endsDigits, hfraction, hexponent,
    Option.bind_eq_bind, Option.bind_some]

theorem isText_number {n : Number} (h : n.IsWhole) :
    Tree.IsTextOf Tree.read? (.num (numeralOf n)) (numberText n).toList := by
  cases n with
  | natural n =>
    simpa [numberText, numeralOf] using Tree.isText_num (isNumeralText_decimalDigits false n)
  | negative n =>
    simpa [numberText, numeralOf] using Tree.isText_negative (isNumeralText_decimalDigits true n)
  | real x => exact h.elim

theorem number?_numeralOf {n : Number} (h : n.IsWhole) : (numeralOf n).number? = some n := by
  cases n with
  | natural n =>
    have hn : n < wordLimit := h
    simp [numeralOf, Numeral.number?, digitsValue_decimalDigits, hn]
  | negative n =>
    obtain ⟨hpos, hle⟩ := h
    simp [numeralOf, Numeral.number?, digitsValue_decimalDigits, hpos, hle]
  | real x => exact h.elim

end Numbers

mutual

theorem isText_compact (v : Json) (h : v.IsWhole) :
    Tree.IsTextOf Tree.read? (treeOf v) v.compact.toList := by
  cases v with
  | null => exact Tree.isText_null
  | bool b =>
    cases b with
    | false => exact Tree.isText_false
    | true => exact Tree.isText_true
  | num n => exact isText_number h
  | str s =>
    rw [compact, quote_toList, treeOf]
    exact Tree.isText_str (isStringBody_quote s)
  | arr items =>
    cases items with
    | nil => exact Tree.isText_nilArr .nil
    | cons item items =>
      have hi := isText_compactItems (item :: items) (List.cons_ne_nil _ _) h
      simpa [compact, treeOf] using Tree.isText_arr .nil hi
  | obj members =>
    cases members with
    | nil => exact Tree.isText_nilObj .nil
    | cons member members =>
      have hm := isText_compactMembers (member :: members) (List.cons_ne_nil _ _) h
      simpa [compact, treeOf] using Tree.isText_obj .nil hm

theorem isText_compactItems (items : List Json) (hne : items ≠ []) (h : AreWhole items) :
    Tree.IsTextOf Tree.readItems? (treesOf items) ((compactItems items).toList ++ [']']) := by
  match items, hne, h with
  | [item], _, h =>
    have hitem := isText_compact item h.1
    simpa [compactItems, treesOf] using Tree.isText_lastItem hitem .nil
  | item :: next :: items, _, h =>
    have hitem := isText_compact item h.1
    have hrest := isText_compactItems (next :: items) (List.cons_ne_nil _ _) h.2
    rw [treesOf]
    simpa [compactItems] using Tree.isText_consItem hitem .nil .nil hrest

theorem isText_compactMembers (members : List (String × Json)) (hne : members ≠ [])
    (h : MembersWhole members) :
    Tree.IsTextOf Tree.readMembers? (memberTreesOf members)
      ((compactMembers members).toList ++ ['\x7d']) := by
  match members, hne, h with
  | [(key, value)], _, h =>
    have hvalue := isText_compact value h.1
    simpa [compactMembers, memberTreesOf, quote_toList] using
      Tree.isText_lastMember (isStringBody_quote key) .nil .nil hvalue .nil
  | (key, value) :: next :: members, _, h =>
    have hvalue := isText_compact value h.1
    have hrest := isText_compactMembers (next :: members) (List.cons_ne_nil _ _) h.2
    rw [memberTreesOf]
    simpa [compactMembers, quote_toList] using
      Tree.isText_consMember (isStringBody_quote key) .nil .nil hvalue .nil .nil hrest

end

mutual

theorem value?_treeOf (v : Json) (depth : Nat) (h : v.IsWhole) (hd : v.height ≤ depth) :
    (treeOf v).value? depth = some v := by
  cases v with
  | null => rw [treeOf, Tree.value?]
  | bool b => rw [treeOf, Tree.value?]
  | num n => rw [treeOf, Tree.value?, number?_numeralOf h, Option.map_some]
  | str s => rw [treeOf, Tree.value?, Option.map_some]
  | arr items =>
    cases depth with
    | zero => cases hd
    | succ depth =>
      have hi := itemValues?_treesOf items depth h (Nat.le_of_succ_le_succ hd)
      rw [treeOf, Tree.value?, hi, Option.map_some]
  | obj members =>
    cases depth with
    | zero => cases hd
    | succ depth =>
      have hm := memberValues?_memberTreesOf members depth h (Nat.le_of_succ_le_succ hd)
      rw [treeOf, Tree.value?, hm, Option.map_some]

theorem itemValues?_treesOf (items : List Json) (depth : Nat) (h : AreWhole items)
    (hd : heightItems items ≤ depth) : Tree.itemValues? depth (treesOf items) = some items := by
  cases items with
  | nil => rfl
  | cons item items =>
    obtain ⟨hitem, hitems⟩ := Nat.max_le.1 hd
    have hi := value?_treeOf item depth h.1 hitem
    have hrest := itemValues?_treesOf items depth h.2 hitems
    simp only [treesOf, Tree.itemValues?, hi, hrest, Option.bind_eq_bind, Option.bind_some]

theorem memberValues?_memberTreesOf (members : List (String × Json)) (depth : Nat)
    (h : MembersWhole members) (hd : heightMembers members ≤ depth) :
    Tree.memberValues? depth (memberTreesOf members) = some members := by
  match members, h, hd with
  | [], _, _ => rfl
  | (key, value) :: members, h, hd =>
    obtain ⟨hvalue, hmembers⟩ := Nat.max_le.1 hd
    have hv := value?_treeOf value depth h.1 hvalue
    have hrest := memberValues?_memberTreesOf members depth h.2 hmembers
    simp only [memberTreesOf, Tree.memberValues?, hv, hrest, Option.bind_eq_bind,
      Option.bind_some]

end

theorem Tree.ofText?_compact {v : Json} (h : v.IsWhole) :
    Tree.ofText? v.compact = some (treeOf v) :=
  Tree.ofChars?_eq_some_iff.2
    ⟨[], v.compact.toList, [], by simp, .nil, .nil, isText_compact v h⟩

theorem ofText?_compact {v : Json} (h : v.IsWhole) (hd : v.height ≤ maxDepth) :
    ofText? v.compact = some v := by
  rw [ofText?, Tree.ofText?_compact h]
  exact value?_treeOf v maxDepth h hd

section Controls

theorem hexDigit_printable (n : Nat) : 0x20 ≤ (hexDigit n).toNat := by
  have hall : ∀ k < 16, 0x20 ≤ (Nat.digitChar k).toNat := by decide
  exact hall _ (Nat.mod_lt _ (by decide))

theorem printable_of_all {cs : List Char} (h : (cs.all fun c => 0x20 ≤ c.toNat) = true) :
    ∀ c ∈ cs, 0x20 ≤ c.toNat := by
  simpa using h

theorem escapeChar_printable (c : Char) : ∀ d ∈ escapeChar c, 0x20 ≤ d.toNat := by
  unfold escapeChar
  split_ifs with hq hb h8 hf hn hr ht hc
  · exact printable_of_all (by decide)
  · exact printable_of_all (by decide)
  · exact printable_of_all (by decide)
  · exact printable_of_all (by decide)
  · exact printable_of_all (by decide)
  · exact printable_of_all (by decide)
  · exact printable_of_all (by decide)
  · simp only [List.forall_mem_cons]
    exact ⟨by decide, by decide, by decide, by decide, hexDigit_printable _, hexDigit_printable _,
      List.forall_mem_nil _⟩
  · simpa using hc

theorem quote_printable (s : String) : ∀ c ∈ (quote s).toList, 0x20 ≤ c.toNat := by
  intro c hc
  rw [quote_toList, List.mem_cons, List.mem_append, List.mem_flatMap, List.mem_singleton] at hc
  rcases hc with rfl | ⟨d, -, hd⟩ | rfl
  · decide
  · exact escapeChar_printable d c hd
  · decide

theorem numberText_printable {n : Number} (h : n.IsWhole) :
    ∀ c ∈ (numberText n).toList, 0x20 ≤ c.toNat := by
  have hdigits : ∀ k, ∀ c ∈ decimalDigits k, 0x20 ≤ c.toNat := by
    intro k c hc
    have := Text.toNat_of_isDigit (isDigit_of_mem_decimalDigits hc)
    omega
  cases n with
  | natural n => simpa [numberText] using hdigits n
  | negative n =>
    simp only [numberText, String.toList_ofList, List.forall_mem_cons]
    exact ⟨by decide, hdigits n⟩
  | real x => exact h.elim

mutual

theorem compact_printable (v : Json) (h : v.IsWhole) : ∀ c ∈ v.compact.toList, 0x20 ≤ c.toNat := by
  cases v with
  | null => exact printable_of_all (by decide)
  | bool b => cases b <;> exact printable_of_all (by decide)
  | num n => exact numberText_printable h
  | str s => exact quote_printable s
  | arr items =>
    have hi := compactItems_printable items h
    simp only [compact, String.toList_append, List.forall_mem_append]
    exact ⟨⟨printable_of_all (by decide), hi⟩, printable_of_all (by decide)⟩
  | obj members =>
    have hm := compactMembers_printable members h
    simp only [compact, String.toList_append, List.forall_mem_append]
    exact ⟨⟨printable_of_all (by decide), hm⟩, printable_of_all (by decide)⟩

theorem compactItems_printable (items : List Json) (h : AreWhole items) :
    ∀ c ∈ (compactItems items).toList, 0x20 ≤ c.toNat := by
  match items, h with
  | [], _ => exact printable_of_all (by decide)
  | [item], h => exact compact_printable item h.1
  | item :: next :: items, h =>
    have hitem := compact_printable item h.1
    have hrest := compactItems_printable (next :: items) h.2
    simp only [compactItems, String.toList_append, List.forall_mem_append]
    exact ⟨⟨hitem, printable_of_all (by decide)⟩, hrest⟩

theorem compactMembers_printable (members : List (String × Json)) (h : MembersWhole members) :
    ∀ c ∈ (compactMembers members).toList, 0x20 ≤ c.toNat := by
  match members, h with
  | [], _ => exact printable_of_all (by decide)
  | [(key, value)], h =>
    have hvalue := compact_printable value h.1
    simp only [compactMembers, String.toList_append, List.forall_mem_append]
    exact ⟨⟨quote_printable key, printable_of_all (by decide)⟩, hvalue⟩
  | (key, value) :: next :: members, h =>
    have hvalue := compact_printable value h.1
    have hrest := compactMembers_printable (next :: members) h.2
    simp only [compactMembers, String.toList_append, List.forall_mem_append]
    exact ⟨⟨⟨⟨quote_printable key, printable_of_all (by decide)⟩, hvalue⟩,
      printable_of_all (by decide)⟩, hrest⟩

end

end Controls

end Json

end EventSchema
