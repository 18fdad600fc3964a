import EventSchema.Frontend.TypeExpr
import EventSchema.Proofs.LiteralText

/-!
TypeScript types read back from their text. The reader knows the grammar of the forms that are
rendered: members of a union between bars, array marks that bind closer than bars, parentheses,
objects with keys in quotes or bare, records, literals and names. It passes over blanks in front of
marks and words, so it does not go by the layout of a type.
-/

set_option autoImplicit false

namespace EventSchema.Frontend.TypeExpr

section Reader

def readMark? (mark : Char) (cs : List Char) : Option (List Char) :=
  match Text.trimStart cs with
  | [] => none
  | c :: rest => if c = mark then some rest else none

/-- Array marks behind a type take all of it in that stands before them. -/
def readSuffixes (t : TypeExpr) : List Char → TypeExpr × List Char
  | '[' :: ']' :: rest => readSuffixes (.array t) rest
  | cs => (t, cs)

def primitives : List PrimitiveType :=
  [.string, .number, .boolean, .null, .void, .unknown]

def ofWord (word : String) : TypeExpr :=
  match primitives.find? (·.render == word) with
  | some p => .primitive p
  | none => .named word

def readPropertyName? (cs : List Char) : Option (PropertyName × List Char) := do
  let (name, rest) ← readKey? (Text.trimStart cs)
  match readMark? '?' rest with
  | some rest => some (⟨name, true⟩, rest)
  | none => some (⟨name, false⟩, rest)

mutual

/-- Reads a type; `fuel` bounds the depth of the calls. -/
def readType? : Nat → List Char → Option (TypeExpr × List Char)
  | 0, _ => none
  | fuel + 1, cs => do
    let (first, rest) ← readMember? fuel cs
    let (others, rest) ← readOthers? fuel rest
    some (if others.isEmpty then first else .union (first :: others), rest)

def readOthers? : Nat → List Char → Option (List TypeExpr × List Char)
  | 0, _ => none
  | fuel + 1, cs =>
    match readMark? '|' cs with
    | none => some ([], cs)
    | some rest => do
      let (first, rest) ← readMember? fuel rest
      let (others, rest) ← readOthers? fuel rest
      some (first :: others, rest)

/-- A type without bars outside of brackets. -/
def readMember? : Nat → List Char → Option (TypeExpr × List Char)
  | 0, _ => none
  | fuel + 1, cs =>
    match readMark? '(' cs with
    | some rest => do
      let (t, rest) ← readType? fuel rest
      let rest ← readMark? ')' rest
      some (readSuffixes t rest)
    | none =>
      match readMark? '\x7b' cs with
      | some rest => do
        let (properties, rest) ← readProperties? fuel rest
        some (readSuffixes (.object properties) rest)
      | none =>
        match readLiteral? (Text.trimStart cs) with
        | some (value, rest) => some (readSuffixes (.literal value) rest)
        | none => do
          let (word, rest) ← readWord? (Text.trimStart cs)
          match if word = "Record" then readMark? '<' rest else none with
          | some rest => do
            let (k, rest) ← readType? fuel rest
            let rest ← readMark? ',' rest
            let (v, rest) ← readType? fuel rest
            let rest ← readMark? '>' rest
            some (readSuffixes (.record k v) rest)
          | none => some (readSuffixes (ofWord word) rest)

def readProperties? : Nat → List Char → Option (List (PropertyName × TypeExpr) × List Char)
  | 0, _ => none
  | fuel + 1, cs =>
    match readMark? '\x7d' cs with
    | some rest => some ([], rest)
    | none => do
      let (name, rest) ← readPropertyName? cs
      let rest ← readMark? ':' rest
      let (t, rest) ← readType? fuel rest
      match readMark? ';' rest with
      | some rest => do
        let (others, rest) ← readProperties? fuel rest
        some ((name, t) :: others, rest)
      | none => do
        let rest ← readMark? '\x7d' rest
        some ([(name, t)], rest)

end

/-- The type that a text says, if all of the text belongs to it. -/
def read? (text : String) : Option TypeExpr :=
  match readType? (2 * text.length + 2) text.toList with
  | some (t, rest) => if (Text.trimStart rest).isEmpty then some t else none
  | none => none

end Reader

/-- The trees that their text can tell: names are words of their own, and a union has several
members, none of which is a union. -/
inductive IsWritten : TypeExpr → Prop
  | primitive (p : PrimitiveType) : IsWritten (.primitive p)
  | array {item : TypeExpr} (h : IsWritten item) : IsWritten (.array item)
  | union {first second : TypeExpr} {others : List TypeExpr}
      (flat : ∀ m ∈ first :: second :: others, m.isUnion = false)
      (each : ∀ m ∈ first :: second :: others, IsWritten m) :
      IsWritten (.union (first :: second :: others))
  | object {properties : List (PropertyName × TypeExpr)}
      (each : ∀ p ∈ properties, IsWritten p.2) : IsWritten (.object properties)
  | record {k v : TypeExpr} (key : IsWritten k) (value : IsWritten v) : IsWritten (.record k v)
  | literal (value : String) : IsWritten (.literal value)
  | named {name : String} (word : needsQuoting name = false)
      (free : ∀ p : PrimitiveType, p.render ≠ name) : IsWritten (.named name)

def text (t : TypeExpr) : List Char := t.render.toList

section Texts

attribute [local simp] text render

theorem intercalate_cons (sep first : List Char) (others : List (List Char)) :
    sep.intercalate (first :: others) = first ++ others.flatMap (sep ++ ·) := by
  induction others generalizing first with
  | nil => simp
  | cons second others ih => rw [List.intercalate_cons_cons, ih]; simp

theorem renderAll_eq_map (ts : List TypeExpr) : renderAll ts = ts.map render := by
  induction ts with
  | nil => rfl
  | cons t ts ih => rw [renderAll, ih, List.map_cons]

theorem text_array {item : TypeExpr} (h : item.isUnion = false) :
    (array item).text = item.text ++ ['[', ']'] := by
  simp [h]

theorem text_array_union {item : TypeExpr} (h : item.isUnion = true) :
    (array item).text = '(' :: (item.text ++ [')', '[', ']']) := by
  simp [h]

theorem text_union (first : TypeExpr) (others : List TypeExpr) :
    (union (first :: others)).text =
      first.text ++ others.flatMap fun t => ' ' :: '|' :: ' ' :: t.text := by
  have hsep : " | ".toList = [' ', '|', ' '] := rfl
  rw [text, render, renderAll_eq_map, String.toList_intercalate, List.map_map, List.map_cons,
    intercalate_cons, hsep, List.flatMap_map]
  rfl

theorem text_record (k v : TypeExpr) :
    (record k v).text = "Record".toList ++ '<' :: (k.text ++ ',' :: ' ' :: (v.text ++ ['>'])) := by
  simp

theorem text_literal (value : String) : (literal value).text = (quoted value).toList := by
  simp

theorem text_named (name : String) : (named name).text = name.toList := by
  simp

def propertyText (p : PropertyName × TypeExpr) : List Char :=
  p.1.render.toList ++ ':' :: ' ' :: p.2.text

theorem renderProperties_eq_map (ps : List (PropertyName × TypeExpr)) :
    renderProperties ps = ps.map fun p => p.1.render ++ ": " ++ render p.2 := by
  induction ps with
  | nil => rfl
  | cons p ps ih =>
    obtain ⟨name, t⟩ := p
    rw [renderProperties, ih, List.map_cons]

def laterText (ps : List (PropertyName × TypeExpr)) : List Char :=
  (ps.flatMap fun p => ';' :: ' ' :: propertyText p) ++ [' ', '\x7d']

theorem text_object_nil : (object []).text = ['\x7b', '\x7d'] := by
  rw [text, render]
  rfl

theorem text_object (p : PropertyName × TypeExpr) (ps : List (PropertyName × TypeExpr)) :
    (object (p :: ps)).text = '\x7b' :: ' ' :: (propertyText p ++ laterText ps) := by
  have hsep : "; ".toList = [';', ' '] := rfl
  have hopen : "\x7b ".toList = ['\x7b', ' '] := rfl
  have hclose : " \x7d".toList = [' ', '\x7d'] := rfl
  have hproperty : ∀ q : PropertyName × TypeExpr,
      (q.1.render ++ ": " ++ render q.2).toList = propertyText q := fun q => by
    simp [propertyText, text]
  rw [text, render, renderProperties_eq_map, String.toList_append, String.toList_append,
    String.toList_intercalate, List.map_map, List.map_cons, intercalate_cons, hsep, hopen, hclose,
    List.flatMap_map]
  simp only [Function.comp_apply, hproperty]
  simp [laterText]

end Texts

section Marks

theorem trimStart_cons {c : Char} (h : Text.isBlank c = false) (cs : List Char) :
    Text.trimStart (c :: cs) = c :: cs := by
  simp [Text.trimStart, h]

theorem readMark?_same {c : Char} (h : Text.isBlank c = false) (cs : List Char) :
    readMark? c (c :: cs) = some cs := by
  simp [readMark?, trimStart_cons h]

theorem readMark?_other {mark c : Char} (h : Text.isBlank c = false) (hc : c ≠ mark)
    (cs : List Char) : readMark? mark (c :: cs) = none := by
  simp [readMark?, trimStart_cons h, hc]

structure Ends (rest : List Char) : Prop where
  word : rest.head?.any isWordPart = false
  arguments : readMark? '<' rest = none

structure Closes (rest : List Char) : Prop extends Ends rest where
  item : rest.head? ≠ some '['
  member : readMark? '|' rest = none

theorem closes_nil : Closes [] where
  word := rfl
  arguments := rfl
  item := by simp
  member := rfl

theorem closes_cons {c : Char} (h : c ∈ [')', ';', ',', '>']) (cs : List Char) :
    Closes (c :: cs) := by
  simp only [List.mem_cons, List.not_mem_nil, or_false] at h
  rcases h with rfl | rfl | rfl | rfl
  all_goals exact ⟨⟨rfl, rfl⟩, by simp, rfl⟩

theorem closes_brace (cs : List Char) : Closes (' ' :: '\x7d' :: cs) where
  word := rfl
  arguments := rfl
  item := by simp
  member := rfl

theorem ends_bar (cs : List Char) : Ends (' ' :: '|' :: cs) := ⟨rfl, rfl⟩

theorem ends_array (cs : List Char) : Ends ('[' :: cs) := ⟨rfl, rfl⟩

theorem readSuffixes_of_closes (t : TypeExpr) {rest : List Char} (h : Closes rest) :
    readSuffixes t rest = (t, rest) := by
  unfold readSuffixes
  split
  · exact absurd rfl h.item
  · rfl

theorem readMember?_blank (fuel : Nat) (cs : List Char) :
    readMember? fuel (' ' :: cs) = readMember? fuel cs := by
  cases fuel with
  | zero => rfl
  | succ fuel => rw [readMember?, readMember?]; rfl

theorem readType?_blank (fuel : Nat) (cs : List Char) :
    readType? fuel (' ' :: cs) = readType? fuel cs := by
  cases fuel with
  | zero => rfl
  | succ fuel => rw [readType?, readType?, readMember?_blank]

theorem readProperties?_blank (fuel : Nat) (cs : List Char) :
    readProperties? fuel (' ' :: cs) = readProperties? fuel cs := by
  cases fuel with
  | zero => rfl
  | succ fuel => rw [readProperties?, readProperties?]; rfl

end Marks

section Words

variable {word : String} (h : needsQuoting word = false)
include h

theorem trimStart_word (rest : List Char) :
    Text.trimStart (word.toList ++ rest) = word.toList ++ rest := by
  obtain ⟨c, cs, hl, -, hparts⟩ := exists_of_needsQuoting h
  rw [hl, List.cons_append]
  exact trimStart_cons (Expr.isBlank_of_isWordPart (hparts c (by simp))) _

theorem readMark?_word {mark : Char} (hm : isWordPart mark = false) (rest : List Char) :
    readMark? mark (word.toList ++ rest) = none := by
  obtain ⟨c, cs, hl, -, hparts⟩ := exists_of_needsQuoting h
  have hc : isWordPart c = true := hparts c (by simp)
  rw [hl, List.cons_append]
  refine readMark?_other (Expr.isBlank_of_isWordPart hc) ?_ _
  rintro rfl
  simp [hm] at hc

theorem readLiteral?_word (rest : List Char) : readLiteral? (word.toList ++ rest) = none := by
  have hhead := head?_ne_quote h rest
  cases hl : word.toList ++ rest with
  | nil => rfl
  | cons c cs =>
    rw [hl, List.head?_cons, ne_eq, Option.some.injEq] at hhead
    simp [readLiteral?, hhead]

theorem readMember?_word {rest : List Char} (hr : Ends rest) (fuel : Nat) :
    readMember? (fuel + 1) (word.toList ++ rest) = some (readSuffixes (ofWord word) rest) := by
  rw [readMember?, readMark?_word h rfl, readMark?_word h rfl, trimStart_word h,
    readLiteral?_word h, readWord?_append h hr.word]
  simp [hr.arguments]

end Words

section Properties

theorem trimStart_key (name : String) (rest : List Char) :
    Text.trimStart ((key name).toList ++ rest) = (key name).toList ++ rest := by
  unfold key
  split
  · rw [toList_quoted]
    exact trimStart_cons rfl _
  · next h => exact trimStart_word (by simpa using h) rest

theorem readMark?_key {mark : Char} (hm : isWordPart mark = false) (hq : mark ≠ '"')
    (name : String) (rest : List Char) : readMark? mark ((key name).toList ++ rest) = none := by
  unfold key
  split
  · rw [toList_quoted]
    exact readMark?_other rfl hq.symm _
  · next h => exact readMark?_word (by simpa using h) hm rest

theorem readPropertyName?_render (name : PropertyName) (rest : List Char) :
    readPropertyName? (name.render.toList ++ ':' :: rest) = some (name, ':' :: rest) := by
  obtain ⟨name, optional⟩ := name
  cases optional with
  | false =>
    have htext : (PropertyName.mk name false).render.toList = (key name).toList := by
      simp [PropertyName.render]
    rw [htext, readPropertyName?, trimStart_key, @readKey?_key name (':' :: rest) rfl]
    rfl
  | true =>
    have htext : (PropertyName.mk name true).render.toList = (key name).toList ++ ['?'] := by
      simp [PropertyName.render]
    rw [htext, List.append_assoc, readPropertyName?, trimStart_key,
      @readKey?_key name (['?'] ++ ':' :: rest) rfl]
    rfl

end Properties

/-- The text of a tree is taken as that tree: as a member of a union up to the array marks that may
follow, and as a type up to its end. Two calls for each character are fuel enough. -/
structure IsRead (t : TypeExpr) : Prop where
  member : t.isUnion = false → ∀ (rest : List Char) (fuel : Nat), Ends rest →
    2 * t.text.length + 1 ≤ fuel → readMember? fuel (t.text ++ rest) = some (readSuffixes t rest)
  type : ∀ (rest : List Char) (fuel : Nat), Closes rest →
    2 * t.text.length + 2 ≤ fuel → readType? fuel (t.text ++ rest) = some (t, rest)

section Members

def othersText (ts : List TypeExpr) : List Char :=
  ts.flatMap fun t => ' ' :: '|' :: ' ' :: t.text

theorem othersText_cons (t : TypeExpr) (ts : List TypeExpr) :
    othersText (t :: ts) = ' ' :: '|' :: ' ' :: (t.text ++ othersText ts) := rfl

theorem ends_othersText (ts : List TypeExpr) {rest : List Char} (hr : Closes rest) :
    Ends (othersText ts ++ rest) := by
  cases ts with
  | nil => exact hr.toEnds
  | cons t ts => exact ends_bar _

theorem readOthers?_othersText {ts : List TypeExpr} (h : ∀ t ∈ ts, IsRead t)
    (hflat : ∀ t ∈ ts, t.isUnion = false) {rest : List Char} (hr : Closes rest) {fuel : Nat}
    (hf : 2 * (othersText ts).length + 1 ≤ fuel) :
    readOthers? fuel (othersText ts ++ rest) = some (ts, rest) := by
  induction ts generalizing fuel with
  | nil =>
    cases fuel with
    | zero => cases hf
    | succ fuel => simp [readOthers?, othersText, hr.member]
  | cons t ts ih =>
    obtain ⟨ht, hts⟩ := List.forall_mem_cons.1 h
    obtain ⟨hu, hflat⟩ := List.forall_mem_cons.1 hflat
    cases fuel with
    | zero => cases hf
    | succ fuel =>
      rw [othersText_cons] at hf ⊢
      simp only [List.length_cons, List.length_append] at hf
      have hmember := ht.member hu (othersText ts ++ rest) fuel (ends_othersText ts hr) (by omega)
      have hlater := ih hts hflat (show 2 * (othersText ts).length + 1 ≤ fuel by omega)
      have hbar : readMark? '|' (' ' :: '|' :: ' ' :: (t.text ++ (othersText ts ++ rest))) =
          some (' ' :: (t.text ++ (othersText ts ++ rest))) := rfl
      -- no array marks follow: the next thing is a bar or the end of the type
      have hsuffixes : readSuffixes t (othersText ts ++ rest) = (t, othersText ts ++ rest) := by
        cases ts with
        | nil => exact readSuffixes_of_closes t hr
        | cons u ts => rfl
      simp only [List.cons_append, List.append_assoc, readOthers?, hbar, readMember?_blank, hmember,
        hsuffixes, hlater, Option.bind_eq_bind, Option.bind_some]

theorem isRead_of_member {t : TypeExpr}
    (h : ∀ (rest : List Char) (fuel : Nat), Ends rest → 2 * t.text.length + 1 ≤ fuel →
      readMember? fuel (t.text ++ rest) = some (readSuffixes t rest)) : IsRead t where
  member := fun _ => h
  type := by
    intro rest fuel hr hf
    cases fuel with
    | zero => cases hf
    | succ fuel =>
      have hmember := h rest fuel hr.toEnds (by omega)
      have hothers : readOthers? fuel rest = some ([], rest) :=
        @readOthers?_othersText [] (by simp) (by simp) rest hr fuel (by simp [othersText]; omega)
      simp only [readType?, hmember, readSuffixes_of_closes t hr, hothers, Option.bind_eq_bind,
        Option.bind_some, List.isEmpty_nil, if_true]

theorem isRead_union {first second : TypeExpr} {others : List TypeExpr}
    (hflat : ∀ t ∈ first :: second :: others, t.isUnion = false)
    (h : ∀ t ∈ first :: second :: others, IsRead t) :
    IsRead (.union (first :: second :: others)) where
  member := fun hu => by simp [isUnion] at hu
  type := by
    intro rest fuel hr hf
    obtain ⟨hfirst, hlater⟩ := List.forall_mem_cons.1 h
    obtain ⟨hu, hflat⟩ := List.forall_mem_cons.1 hflat
    have htext : (union (first :: second :: others)).text =
        first.text ++ othersText (second :: others) := text_union first _
    rw [htext] at hf ⊢
    rw [List.length_append] at hf
    cases fuel with
    | zero => cases hf
    | succ fuel =>
      have hmember := hfirst.member hu (othersText (second :: others) ++ rest) fuel
        (ends_othersText _ hr) (by omega)
      have hothers := readOthers?_othersText hlater hflat hr
        (show 2 * (othersText (second :: others)).length + 1 ≤ fuel by omega)
      have hsuffixes : readSuffixes first (othersText (second :: others) ++ rest) =
          (first, othersText (second :: others) ++ rest) := rfl
      simp only [readType?, List.append_assoc, hmember, hsuffixes, hothers, Option.bind_eq_bind,
        Option.bind_some]
      rfl

end Members

section Forms

/-- Array marks behind a member go on with it, and a union has its parentheses in front of them. -/
theorem isRead_array {item : TypeExpr} (h : IsRead item) : IsRead (.array item) := by
  refine isRead_of_member fun rest fuel hr hf => ?_
  cases hu : item.isUnion with
  | false =>
    rw [text_array hu] at hf ⊢
    rw [List.length_append] at hf
    -- the item is read with the marks still to come, and these go on with it
    rw [List.append_assoc, h.member hu (['[', ']'] ++ rest) fuel (ends_array _) (by omega)]
    rfl
  | true =>
    rw [text_array_union hu] at hf ⊢
    simp only [List.length_cons, List.length_append, List.length_nil] at hf
    cases fuel with
    | zero => cases hf
    | succ fuel =>
      have hopen := @readMark?_same '(' rfl (item.text ++ ')' :: '[' :: ']' :: rest)
      have hitem := h.type (')' :: '[' :: ']' :: rest) fuel (closes_cons (by simp) _) (by omega)
      have hclose := @readMark?_same ')' rfl ('[' :: ']' :: rest)
      simp only [List.cons_append, List.append_assoc, List.nil_append, readMember?, hopen, hitem,
        hclose, Option.bind_eq_bind, Option.bind_some]
      rfl

theorem isRead_literal (value : String) : IsRead (.literal value) := by
  refine isRead_of_member fun rest fuel _ hf => ?_
  rw [text_literal]
  cases fuel with
  | zero => cases hf
  | succ fuel =>
    have hread := readLiteral?_quoted value rest
    rw [toList_quoted, List.cons_append] at hread ⊢
    rw [readMember?, readMark?_other rfl (by decide), readMark?_other rfl (by decide),
      trimStart_cons rfl, hread]

theorem isRead_of_word {t : TypeExpr} {word : String} (htext : t.text = word.toList)
    (hw : needsQuoting word = false) (ht : ofWord word = t) : IsRead t := by
  refine isRead_of_member fun rest fuel hr hf => ?_
  cases fuel with
  | zero => cases hf
  | succ fuel => rw [htext, readMember?_word hw hr, ht]

theorem isRead_primitive (p : PrimitiveType) : IsRead (.primitive p) := by
  have hword : needsQuoting p.render = false ∧ ofWord p.render = .primitive p := by
    cases p <;> exact ⟨by decide, rfl⟩
  exact isRead_of_word (by rw [text, render]) hword.1 hword.2

theorem isRead_named {name : String} (hw : needsQuoting name = false)
    (hfree : ∀ p : PrimitiveType, p.render ≠ name) : IsRead (.named name) := by
  have hnone : primitives.find? (·.render == name) = none :=
    List.find?_eq_none.2 fun p _ => by simpa using hfree p
  exact isRead_of_word (text_named name) hw (by rw [ofWord, hnone])

theorem isRead_record {k v : TypeExpr} (hk : IsRead k) (hv : IsRead v) :
    IsRead (.record k v) := by
  refine isRead_of_member fun rest fuel _ hf => ?_
  rw [text_record] at hf ⊢
  simp only [List.length_cons, List.length_append, List.length_nil] at hf
  cases fuel with
  | zero => cases hf
  | succ fuel =>
    have hplain : needsQuoting "Record" = false := by decide
    have hword := @readWord?_append "Record" hplain
      ('<' :: (k.text ++ ',' :: ' ' :: (v.text ++ '>' :: rest))) rfl
    have hopen := @readMark?_same '<' rfl (k.text ++ ',' :: ' ' :: (v.text ++ '>' :: rest))
    have hkey := hk.type (',' :: ' ' :: (v.text ++ '>' :: rest)) fuel (closes_cons (by simp) _)
      (by omega)
    have hcomma := @readMark?_same ',' rfl (' ' :: (v.text ++ '>' :: rest))
    have hvalue := hv.type ('>' :: rest) fuel (closes_cons (by simp) _) (by omega)
    have hclose := @readMark?_same '>' rfl rest
    simp only [List.append_assoc, List.cons_append, List.nil_append]
    rw [readMember?, readMark?_word hplain rfl, readMark?_word hplain rfl, trimStart_word hplain,
      readLiteral?_word hplain, hword]
    simp only [Option.bind_eq_bind, Option.bind_some, if_true, hopen, hkey, hcomma, readType?_blank,
      hvalue, hclose]

theorem closes_laterText (ps : List (PropertyName × TypeExpr)) (rest : List Char) :
    Closes (laterText ps ++ rest) := by
  cases ps with
  | nil => exact closes_brace rest
  | cons p ps => exact closes_cons (by simp) _

theorem readMark?_propertyText (p : PropertyName × TypeExpr) (rest : List Char) :
    readMark? '\x7d' (propertyText p ++ rest) = none := by
  rw [propertyText, PropertyName.render, String.toList_append, List.append_assoc, List.append_assoc]
  exact readMark?_key rfl (by decide) _ _

theorem readProperties?_propertyText {p : PropertyName × TypeExpr} (h : IsRead p.2)
    {rest : List Char} (hr : Closes rest) {fuel : Nat} (hf : 2 * p.2.text.length + 2 ≤ fuel) :
    readProperties? (fuel + 1) (propertyText p ++ rest) =
      match readMark? ';' rest with
      | some rest => (readProperties? fuel rest).map (Prod.map (p :: ·) id)
      | none => (readMark? '\x7d' rest).map ([p], ·) := by
  have hname := readPropertyName?_render p.1 (' ' :: (p.2.text ++ rest))
  have hcolon := @readMark?_same ':' rfl (' ' :: (p.2.text ++ rest))
  have htype := h.type rest fuel hr hf
  rw [readProperties?, readMark?_propertyText, propertyText, List.append_assoc, List.cons_append,
    List.cons_append, hname]
  simp only [Option.bind_eq_bind, Option.bind_some, hcolon, readType?_blank, htype]
  cases readMark? ';' rest with
  | none => cases readMark? '\x7d' rest <;> rfl
  | some later => cases hl : readProperties? fuel later <;> simp [hl, Prod.map]

theorem readProperties?_append {p : PropertyName × TypeExpr} {ps : List (PropertyName × TypeExpr)}
    (h : ∀ q ∈ p :: ps, IsRead q.2) (rest : List Char) {fuel : Nat}
    (hf : 2 * (propertyText p ++ laterText ps).length ≤ fuel) :
    readProperties? fuel (propertyText p ++ (laterText ps ++ rest)) = some (p :: ps, rest) := by
  have hlength : ∀ q : PropertyName × TypeExpr, q.2.text.length + 2 ≤ (propertyText q).length := by
    intro q
    simp only [propertyText, List.length_append, List.length_cons]
    omega
  induction ps generalizing p fuel with
  | nil =>
    have hp := hlength p
    simp only [laterText, List.flatMap_nil, List.nil_append, List.length_append, List.length_cons,
      List.length_nil] at hf
    cases fuel with
    | zero => omega
    | succ fuel =>
      rw [readProperties?_propertyText (h p (by simp)) (closes_laterText [] rest) (by omega)]
      rfl
  | cons q ps ih =>
    obtain ⟨hread, hlater⟩ := List.forall_mem_cons.1 h
    have hp := hlength p
    have htext : laterText (q :: ps) = ';' :: ' ' :: (propertyText q ++ laterText ps) := by
      simp [laterText]
    have hmark := @readMark?_same ';' rfl (' ' :: (propertyText q ++ (laterText ps ++ rest)))
    rw [htext] at hf
    simp only [List.length_append, List.length_cons] at hf
    cases fuel with
    | zero => omega
    | succ fuel =>
      have hnext := ih hlater (show 2 * (propertyText q ++ laterText ps).length ≤ fuel by
        rw [List.length_append]
        omega)
      rw [readProperties?_propertyText hread (closes_laterText (q :: ps) rest) (by omega), htext]
      simp only [List.cons_append, List.append_assoc, hmark, readProperties?_blank, hnext]
      rfl

theorem isRead_object {properties : List (PropertyName × TypeExpr)}
    (h : ∀ p ∈ properties, IsRead p.2) : IsRead (.object properties) := by
  refine isRead_of_member fun rest fuel _ hf => ?_
  cases fuel with
  | zero => cases hf
  | succ fuel =>
    cases properties with
    | nil =>
      rw [text_object_nil] at hf ⊢
      cases fuel with
      | zero => simp at hf
      | succ fuel => rfl
    | cons p ps =>
      rw [text_object] at hf ⊢
      simp only [List.length_cons] at hf
      have hread := readProperties?_append h rest
        (show 2 * (propertyText p ++ laterText ps).length ≤ fuel by omega)
      have hparen := @readMark?_other '(' '\x7b' rfl (by decide)
        (' ' :: (propertyText p ++ (laterText ps ++ rest)))
      have hopen := @readMark?_same '\x7b' rfl (' ' :: (propertyText p ++ (laterText ps ++ rest)))
      simp only [List.cons_append, List.append_assoc, readMember?, hparen, hopen,
        readProperties?_blank, hread, Option.bind_eq_bind, Option.bind_some]

theorem isRead_of_isWritten {t : TypeExpr} (h : IsWritten t) : IsRead t := by
  -- along the tree: each form needs its parts read with its own marks, and all else, behind them
  induction h with
  | primitive p => exact isRead_primitive p
  | array _ ih => exact isRead_array ih
  | union flat _ ih => exact isRead_union flat ih
  | object _ ih => exact isRead_object ih
  | record _ _ ihk ihv => exact isRead_record ihk ihv
  | literal value => exact isRead_literal value
  | named word free => exact isRead_named word free

end Forms

theorem read?_render {t : TypeExpr} (h : IsWritten t) : read? t.render = some t := by
  have hlength : t.render.length = t.text.length := String.length_toList.symm
  have hread := (isRead_of_isWritten h).type [] (2 * t.render.length + 2) closes_nil
    (by rw [hlength])
  rw [List.append_nil, text] at hread
  rw [read?, hread]
  rfl

example : read? "( A | null )[] |null" =
    some (.union [.array (.union [.named "A", .primitive .null]), .primitive .null]) := by
  cbv

end EventSchema.Frontend.TypeExpr
