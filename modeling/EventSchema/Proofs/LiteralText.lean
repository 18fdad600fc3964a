import EventSchema.Proofs.ExprReader

/-!
String literals and object keys of the generated TypeScript. Escaping goes character by character,
which is what four replacements in the whole text come to, the backslashes first. No line ends in an
escaped text, every quote in it stands behind a backslash that escapes, and none of its escapes is
left open. So a literal goes on to its own closing quote whatever follows, and it and a key, in
quotes or bare, are read back as the text that they were written for.
-/

set_option autoImplicit false

namespace EventSchema.Frontend

section Replacements

def replaceAll (mark : Char) (text cs : List Char) : List Char :=
  cs.flatMap fun c => if c = mark then text else [c]

/-- No replacement touches what the ones before it have put in. -/
theorem escapeText_eq_replaceAll (cs : List Char) :
    escapeText cs = replaceAll '\r' ['\\', 'r'] (replaceAll '\n' ['\\', 'n']
      (replaceAll '"' ['\\', '"'] (replaceAll '\\' ['\\', '\\'] cs))) := by
  simp only [replaceAll, List.flatMap_assoc]
  refine List.flatMap_congr fun c _ => ?_
  unfold escapeChar
  split_ifs with hb hq hn hr
  · simp
  · simp [hq]
  · simp [hn]
  · simp [hr]
  · simp [hq, hn, hr]

end Replacements

section Escapes

/-- Whether a character is escaped, given whether the one before it was, and that one: a backslash
escapes unless it is escaped itself. -/
def escapeStep (escaped : Bool) (c : Char) : Bool :=
  !escaped && c == '\\'

def endsInEscape (cs : List Char) : Bool :=
  cs.foldl escapeStep false

theorem endsInEscape_append {before : List Char} (h : endsInEscape before = false)
    (cs : List Char) : endsInEscape (before ++ cs) = endsInEscape cs := by
  rw [endsInEscape, List.foldl_append, ← endsInEscape, h, endsInEscape]

/-- Text between quotes that does not leave them: every quote in it is escaped, and what comes
behind it is not. -/
structure StaysInside (cs : List Char) : Prop where
  escaped : ∀ before after, cs = before ++ '"' :: after → endsInEscape before = true
  ends : endsInEscape cs = false

namespace StaysInside

theorem nil : StaysInside [] :=
  ⟨by simp, rfl⟩

theorem append {a b : List Char} (ha : StaysInside a) (hb : StaysInside b) :
    StaysInside (a ++ b) where
  escaped := by
    intro before after h
    rcases List.append_eq_append_iff.1 h with ⟨later, rfl, hl⟩ | ⟨within, hw, hl⟩
    · rw [endsInEscape_append ha.ends]
      exact hb.escaped later after hl
    · cases within with
      | nil =>
        -- a quote in front would have to be escaped by what is not there
        have hnone := hb.escaped [] after hl.symm
        cases hnone
      | cons d within =>
        obtain ⟨rfl, -⟩ := List.cons.inj hl
        exact ha.escaped before within hw
  ends := (endsInEscape_append ha.ends b).trans hb.ends

theorem plain {c : Char} (hq : c ≠ '"') (hb : c ≠ '\\') : StaysInside [c] where
  escaped := by
    intro before after h
    have hmem : '"' ∈ [c] := by simp [h]
    exact absurd (List.mem_singleton.1 hmem).symm hq
  ends := by simp [endsInEscape, escapeStep, hb]

theorem escape (c : Char) : StaysInside ['\\', c] where
  escaped := by
    intro before after h
    cases before with
    | nil => cases h
    | cons a before =>
      obtain ⟨rfl, htail⟩ := List.cons.inj h
      cases before with
      | nil => rfl
      | cons b before => simp at htail
  ends := rfl

theorem flatMap {α : Type} {f : α → List Char} {xs : List α} (h : ∀ x ∈ xs, StaysInside (f x)) :
    StaysInside (xs.flatMap f) := by
  induction xs with
  | nil => exact .nil
  | cons x xs ih =>
    obtain ⟨hx, hxs⟩ := List.forall_mem_cons.1 h
    exact hx.append (ih hxs)

theorem of_plain {cs : List Char} (h : ∀ c ∈ cs, c ≠ '"' ∧ c ≠ '\\') : StaysInside cs := by
  have hpieces : StaysInside (cs.flatMap fun c => [c]) :=
    .flatMap fun c hc => .plain (h c hc).1 (h c hc).2
  rwa [List.flatMap_singleton'] at hpieces

end StaysInside

theorem staysInside_escapeText (cs : List Char) : StaysInside (escapeText cs) := by
  refine .flatMap fun c _ => ?_
  unfold escapeChar
  split_ifs with hb hq hn hr
  · exact .escape _
  · exact .escape _
  · exact .escape _
  · exact .escape _
  · exact .plain hq hb

theorem endsInEscape_escapeText (cs : List Char) : endsInEscape (escapeText cs) = false :=
  (staysInside_escapeText cs).ends

theorem endsInEscape_of_escapeText {cs before after : List Char}
    (h : escapeText cs = before ++ '"' :: after) : endsInEscape before = true :=
  (staysInside_escapeText cs).escaped before after h

theorem newline_not_mem_escapeText (cs : List Char) :
    '\n' ∉ escapeText cs ∧ '\r' ∉ escapeText cs := by
  have hchar : ∀ c, '\n' ∉ escapeChar c ∧ '\r' ∉ escapeChar c := by
    intro c
    unfold escapeChar
    split_ifs with hb hq hn hr
    · decide
    · decide
    · decide
    · decide
    · simp [Ne.symm hn, Ne.symm hr]
  simp only [escapeText, List.mem_flatMap, not_exists, not_and]
  exact ⟨fun c _ => (hchar c).1, fun c _ => (hchar c).2⟩

end Escapes

section Literals

/-- What a literal says from behind its opening quote on, and what follows its end. -/
def readBody? : List Char → Option (List Char × List Char)
  | [] => none
  | '"' :: rest => some ([], rest)
  | '\\' :: c :: rest => do
    let value ← Expr.unescapeChar? c
    (readBody? rest).map (Prod.map (value :: ·) id)
  | c :: rest => if c = '\n' ∨ c = '\r' then none else (readBody? rest).map (Prod.map (c :: ·) id)

def readLiteral? : List Char → Option (String × List Char)
  | '"' :: rest => (readBody? rest).map (Prod.map String.ofList id)
  | _ => none

theorem readBody?_escapeChar (c : Char) (rest : List Char) :
    readBody? (escapeChar c ++ rest) = (readBody? rest).map (Prod.map (c :: ·) id) := by
  unfold escapeChar
  split_ifs with hb hq hn hr
  · subst hb; rfl
  · subst hq; rfl
  · subst hn; rfl
  · subst hr; rfl
  · simp [readBody?, hb, hn, hr]

theorem readBody?_escapeText (cs rest : List Char) :
    readBody? (escapeText cs ++ '"' :: rest) = some (cs, rest) := by
  induction cs with
  | nil => rfl
  | cons c cs ih =>
    have hstep : escapeText (c :: cs) = escapeChar c ++ escapeText cs := rfl
    rw [hstep, List.append_assoc, readBody?_escapeChar, ih]
    rfl

theorem toList_quoted (s : String) :
    (quoted s).toList = '"' :: (escapeText s.toList ++ ['"']) := by
  simp [quoted, escape]

theorem readLiteral?_quoted (s : String) (rest : List Char) :
    readLiteral? ((quoted s).toList ++ rest) = some (s, rest) := by
  rw [toList_quoted, List.cons_append, List.append_assoc, readLiteral?, List.singleton_append,
    readBody?_escapeText]
  simp

theorem escape_injective : Function.Injective escape := by
  intro a b h
  have ha := readLiteral?_quoted a []
  rw [quoted, h, ← quoted, readLiteral?_quoted] at ha
  exact (Prod.mk.inj (Option.some.inj ha)).1.symm

end Literals

section Keys

def readWord? : List Char → Option (String × List Char)
  | [] => none
  | c :: cs =>
    if isWordStart c then
      some (String.ofList (c :: cs.takeWhile isWordPart), cs.dropWhile isWordPart)
    else none

def readKey? (cs : List Char) : Option (String × List Char) :=
  if cs.head? = some '"' then readLiteral? cs else readWord? cs

theorem exists_of_needsQuoting {name : String} (h : needsQuoting name = false) :
    ∃ c cs, name.toList = c :: cs ∧ isWordStart c = true ∧
      ∀ d ∈ c :: cs, isWordPart d = true := by
  rw [needsQuoting_eq, Bool.not_eq_false'] at h
  cases hl : name.toList with
  | nil => simp [hl, isWord] at h
  | cons c cs =>
    simp only [hl, isWord, Bool.and_eq_true, List.all_eq_true] at h
    exact ⟨c, cs, rfl, h.1, List.forall_mem_cons.2 ⟨isWordPart_of_isWordStart h.1, h.2⟩⟩

theorem readWord?_append {name : String} (h : needsQuoting name = false) {rest : List Char}
    (hr : rest.head?.any isWordPart = false) :
    readWord? (name.toList ++ rest) = some (name, rest) := by
  obtain ⟨c, cs, hl, hstart, hparts⟩ := exists_of_needsQuoting h
  have hall : ∀ d ∈ cs, isWordPart d = true := fun d hd => hparts d (List.mem_cons_of_mem c hd)
  have hrest : rest.takeWhile isWordPart = [] ∧ rest.dropWhile isWordPart = rest := by
    cases rest with
    | nil => exact ⟨rfl, rfl⟩
    | cons d rest =>
      have hd : isWordPart d = false := by simpa using hr
      simp [hd]
  rw [hl, List.cons_append, readWord?, if_pos hstart, List.takeWhile_append_of_pos hall,
    List.dropWhile_append_of_pos hall, hrest.1, hrest.2, List.append_nil, ← hl,
    String.ofList_toList]

theorem head?_ne_quote {name : String} (h : needsQuoting name = false) (rest : List Char) :
    (name.toList ++ rest).head? ≠ some '"' := by
  obtain ⟨c, cs, hl, hstart, -⟩ := exists_of_needsQuoting h
  rw [hl, List.cons_append, List.head?_cons, ne_eq, Option.some.injEq]
  rintro rfl
  exact absurd hstart (by decide)

theorem readKey?_key (name : String) {rest : List Char} (hr : rest.head?.any isWordPart = false) :
    readKey? ((key name).toList ++ rest) = some (name, rest) := by
  unfold key readKey?
  split
  · rw [if_pos (by simp [toList_quoted])]
    exact readLiteral?_quoted name rest
  · next h =>
    have hplain : needsQuoting name = false := by simpa using h
    rw [if_neg (head?_ne_quote hplain rest)]
    exact readWord?_append hplain hr

theorem key_injective : Function.Injective key := by
  intro a b h
  have ha := @readKey?_key a [] rfl
  rw [h, @readKey?_key b [] rfl] at ha
  exact (Prod.mk.inj (Option.some.inj ha)).1.symm

end Keys

/-- An escaped text between quotes is one whole literal that denotes the text, and keys denote their
names; so neither is shared by two texts. -/
theorem literals_denote_texts (s : String) :
    (escapeText s.toList = replaceAll '\r' ['\\', 'r'] (replaceAll '\n' ['\\', 'n']
      (replaceAll '"' ['\\', '"'] (replaceAll '\\' ['\\', '\\'] s.toList)))) ∧
    ('\n' ∉ (escape s).toList ∧ '\r' ∉ (escape s).toList) ∧
    (∀ before after, (escape s).toList = before ++ '"' :: after → endsInEscape before = true) ∧
    endsInEscape (escape s).toList = false ∧
    (∀ rest, readLiteral? ('"' :: ((escape s).toList ++ '"' :: rest)) = some (s, rest)) ∧
    (∀ rest, rest.head?.any isWordPart = false →
      readKey? ((key s).toList ++ rest) = some (s, rest)) ∧
    Function.Injective escape ∧ Function.Injective key := by
  have htext : (escape s).toList = escapeText s.toList := String.toList_ofList
  rw [htext]
  refine ⟨escapeText_eq_replaceAll _, newline_not_mem_escapeText _,
    fun _ _ => endsInEscape_of_escapeText, endsInEscape_escapeText _, fun rest => ?_,
    fun rest => readKey?_key s, escape_injective, key_injective⟩
  have hread := readLiteral?_quoted s rest
  rwa [toList_quoted, List.cons_append, List.append_assoc, List.singleton_append] at hread

/-- A backslash before a quote at the end of a line, and a key that needs no quotes. -/
theorem literals_denote_texts_backslash :
    let s := "\\\"\n"
    (escape s).toList = ['\\', '\\', '\\', '"', '\\', 'n'] ∧
      endsInEscape ['\\', '\\', '\\'] = true ∧
      readLiteral? ['"', '\\', '\\', '\\', '"', '\\', 'n', '"', ';'] = some (s, [';']) ∧
      readKey? ((key s).toList ++ [':']) = some (s, [':']) ∧
      readKey? ((key "id").toList ++ [':']) = some ("id", [':']) := by
  intro s
  have htext : (escape s).toList = ['\\', '\\', '\\', '"', '\\', 'n'] := by decide
  obtain ⟨-, -, hquotes, -, hread, hkey, -⟩ := literals_denote_texts s
  obtain ⟨-, -, -, -, -, hbare, -⟩ := literals_denote_texts "id"
  have hliteral := hread [';']
  rw [htext] at hliteral
  exact ⟨htext, hquotes ['\\', '\\', '\\'] ['\\', 'n'] htext, hliteral, hkey [':'] rfl,
    hbare [':'] rfl⟩

end EventSchema.Frontend
