import EventSchema.Check.Names
import EventSchema.Proofs.Identifiers

/-!
Names that Rust takes as identifiers. Every case style keeps the letters and digits of a name in
their order and leaves out the rest, so the result is an identifier if and only if the first of them
is a letter. What is left to tell are the keywords: the screaming style gives none, the Pascal style
only `Self`, the snake style all others. Names that are escaped or have an underscore inside are no
keywords.
-/

set_option autoImplicit false

namespace EventSchema

theorem Text.flatten_splitAt (cut : Char → Bool) (cs : List Char) :
    (splitAt cut cs).flatten = cs.filter (! cut ·) := by
  induction cs with
  | nil => rfl
  | cons c rest ih =>
    rw [splitAt]
    split
    · next hc => simp [hc, ih]
    · next hc =>
      cases hs : splitAt cut rest with
      | nil => exact absurd hs (splitAt_ne_nil cut rest)
      | cons piece pieces =>
        rw [hs] at ih
        simpa [hc] using ih

namespace Naming

theorem flatten_words (s : String) : (words s).flatten = s.toList.filter Char.isAlphanum := by
  have hpieces := Text.flatten_splitAt (! ·.isAlphanum) s.toList
  simp only [Bool.not_not] at hpieces
  rw [words, wordsOf, ← hpieces]
  induction Text.splitAt (! ·.isAlphanum) s.toList with
  | nil => rfl
  | cons piece pieces ih =>
    rw [List.flatMap_cons, List.flatten_append, flatten_splitRun, List.flatten_cons, ih]

def startsWithLetter (s : String) : Bool :=
  (s.toList.find? Char.isAlphanum).any Char.isAlpha

theorem head?_flatten_words (s : String) :
    (words s).flatten.head? = s.toList.find? Char.isAlphanum := by
  rw [flatten_words, List.head?_filter]

theorem isIdentifierText_iff {cs : List Char} :
    isIdentifierText cs = true ↔
      cs.head?.any isIdentifierStart = true ∧ ∀ c ∈ cs, isIdentifierPart c = true := by
  cases cs with
  | nil => simp [isIdentifierText]
  | cons c rest =>
    have hc : isIdentifierStart c = true → isIdentifierPart c = true := by
      simp only [isIdentifierStart, isIdentifierPart, Char.isAlphanum, Bool.or_eq_true]
      tauto
    simp only [isIdentifierText, List.head?_cons, Option.any_some, Bool.and_eq_true,
      List.all_eq_true, List.forall_mem_cons]
    tauto

theorem isIdentifierPart_of_isAlphanum {c : Char} (h : c.isAlphanum = true) :
    isIdentifierPart c = true := by
  simp [isIdentifierPart, h]

theorem head?_joinWords {ws : List (List Char)} (h : ∀ w ∈ ws, w ≠ []) :
    (joinWords ws).head? = ws.flatten.head? := by
  fun_cases joinWords ws with
  | case1 => rfl
  | case2 word => simp
  | case3 word next rest =>
    cases word with
    | nil => exact absurd rfl (h [] (by simp))
    | cons c word => simp

section Styles

variable {f : Char → Char}

theorem mem_joined {s : String} {c : Char} (h : c ∈ joinWords ((words s).map (·.map f))) :
    c = '_' ∨ ∃ d, d.isAlphanum = true ∧ c = f d := by
  rcases mem_joinWords h with h | ⟨w, hw, hc⟩
  · exact .inl h
  · obtain ⟨v, hv, rfl⟩ := List.mem_map.1 hw
    obtain ⟨d, hd, rfl⟩ := List.mem_map.1 hc
    exact .inr ⟨d, (word_of_mem_words hv).2 d hd, rfl⟩

theorem head?_joined (s : String) :
    (joinWords ((words s).map (·.map f))).head? = (s.toList.find? Char.isAlphanum).map f := by
  rw [head?_joinWords, ← List.map_flatten, List.head?_map, head?_flatten_words]
  intro w hw
  obtain ⟨v, hv, rfl⟩ := List.mem_map.1 hw
  simpa using (word_of_mem_words hv).1

theorem joined_ne_underscore (hf : ∀ c, c.isAlphanum = true → (f c).isAlphanum = true)
    (s : String) : joinWords ((words s).map (·.map f)) ≠ ['_'] := by
  intro h
  have hhead := head?_joined (f := f) s
  rw [h] at hhead
  obtain ⟨c, hc, he⟩ := Option.map_eq_some_iff.1 hhead.symm
  exact absurd (he ▸ hf c (List.find?_some hc)) (by decide)

/-- A change of case that keeps letters letters and digits digits keeps identifiers apart from
other names. -/
theorem isIdentifierText_joined (hf : ∀ c, c.isAlphanum = true → (f c).isAlphanum = true)
    (ha : ∀ c, c.isAlphanum = true → (isIdentifierStart (f c)) = c.isAlpha) (s : String) :
    isIdentifierText (joinWords ((words s).map (·.map f))) = startsWithLetter s := by
  rw [Bool.eq_iff_iff, isIdentifierText_iff, head?_joined, startsWithLetter]
  have hparts : ∀ c ∈ joinWords ((words s).map (·.map f)), isIdentifierPart c = true := by
    intro c hc
    rcases mem_joined hc with rfl | ⟨d, hd, rfl⟩
    · rfl
    · exact isIdentifierPart_of_isAlphanum (hf d hd)
  cases hfind : s.toList.find? Char.isAlphanum with
  | none => simp
  | some c =>
    rw [and_iff_left hparts, Option.map_some, Option.any_some, Option.any_some,
      ha c (List.find?_some hfind)]

end Styles

theorem isAlphanum_toUpper {c : Char} (h : c.isAlphanum = true) : c.toUpper.isAlphanum = true :=
  forall_ascii (P := fun c => c.isAlphanum = true → c.toUpper.isAlphanum = true) (by decide)
    (ascii_of_isAlphanum h) h

theorem isIdentifierStart_toLower {c : Char} (h : c.isAlphanum = true) :
    isIdentifierStart c.toLower = c.isAlpha :=
  forall_ascii (P := fun c => c.isAlphanum = true → isIdentifierStart c.toLower = c.isAlpha)
    (by decide) (ascii_of_isAlphanum h) h

theorem isIdentifierStart_toUpper {c : Char} (h : c.isAlphanum = true) :
    isIdentifierStart c.toUpper = c.isAlpha :=
  forall_ascii (P := fun c => c.isAlphanum = true → isIdentifierStart c.toUpper = c.isAlpha)
    (by decide) (ascii_of_isAlphanum h) h

theorem isIdentifier_snake (s : String) : isIdentifier (snake s) = startsWithLetter s := by
  rw [isIdentifier, snake, String.toList_ofList]
  exact isIdentifierText_joined (fun _ => isAlphanum_toLower) (fun _ => isIdentifierStart_toLower) s

theorem isIdentifier_screaming (s : String) : isIdentifier (screaming s) = startsWithLetter s := by
  rw [isIdentifier, screaming, String.toList_ofList]
  exact isIdentifierText_joined (fun _ => isAlphanum_toUpper) (fun _ => isIdentifierStart_toUpper) s

theorem isAlphanum_of_mem_pascal {s : String} {c : Char} (h : c ∈ (pascal s).toList) :
    c.isAlphanum = true := by
  rw [pascal, String.toList_ofList] at h
  obtain ⟨w, hw, hc⟩ := List.mem_flatMap.1 h
  have ha := (word_of_mem_words hw).2
  cases w with
  | nil => cases hc
  | cons d rest =>
    rcases List.mem_cons.1 hc with rfl | hc
    · exact isAlphanum_toUpper (ha d (by simp))
    · exact ha c (List.mem_cons_of_mem _ hc)

theorem head?_pascal (s : String) :
    (pascal s).toList.head? = (s.toList.find? Char.isAlphanum).map Char.toUpper := by
  rw [pascal, String.toList_ofList, ← head?_flatten_words]
  cases hw : words s with
  | nil => rfl
  | cons w ws =>
    cases w with
    | nil => exact absurd rfl (word_of_mem_words (hw ▸ List.mem_cons_self)).1
    | cons c rest => simp [raiseFirst]

theorem isLower_toUpper {c : Char} (h : c.isAlphanum = true) : c.toUpper.isLower = false :=
  forall_ascii (P := fun c => c.isAlphanum = true → c.toUpper.isLower = false) (by decide)
    (ascii_of_isAlphanum h) h

theorem isUpper_toUpper {c : Char} (h : c.isAlphanum = true) : c.toUpper.isUpper = c.isAlpha :=
  forall_ascii (P := fun c => c.isAlphanum = true → c.toUpper.isUpper = c.isAlpha) (by decide)
    (ascii_of_isAlphanum h) h

theorem isIdentifier_pascal (s : String) : isIdentifier (pascal s) = startsWithLetter s := by
  rw [Bool.eq_iff_iff, isIdentifier, isIdentifierText_iff, head?_pascal, startsWithLetter]
  have hparts : ∀ c ∈ (pascal s).toList, isIdentifierPart c = true :=
    fun c hc => isIdentifierPart_of_isAlphanum (isAlphanum_of_mem_pascal hc)
  rw [and_iff_left hparts]
  cases hfind : s.toList.find? Char.isAlphanum with
  | none => simp
  | some c => simp [isIdentifierStart_toUpper (List.find?_some hfind)]

theorem isUpper_head_pascal {s : String} (h : startsWithLetter s = true) :
    (pascal s).toList.head?.any Char.isUpper = true := by
  rw [head?_pascal]
  unfold startsWithLetter at h
  cases hfind : s.toList.find? Char.isAlphanum with
  | none => simp [hfind] at h
  | some c => simpa [hfind, isUpper_toUpper (List.find?_some hfind)] using h

theorem isTypeName_pascal {s : String} (h : startsWithLetter s = true) :
    Check.isTypeName (pascal s) = true := by
  rw [Check.isTypeName, isIdentifier_pascal, h, isUpper_head_pascal h]
  rfl

theorem isIdentifierPart_of_mem_snake {s : String} {c : Char} (h : c ∈ (snake s).toList) :
    isIdentifierPart c = true := by
  rw [snake, String.toList_ofList] at h
  rcases mem_joined h with rfl | ⟨d, hd, rfl⟩
  · rfl
  · exact isIdentifierPart_of_isAlphanum (isAlphanum_toLower hd)

theorem mark_not_mem {name : String} (h : isIdentifier name = true) {mark : Char}
    (hm : isIdentifierPart mark = false) : mark ∉ name.toList :=
  fun hmem => absurd ((isIdentifierText_iff.1 h).2 _ hmem) (by simp [hm])

theorem isIdentifier_append {a b : String} (ha : isIdentifier a = true)
    (hb : ∀ c ∈ b.toList, isIdentifierPart c = true) : isIdentifier (a ++ b) = true := by
  obtain ⟨hhead, hparts⟩ := isIdentifierText_iff.1 ha
  rw [isIdentifier, String.toList_append, isIdentifierText_iff]
  refine ⟨?_, fun c hc => (List.mem_append.1 hc).elim (hparts c) (hb c)⟩
  cases hl : a.toList with
  | nil => simp [hl] at hhead
  | cons c rest => simpa [hl] using hhead

theorem snake_ne_underscore (s : String) : snake s ≠ "_" :=
  fun h => joined_ne_underscore (fun _ => isAlphanum_toLower) s (String.ofList_injective h)

theorem screaming_ne_underscore (s : String) : screaming s ≠ "_" :=
  fun h => joined_ne_underscore (fun _ => isAlphanum_toUpper) s (String.ofList_injective h)

theorem pascal_ne_underscore (s : String) : pascal s ≠ "_" := by
  intro h
  have hm : '_' ∈ (pascal s).toList := by
    rw [h]
    decide
  exact absurd (isAlphanum_of_mem_pascal hm) (by decide)

theorem startsWithLetter_of_isTypeName {name : String} (h : Check.isTypeName name = true) :
    startsWithLetter name = true := by
  obtain ⟨-, hhead⟩ := Bool.and_eq_true_iff.1 h
  cases hl : name.toList with
  | nil => simp [hl] at hhead
  | cons c rest =>
    have hc : c.isUpper = true := by simpa [hl] using hhead
    simp [startsWithLetter, hl, Char.isAlphanum, Char.isAlpha, hc]

end Naming

namespace Backend

open Naming

/-- The keywords of Rust in its edition of 2024, the reserved ones last. -/
def rustKeywords : List String :=
  ["Self", "as", "async", "await", "break", "const", "continue", "crate", "dyn", "else", "enum",
   "extern", "false", "fn", "for", "if", "impl", "in", "let", "loop", "match", "mod", "move", "mut",
   "pub", "ref", "return", "self", "static", "struct", "super", "trait", "true", "type", "unsafe",
   "use", "where", "while", "abstract", "become", "box", "do", "final", "gen", "macro", "override",
   "priv", "try", "typeof", "unsized", "virtual", "yield"]

theorem isKeyword_iff {name : String} : isKeyword name = true ↔ name ∈ rustKeywords := by
  have hall : ∀ word ∈ keywords, word ∈ rustKeywords := by decide
  have hback : ∀ word ∈ rustKeywords, word ∈ keywords := by decide
  rw [isKeyword, List.contains_iff_mem]
  exact ⟨hall name, hback name⟩

theorem isKeyword_eq_false_iff {name : String} : isKeyword name = false ↔ name ∉ rustKeywords := by
  rw [← isKeyword_iff, Bool.not_eq_true]

/-- Letters, digits and underscores, no digit first, and more than one underscore. -/
def isPlainText : List Char → Bool
  | [] => false
  | c :: rest =>
    (c.isAlpha || c == '_') && rest.all (fun d => d.isAlphanum || d == '_') && c :: rest != ['_']

theorem isPlainText_eq (cs : List Char) :
    isPlainText cs = (isIdentifierText cs && cs != ['_']) := by
  cases cs with
  | nil => rfl
  | cons c rest => rfl

/-- Whether a name can stand where Rust wants an identifier: a plain name that is no keyword, or a
raw one that may be written so. -/
def isLegalIdent (name : String) : Bool :=
  match name.toList with
  | 'r' :: '#' :: base =>
    isPlainText base && !(["self", "Self", "super", "crate"].contains (String.ofList base))
  | text => isPlainText text && !rustKeywords.contains name

theorem isLegalIdent_iff {name : String} (h : '#' ∉ name.toList) :
    isLegalIdent name = true ↔
      isIdentifier name = true ∧ name ≠ "_" ∧ isKeyword name = false := by
  have hu : name.toList = ['_'] ↔ name = "_" := by
    rw [← String.toList_inj]
    rfl
  unfold isLegalIdent
  split
  · next base hl => simp [hl] at h
  · simp [isPlainText_eq, isIdentifier, hu, isKeyword_eq_false_iff, and_assoc]

theorem numberSign_not_mem {name : String} (h : isIdentifier name = true) : '#' ∉ name.toList :=
  mark_not_mem h rfl

theorem isLower_head_of_isKeyword {name : String} (h : isKeyword name = true) :
    name = "Self" ∨ name.toList.head?.any Char.isLower = true := by
  have hall : ∀ word ∈ keywords, word = "Self" ∨ word.toList.head?.any Char.isLower = true := by
    decide
  exact hall name (by simpa [isKeyword] using h)

theorem isLegalIdent_of_isTypeName {name : String} (h : Check.isTypeName name = true)
    (hs : name ≠ "Self") : isLegalIdent name = true := by
  obtain ⟨hi, hhead⟩ := Bool.and_eq_true_iff.1 h
  rw [isLegalIdent_iff (numberSign_not_mem hi)]
  refine ⟨hi, ?_, ?_⟩
  · rintro rfl
    exact absurd hhead (by decide)
  · by_contra hk
    rcases isLower_head_of_isKeyword (by simpa using hk) with he | hl
    · exact hs he
    · cases hc : name.toList.head? with
      | none => simp [hc] at hl
      | some c =>
        rw [hc, Option.any_some] at hl hhead
        exact Char.not_isLower_of_isUpper hhead hl

theorem isLegalIdent_pascal (s : String) :
    isLegalIdent (pascal s) = true ↔ startsWithLetter s = true ∧ pascal s ≠ "Self" := by
  constructor
  · intro h
    have hn : '#' ∉ (pascal s).toList := fun hm => absurd (isAlphanum_of_mem_pascal hm) (by decide)
    obtain ⟨hi, -, hk⟩ := (isLegalIdent_iff hn).1 h
    refine ⟨isIdentifier_pascal s ▸ hi, fun he => ?_⟩
    rw [he] at hk
    exact absurd hk (by decide)
  · rintro ⟨hl, hs⟩
    exact isLegalIdent_of_isTypeName (isTypeName_pascal hl) hs

theorem isLegalIdent_snake (s : String) :
    isLegalIdent (snake s) = true ↔ startsWithLetter s = true ∧ isKeyword (snake s) = false := by
  rw [isLegalIdent_iff (numberSign_not_mem_snake s), isIdentifier_snake,
    and_iff_right (snake_ne_underscore s)]

theorem isLegalIdent_screaming (s : String) :
    isLegalIdent (screaming s) = startsWithLetter s := by
  have hchars : ∀ c ∈ (screaming s).toList, c.isLower = false ∧ c ≠ '#' := by
    intro c hc
    rw [screaming, String.toList_ofList] at hc
    rcases mem_joined hc with rfl | ⟨d, hd, rfl⟩
    · decide
    · refine ⟨isLower_toUpper hd, fun he => ?_⟩
      exact absurd (he ▸ isAlphanum_toUpper hd) (by decide)
  have hlower : ∀ word ∈ keywords, word.toList.any Char.isLower = true := by decide
  have hk : isKeyword (screaming s) = false := by
    by_contra hk
    have hmem : screaming s ∈ keywords := by simpa [isKeyword] using hk
    obtain ⟨c, hc, hl⟩ := List.any_eq_true.1 (hlower _ hmem)
    simp [(hchars c hc).1] at hl
  rw [Bool.eq_iff_iff, isLegalIdent_iff fun hm => (hchars _ hm).2 rfl, isIdentifier_screaming,
    and_iff_left ⟨screaming_ne_underscore s, hk⟩]

theorem isLegalIdent_escapeKeyword {name : String} (hi : isIdentifier name = true)
    (hu : name ≠ "_") : isLegalIdent (escapeKeyword name) = true := by
  unfold escapeKeyword
  split
  · next hk => exact (isLegalIdent_iff (numberSign_not_mem hi)).2 ⟨hi, hu, by simpa using hk⟩
  · split
    · next hp =>
      have hall : ∀ word ∈ pathKeywords, isLegalIdent (word ++ "_") = true := by decide
      exact hall name (by simpa using hp)
    · next hp =>
      have ht : name.toList ≠ ['_'] := fun h => hu (String.toList_inj.1 h)
      have hm : name ∉ ["self", "Self", "super", "crate"] := by simpa [pathKeywords] using hp
      have hi' : isIdentifierText name.toList = true := hi
      simp [isLegalIdent, isPlainText_eq, hi', ht, hm]

/-- An underscore inside a name tells it from all keywords. -/
theorem isLegalIdent_of_mem_underscore {name : String} (hi : isIdentifier name = true)
    (hm : '_' ∈ name.toList) (hu : name ≠ "_") : isLegalIdent name = true := by
  have hall : ∀ word ∈ keywords, '_' ∉ word.toList := by decide
  refine (isLegalIdent_iff (numberSign_not_mem hi)).2 ⟨hi, hu, ?_⟩
  by_contra hk
  exact hall name (by simpa [isKeyword] using hk) hm

theorem isLegalIdent_of_fieldIdent? {key ident : String} (h : fieldIdent? key = some ident) :
    isLegalIdent ident = true ∧ startsWithLetter key = true := by
  simp only [fieldIdent?, Option.ite_none_right_eq_some, Option.some.injEq] at h
  obtain ⟨hi, rfl⟩ := h
  exact ⟨isLegalIdent_escapeKeyword hi (snake_ne_underscore key), isIdentifier_snake key ▸ hi⟩

theorem isLegalIdent_append {a b : String} (hi : isIdentifier a = true) (hu : a ≠ "_")
    (hb : ∀ c ∈ b.toList, isIdentifierPart c = true) (hm : '_' ∈ (a ++ b).toList) :
    isLegalIdent (a ++ b) = true := by
  refine isLegalIdent_of_mem_underscore (isIdentifier_append hi hb) hm fun h => ?_
  have hl := congrArg String.toList h
  rw [String.toList_append, show "_".toList = ['_'] from rfl, List.append_eq_singleton_iff] at hl
  rcases hl with ⟨hnil, -⟩ | ⟨hone, -⟩
  · simp [isIdentifier, hnil, isIdentifierText] at hi
  · exact hu (String.toList_inj.1 hone)

theorem isLegalIdent_start_snake {start : String} (hi : isIdentifier start = true)
    (hu : start ≠ "_") (hm : '_' ∈ start.toList) (s : String) :
    isLegalIdent (start ++ snake s) = true := by
  apply isLegalIdent_append hi hu
  · exact fun _ => isIdentifierPart_of_mem_snake
  · rw [String.toList_append]
    exact List.mem_append_left _ hm

theorem isLegalIdent_snake_end {finish : String} {s : String} (hs : startsWithLetter s = true)
    (hf : ∀ c ∈ finish.toList, isIdentifierPart c = true) (hm : '_' ∈ finish.toList) :
    isLegalIdent (snake s ++ finish) = true := by
  apply isLegalIdent_append (isIdentifier_snake s ▸ hs) (snake_ne_underscore s) hf
  rw [String.toList_append]
  exact List.mem_append_right _ hm

theorem isLegalIdent_escapeKeyword_snake (s : String) :
    isLegalIdent (escapeKeyword (snake s)) = true ↔ startsWithLetter s = true := by
  rw [← isIdentifier_snake]
  refine ⟨fun h => ?_, fun h => isLegalIdent_escapeKeyword h (snake_ne_underscore s)⟩
  have hall : ∀ word ∈ keywords, isIdentifier word = true := by decide
  cases hk : isKeyword (snake s) with
  | true => exact hall _ (by simpa [isKeyword] using hk)
  | false =>
    rw [escapeKeyword, hk] at h
    exact (isIdentifier_snake s).trans ((isLegalIdent_snake s).1 h).1

theorem isIdentifier_of_isModuleId {id : String} (h : Check.isModuleId id = true) :
    isIdentifier id = true := by
  unfold Check.isModuleId at h
  split at h
  · cases h
  · next c rest hl =>
    simp only [Bool.and_eq_true, List.all_eq_true] at h
    obtain ⟨⟨⟨hc, hrest⟩, -⟩, -⟩ := h
    have hstart : isIdentifierStart c = true := by simp [isIdentifierStart, Char.isAlpha, hc]
    have hparts : ∀ d ∈ rest, isIdentifierPart d = true := by
      intro d hd
      have hd := hrest d hd
      simp only [Check.isModuleIdChar, Bool.or_eq_true] at hd
      simp only [isIdentifierPart, Char.isAlphanum, Char.isAlpha, Bool.or_eq_true]
      tauto
    rw [isIdentifier, hl, isIdentifierText, hstart, List.all_eq_true.2 hparts]
    rfl

theorem isLegalIdent_of_isModuleId {id : String} (h : Check.isModuleId id = true) :
    isLegalIdent id = true := by
  have hi := isIdentifier_of_isModuleId h
  unfold Check.isModuleId at h
  split at h
  · cases h
  · next c rest hl =>
    simp only [Bool.and_eq_true, Bool.not_eq_true'] at h
    refine (isLegalIdent_iff (numberSign_not_mem hi)).2 ⟨hi, ?_, h.1.2⟩
    rintro rfl
    cases hl
    exact absurd h.1.1.1 (by decide)

end Backend

end EventSchema
