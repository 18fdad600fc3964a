import EventSchema.Proofs.Layout
import EventSchema.Proofs.RuleCode
import EventSchema.Proofs.Spellings

/-!
The string literals of Rust code, read line by line. A literal has to end on its line; what could
make a quote something else than the start of one is refused: a prefix, the mark of a character, a
comment that may go on below. So whenever a text is read, its literals are those that are found.
Blanks at the ends of lines and empty lines are between literals, so tidying keeps what is read.
-/

set_option autoImplicit false

namespace EventSchema.Backend

open Text Quoted

/-- Characters that a quote behind them would belong to. -/
def joinsQuote (c : Char) : Bool :=
  isIdentPart c || c == '\'' || c == '\\'

theorem length_lt_of_read? {cs value rest : List Char} (h : read? cs = some (value, rest)) :
    rest.length < cs.length := by
  obtain ⟨body, rfl, -⟩ := exists_spells_of_read? h
  simp
  omega

/-- What the literals of a line denote, in their order; a remark goes on to the end of the line. -/
def stringsIn? (cs : List Char) : Option (List String) :=
  match cs with
  | [] => some []
  | '/' :: rest => if rest.head? = some '/' then some [] else none
  | '"' :: rest =>
    match _ : read? rest with
    | none => none
    | some (value, later) => (stringsIn? later).map (String.ofList value :: ·)
  | c :: rest => if joinsQuote c ∧ rest.head? = some '"' then none else stringsIn? rest
termination_by cs.length
decreasing_by
  · have hlater := length_lt_of_read? ‹read? rest = some (value, later)›
    rw [List.length_cons]
    omega
  · simp

def stringsOf? : List (List Char) → Option (List String)
  | [] => some []
  | line :: rest => do
    let values ← stringsIn? line
    (stringsOf? rest).map (values ++ ·)

def strings? (cs : List Char) : Option (List String) :=
  stringsOf? (lines cs)

section Lines

variable {cs rest : List Char}

theorem stringsIn?_remark (cs : List Char) : stringsIn? ('/' :: '/' :: cs) = some [] := by
  simp [stringsIn?]

theorem stringsIn?_cons {c : Char} (hs : c ≠ '/') (hq : c ≠ '"')
    (h : joinsQuote c = false ∨ rest.head? ≠ some '"') :
    stringsIn? (c :: rest) = stringsIn? rest := by
  rw [stringsIn?]
  · refine if_neg fun hj => ?_
    rcases h with h | h
    · simp [h] at hj
    · exact h hj.2
  · exact hs
  · exact hq

theorem stringsIn?_of_read? {value later : List Char} (h : read? rest = some (value, later)) :
    stringsIn? ('"' :: rest) = (stringsIn? later).map (String.ofList value :: ·) := by
  rw [stringsIn?]
  split
  · next hn => rw [h] at hn; cases hn
  · next hs =>
    rw [h] at hs
    cases hs
    rfl

theorem stringsIn?_of_unread (h : read? rest = none) : stringsIn? ('"' :: rest) = none := by
  rw [stringsIn?]
  split
  · rfl
  · next hs => rw [h] at hs; cases hs

theorem stringsIn?_literal (value : String) (rest : List Char) :
    stringsIn? ((literal value).toList ++ rest) = (stringsIn? rest).map (value :: ·) := by
  rw [literal, toList_text, List.cons_append, List.append_assoc, List.singleton_append,
    stringsIn?_of_read? (read?_body _ _), String.ofList_toList]

end Lines

section Blanks

variable {blanks : List Char} (hb : ∀ c ∈ blanks, isBlank c = true)
include hb

theorem mark_not_mem_blanks {mark : Char} (hm : isBlank mark = false) : mark ∉ blanks := by
  intro hmem
  rw [hb mark hmem] at hm
  cases hm

theorem stringsIn?_blanks : stringsIn? blanks = some [] := by
  induction blanks with
  | nil => rw [stringsIn?]
  | cons c blanks ih =>
    obtain ⟨hc, hrest⟩ := List.forall_mem_cons.1 hb
    rw [stringsIn?_cons, ih hrest]
    · rintro rfl
      cases hc
    · rintro rfl
      cases hc
    · refine .inr fun hq => ?_
      exact mark_not_mem_blanks hrest (by decide) (List.mem_of_head? hq)

theorem stringsIn?_append_blanks {cs : List Char} (hn : '\n' ∉ cs) :
    stringsIn? (cs ++ blanks) = stringsIn? cs := by
  have hhead : ∀ {mark : Char} (rest : List Char), isBlank mark = false →
      ((rest ++ blanks).head? = some mark ↔ rest.head? = some mark) := by
    intro mark rest hm
    cases rest with
    | nil => simpa using fun h => mark_not_mem_blanks hb hm (List.mem_of_head? h)
    | cons c rest => simp
  have hq : '"' ∉ blanks := mark_not_mem_blanks hb (by decide)
  fun_induction stringsIn? cs with
  | case1 => exact stringsIn?_blanks hb
  | case2 rest hr =>
    obtain ⟨later, rfl⟩ : ∃ later, rest = '/' :: later := by
      cases rest <;> simp_all
    exact stringsIn?_remark _
  | case3 rest hr =>
    rw [List.cons_append, stringsIn?, if_neg (by rwa [hhead _ (by decide)])]
  | case4 rest hread =>
    rw [List.cons_append, stringsIn?_of_unread]
    rw [read?_append (List.not_mem_of_not_mem_cons hn) hq, hread]
    rfl
  | case5 rest value later hread ih =>
    have hrest := List.not_mem_of_not_mem_cons hn
    have hlater : '\n' ∉ later := by
      obtain ⟨body, rfl, -⟩ := exists_spells_of_read? hread
      simp only [List.mem_append, List.mem_cons, not_or] at hrest
      exact hrest.2.2
    have hmore : read? (rest ++ blanks) = some (value, later ++ blanks) := by
      rw [read?_append hrest hq, hread]
      rfl
    rw [List.cons_append, stringsIn?_of_read? hmore, ih hlater]
  | case6 c rest hs hc hj =>
    rw [List.cons_append, stringsIn?, if_pos (by rwa [hhead _ (by decide)])]
    · exact hs
    · exact hc
  | case7 c rest hs hc hj ih =>
    rw [List.cons_append, stringsIn?, if_neg (by rwa [hhead _ (by decide)]),
      ih (List.not_mem_of_not_mem_cons hn)]
    · exact hs
    · exact hc

end Blanks

section Tidy

theorem stringsIn?_trimEnd {line : List Char} (hn : '\n' ∉ line) :
    stringsIn? (trimEnd line) = stringsIn? line := by
  have hwhole : trimEnd line ++ line.rtakeWhile isBlank = line :=
    List.rdropWhile_append_rtakeWhile
  have hline : '\n' ∉ trimEnd line := fun hm => hn (hwhole ▸ List.mem_append_left _ hm)
  conv_rhs => rw [← hwhole]
  exact (stringsIn?_append_blanks (fun _ => List.mem_rtakeWhile_imp) hline).symm

theorem stringsIn?_of_isBlankLine {line : List Char} (h : isBlankLine line = true) :
    stringsIn? line = some [] := by
  have hblank : ∀ c ∈ line, isBlank c = true :=
    List.rdropWhile_eq_nil_iff.1 (List.isEmpty_iff.1 h)
  exact stringsIn?_blanks hblank

theorem stringsOf?_cons {line : List Char} {values : List String}
    (h : stringsIn? line = some values) (rest : List (List Char)) :
    stringsOf? (line :: rest) = (stringsOf? rest).map (values ++ ·) := by
  rw [stringsOf?, h]
  rfl

theorem stringsOf?_filter (ls : List (List Char)) :
    stringsOf? (ls.filter (! isBlankLine ·)) = stringsOf? ls := by
  induction ls with
  | nil => rfl
  | cons line rest ih =>
    cases hline : isBlankLine line with
    | true =>
      rw [stringsOf?_cons (stringsIn?_of_isBlankLine hline),
        List.filter_cons_of_neg (by simp [hline]), ih]
      simp
    | false =>
      rw [List.filter_cons_of_pos (by simp [hline]), stringsOf?, stringsOf?, ih]

theorem stringsOf?_map_trimEnd {ls : List (List Char)} (hn : ∀ line ∈ ls, '\n' ∉ line) :
    stringsOf? (ls.map trimEnd) = stringsOf? ls := by
  induction ls with
  | nil => rfl
  | cons line rest ih =>
    obtain ⟨hline, hrest⟩ := List.forall_mem_cons.1 hn
    rw [List.map_cons, stringsOf?, stringsOf?, stringsIn?_trimEnd hline, ih hrest]

/-- Tidying a text changes none of its literals, and adds none. -/
theorem strings?_tidy (text : String) : strings? (tidy text).toList = strings? text.toList := by
  have hlines : ∀ line ∈ (lines text.toList).filter (! isBlankLine ·), '\n' ∉ line :=
    fun line hm => newline_not_mem_linesFrom List.not_mem_nil line (List.mem_of_mem_filter hm)
  calc strings? (tidy text).toList
    _ = stringsOf? ((lines (tidy text).toList).filter (! isBlankLine ·)) :=
      (stringsOf?_filter _).symm
    _ = stringsOf? (((lines text.toList).filter (! isBlankLine ·)).map trimEnd) := by
      rw [filter_lines_tidy]
    _ = stringsOf? ((lines text.toList).filter (! isBlankLine ·)) := stringsOf?_map_trimEnd hlines
    _ = strings? text.toList := stringsOf?_filter _

end Tidy

section Text

/-- Characters that begin neither a literal nor a remark and end no line. -/
def isCodeChar (c : Char) : Bool :=
  c != '"' && c != '/' && c != '\n' && c != '\r'

def isCode (text : String) : Bool :=
  text.toList.all isCodeChar

def isOneLine (text : String) : Bool :=
  text.toList.all fun c => c != '\n' && c != '\r'

def isRemark (text : String) : Bool :=
  text.toList.take 2 == ['/', '/'] && isOneLine text

theorem isRemark_chars {cs : List Char} (h : (cs.take 2 == ['/', '/'] &&
    cs.all fun c => c != '\n' && c != '\r') = true) : isRemark (String.ofList cs) = true := by
  rwa [isRemark, isOneLine, String.toList_ofList]

/-- Whether a quote behind the text begins a literal. -/
def isOpening (text : String) : Bool :=
  isCode text && ! text.toList.getLast?.any joinsQuote

theorem isCode_append {a b : String} (ha : isCode a = true) (hb : isCode b = true) :
    isCode (a ++ b) = true := by
  rw [isCode, String.toList_append, List.all_append, ← isCode, ← isCode, ha, hb]
  rfl

theorem isCode_chars {cs : List Char} (h : cs.all isCodeChar = true) :
    isCode (String.ofList cs) = true := by
  rwa [isCode, String.toList_ofList]

theorem isCode_around {start finish : List Char} {name : String} (hn : isCode name = true)
    (h : (start ++ finish).all isCodeChar = true) :
    isCode (String.ofList start ++ name ++ String.ofList finish) = true := by
  rw [List.all_append, Bool.and_eq_true_iff] at h
  exact isCode_append (isCode_append (isCode_chars h.1) hn) (isCode_chars h.2)

theorem isCode_start {start : List Char} {name : String} (hn : isCode name = true)
    (h : start.all isCodeChar = true) : isCode (String.ofList start ++ name) = true :=
  isCode_append (isCode_chars h) hn

theorem isCode_finish {finish : List Char} {name : String} (hn : isCode name = true)
    (h : finish.all isCodeChar = true) : isCode (name ++ String.ofList finish) = true :=
  isCode_append hn (isCode_chars h)

theorem isCode_next {finish : List Char} {text name : String} (ht : isCode text = true)
    (hn : isCode name = true) (h : finish.all isCodeChar = true) :
    isCode (text ++ name ++ String.ofList finish) = true :=
  isCode_finish (isCode_append ht hn) h

theorem isCode_parts {cs ds : List Char} (h : (cs ++ ds).all isCodeChar = true) :
    isCode (String.ofList cs ++ String.ofList ds) = true := by
  rw [List.all_append, Bool.and_eq_true_iff] at h
  exact isCode_append (isCode_chars h.1) (isCode_chars h.2)

theorem isOpening_chars {cs : List Char}
    (h : (cs.all isCodeChar && ! cs.getLast?.any joinsQuote) = true) :
    isOpening (String.ofList cs) = true := by
  rwa [isOpening, isCode, String.toList_ofList]

theorem isOneLine_iff {text : String} :
    isOneLine text = true ↔ '\n' ∉ text.toList ∧ '\r' ∉ text.toList := by
  simp only [isOneLine, List.all_eq_true, Bool.and_eq_true, bne_iff_ne]
  exact ⟨fun h => ⟨fun hm => (h _ hm).1 rfl, fun hm => (h _ hm).2 rfl⟩,
    fun h c hc => ⟨fun he => h.1 (he ▸ hc), fun he => h.2 (he ▸ hc)⟩⟩

theorem isOneLine_append {a b : String} (ha : isOneLine a = true) (hb : isOneLine b = true) :
    isOneLine (a ++ b) = true := by
  rw [isOneLine, String.toList_append, List.all_append, ← isOneLine, ← isOneLine, ha, hb]
  rfl

theorem isRemark_append {start text : String} (hs : isRemark start = true)
    (ht : isOneLine text = true) : isRemark (start ++ text) = true := by
  obtain ⟨hmark, hline⟩ := Bool.and_eq_true_iff.1 hs
  have hlength : 2 ≤ start.toList.length := by
    have htake := congrArg List.length (eq_of_beq hmark)
    simp at htake
    omega
  rw [isRemark, isOneLine_append hline ht, String.toList_append,
    List.take_append_of_le_length hlength, hmark]
  rfl

theorem isOneLine_literal (value : String) : isOneLine (literal value) = true := by
  obtain ⟨hn, hr⟩ := (denotes_of_spells (spells_body value.toList)).oneLine
  rw [isOneLine_iff, literal, toList_text]
  simp [hn, hr]

theorem isOneLine_of_isCode {text : String} (h : isCode text = true) : isOneLine text = true := by
  have hall := List.all_eq_true.1 h
  exact isOneLine_iff.2
    ⟨fun hm => absurd (hall _ hm) (by decide), fun hm => absurd (hall _ hm) (by decide)⟩

theorem isOpening_append {text : String} {cs : List Char} (ht : isCode text = true)
    (h : (cs.all isCodeChar && cs.getLast?.any (! joinsQuote ·)) = true) :
    isOpening (text ++ String.ofList cs) = true := by
  obtain ⟨hcs, hlast⟩ := Bool.and_eq_true_iff.1 h
  obtain ⟨c, hc, hj⟩ := (Option.any_eq_true _ _).1 hlast
  have hjoin : (text ++ String.ofList cs).toList.getLast?.any joinsQuote = false := by
    rw [String.toList_append, String.toList_ofList, List.getLast?_append, hc]
    simpa using hj
  rw [isOpening, hjoin, isCode_append ht (isCode_chars hcs)]
  rfl

theorem stringsIn?_append_code {cs rest : List Char} (h : ∀ c ∈ cs, isCodeChar c = true)
    (hj : cs.getLast?.any joinsQuote = false ∨ rest.head? ≠ some '"') :
    stringsIn? (cs ++ rest) = stringsIn? rest := by
  induction cs with
  | nil => rfl
  | cons c cs ih =>
    obtain ⟨hc, hcs⟩ := List.forall_mem_cons.1 h
    have hmark : c ≠ '/' ∧ c ≠ '"' := by
      constructor
      · rintro rfl
        cases hc
      · rintro rfl
        cases hc
    cases cs with
    | nil => exact stringsIn?_cons hmark.1 hmark.2 (by simpa using hj)
    | cons d cs =>
      have hnext : (d :: cs ++ rest).head? ≠ some '"' := by
        have hd := hcs d List.mem_cons_self
        rintro hq
        obtain rfl : d = '"' := by simpa using hq
        cases hd
      rw [List.cons_append, stringsIn?_cons hmark.1 hmark.2 (.inr hnext)]
      exact ih hcs (by simpa using hj)

structure LineSays (text : String) (values : List String) : Prop where
  oneLine : isOneLine text = true
  reads : stringsIn? text.toList = some values

namespace LineSays

variable {text finish : String} {values : List String}

theorem code (h : isCode text = true) : LineSays text [] where
  oneLine := isOneLine_of_isCode h
  reads := by
    have hread : stringsIn? (text.toList ++ []) = stringsIn? [] :=
      stringsIn?_append_code (List.all_eq_true.1 h) (.inr (by simp))
    rwa [List.append_nil, stringsIn?] at hread

theorem remark (h : isRemark text = true) : LineSays text [] := by
  obtain ⟨hmark, hline⟩ := Bool.and_eq_true_iff.1 h
  refine ⟨hline, ?_⟩
  rw [← List.take_append_drop 2 text.toList, eq_of_beq hmark]
  exact stringsIn?_remark _

theorem literal (start : String) (hs : isOpening start = true) (value : String)
    (h : LineSays finish values) :
    LineSays (start ++ (Backend.literal value ++ finish)) (value :: values) where
  oneLine := by
    obtain ⟨hstart, -⟩ := Bool.and_eq_true_iff.1 hs
    exact isOneLine_append (isOneLine_of_isCode hstart)
      (isOneLine_append (isOneLine_literal value) h.oneLine)
  reads := by
    obtain ⟨hstart, hlast⟩ := Bool.and_eq_true_iff.1 hs
    rw [String.toList_append, String.toList_append,
      stringsIn?_append_code (List.all_eq_true.1 hstart) (.inl (by simpa using hlast)),
      stringsIn?_literal, h.reads]
    rfl

theorem alone (value : String) : LineSays (Backend.literal value) [value] := by
  have hnone : isCode "" = true := isCode_chars rfl
  have hline := LineSays.literal "" (isOpening_chars rfl) value (.code hnone)
  rwa [String.append_empty, String.empty_append] at hline

end LineSays

end Text

section Code

open Code

/-- Whole lines, and what their literals denote. -/
def TextSays (text : String) (values : List String) : Prop :=
  ∀ rest, strings? (text.toList ++ rest) = (strings? rest).map (values ++ ·)

structure Says (cs : List Code) (values : List String) : Prop where
  reads : ∀ depth, TextSays (renderAll depth cs) values

theorem lines_append {line : List Char} (hn : '\n' ∉ line) (hr : '\r' ∉ line)
    (rest : List Char) : lines (line ++ '\n' :: rest) = line :: lines rest := by
  have hreturn : dropReturn line.reverse = line.reverse := by
    unfold dropReturn
    split
    · next tail htail => exact absurd (List.mem_reverse.1 (htail ▸ List.mem_cons_self)) hr
    · rfl
  rw [lines, linesFrom_append hn, List.append_nil, linesFrom, hreturn, List.reverse_reverse, lines]

theorem isOpening_indentation (depth : Nat) : isOpening (indentation depth) = true := by
  have hspaces : ∀ c ∈ (indentation depth).toList, c = ' ' := by
    simp [indentation]
  have hlast : (indentation depth).toList.getLast?.any joinsQuote = false := by
    cases hc : (indentation depth).toList.getLast? with
    | none => rfl
    | some c =>
      rw [hspaces c (List.mem_of_getLast? hc)]
      rfl
  rw [isOpening, hlast, Bool.not_false, Bool.and_true]
  exact List.all_eq_true.2 fun c hc => by rw [hspaces c hc]; rfl

namespace TextSays

variable {a b : String} {values others : List String}

theorem empty : TextSays "" [] := by
  intro rest
  simp

theorem append (ha : TextSays a values) (hb : TextSays b others) :
    TextSays (a ++ b) (values ++ others) := by
  intro rest
  rw [String.toList_append, List.append_assoc, ha, hb]
  cases strings? rest <;> simp

theorem line {text : String} (h : LineSays text values) (depth : Nat) :
    TextSays (indentation depth ++ text ++ "\n") values := by
  intro rest
  obtain ⟨hcode, hlast⟩ := Bool.and_eq_true_iff.1 (isOpening_indentation depth)
  obtain ⟨hn, hr⟩ := isOneLine_iff.1 (isOneLine_append (isOneLine_of_isCode hcode) h.oneLine)
  rw [String.toList_append] at hn hr
  have hreads : stringsIn? ((indentation depth).toList ++ text.toList) = some values := by
    rw [stringsIn?_append_code (List.all_eq_true.1 hcode) (.inl (by simpa using hlast)), h.reads]
  have hline : (indentation depth ++ text ++ "\n").toList ++ rest =
      ((indentation depth).toList ++ text.toList) ++ '\n' :: rest := by
    simp
  rw [hline, strings?, lines_append hn hr, stringsOf?_cons hreads, strings?]

end TextSays

namespace Says

variable {c : Code} {cs more : List Code} {values others : List String}
  {opening closing text : String}

theorem nil : Says [] [] where
  reads := by
    intro depth
    rw [renderAll]
    exact .empty

theorem of_render (h : ∀ depth, TextSays (render depth c) values) : Says [c] values where
  reads := by
    intro depth
    have happend := (h depth).append .empty
    rwa [List.append_nil] at happend

theorem renderAll_append (depth : Nat) (cs more : List Code) :
    renderAll depth (cs ++ more) = renderAll depth cs ++ renderAll depth more := by
  induction cs with
  | nil => simp [renderAll]
  | cons c cs ih => rw [List.cons_append, renderAll, renderAll, ih, String.append_assoc]

theorem append (h : Says cs values) (hm : Says more others) :
    Says (cs ++ more) (values ++ others) where
  reads := by
    intro depth
    rw [renderAll_append]
    exact (h.reads depth).append (hm.reads depth)

theorem cons (h : Says [c] values) (hm : Says more others) :
    Says (c :: more) (values ++ others) := by
  have happend := h.append hm
  exact happend

theorem cons_single {value : String} (h : Says [c] [value]) (hm : Says more values) :
    Says (c :: more) (value :: values) :=
  cons h hm

theorem skip (h : Says [c] []) (hm : Says more values) : Says (c :: more) values :=
  cons h hm

theorem line (h : LineSays text values) : Says [.line text] values := by
  refine of_render fun depth => ?_
  rw [render]
  exact .line h depth

theorem code (h : isCode text = true) : Says [.line text] [] :=
  line (.code h)

theorem remark (h : isRemark text = true) : Says [.line text] [] :=
  line (.remark h)

theorem chars {cs : List Char} (h : cs.all isCodeChar = true) :
    Says [.line (String.ofList cs)] [] :=
  code (isCode_chars h)

theorem empty : Says [.empty] [] := by
  refine of_render fun depth => ?_
  have hline : TextSays (indentation 0 ++ "" ++ "\n") [] := .line (.code (isCode_chars rfl)) 0
  rw [render]
  simpa [indentation] using hline

theorem apart (h : Says [c] values) (hm : Says more others) :
    Says (c :: .empty :: more) (values ++ others) :=
  h.cons (.skip .empty hm)

theorem apart_plain (h : Says [c] []) (hm : Says more values) :
    Says (c :: .empty :: more) values :=
  h.apart hm

theorem hanging (ho : LineSays opening []) (h : Says cs values) :
    Says [.hanging opening cs] values := by
  refine of_render fun depth => ?_
  rw [render]
  exact (TextSays.line ho depth).append (h.reads (depth + 1))

theorem nested (ho : LineSays opening []) (h : Says cs values) (hc : LineSays closing []) :
    Says [.nested opening cs closing] values := by
  refine of_render fun depth => ?_
  have hlines := ((TextSays.line ho depth).append (h.reads (depth + 1))).append
    (TextSays.line hc depth)
  rw [render]
  simpa [String.append_assoc] using hlines

theorem item {head : String} (hh : isCode head = true) (h : Says cs values) :
    Says [.item head cs] values :=
  nested (.code (isCode_append hh (isCode_chars rfl))) h (.code (isCode_chars rfl))

section Lists

variable {α : Type} {xs : List α} {f : α → List Code}

theorem flatMap {g : α → List String} (h : ∀ x ∈ xs, Says (f x) (g x)) :
    Says (xs.flatMap f) (xs.flatMap g) := by
  induction xs with
  | nil => exact .nil
  | cons x xs ih =>
    obtain ⟨hx, hxs⟩ := List.forall_mem_cons.1 h
    exact hx.append (ih hxs)

theorem flatMap_single {g : α → String} (h : ∀ x ∈ xs, Says (f x) [g x]) :
    Says (xs.flatMap f) (xs.map g) := by
  rw [List.map_eq_flatMap]
  exact flatMap h

theorem flatMap_plain (h : ∀ x ∈ xs, Says (f x) []) : Says (xs.flatMap f) [] := by
  have hall := flatMap h
  rwa [List.flatMap_eq_nil_iff.2 fun _ _ => rfl] at hall

theorem map {f : α → Code} {g : α → List String} (h : ∀ x ∈ xs, Says [f x] (g x)) :
    Says (xs.map f) (xs.flatMap g) := by
  rw [List.map_eq_flatMap]
  exact flatMap h

theorem map_single {f : α → Code} {g : α → String} (h : ∀ x ∈ xs, Says [f x] [g x]) :
    Says (xs.map f) (xs.map g) := by
  rw [List.map_eq_flatMap]
  exact flatMap_single h

theorem map_plain {f : α → Code} (h : ∀ x ∈ xs, Says [f x] []) : Says (xs.map f) [] := by
  rw [List.map_eq_flatMap]
  exact flatMap_plain h

end Lists

end Says

section Paragraphs

variable {p : List Code} {ps qs : List (List Code)} {values others : List String}

namespace Says

theorem paragraphs_nil : Says (paragraphs []) [] :=
  nil

theorem paragraphs_cons (h : Says p values) (hs : Says (paragraphs ps) others) :
    Says (paragraphs (p :: ps)) (values ++ others) :=
  (empty.append h).append hs

theorem paragraphs_append (h : Says (paragraphs ps) values) (hs : Says (paragraphs qs) others) :
    Says (paragraphs (ps ++ qs)) (values ++ others) := by
  rw [paragraphs, List.flatMap_append]
  exact h.append hs

theorem paragraphs_append_plain (h : Says (paragraphs ps) values)
    (hs : Says (paragraphs qs) []) : Says (paragraphs (ps ++ qs)) values := by
  have hall := paragraphs_append h hs
  rwa [List.append_nil] at hall

theorem paragraphs_plain_append (h : Says (paragraphs ps) []) (hs : Says (paragraphs qs) values) :
    Says (paragraphs (ps ++ qs)) values :=
  paragraphs_append h hs

theorem paragraphs_single (h : Says p values) : Says (paragraphs [p]) values := by
  have hall := paragraphs_cons h paragraphs_nil
  rwa [List.append_nil] at hall

theorem paragraphs_cons_plain (h : Says p values) (hs : Says (paragraphs ps) []) :
    Says (paragraphs (p :: ps)) values := by
  have hall := paragraphs_cons h hs
  rwa [List.append_nil] at hall

theorem paragraphs_skip (h : Says p []) (hs : Says (paragraphs ps) values) :
    Says (paragraphs (p :: ps)) values :=
  paragraphs_cons h hs

variable {α : Type} {xs : List α}

theorem paragraphs_map {f : α → List Code} {g : α → List String}
    (h : ∀ x ∈ xs, Says (f x) (g x)) : Says (paragraphs (xs.map f)) (xs.flatMap g) := by
  rw [paragraphs, List.flatMap_map]
  exact flatMap fun x hx => empty.append (h x hx)

theorem paragraphs_map_plain {f : α → List Code} (h : ∀ x ∈ xs, Says (f x) []) :
    Says (paragraphs (xs.map f)) [] := by
  rw [paragraphs, List.flatMap_map]
  exact flatMap_plain fun x hx => empty.append (h x hx)

theorem paragraphs_flatMap {f : α → List (List Code)} {g : α → List String}
    (h : ∀ x ∈ xs, Says (paragraphs (f x)) (g x)) :
    Says (paragraphs (xs.flatMap f)) (xs.flatMap g) := by
  rw [paragraphs, List.flatMap_assoc]
  exact flatMap h

end Says

/-- The literals of a file are those of its code: neither its first line nor its layout changes
them. -/
theorem strings?_file {header : String} (hh : isRemark header = true)
    (h : Says (paragraphs ps) values) : strings? (file header ps).toList = some values := by
  have hall : Says (.line header :: paragraphs ps) values := (Says.line (.remark hh)).append h
  have hread := hall.reads 0 []
  rw [List.append_nil] at hread
  rw [file, strings?_tidy, hread]
  simp [strings?, lines, linesFrom, stringsOf?]

end Paragraphs

end Code

end EventSchema.Backend
