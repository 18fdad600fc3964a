import EventSchema.Frontend.Client
import EventSchema.Proofs.RouteText
import EventSchema.Text.Blank

set_option autoImplicit false

namespace EventSchema.Frontend

def isWordStart (c : Char) : Bool :=
  c.isAlpha || c == '_' || c == '$'

def isWordPart (c : Char) : Bool :=
  c.isAlphanum || c == '_' || c == '$'

def isWord : List Char → Bool
  | [] => false
  | c :: rest => isWordStart c && rest.all isWordPart

theorem isWordPart_of_isWordStart {c : Char} (h : isWordStart c = true) : isWordPart c = true := by
  simp only [isWordStart, isWordPart, Char.isAlphanum, Bool.or_eq_true] at h ⊢
  tauto

theorem needsQuoting_eq (name : String) : needsQuoting name = !isWord name.toList := by
  unfold needsQuoting
  cases name.toList with
  | nil => rfl
  | cons c rest =>
    show (!(isWordStart c && (c :: rest).all isWordPart)) = !isWord (c :: rest)
    rw [isWord, List.all_cons]
    cases hc : isWordStart c with
    | false => rfl
    | true => rw [isWordPart_of_isWordStart hc, Bool.true_and]

namespace Expr

def readName? (cs : List Char) : Option String :=
  if isWord cs then some (String.ofList cs) else none

def readNames? (cs : List Char) : Option (List String) :=
  if cs.isEmpty then some []
  else (Text.splitAt (· == ',') cs).mapM fun piece => readName? (Text.trimStart piece)

def readCall? (cs : List Char) : Option Expr :=
  match cs.dropWhile isWordPart with
  | '(' :: rest =>
    if rest.getLast? = some ')' then do
      let callee ← readName? (cs.takeWhile isWordPart)
      let args ← readNames? rest.dropLast
      some (.call callee (args.map .ident))
    else none
  | _ => none

/-- The character that an escape stands for; escapes by code are not read. -/
def unescapeChar? (c : Char) : Option Char :=
  if c = 'n' then some '\n'
  else if c = 'r' then some '\r'
  else if c ∈ ['\\', '"', '\x60', '$'] then some c
  else none

/-- The value of a string literal from where it goes on; nothing may follow its end. -/
def readQuoted? : List Char → Option (List Char)
  | [] => none
  | '"' :: rest => if rest.isEmpty then some [] else none
  | '\\' :: c :: rest =>
    match unescapeChar? c with
    | some value => (readQuoted? rest).map (value :: ·)
    | none => none
  | c :: rest => if c = '\n' ∨ c = '\r' then none else (readQuoted? rest).map (c :: ·)

def textPart (text : List Char) : List TemplatePart :=
  if text.isEmpty then [] else [.static (String.ofList text)]

mutual

/-- The pieces of a template from where its text goes on; `text` is what has been read of it. -/
def readText? (text : List Char) : List Char → Option (List TemplatePart)
  | [] => none
  | '\x60' :: rest => if rest.isEmpty then some (textPart text) else none
  | '\\' :: c :: rest =>
    match unescapeChar? c with
    | some value => readText? (text ++ [value]) rest
    | none => none
  | '$' :: '\x7b' :: rest => (readCode? [] rest).map (textPart text ++ ·)
  | c :: rest => if c = '\r' then none else readText? (text ++ [c]) rest

def readCode? (code : List Char) : List Char → Option (List TemplatePart)
  | [] => none
  | '\x7d' :: rest => do
    let value ← readCall? code
    let parts ← readText? [] rest
    some (.dynamic value :: parts)
  | c :: rest => readCode? (code ++ [c]) rest

end

/-- The expression that a piece of code is. -/
def read? (code : String) : Option Expr :=
  match code.toList with
  | '"' :: rest => (readQuoted? rest).map fun value => .string (String.ofList value)
  | '\x60' :: rest => (readText? [] rest).map .template
  | cs => readCall? cs

section Literals

theorem readQuoted?_escapeChar (c : Char) (rest : List Char) :
    readQuoted? (escapeChar c ++ rest) = (readQuoted? rest).map (c :: ·) := by
  unfold escapeChar
  split_ifs with hb hq hn hr
  · subst hb; rfl
  · subst hq; rfl
  · subst hn; rfl
  · subst hr; rfl
  · simp [readQuoted?, hb, hn, hr]

theorem readQuoted?_escapeText (cs : List Char) :
    readQuoted? (escapeText cs ++ ['"']) = some cs := by
  induction cs with
  | nil => rfl
  | cons c cs ih =>
    have hstep : escapeText (c :: cs) = escapeChar c ++ escapeText cs := rfl
    rw [hstep, List.append_assoc, readQuoted?_escapeChar, ih, Option.map_some]

theorem read?_string (value : String) : read? (string value).render = some (string value) := by
  have htext : (string value).render.toList = '"' :: (escapeText value.toList ++ ['"']) := by
    simp [string, render, Literal.render, quoted, escape]
  rw [read?, htext]
  simp [readQuoted?_escapeText]

end Literals

section Calls

theorem isWordPart_of_isIdentifierPart {c : Char} (h : Naming.isIdentifierPart c = true) :
    isWordPart c = true := by
  simp only [Naming.isIdentifierPart, isWordPart, Bool.or_eq_true] at h ⊢
  exact .inl h

theorem isWordStart_of_isIdentifierStart {c : Char} (h : Naming.isIdentifierStart c = true) :
    isWordStart c = true := by
  simp only [Naming.isIdentifierStart, isWordStart, Bool.or_eq_true] at h ⊢
  exact .inl h

theorem isWordPart_of_isIdentifier {name : String} (h : Naming.isIdentifier name = true) :
    ∀ c ∈ name.toList, isWordPart c = true :=
  fun c hc => isWordPart_of_isIdentifierPart ((Naming.isIdentifierText_iff.1 h).2 c hc)

theorem isBlank_of_isWordPart {c : Char} (h : isWordPart c = true) : Text.isBlank c = false := by
  simp only [isWordPart, Bool.or_eq_true, beq_iff_eq] at h
  rcases h with (ha | rfl) | rfl
  · exact Naming.forall_ascii (P := fun c => c.isAlphanum = true → Text.isBlank c = false)
      (by decide) (Naming.ascii_of_isAlphanum ha) ha
  · rfl
  · rfl

theorem isWord_of_isIdentifier {name : String} (h : Naming.isIdentifier name = true) :
    isWord name.toList = true := by
  obtain ⟨hhead, hparts⟩ := Naming.isIdentifierText_iff.1 h
  cases hl : name.toList with
  | nil => simp [hl] at hhead
  | cons c rest =>
    rw [hl] at hhead hparts
    have hall : rest.all isWordPart = true :=
      List.all_eq_true.2 fun d hd => isWordPart_of_isIdentifierPart
        (hparts d (List.mem_cons_of_mem c hd))
    simp [isWord, isWordStart_of_isIdentifierStart (by simpa using hhead), hall]

theorem needsQuoting_of_isIdentifier {name : String} (h : Naming.isIdentifier name = true) :
    needsQuoting name = false := by
  rw [needsQuoting_eq, isWord_of_isIdentifier h, Bool.not_true]

theorem readName?_of_isIdentifier {name : String} (h : Naming.isIdentifier name = true) :
    readName? name.toList = some name := by
  simp [readName?, isWord_of_isIdentifier h]

theorem trimStart_blanks {blanks : List Char} (hb : ∀ c ∈ blanks, Text.isBlank c = true)
    {name : String} (h : Naming.isIdentifier name = true) :
    Text.trimStart (blanks ++ name.toList) = name.toList := by
  rw [Text.trimStart, List.dropWhile_append_of_pos hb]
  cases hl : name.toList with
  | nil => rfl
  | cons c rest =>
    have hc : Text.isBlank c = false :=
      isBlank_of_isWordPart (isWordPart_of_isIdentifier h c (by simp [hl]))
    simp [hc]

theorem mapM_readName?_splitAt (blanks : List Char) (hb : ∀ c ∈ blanks, Text.isBlank c = true)
    (hcomma : ',' ∉ blanks) {name : String} {names : List String}
    (h : ∀ n ∈ name :: names, Naming.isIdentifier n = true) :
    (Text.splitAt (· == ',')
        (blanks ++ [',', ' '].intercalate ((name :: names).map String.toList))).mapM
      (fun piece => readName? (Text.trimStart piece)) = some (name :: names) := by
  induction names generalizing blanks name with
  | nil =>
    have hname := h name (by simp)
    have hcut : ',' ∉ blanks ++ name.toList :=
      List.not_mem_append hcomma (Naming.mark_not_mem hname rfl)
    simp [Text.splitAt_eq_singleton (Text.not_cut_of_not_mem hcut), trimStart_blanks hb hname,
      readName?_of_isIdentifier hname]
  | cons next names ih =>
    obtain ⟨hname, hrest⟩ := List.forall_mem_cons.1 h
    have hcut : ',' ∉ blanks ++ name.toList :=
      List.not_mem_append hcomma (Naming.mark_not_mem hname rfl)
    have hothers := ih [' '] (List.forall_mem_singleton.2 rfl) (by decide) hrest
    have hjoin : blanks ++ [',', ' '].intercalate ((name :: next :: names).map String.toList) =
        (blanks ++ name.toList) ++
          ',' :: ([' '] ++ [',', ' '].intercalate ((next :: names).map String.toList)) := by
      simp [List.intercalate_cons_cons]
    rw [hjoin, Text.splitAt_append_cons (Text.not_cut_of_not_mem hcut) rfl, List.mapM_cons, hothers,
      trimStart_blanks hb hname, readName?_of_isIdentifier hname]
    rfl

theorem readNames?_intercalate {names : List String}
    (h : ∀ name ∈ names, Naming.isIdentifier name = true) :
    readNames? ([',', ' '].intercalate (names.map String.toList)) = some names := by
  cases names with
  | nil => rfl
  | cons name names =>
    have hread := mapM_readName?_splitAt [] (by simp) (by simp) h
    rw [List.nil_append] at hread
    rw [readNames?]
    split
    · next he =>
      -- the empty text is one piece, which is no name
      rw [List.isEmpty_iff.1 he] at hread
      cases hread
    · exact hread

theorem renderAll_idents (names : List String) : renderAll (names.map .ident) = names := by
  induction names with
  | nil => rfl
  | cons name names ih => rw [List.map_cons, renderAll, render, ih]

theorem toList_render_call (callee : String) (names : List String) :
    (render (.call callee (names.map .ident))).toList =
      callee.toList ++ '(' :: ([',', ' '].intercalate (names.map String.toList) ++ [')']) := by
  simp [render, renderAll_idents]

theorem readCall?_render {callee : String} {names : List String}
    (hc : Naming.isIdentifier callee = true)
    (h : ∀ name ∈ names, Naming.isIdentifier name = true) :
    readCall? (render (.call callee (names.map .ident))).toList =
      some (.call callee (names.map .ident)) := by
  have hkey := isWordPart_of_isIdentifier hc
  rw [toList_render_call, readCall?, List.dropWhile_append_of_pos hkey,
    List.takeWhile_append_of_pos hkey]
  simp [isWordPart, readName?_of_isIdentifier hc, readNames?_intercalate h]

theorem read?_call {callee : String} {names : List String}
    (hc : Naming.isIdentifier callee = true)
    (h : ∀ name ∈ names, Naming.isIdentifier name = true) :
    read? (call callee (names.map .ident)).render = some (call callee (names.map .ident)) := by
  have hread := readCall?_render hc h
  rw [toList_render_call] at hread
  rw [read?, toList_render_call]
  -- a name starts with neither of the marks that quotations start with
  cases hl : callee.toList with
  | nil => simp [Naming.isIdentifier, hl, Naming.isIdentifierText] at hc
  | cons c rest =>
    have hkey : isWordPart c = true := isWordPart_of_isIdentifier hc c (by simp [hl])
    have hquote : c ≠ '"' := by
      rintro rfl
      exact absurd hkey (by decide)
    have htick : c ≠ '\x60' := by
      rintro rfl
      exact absurd hkey (by decide)
    rw [hl] at hread
    simpa [hquote, htick] using hread

end Calls

section Templates

theorem readText?_escapeTemplate {cs : List Char} (hd : '$' ∉ cs) (hr : '\r' ∉ cs)
    (text rest : List Char) :
    readText? text ((escapeTemplate (String.ofList cs)).toList ++ rest) =
      readText? (text ++ cs) rest := by
  simp only [escapeTemplate, String.toList_ofList]
  induction cs generalizing text with
  | nil => simp
  | cons c cs ih =>
    obtain ⟨hd, hds⟩ := List.ne_and_not_mem_of_not_mem_cons hd
    obtain ⟨hr, hrs⟩ := List.ne_and_not_mem_of_not_mem_cons hr
    have hcopied : text ++ c :: cs = text ++ [c] ++ cs := by simp
    rw [List.flatMap_cons, List.append_assoc, hcopied, ← ih hds hrs]
    split_ifs with hb ht
    · subst hb; rfl
    · subst ht; rfl
    · simp [readText?, hb, Ne.symm hd, Ne.symm hr]

theorem readCode?_append {code : List Char} (h : '\x7d' ∉ code) (start rest : List Char) :
    readCode? start (code ++ '\x7d' :: rest) =
      (readCall? (start ++ code)).bind fun value =>
        (readText? [] rest).map (.dynamic value :: ·) := by
  induction code generalizing start with
  | nil =>
    rw [List.nil_append, List.append_nil, readCode?]
    cases readCall? start with
    | none => rfl
    | some value => cases readText? [] rest <;> rfl
  | cons c code ih =>
    obtain ⟨hc, hcode⟩ := List.ne_and_not_mem_of_not_mem_cons h
    have hmoved : start ++ c :: code = start ++ [c] ++ code := by simp
    rw [List.cons_append, hmoved, ← ih hcode]
    simp [readCode?, Ne.symm hc]

end Templates

end Expr

namespace Client

open Frontend.Expr

theorem render_encoded (name : String) :
    (Expr.call "encodeURIComponent" [.ident name]).render.toList =
      "encodeURIComponent".toList ++ '(' :: (name.toList ++ [')']) := by
  simp [Expr.render, renderAll]

theorem readCall?_encoded {name : String} (h : Naming.isIdentifier name = true) :
    readCall? (Expr.call "encodeURIComponent" [.ident name]).render.toList =
      some (.call "encodeURIComponent" [.ident name]) :=
  @readCall?_render "encodeURIComponent" [name] (by decide) (List.forall_mem_singleton.2 h)

theorem brace_not_mem_encoded {name : String} (h : Naming.isIdentifier name = true) :
    '\x7d' ∉ (Expr.call "encodeURIComponent" [.ident name]).render.toList := by
  have hname : '\x7d' ∉ name.toList := Naming.mark_not_mem h rfl
  rw [render_encoded]
  simp [hname]

theorem textPart_of_isText {text : String} (h : Route.IsText text.toList) :
    textPart text.toList = [.static text] := by
  rw [textPart, if_neg (by simpa using h.1), String.ofList_toList]

theorem readText?_static {text : String} (h : Route.IsText text.toList) (rest : List Char) :
    readText? [] ((escapeTemplate text).toList ++ rest) = readText? text.toList rest := by
  have hread := readText?_escapeTemplate (h.mark_not_mem (by decide))
    (h.mark_not_mem (by decide)) [] rest
  rwa [String.ofList_toList] at hread

theorem readText?_parts {parts : List PathPart} (h : Route.TakesTurns parts) :
    readText? [] ((renderParts (parts.map pathPart)).toList ++ ['\x60']) =
      some (parts.map pathPart) := by
  induction h with
  | nil => rfl
  | @last text ht =>
    have htext : (renderParts ([PathPart.static text].map pathPart)).toList =
        (escapeTemplate text).toList := by
      simp [pathPart, renderParts]
    rw [htext, readText?_static ht, readText?, List.isEmpty_nil, if_pos rfl, textPart_of_isText ht]
    rfl
  | @cons text name rest ht hn _ ih =>
    have htext : (renderParts ((.static text :: .placeholder name :: rest).map pathPart)).toList =
        (escapeTemplate text).toList ++ '$' :: '\x7b' ::
          ((Expr.call "encodeURIComponent" [.ident name]).render.toList ++
            '\x7d' :: (renderParts (rest.map pathPart)).toList) := by
      simp [pathPart, renderParts]
    rw [htext, List.append_assoc, readText?_static ht, List.cons_append, List.cons_append,
      readText?, List.append_assoc, List.cons_append, readCode?_append (brace_not_mem_encoded hn),
      List.nil_append, readCall?_encoded hn, Option.bind_some, ih, textPart_of_isText ht]
    rfl

/-- The URL of an endpoint is read back as it was written. -/
theorem read?_pathExpr {parts : List PathPart} (h : Route.TakesTurns parts) (path : String) :
    read? (pathExpr path parts).render = some (pathExpr path parts) := by
  unfold pathExpr
  split
  · exact read?_string path
  · have htext : (Expr.template (parts.map pathPart)).render.toList =
        '\x60' :: ((renderParts (parts.map pathPart)).toList ++ ['\x60']) := by
      simp [Expr.render]
    rw [read?, htext]
    simp [readText?_parts h]

end Client

end EventSchema.Frontend
