import EventSchema.Proofs.Artifacts
import EventSchema.Proofs.LegalIdentifiers

set_option autoImplicit false

namespace EventSchema.Glue

inductive Mention where
  | file (place : List String)
  | block (place : List String)
  /-- The text of a file, by its path below the folder that the build writes to. -/
  | included (place : List String) (path : String)
deriving DecidableEq, Repr

inductive Line where
  | remark
  | declare (name : String)
  | enter (name : String)
  | take (path : String)
  | leave
deriving DecidableEq, Repr

def after? (start : String) (cs : List Char) : Option (List Char) :=
  cs.dropPrefix? start.toList

/-- A module's name and what follows it: the end of a declaration, or the start of a block. -/
def readModule? (cs : List Char) : Option Line :=
  let name := cs.takeWhile Naming.isIdentifierPart
  let rest := cs.dropWhile Naming.isIdentifierPart
  if Naming.isIdentifierText name then
    if rest = [';'] then some (.declare (String.ofList name))
    else if rest = [' ', '\x7b'] then some (.enter (String.ofList name))
    else none
  else none

def readPath? (cs : List Char) : Option Line :=
  let path := cs.takeWhile fun c => c != '"' && c != '\\'
  let rest := cs.dropWhile fun c => c != '"' && c != '\\'
  if rest = ['"', ')', ')', ';'] then some (.take (String.ofList path)) else none

def readItem? (cs : List Char) : Option Line :=
  match after? "pub mod " cs with
  | some rest => readModule? rest
  | none => (after? "include!(concat!(env!(\"OUT_DIR\"), \"" cs).bind readPath?

def readLine? (line : List Char) : Option Line :=
  match Text.trimStart line with
  | [] | '/' :: '/' :: _ | '#' :: _ => some .remark
  | ['\x7d'] => some .leave
  | cs => readItem? cs

/-- What lines say inside the blocks of a place; all blocks end with the text. -/
def mentionsFrom? : List String → List Line → Option (List Mention)
  | place, [] => if place.isEmpty then some [] else none
  | place, .remark :: rest => mentionsFrom? place rest
  | place, .declare name :: rest =>
    (mentionsFrom? place rest).map (.file (place ++ [name]) :: ·)
  | place, .enter name :: rest =>
    (mentionsFrom? (place ++ [name]) rest).map (.block (place ++ [name]) :: ·)
  | place, .take path :: rest => (mentionsFrom? place rest).map (.included place path :: ·)
  | place, .leave :: rest => if place.isEmpty then none else mentionsFrom? place.dropLast rest

def mentionsIn? (place : List String) (cs : List Char) : Option (List Mention) :=
  ((Text.lines cs).mapM readLine?).bind (mentionsFrom? place)

def mentions? (text : String) : Option (List Mention) :=
  mentionsIn? [] text.toList

section Items

theorem after?_append (start : String) (cs : List Char) :
    after? start (start.toList ++ cs) = some cs := by
  simp [after?, List.dropPrefix?_eq_some_iff]

variable {name : String}

theorem readModule?_append (h : Naming.isIdentifier name = true) {c : Char} {rest : List Char}
    (hc : Naming.isIdentifierPart c = false) :
    readModule? (name.toList ++ c :: rest) =
      if c :: rest = [';'] then some (.declare name)
      else if c :: rest = [' ', '\x7b'] then some (.enter name)
      else none := by
  have hparts := (Naming.isIdentifierText_iff.1 h).2
  have htake : (name.toList ++ c :: rest).takeWhile Naming.isIdentifierPart = name.toList := by
    rw [List.takeWhile_append_of_pos hparts, List.takeWhile_cons_of_neg (by simp [hc]),
      List.append_nil]
  have hdrop : (name.toList ++ c :: rest).dropWhile Naming.isIdentifierPart = c :: rest := by
    rw [List.dropWhile_append_of_pos hparts, List.dropWhile_cons_of_neg (by simp [hc])]
  have hname : Naming.isIdentifierText name.toList = true := h
  rw [readModule?, htake, hdrop, if_pos hname, String.ofList_toList]

theorem readPath?_append {path : String} (h : '"' ∉ path.toList ∧ '\\' ∉ path.toList) :
    readPath? (path.toList ++ ['"', ')', ')', ';']) = some (.take path) := by
  have hplain : ∀ c ∈ path.toList, (c != '"' && c != '\\') = true := by
    intro c hc
    have hq : c ≠ '"' := fun he => h.1 (he ▸ hc)
    have hb : c ≠ '\\' := fun he => h.2 (he ▸ hc)
    simp [hq, hb]
  have htake : (path.toList ++ ['"', ')', ')', ';']).takeWhile (fun c => c != '"' && c != '\\') =
      path.toList := by
    rw [List.takeWhile_append_of_pos hplain]
    simp
  have hdrop : (path.toList ++ ['"', ')', ')', ';']).dropWhile (fun c => c != '"' && c != '\\') =
      ['"', ')', ')', ';'] := by
    rw [List.dropWhile_append_of_pos hplain]
    simp
  rw [readPath?, htake, hdrop, if_pos rfl, String.ofList_toList]

theorem readItem?_module (cs : List Char) :
    readItem? ("pub mod ".toList ++ cs) = readModule? cs := by
  rw [readItem?, after?_append]

theorem readItem?_path (cs : List Char) :
    readItem? ("include!(concat!(env!(\"OUT_DIR\"), \"".toList ++ cs) = readPath? cs := by
  have hother : after? "pub mod " ("include!(concat!(env!(\"OUT_DIR\"), \"".toList ++ cs) = none :=
    rfl
  rw [readItem?, hother, after?_append]
  rfl

end Items

section Chunks

/-- Text that is read inside the blocks of one place and leads to another, with what it says. -/
def Says (place : List String) (text : List Char) (next : List String) (said : List Mention) :
    Prop :=
  ∀ rest later, mentionsIn? next rest = some later →
    mentionsIn? place (text ++ rest) = some (said ++ later)

variable {place next last : List String} {text more : List Char} {said others : List Mention}

theorem Says.nil (place : List String) : Says place [] place [] :=
  fun _ _ h => h

theorem Says.append (h : Says place text next said) (hm : Says next more last others) :
    Says place (text ++ more) last (said ++ others) := by
  intro rest later hl
  rw [List.append_assoc, List.append_assoc]
  exact h _ _ (hm _ _ hl)

theorem Says.join {α : Type} {xs : List α} {f : α → String} {g : α → List Mention}
    (h : ∀ x ∈ xs, Says place (f x).toList place (g x)) :
    Says place (String.join (xs.map f)).toList place (xs.flatMap g) := by
  rw [String.toList_join, List.flatMap_map]
  induction xs with
  | nil => exact .nil place
  | cons x xs ih =>
    obtain ⟨hx, hxs⟩ := List.forall_mem_cons.1 h
    rw [List.flatMap_cons, List.flatMap_cons]
    exact hx.append (ih hxs)

theorem Says.mentions?_eq {text : String} (h : Says [] text.toList [] said) :
    mentions? text = some said := by
  simpa [mentions?] using h [] [] rfl

variable {line : List Char}
  (hl : ∀ rest, Text.lines (line ++ '\n' :: rest) = line :: Text.lines rest)
include hl

theorem Says.of_line {entry : Line} (he : readLine? line = some entry)
    (hs : ∀ entries later, mentionsFrom? next entries = some later →
      mentionsFrom? place (entry :: entries) = some (said ++ later)) :
    Says place (line ++ ['\n']) next said := by
  intro rest later h
  rw [mentionsIn?] at h
  rw [List.append_assoc, List.singleton_append, mentionsIn?, hl, List.mapM_cons, he]
  cases hr : (Text.lines rest).mapM readLine? with
  | none => simp [hr] at h
  | some entries =>
    rw [hr, Option.bind_some] at h
    exact hs entries later h

theorem Says.remark (he : readLine? line = some .remark) :
    Says place (line ++ ['\n']) place [] :=
  .of_line hl he fun _ _ h => h

theorem Says.declare {name : String} (he : readLine? line = some (.declare name)) :
    Says place (line ++ ['\n']) place [.file (place ++ [name])] :=
  .of_line hl he fun _ _ h => by simp [mentionsFrom?, h]

theorem Says.enter {name : String} (he : readLine? line = some (.enter name)) :
    Says place (line ++ ['\n']) (place ++ [name]) [.block (place ++ [name])] :=
  .of_line hl he fun _ _ h => by simp [mentionsFrom?, h]

theorem Says.take {path : String} (he : readLine? line = some (.take path)) :
    Says place (line ++ ['\n']) place [.included place path] :=
  .of_line hl he fun _ _ h => by simp [mentionsFrom?, h]

theorem Says.leave {name : String} (he : readLine? line = some .leave) :
    Says (place ++ [name]) (line ++ ['\n']) place [] :=
  .of_line hl he fun _ _ h => by simp [mentionsFrom?, h]

end Chunks

section Written

open Text (IsFirstLine)

variable {place : List String} {name : String}

theorem Says.emptyLine (place : List String) : Says place ['\n'] place [] := by
  have hlines : ∀ rest, Text.lines ([] ++ '\n' :: rest) = [] :: Text.lines rest := by
    simp [Text.lines, Text.linesFrom, Text.dropReturn]
  exact .remark hlines rfl

theorem Says.header (place : List String) :
    Says place (Artifact.header.toList ++ ['\n']) place [] :=
  .remark Artifact.isFirstLine_header.lines rfl

theorem isFirstLine_concat {init : List Char} {c : Char} (hn : '\n' ∉ init)
    (hc : Text.isBlank c = false) : IsFirstLine (init ++ [c]) where
  oneLine := by
    rw [List.mem_append, List.mem_singleton]
    rintro (hm | rfl)
    · exact hn hm
    · cases hc
  ends := ⟨init, c, rfl, hc⟩

theorem says_attribute {inner : List Char} (hn : '\n' ∉ inner) (place : List String) :
    Says place ('#' :: inner ++ [']'] ++ ['\n']) place [] := by
  have hstart : '\n' ∉ '#' :: inner := List.not_mem_cons_of_ne_of_not_mem (by decide) hn
  exact .remark (isFirstLine_concat hstart rfl).lines rfl

def indent (n : Nat) : List Char := List.replicate n ' '

theorem isBlank_of_mem_indent (n : Nat) : ∀ c ∈ indent n, Text.isBlank c = true := by
  intro c hc
  rw [List.eq_of_mem_replicate hc]
  rfl

theorem newline_not_mem_indent (n : Nat) : '\n' ∉ indent n :=
  fun h => absurd (List.eq_of_mem_replicate h) (by decide)

theorem readLine?_item (n : Nat) {c : Char} (hc : c.isAlpha = true) (cs : List Char) :
    readLine? (indent n ++ c :: cs) = readItem? (c :: cs) := by
  have hblank : Text.isBlank c = false :=
    Naming.forall_ascii (P := fun c => c.isAlpha = true → Text.isBlank c = false) (by decide)
      (Naming.ascii_of_isAlphanum (by simp [Char.isAlphanum, hc])) hc
  have htrim : Text.trimStart (indent n ++ c :: cs) = c :: cs := by
    rw [Text.trimStart, List.dropWhile_append_of_pos (isBlank_of_mem_indent n),
      List.dropWhile_cons_of_neg (by simp [hblank])]
  have hslash : c ≠ '/' := by rintro rfl; cases hc
  have hsign : c ≠ '#' := by rintro rfl; cases hc
  have hbrace : c ≠ '\x7d' := by rintro rfl; cases hc
  rw [readLine?, htrim]
  split <;> simp_all

section Modules

variable (h : Naming.isIdentifier name = true)
include h

theorem readLine?_module (n : Nat) {c : Char} {rest : List Char}
    (hc : Naming.isIdentifierPart c = false) :
    readLine? (indent n ++ "pub mod ".toList ++ name.toList ++ c :: rest) =
      if c :: rest = [';'] then some (.declare name)
      else if c :: rest = [' ', '\x7b'] then some (.enter name)
      else none := by
  have hitem : readLine? (indent n ++ ("pub mod ".toList ++ (name.toList ++ c :: rest))) =
      readItem? ("pub mod ".toList ++ (name.toList ++ c :: rest)) := readLine?_item n rfl _
  rw [List.append_assoc, List.append_assoc, hitem, readItem?_module, readModule?_append h hc]

theorem newline_not_mem_module (n : Nat) :
    '\n' ∉ indent n ++ "pub mod ".toList ++ name.toList :=
  List.not_mem_append (List.not_mem_append (newline_not_mem_indent n) (by decide))
    (Naming.mark_not_mem h rfl)

theorem says_declare (place : List String) :
    Says place (declare name).toList place [.file (place ++ [name])] := by
  have htext : (declare name).toList =
      indent 0 ++ "pub mod ".toList ++ name.toList ++ [';'] ++ ['\n'] := by
    simp [declare, indent]
  rw [htext]
  exact .declare (isFirstLine_concat (newline_not_mem_module h 0) rfl).lines
    ((readLine?_module h 0 rfl).trans (if_pos rfl))

theorem says_enter (n : Nat) (place : List String) :
    Says place (indent n ++ "pub mod ".toList ++ name.toList ++ [' ', '\x7b'] ++ ['\n'])
      (place ++ [name]) [.block (place ++ [name])] := by
  have hline : indent n ++ "pub mod ".toList ++ name.toList ++ [' ', '\x7b'] =
      (indent n ++ "pub mod ".toList ++ name.toList ++ [' ']) ++ ['\x7b'] := by simp
  have hfirst : IsFirstLine (indent n ++ "pub mod ".toList ++ name.toList ++ [' ', '\x7b']) := by
    rw [hline]
    exact isFirstLine_concat (List.not_mem_append (newline_not_mem_module h n) (by decide)) rfl
  exact .enter hfirst.lines ((readLine?_module h n rfl).trans (by simp))

end Modules

theorem says_take (n : Nat) {path : String} (hq : '"' ∉ path.toList) (hb : '\\' ∉ path.toList)
    (hn : '\n' ∉ path.toList) (place : List String) :
    Says place (indent n ++ "include!(concat!(env!(\"OUT_DIR\"), \"".toList ++ path.toList ++
      ['"', ')', ')', ';'] ++ ['\n']) place [.included place path] := by
  let start := "include!(concat!(env!(\"OUT_DIR\"), \"".toList
  have hline : indent n ++ start ++ path.toList ++ ['"', ')', ')', ';'] =
      (indent n ++ start ++ path.toList ++ ['"', ')', ')']) ++ [';'] := by
    rw [List.append_assoc (indent n ++ start ++ path.toList) _ [';']]
    rfl
  have hfirst : IsFirstLine (indent n ++ start ++ path.toList ++ ['"', ')', ')', ';']) := by
    rw [hline]
    refine isFirstLine_concat (List.not_mem_append (List.not_mem_append
      (List.not_mem_append (newline_not_mem_indent n) (by decide)) hn) (by decide)) rfl
  have hread : readLine? (indent n ++ start ++ path.toList ++ ['"', ')', ')', ';']) =
      some (.take path) := by
    have hitem : readLine? (indent n ++ (start ++ (path.toList ++ ['"', ')', ')', ';']))) =
      readItem? (start ++ (path.toList ++ ['"', ')', ')', ';'])) := readLine?_item n rfl _
    rw [List.append_assoc, List.append_assoc, hitem, readItem?_path]
    exact readPath?_append ⟨hq, hb⟩
  exact .take hfirst.lines hread

theorem says_leave (n : Nat) (place : List String) (name : String) :
    Says (place ++ [name]) (indent n ++ ['\x7d'] ++ ['\n']) place [] := by
  have hread : readLine? (indent n ++ ['\x7d']) = some .leave := by
    have htrim : Text.trimStart (indent n ++ ['\x7d']) = ['\x7d'] := by
      rw [Text.trimStart, List.dropWhile_append_of_pos (isBlank_of_mem_indent n)]
      rfl
    rw [readLine?, htrim]
    rfl
  exact .leave (isFirstLine_concat (newline_not_mem_indent n) rfl).lines hread

end Written

section Files

def sectionMentions (id : String) (part : Section) : List Mention :=
  [.block [id, part.stem], .included [id, part.stem] ("/" ++ id ++ "/" ++ part.stem ++ ".rs")]

theorem isIdentifier_stem (part : Section) : Naming.isIdentifier part.stem = true := by
  cases part <;> rfl

theorem toList_wrapperSection (id : String) (part : Section) :
    (wrapperSection id part).toList =
      (indent 4 ++ "pub mod ".toList ++ part.stem.toList ++ [' ', '\x7b'] ++ ['\n']) ++
        ((indent 8 ++ "include!(concat!(env!(\"OUT_DIR\"), \"".toList ++
          ("/" ++ id ++ "/" ++ part.stem ++ ".rs").toList ++ ['"', ')', ')', ';'] ++ ['\n']) ++
          (indent 4 ++ ['\x7d'] ++ ['\n'])) := by
  -- Without its equation, which takes long to make for a text of this length.
  delta wrapperSection
  simp only [String.toList_append, List.append_assoc]
  rfl

variable {id : String} (h : Naming.isIdentifier id = true)
include h

theorem says_wrapperSection (part : Section) :
    Says [id] (wrapperSection id part).toList [id] (sectionMentions id part) := by
  have hmark : ∀ mark, Naming.isIdentifierPart mark = false → mark ∉ ['/', '.', 'r', 's'] →
      mark ∉ ("/" ++ id ++ "/" ++ part.stem ++ ".rs").toList := by
    intro mark hm hother
    have hid := Naming.mark_not_mem h hm
    have hstem := Naming.mark_not_mem (isIdentifier_stem part) hm
    simp_all
  rw [toList_wrapperSection]
  exact (says_enter (isIdentifier_stem part) 4 [id]).append
    ((says_take 8 (hmark _ rfl (by decide)) (hmark _ rfl (by decide)) (hmark _ rfl (by decide))
      _).append (says_leave 4 [id] part.stem))

theorem says_wrapperModule (parts : List Section) :
    Says [] (wrapperModule (id, parts)).toList []
      (.block [id] :: parts.flatMap (sectionMentions id)) := by
  let allowed := ("[allow(" ++ allows ++ ")").toList
  let blocks := (String.join (parts.map (wrapperSection id))).toList
  have htext : (wrapperModule (id, parts)).toList =
      ['\n'] ++ (('#' :: allowed ++ [']'] ++ ['\n']) ++
        ((indent 0 ++ "pub mod ".toList ++ id.toList ++ [' ', '\x7b'] ++ ['\n']) ++
          (blocks ++ (indent 0 ++ ['\x7d'] ++ ['\n'])))) := by
    simp [wrapperModule, indent, allowed, blocks]
  have hblocks : Says [id] blocks [id] (parts.flatMap (sectionMentions id)) :=
    .join fun part _ => says_wrapperSection h part
  have hallowed : '\n' ∉ allowed := by decide
  have hall := (says_attribute hallowed []).append
    ((says_enter h 0 []).append (hblocks.append (says_leave 0 [] id)))
  rw [htext]
  simpa using (Says.emptyLine []).append hall

end Files

theorem mentions?_treeModule {m : String × List Section} :
    mentions? (treeModule m).content = some (m.2.map fun part => .file [part.stem]) := by
  let declared := (String.join (m.2.map fun part => declare part.stem)).toList
  have htext : (treeModule m).content.toList =
      (Artifact.header.toList ++ ['\n']) ++ (['\n'] ++ declared) := by
    simp [treeModule, declared]
  have hdeclared : Says [] declared [] (m.2.flatMap fun part => [.file [part.stem]]) :=
    .join fun part _ => says_declare (isIdentifier_stem part) []
  have hall := (Says.header []).append ((Says.emptyLine []).append hdeclared)
  rw [← htext] at hall
  simpa [List.map_eq_flatMap] using hall.mentions?_eq

section Modules

variable {modules : List (String × List Section)}
  (h : ∀ m ∈ modules, Naming.isIdentifier m.1 = true)
include h

theorem mentions?_treeRoot :
    mentions? (treeRoot modules).content = some (modules.map fun m => .file [m.1]) := by
  let allowed := ("![allow(" ++ allows ++ ")").toList
  let declared := (String.join (modules.map fun m => declare m.1)).toList
  have htext : (treeRoot modules).content.toList =
      (Artifact.header.toList ++ ['\n']) ++ (['\n'] ++
        (('#' :: allowed ++ [']'] ++ ['\n']) ++ (['\n'] ++ declared))) := by
    simp [treeRoot, allowed, declared]
  have hdeclared : Says [] declared [] (modules.flatMap fun m => [.file [m.1]]) :=
    .join fun m hm => says_declare (h m hm) []
  have hallowed : '\n' ∉ allowed := by decide
  have hall := (Says.header []).append ((Says.emptyLine []).append
    ((says_attribute hallowed []).append
      ((Says.emptyLine []).append hdeclared)))
  rw [← htext] at hall
  simpa [List.map_eq_flatMap] using hall.mentions?_eq

theorem mentions?_wrapper :
    mentions? (wrapper modules).content =
      some (modules.flatMap fun m => .block [m.1] :: m.2.flatMap (sectionMentions m.1)) := by
  have htext : (wrapper modules).content.toList = (Artifact.header.toList ++ ['\n']) ++
      (String.join (modules.map wrapperModule)).toList := by
    simp [wrapper]
  have hmodules : Says [] (String.join (modules.map wrapperModule)).toList []
      (modules.flatMap fun m => .block [m.1] :: m.2.flatMap (sectionMentions m.1)) :=
    .join fun m hm => says_wrapperModule (h m hm) m.2
  have hall := (Says.header []).append hmodules
  rw [← htext] at hall
  exact hall.mentions?_eq

end Modules

end EventSchema.Glue
