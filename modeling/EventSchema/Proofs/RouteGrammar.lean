import EventSchema.Proofs.RouteText
import Mathlib.Data.String.Basic

/-!
The grammar of paths. A path has parts just if it is a slash and segments between slashes, each a
name in braces or plain text, and only the last one empty; its placeholders are the names in braces.
The parts can also be cut out of the path by byte positions: every cut starts and stops between two
characters of the path.
-/

set_option autoImplicit false

namespace EventSchema

theorem Text.splitAt_intercalate {mark : Char} {pieces : List (List Char)} (hn : pieces ≠ [])
    (h : ∀ piece ∈ pieces, mark ∉ piece) :
    splitAt (· == mark) ([mark].intercalate pieces) = pieces := by
  induction pieces with
  | nil => exact absurd rfl hn
  | cons piece pieces ih =>
    obtain ⟨hpiece, hpieces⟩ := List.forall_mem_cons.1 h
    have hcut := not_cut_of_not_mem hpiece
    cases pieces with
    | nil => simpa using splitAt_eq_singleton hcut
    | cons next pieces =>
      have hjoin : [mark].intercalate (piece :: next :: pieces) =
          piece ++ mark :: [mark].intercalate (next :: pieces) := by
        simp [List.intercalate_cons_cons]
      rw [hjoin, splitAt_append_cons hcut (beq_self_eq_true mark),
        ih (List.cons_ne_nil next pieces) hpieces]

namespace Route

def IsNameText (cs : List Char) : Prop :=
  ∃ c rest, cs = c :: rest ∧ (c.isAlpha = true ∨ c = '_') ∧
    ∀ d ∈ rest, d.isAlphanum = true ∨ d = '_'

def inBraces (name : List Char) : List Char :=
  '\x7b' :: name ++ ['\x7d']

inductive IsSegment : List Char → Prop where
  | name {cs : List Char} (h : IsNameText cs) : IsSegment (inBraces cs)
  | text {cs : List Char} (h : ∀ c ∈ cs, c.isAlphanum = true ∨ c ∈ ['-', '.', '_', '~']) :
      IsSegment cs

structure Spells (segments : List (List Char)) (path : List Char) : Prop where
  some_segment : segments ≠ []
  spelled : path = '/' :: ['/'].intercalate segments
  filled : ∀ segment ∈ segments.dropLast, segment ≠ []
  allowed : ∀ segment ∈ segments, IsSegment segment

section Segments

theorem isNameText_iff {cs : List Char} : IsNameText cs ↔ Naming.isIdentifierText cs = true := by
  cases cs with
  | nil => simp [IsNameText, Naming.isIdentifierText]
  | cons c rest =>
    simp [IsNameText, Naming.isIdentifierText, Naming.isIdentifierStart, Naming.isIdentifierPart]

theorem isPlain_iff {c : Char} :
    isPlain c = true ↔ c.isAlphanum = true ∨ c ∈ ['-', '.', '_', '~'] := by
  simp [isPlain, or_assoc]

theorem braced?_inBraces (name : List Char) : braced? (inBraces name) = some name := by
  simp [braced?, inBraces]

theorem brace_not_mem_of_isPlain {cs : List Char} (h : ∀ c ∈ cs, isPlain c = true) :
    '\x7b' ∉ cs :=
  fun hm => absurd (h _ hm) (by decide)

theorem braced?_of_isPlain {cs : List Char} (h : ∀ c ∈ cs, isPlain c = true) :
    braced? cs = none := by
  cases hb : braced? cs with
  | none => rfl
  | some name =>
    refine absurd ?_ (brace_not_mem_of_isPlain h)
    simp [braced?_eq_some hb]

theorem placeholderOf_inBraces {name : List Char} (h : Naming.isIdentifierText name = true) :
    placeholderOf (inBraces name) = .ok (some name) := by
  simp [placeholderOf, braced?_inBraces, h]

theorem placeholderOf_of_isPlain {cs : List Char} (h : ∀ c ∈ cs, isPlain c = true) :
    placeholderOf cs = .ok none := by
  have hfind : cs.find? (! isPlain ·) = none := by simpa using h
  simp [placeholderOf, braced?_of_isPlain h, hfind]

theorem IsSegment.placeholderOf_ok {segment : List Char} (h : IsSegment segment) :
    ∃ name?, placeholderOf segment = .ok name? := by
  cases h with
  | name hn => exact ⟨_, placeholderOf_inBraces (isNameText_iff.1 hn)⟩
  | text ht => exact ⟨_, placeholderOf_of_isPlain fun c hc => isPlain_iff.2 (ht c hc)⟩

theorem isSegment_of_placeholderOf {segment : List Char} {name? : Option (List Char)}
    (h : placeholderOf segment = .ok name?) : IsSegment segment := by
  cases name? with
  | some name =>
    obtain ⟨rfl, hname⟩ := placeholderOf_eq_some h
    exact .name (isNameText_iff.2 hname)
  | none => exact .text fun c hc => isPlain_iff.1 (placeholderOf_eq_none h c hc)

theorem IsSegment.slash_not_mem {segment : List Char} (h : IsSegment segment) :
    '/' ∉ segment := by
  cases h with
  | name hn =>
    have hparts := (Naming.isIdentifierText_iff.1 (isNameText_iff.1 hn)).2
    intro hm
    simp only [inBraces, List.cons_append, List.mem_cons, List.mem_append, List.not_mem_nil,
      or_false] at hm
    rcases hm with hm | hm | hm
    · exact absurd hm (by decide)
    · exact absurd (hparts _ hm) (by decide)
    · exact absurd hm (by decide)
  | text ht => exact fun hm => absurd (isPlain_iff.2 (ht _ hm)) (by decide)

theorem Spells.splitAt_eq {segments : List (List Char)} {rest : List Char}
    (h : Spells segments ('/' :: rest)) : Text.splitAt (· == '/') rest = segments := by
  obtain ⟨-, hrest⟩ := List.cons.inj h.spelled
  rw [hrest]
  exact Text.splitAt_intercalate h.some_segment fun segment hs => (h.allowed segment hs).slash_not_mem

end Segments

section Walk

theorem exists_partsFrom_iff {pending : List Char} {segments : List (List Char)} :
    (∃ parts, partsFrom pending segments = .ok parts) ↔
      (∀ segment ∈ segments.dropLast, segment ≠ []) ∧ ∀ segment ∈ segments, IsSegment segment := by
  induction segments generalizing pending with
  | nil => simp [partsFrom]
  | cons segment rest ih =>
    have hempty : (segment.isEmpty && !rest.isEmpty) = true ↔ segment = [] ∧ rest ≠ [] := by simp
    have hfilled : (∀ s ∈ (segment :: rest).dropLast, s ≠ []) ↔
        ¬ (segment = [] ∧ rest ≠ []) ∧ ∀ s ∈ rest.dropLast, s ≠ [] := by
      cases rest with
      | nil => simp
      | cons next rest => simp [List.dropLast_cons_cons]
    rw [partsFrom, hfilled, List.forall_mem_cons]
    split
    · next hno => simp [hempty.1 hno]
    · next hno =>
      have hsome := mt hempty.2 hno
      cases hseg : placeholderOf segment with
      | error flaw =>
        have hbad : ¬ IsSegment segment := by
          intro hs
          obtain ⟨name?, hok⟩ := hs.placeholderOf_ok
          rw [hseg] at hok
          cases hok
        simp [hbad]
      | ok name? =>
        have hs := isSegment_of_placeholderOf hseg
        have hih := fun slash => @ih slash
        cases name? with
        | some name => simp [Outcome.map_eq_ok, hih, hsome, hs]
        | none => simp [hih, hsome, hs]

theorem placeholders_of_partsFrom {pending : List Char} {segments : List (List Char)}
    {parts : List PathPart} (h : partsFrom pending segments = .ok parts) :
    (parts.filterMap PathPart.placeholder?).map (fun name => inBraces name.toList) =
      segments.filter (·.head? == some '\x7b') := by
  induction segments generalizing pending parts with
  | nil =>
    cases h
    split <;> simp [PathPart.placeholder?]
  | cons segment rest ih =>
    rw [partsFrom] at h
    generalize (if rest.isEmpty then [] else ['/']) = slash at h
    split at h
    · cases h
    split at h
    · cases h
    · next name hseg =>
      obtain ⟨others, ho, rfl⟩ := Outcome.map_eq_ok.1 h
      obtain ⟨rfl, -⟩ := placeholderOf_eq_some hseg
      rw [List.filter_cons_of_pos (by simp), ← ih ho,
        List.filterMap_cons_none (by simp [PathPart.placeholder?]),
        List.filterMap_cons_some (b := String.ofList name) (by simp [PathPart.placeholder?]),
        List.map_cons, String.toList_ofList]
      rfl
    · next hseg =>
      have hplain := placeholderOf_eq_none hseg
      have hhead : (segment.head? == some '\x7b') = false := by
        refine beq_eq_false_iff_ne.2 fun he => ?_
        exact brace_not_mem_of_isPlain hplain (List.mem_of_head? he)
      simp [hhead, ih h]

end Walk

section Cuts

inductive Cut where
  | range (start stop : Nat)
  | name (text : List Char)
deriving DecidableEq, Repr

/-- Both ends are positions between characters of the path, or at its ends. -/
def Cut.Fits (path : String) : Cut → Prop
  | .range start stop =>
    start ≤ stop ∧ String.Pos.Raw.IsValid path ⟨start⟩ ∧ String.Pos.Raw.IsValid path ⟨stop⟩
  | .name _ => True

def Cut.part (path : String) : Cut → PathPart
  | .range start stop => .static (String.Pos.Raw.extract path ⟨start⟩ ⟨stop⟩)
  | .name text => .placeholder (String.ofList text)

/-- Reads segments of a path of `size` bytes. The text since the last placeholder starts at `start`
and the next segment at `offset`. Gives all that is taken, also before a flaw. -/
def cutsFrom (size start offset : Nat) : List (List Char) → List Cut × Except PathFlaw Unit
  | [] => (if start < size then [.range start size] else [], .ok ())
  | segment :: rest =>
    if segment.isEmpty && !rest.isEmpty then ([], .error .emptySegment)
    else
      let stop := offset + String.utf8Len segment
      match placeholderOf segment with
      | .error flaw => ([], .error flaw)
      | .ok (some name) =>
        let (cuts, outcome) := cutsFrom size stop (stop + 1) rest
        (.range start offset :: .name name :: cuts, outcome)
      | .ok none => cutsFrom size start (stop + 1) rest

def cuts (path : String) : List Cut × Except PathFlaw Unit :=
  match path.toList with
  | '/' :: rest => cutsFrom path.utf8ByteSize 0 1 (Text.splitAt (· == '/') rest)
  | _ => ([], .error .noLeadingSlash)

structure ReadTo (path : String) (start offset : Nat) (pending : List Char)
    (segments : List (List Char)) : Prop where
  rest : ∃ before, path.toList = before ++ (pending ++ ['/'].intercalate segments) ∧
    start = String.utf8Len before
  offset : segments ≠ [] → offset = start + String.utf8Len pending

variable {path : String} {start offset : Nat} {pending : List Char}

theorem range_of_toList {before text after : List Char} (h : path.toList = before ++ text ++ after) :
    (Cut.range (String.utf8Len before) (String.utf8Len before + String.utf8Len text)).Fits path ∧
      (Cut.range (String.utf8Len before) (String.utf8Len before + String.utf8Len text)).part path =
        .static (String.ofList text) := by
  obtain rfl : path = String.ofList (before ++ text ++ after) := by
    rw [← h, String.ofList_toList]
  have hvalid : ∀ front back : List Char, front ++ back = before ++ text ++ after →
      String.Pos.Raw.IsValid (String.ofList (before ++ text ++ after))
        ⟨String.utf8Len front⟩ := by
    intro front back he
    refine String.Pos.Raw.isValid_iff_exists_append.2 ⟨.ofList front, .ofList back, ?_, ?_⟩
    · rw [← he, String.ofList_append]
    · rw [String.rawEndPos, String.utf8ByteSize_ofList]
  refine ⟨⟨Nat.le_add_right _ _, hvalid before (text ++ after) (by simp), ?_⟩, ?_⟩
  · simpa using hvalid (before ++ text) after rfl
  · exact congrArg PathPart.static (String.extract_of_valid before text after)

theorem cutsFrom_spec {segments : List (List Char)} (h : ReadTo path start offset pending segments) :
    (∀ cut ∈ (cutsFrom path.utf8ByteSize start offset segments).1, cut.Fits path) ∧
      partsFrom pending segments =
        (cutsFrom path.utf8ByteSize start offset segments).2.map fun _ =>
          (cutsFrom path.utf8ByteSize start offset segments).1.map (Cut.part path) := by
  induction segments generalizing start offset pending with
  | nil =>
    obtain ⟨before, hpath, rfl⟩ := h.rest
    have hwhole : path.toList = before ++ pending ++ [] := by simpa using hpath
    have hrange := range_of_toList hwhole
    have hsize : path.utf8ByteSize = String.utf8Len before + String.utf8Len pending := by
      rw [← String.ofList_toList (s := path), String.utf8ByteSize_ofList, hpath]
      simp
    rw [cutsFrom, partsFrom, hsize]
    by_cases hp : pending = []
    · simp [hp, Except.map]
    · have hpos : 0 < String.utf8Len pending := Nat.pos_of_ne_zero (mt String.utf8Len_eq_zero.1 hp)
      rw [if_pos (Nat.lt_add_of_pos_right hpos), if_neg (by simpa using hp)]
      simp [Except.map, hrange]
  | cons segment rest ih =>
    obtain ⟨before, hpath, rfl⟩ := h.rest
    have hoffset := h.offset (List.cons_ne_nil segment rest)
    obtain ⟨slash, hs⟩ : ∃ slash, slash = if rest.isEmpty then [] else ['/'] := ⟨_, rfl⟩
    have hone : rest ≠ [] → String.utf8Len slash = 1 := by
      intro hr
      rw [hs, if_neg (by simpa using hr)]
      rfl
    rw [(slash_cases hs).2] at hpath
    rw [cutsFrom, partsFrom]
    simp only [← hs]
    split
    · simp [Except.map]
    cases hseg : placeholderOf segment with
    | error flaw => simp [Except.map]
    | ok name? =>
      cases name? with
      | some name =>
        -- The pending text is taken; the rest starts behind the segment.
        have hnext : ReadTo path (offset + String.utf8Len segment)
            (offset + String.utf8Len segment + 1) slash rest := by
          refine ⟨⟨before ++ pending ++ segment, by simpa using hpath, ?_⟩, fun hr => ?_⟩
          · simp [hoffset, Nat.add_assoc]
          · rw [hone hr]
        obtain ⟨hfits, hparts⟩ := ih hnext
        have hwhole : path.toList =
            before ++ pending ++ (segment ++ (slash ++ ['/'].intercalate rest)) := by
          simpa using hpath
        have hrange := range_of_toList hwhole
        rw [← hoffset] at hrange
        refine ⟨List.forall_mem_cons.2 ⟨hrange.1, List.forall_mem_cons.2 ⟨trivial, hfits⟩⟩, ?_⟩
        rw [hparts, List.map_cons, List.map_cons, hrange.2]
        cases (cutsFrom path.utf8ByteSize (offset + String.utf8Len segment)
          (offset + String.utf8Len segment + 1) rest).2 <;> rfl
      | none =>
        have hnext : ReadTo path (String.utf8Len before) (offset + String.utf8Len segment + 1)
            (pending ++ segment ++ slash) rest := by
          refine ⟨⟨before, by simpa using hpath, rfl⟩, fun hr => ?_⟩
          simp [hoffset, hone hr]
          omega
        exact ih hnext

theorem cuts_spec (path : String) : (∀ cut ∈ (cuts path).1, cut.Fits path) ∧
    partsOfText path.toList = (cuts path).2.map fun _ => (cuts path).1.map (Cut.part path) := by
  unfold cuts partsOfText
  split
  · next rest hpath =>
    have hread : ReadTo path 0 1 ['/'] (Text.splitAt (· == '/') rest) := by
      refine ⟨⟨[], ?_, rfl⟩, fun _ => rfl⟩
      rw [Text.intercalate_splitAt]
      exact hpath
    simpa only [hpath] using cutsFrom_spec hread
  · simp [Except.map]

end Cuts

theorem exists_parts_iff {path : String} :
    (∃ ps, parts path = .ok ps) ↔ ∃ segments, Spells segments path.toList := by
  simp only [parts, Outcome.mapError_eq_ok]
  unfold partsOfText
  split
  · next rest hpath =>
    rw [exists_partsFrom_iff, hpath]
    constructor
    · rintro ⟨hfilled, hallowed⟩
      exact ⟨_, Text.splitAt_ne_nil _ rest, by rw [Text.intercalate_splitAt], hfilled, hallowed⟩
    · rintro ⟨segments, hs⟩
      rw [hs.splitAt_eq]
      exact ⟨hs.filled, hs.allowed⟩
  · next hno =>
    constructor
    · rintro ⟨ps, h⟩
      cases h
    · rintro ⟨segments, hs⟩
      exact absurd hs.spelled (hno _)

theorem placeholders_of_spells {path : String} {segments : List (List Char)}
    (hs : Spells segments path.toList) {ps : List PathPart} (h : parts path = .ok ps) :
    (ps.filterMap PathPart.placeholder?).map (fun name => inBraces name.toList) =
      segments.filter (·.head? == some '\x7b') := by
  have htext := Outcome.mapError_eq_ok.1 h
  unfold partsOfText at htext
  split at htext
  · next rest hpath =>
    rw [hpath] at hs
    rw [← hs.splitAt_eq]
    exact placeholders_of_partsFrom htext
  · cases htext

theorem TakesTurns.texts_ne_empty {ps : List PathPart} (h : TakesTurns ps) :
    ∀ text, .static text ∈ ps → text ≠ "" := by
  induction h with
  | nil => simp
  | last ht =>
    rintro text hm rfl
    cases List.mem_singleton.1 hm
    exact ht.1 rfl
  | cons ht _ _ ih =>
    intro text hm
    rcases List.mem_cons.1 hm with hm | hm
    · cases hm
      rintro rfl
      exact ht.1 rfl
    · exact ih text (by simpa using hm)

theorem TakesTurns.isChain {ps : List PathPart} (h : TakesTurns ps) :
    ps.IsChain fun a b => a.placeholder?.isSome ≠ b.placeholder?.isSome := by
  induction h with
  | nil => exact .nil
  | last => exact .singleton _
  | @cons text name rest _ _ hr ih =>
    refine .cons_cons (by simp [PathPart.placeholder?]) ?_
    cases hr with
    | nil => exact .singleton _
    | last => exact .cons_cons (by simp [PathPart.placeholder?]) ih
    | cons => exact .cons_cons (by simp [PathPart.placeholder?]) ih

/-- A path has parts just if the grammar spells it. They hold all of the path, text and placeholders
take turns, text first, and the placeholders are its segments in braces. Reading by positions takes
out the same parts, and nothing across the end of the path or of a character. -/
theorem parts_match_grammar (path : String) :
    ((∃ ps, parts path = .ok ps) ↔ ∃ segments, Spells segments path.toList) ∧
    (∀ ps, parts path = .ok ps →
      ps.flatMap PathPart.written = path.toList ∧
      (∀ text, .static text ∈ ps → text ≠ "") ∧
      ps.IsChain (fun a b => a.placeholder?.isSome ≠ b.placeholder?.isSome) ∧
      (∃ text rest, ps = .static text :: rest) ∧
      ∃ names, placeholders path = .ok names ∧ ∀ segments, Spells segments path.toList →
        names.map (fun name => inBraces name.toList) =
          segments.filter (·.head? == some '\x7b')) ∧
    (∀ cut ∈ (cuts path).1, cut.Fits path) ∧
    parts path = ((cuts path).2.map fun _ => (cuts path).1.map (Cut.part path)).mapError
      (.malformedPath path) := by
  obtain ⟨hfits, hcuts⟩ := cuts_spec path
  refine ⟨exists_parts_iff, ?_, hfits, by rw [parts, hcuts]⟩
  intro ps h
  obtain ⟨hturns, hwritten⟩ := takesTurns_of_parts h
  refine ⟨hwritten, hturns.texts_ne_empty, hturns.isChain, ?_, ?_⟩
  · cases hturns with
    | nil =>
      obtain ⟨segments, hs⟩ := exists_parts_iff.1 ⟨_, h⟩
      exact absurd (hwritten.trans hs.spelled) (by simp)
    | last => exact ⟨_, _, rfl⟩
    | cons => exact ⟨_, _, rfl⟩
  · exact ⟨_, by rw [placeholders, h]; rfl, fun segments hs => placeholders_of_spells hs h⟩

end Route

end EventSchema
