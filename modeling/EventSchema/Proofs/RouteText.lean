import EventSchema.Proofs.LegalIdentifiers
import EventSchema.Proofs.Outcome
import EventSchema.Schema.Route

set_option autoImplicit false

namespace EventSchema

theorem Text.intercalate_splitAt (mark : Char) (cs : List Char) :
    [mark].intercalate (splitAt (· == mark) cs) = cs := by
  induction cs with
  | nil => rfl
  | cons c rest ih =>
    cases hs : splitAt (· == mark) rest with
    | nil => exact absurd hs (splitAt_ne_nil _ rest)
    | cons piece pieces =>
      rw [hs] at ih
      by_cases hc : c = mark
      · rw [splitAt, if_pos (beq_iff_eq.2 hc), hs, List.intercalate_cons_cons, ih, hc]
        rfl
      · rw [splitAt, if_neg (by simpa using hc), hs]
        cases pieces with
        | nil => simpa using ih
        | cons next pieces => simpa [List.intercalate_cons_cons] using ih

namespace PathPart

def written : PathPart → List Char
  | .static text => text.toList
  | .placeholder name => '\x7b' :: name.toList ++ ['\x7d']

def filled (value : String → String) : PathPart → String
  | .static text => text
  | .placeholder name => value name

@[simp] theorem written_static (text : String) : (static text).written = text.toList := rfl

@[simp] theorem written_placeholder (name : String) :
    (placeholder name).written = '\x7b' :: name.toList ++ ['\x7d'] := rfl

@[simp] theorem filled_static (value : String → String) (text : String) :
    (static text).filled value = text := rfl

@[simp] theorem filled_placeholder (value : String → String) (name : String) :
    (placeholder name).filled value = value name := rfl

end PathPart

namespace Route

/-- What a text comes to when every name in braces gives way to its value. Between braces, `name?`
is what has been read of the name. -/
def fillText (value : String → String) (name? : Option (List Char)) : List Char → List Char
  | [] => []
  | c :: rest =>
    match name? with
    | none =>
      if c = '\x7b' then fillText value (some []) rest else c :: fillText value none rest
    | some name =>
      if c = '\x7d' then (value (String.ofList name)).toList ++ fillText value none rest
      else fillText value (some (name ++ [c])) rest

def fill (value : String → String) (path : String) : String :=
  String.ofList (fillText value none path.toList)

/-- What stands between placeholders: plain characters and slashes. -/
def IsText (cs : List Char) : Prop :=
  cs ≠ [] ∧ ∀ c ∈ cs, isPlain c = true ∨ c = '/'

inductive TakesTurns : List PathPart → Prop where
  | nil : TakesTurns []
  | last {text : String} (h : IsText text.toList) : TakesTurns [.static text]
  | cons {text name : String} {rest : List PathPart} (h : IsText text.toList)
      (hn : Naming.isIdentifier name = true) (hr : TakesTurns rest) :
      TakesTurns (.static text :: .placeholder name :: rest)

theorem braced?_eq_some {segment name : List Char} (h : braced? segment = some name) :
    segment = '\x7b' :: name ++ ['\x7d'] := by
  unfold braced? at h
  split at h
  · next rest =>
    split at h
    · next inner hr =>
      cases h
      rw [← List.reverse_reverse rest, hr, List.reverse_cons, List.cons_append]
    · cases h
  · cases h

theorem placeholderOf_eq_some {segment name : List Char}
    (h : placeholderOf segment = .ok (some name)) :
    segment = '\x7b' :: name ++ ['\x7d'] ∧ Naming.isIdentifierText name = true := by
  unfold placeholderOf at h
  split at h
  · next inner hb =>
    split at h
    · next hi =>
      cases h
      exact ⟨braced?_eq_some hb, hi⟩
    · cases h
  · split at h
    · cases h
    · cases h

theorem placeholderOf_eq_none {segment : List Char} (h : placeholderOf segment = .ok none) :
    ∀ c ∈ segment, isPlain c = true := by
  unfold placeholderOf at h
  split at h
  · split at h
    · cases h
    · cases h
  · split at h
    · cases h
    · next hf => simpa using hf

theorem IsText.append {cs ds : List Char} (hc : IsText cs)
    (hd : ∀ c ∈ ds, isPlain c = true ∨ c = '/') : IsText (cs ++ ds) := by
  refine ⟨fun h => hc.1 (List.append_eq_nil_iff.1 h).1, fun c hm => ?_⟩
  rcases List.mem_append.1 hm with hm | hm
  · exact hc.2 c hm
  · exact hd c hm

theorem slash_cases {slash : List Char} {rest : List (List Char)}
    (h : slash = if rest.isEmpty then [] else ['/']) :
    (IsText slash ∨ slash = [] ∧ rest = []) ∧ ∀ segment,
      ['/'].intercalate (segment :: rest) = segment ++ (slash ++ ['/'].intercalate rest) := by
  subst h
  cases rest with
  | nil => exact ⟨.inr ⟨rfl, rfl⟩, fun segment => by simp⟩
  | cons next rest =>
    exact ⟨.inl ⟨by simp, by simp⟩, fun segment => by simp [List.intercalate_cons_cons]⟩

/-- Text and placeholders take turns in the parts, which hold the pending text and the segments. -/
theorem takesTurns_of_partsFrom {pending : List Char} {segments : List (List Char)}
    {parts : List PathPart} (h : partsFrom pending segments = .ok parts)
    (hp : IsText pending ∨ pending = [] ∧ segments = []) :
    TakesTurns parts ∧
      parts.flatMap PathPart.written = pending ++ ['/'].intercalate segments := by
  induction segments generalizing pending parts with
  | nil =>
    cases h
    rcases hp with hp | ⟨rfl, -⟩
    · rw [if_neg (by simpa using hp.1)]
      exact ⟨.last (by simpa using hp), by simp⟩
    · exact ⟨.nil, rfl⟩
  | cons segment rest ih =>
    have hpending : IsText pending := hp.resolve_right fun hn => by cases hn.2
    rw [partsFrom] at h
    obtain ⟨slash, hs⟩ : ∃ slash, slash = if rest.isEmpty then [] else ['/'] := ⟨_, rfl⟩
    obtain ⟨hslash, hjoin⟩ := slash_cases hs
    simp only [← hs] at h
    split at h
    · cases h
    rw [hjoin]
    split at h
    · cases h
    · next name hseg =>
      obtain ⟨hbraces, hname⟩ := placeholderOf_eq_some hseg
      obtain ⟨others, ho, rfl⟩ := Outcome.map_eq_ok.1 h
      obtain ⟨hturns, hwritten⟩ := ih ho hslash
      have htext : IsText (String.ofList pending).toList := by simpa using hpending
      have hident : Naming.isIdentifier (String.ofList name) = true := by
        simpa [Naming.isIdentifier] using hname
      exact ⟨.cons htext hident hturns, by simp [hwritten, hbraces]⟩
    · next hseg =>
      have hplain := placeholderOf_eq_none hseg
      have htext : IsText (pending ++ (segment ++ slash)) := by
        refine hpending.append fun c hc => ?_
        rcases List.mem_append.1 hc with hc | hc
        · exact .inl (hplain c hc)
        · refine hslash.elim (fun ht => ht.2 c hc) fun hn => ?_
          simp [hn.1] at hc
      rw [List.append_assoc] at h
      obtain ⟨hturns, hwritten⟩ := ih h (.inl htext)
      exact ⟨hturns, by simp [hwritten]⟩

theorem takesTurns_of_parts {path : String} {parts : List PathPart}
    (h : Route.parts path = .ok parts) :
    TakesTurns parts ∧ parts.flatMap PathPart.written = path.toList := by
  have htext := Outcome.mapError_eq_ok.1 h
  unfold partsOfText at htext
  split at htext
  · next rest hpath =>
    obtain ⟨hturns, hwritten⟩ := takesTurns_of_partsFrom htext (.inl ⟨by simp, by simp⟩)
    rw [Text.intercalate_splitAt] at hwritten
    exact ⟨hturns, hwritten.trans hpath.symm⟩
  · cases htext

theorem TakesTurns.isIdentifier {parts : List PathPart} (h : TakesTurns parts) :
    ∀ name ∈ parts.filterMap PathPart.placeholder?, Naming.isIdentifier name = true := by
  induction h with
  | nil => simp
  | last ht =>
    rintro name ⟨⟩
  | cons ht hn _ ih => exact List.forall_mem_cons.2 ⟨hn, ih⟩

section Fill

variable {value : String → String}

theorem fillText_text (value : String → String) {text : List Char} (h : '\x7b' ∉ text)
    (rest : List Char) : fillText value none (text ++ rest) = text ++ fillText value none rest := by
  induction text with
  | nil => rfl
  | cons c text ih =>
    obtain ⟨hc, htext⟩ := List.ne_and_not_mem_of_not_mem_cons h
    simp [fillText, Ne.symm hc, ih htext]

theorem fillText_name {name : List Char} (h : '\x7d' ∉ name) (start rest : List Char) :
    fillText value (some start) (name ++ '\x7d' :: rest) =
      (value (String.ofList (start ++ name))).toList ++ fillText value none rest := by
  induction name generalizing start with
  | nil => simp [fillText]
  | cons c name ih =>
    obtain ⟨hc, hname⟩ := List.ne_and_not_mem_of_not_mem_cons h
    simp [fillText, Ne.symm hc, ih hname]

theorem IsText.mark_not_mem {cs : List Char} (h : IsText cs) {mark : Char}
    (hm : ¬ (isPlain mark = true ∨ mark = '/')) : mark ∉ cs :=
  fun hmem => hm (h.2 mark hmem)

theorem fillText_written {parts : List PathPart} (h : TakesTurns parts) :
    fillText value none (parts.flatMap PathPart.written) =
      parts.flatMap fun part => (part.filled value).toList := by
  induction h with
  | nil => rfl
  | last ht =>
    have htext := fillText_text value (ht.mark_not_mem (by decide)) []
    simpa [fillText] using htext
  | cons ht hn _ ih =>
    simp only [List.flatMap_cons, PathPart.written_static, PathPart.written_placeholder,
      PathPart.filled_static, PathPart.filled_placeholder, List.cons_append, List.append_assoc,
      List.nil_append]
    rw [fillText_text value (ht.mark_not_mem (by decide)), fillText, if_pos rfl,
      fillText_name (Naming.mark_not_mem hn rfl), ih, List.nil_append, String.ofList_toList]

theorem fill_eq {path : String} {parts : List PathPart} (h : Route.parts path = .ok parts) :
    fill value path = String.join (parts.map (PathPart.filled value)) := by
  obtain ⟨hturns, hwritten⟩ := takesTurns_of_parts h
  rw [fill, ← hwritten, fillText_written hturns, ← String.toList_inj]
  simp [List.flatMap_map]

theorem fill_eq_self {path : String} {parts : List PathPart} (h : Route.parts path = .ok parts)
    (hn : parts.filterMap PathPart.placeholder? = []) : fill value path = path := by
  obtain ⟨-, hwritten⟩ := takesTurns_of_parts h
  rw [fill_eq h, ← String.toList_inj, ← hwritten, String.toList_join, List.flatMap_map]
  refine List.flatMap_congr fun part hm => ?_
  cases part with
  | static text => rfl
  | placeholder name => cases List.filterMap_eq_nil_iff.1 hn _ hm

end Fill

end Route

end EventSchema
