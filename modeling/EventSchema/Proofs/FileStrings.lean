import EventSchema.Proofs.CodeStrings
import EventSchema.Proofs.FileIdentifiers
import EventSchema.Proofs.FormAgreement
import EventSchema.Proofs.RouteGroups
import EventSchema.Proofs.TypeReading

set_option autoImplicit false

namespace EventSchema

open Outcome

def Rule.strings (key : String) : Rule → List String
  | .nonEmpty | .maxLength _ => [key]
  | .pattern text _ => [key, text]

/-- The keys of the fields, key and chain of the command, and what its rules are called with. -/
def Command.strings (c : Command) : List String :=
  c.fields.map CommandField.key ++ [c.key, c.chain] ++
    c.fields.flatMap fun f => f.rules.flatMap (Rule.strings f.key)

namespace Backend

section Names

open Naming

theorem isCode_of_isIdentPart {name : String} (h : ∀ c ∈ name.toList, isIdentPart c = true) :
    isCode name = true := by
  have hne : ∀ {c mark : Char}, isIdentPart c = true → isIdentPart mark = false → c ≠ mark := by
    rintro c mark hc hm rfl
    rw [hc] at hm
    cases hm
  refine List.all_eq_true.2 fun c hc => ?_
  have hpart := h c hc
  simp only [isCodeChar, Bool.and_eq_true, bne_iff_ne]
  exact ⟨⟨⟨hne hpart (by decide), hne hpart (by decide)⟩, hne hpart (by decide)⟩,
    hne hpart (by decide)⟩

theorem isCode_of_isIdentifierPart {name : String}
    (h : ∀ c ∈ name.toList, isIdentifierPart c = true) : isCode name = true :=
  isCode_of_isIdentPart fun c hc => by simp [isIdentPart, h c hc]

theorem isCode_of_isAlphanum {name : String} (h : ∀ c ∈ name.toList, c.isAlphanum = true) :
    isCode name = true :=
  isCode_of_isIdentifierPart fun c hc => isIdentifierPart_of_isAlphanum (h c hc)

theorem isCode_of_isIdentifier {name : String} (h : isIdentifier name = true) :
    isCode name = true :=
  isCode_of_isIdentifierPart (isIdentifierText_iff.1 h).2

theorem isCode_pascal (s : String) : isCode (pascal s) = true :=
  isCode_of_isAlphanum fun _ => isAlphanum_of_mem_pascal

theorem isCode_snake (s : String) : isCode (snake s) = true :=
  isCode_of_isIdentifierPart fun _ => isIdentifierPart_of_mem_snake

theorem isCode_screaming (s : String) : isCode (screaming s) = true := by
  refine isCode_of_isIdentifierPart fun c hc => ?_
  rw [screaming, String.toList_ofList] at hc
  rcases mem_joined hc with rfl | ⟨d, hd, rfl⟩
  · rfl
  · exact isIdentifierPart_of_isAlphanum (isAlphanum_toUpper hd)

theorem isCode_escapeKeyword {name : String} (h : isCode name = true) :
    isCode (escapeKeyword name) = true := by
  unfold escapeKeyword
  split
  · exact h
  · split
    · exact isCode_finish h rfl
    · exact isCode_start h rfl

theorem isCode_of_fieldIdent? {key ident : String} (h : fieldIdent? key = some ident) :
    isCode ident = true :=
  isCode_of_isIdentPart (isIdentPart_of_isLegalIdent (isLegalIdent_of_fieldIdent? h).1)

theorem isCode_digits (n : Nat) : isCode (String.ofList (Nat.toDigits 10 n)) = true := by
  refine isCode_of_isAlphanum fun c hc => ?_
  rw [String.toList_ofList] at hc
  have hdigit := Nat.isDigit_of_mem_toDigits (by decide) (by decide) hc
  simp [Char.isAlphanum, hdigit]

theorem isCode_join {texts : List String} (h : ∀ text ∈ texts, isCode text = true) :
    isCode (String.join texts) = true := by
  induction texts with
  | nil => exact isCode_chars rfl
  | cons text texts ih =>
    obtain ⟨ht, hts⟩ := List.forall_mem_cons.1 h
    rw [String.join_cons]
    exact isCode_append ht (ih hts)

theorem isCode_intercalate {mark : String} (hm : isCode mark = true) {texts : List String}
    (h : ∀ text ∈ texts, isCode text = true) : isCode (String.intercalate mark texts) = true := by
  induction texts with
  | nil => exact isCode_chars rfl
  | cons text texts ih =>
    obtain ⟨ht, hts⟩ := List.forall_mem_cons.1 h
    cases texts with
    | nil => rwa [String.intercalate_singleton]
    | cons next texts =>
      rw [String.intercalate_cons_cons]
      exact isCode_append (isCode_append ht hm) (ih hts)

theorem isOneLine_oneLine (text : String) : isOneLine (Code.oneLine text) = true := by
  rw [isOneLine, Code.oneLine, String.toList_ofList, List.all_map, List.all_eq_true]
  intro c _
  rw [Function.comp_apply]
  split
  · rfl
  · next hc =>
    rw [not_or] at hc
    simp [hc]

theorem says_rename (value : String) :
    LineSays ("#[serde(rename = " ++ literal value ++ ")]") [value] := by
  have hend : isCode ")]" = true := isCode_chars rfl
  simpa only [String.append_assoc] using
    LineSays.literal "#[serde(rename = " (isOpening_chars rfl) value (.code hend)

end Names

section Commands

def FieldRule.strings (r : FieldRule) : List String :=
  r.rule.strings r.key

theorem FormField.says_code {f : FormField} (h : isCode f.ident = true) : Says f.code [f.key] := by
  have hdefault : isCode ((if f.hasDefault then ", default" else "") ++ ")]") = true := by
    refine isCode_finish ?_ rfl
    split
    · exact isCode_chars rfl
    · exact isCode_chars rfl
  have hattribute := LineSays.literal "#[serde(rename = " (isOpening_chars rfl) f.key
    (.code hdefault)
  have htype : isCode (fieldType f.kind) = true := by
    cases f.kind <;> exact isCode_chars rfl
  have hmember : isCode ("pub " ++ f.ident ++ ": " ++ fieldType f.kind ++ ",") = true :=
    isCode_next (isCode_around h rfl) htype rfl
  simp only [← String.append_assoc] at hattribute
  exact (Says.line hattribute).append (Says.code hmember)

theorem FieldRule.says_code {r : FieldRule} (h : isCode r.ident = true) :
    Says [r.code] r.strings := by
  obtain ⟨ident, key, rule⟩ := r
  have hmember : isCode (", &self." ++ ident) = true := isCode_start h rfl
  have hend : isCode ")?;" = true := isCode_chars rfl
  cases rule with
  | nonEmpty =>
    have hline : LineSays ("validation::non_empty(" ++ (literal key ++ ", &self." ++ ident) ++
        ")?;") [key] := by
      simpa only [String.append_assoc] using LineSays.literal "validation::non_empty("
        (isOpening_chars rfl) key (.code (isCode_append hmember hend))
    exact .line hline
  | maxLength max =>
    have hcomma : isCode (", &self." ++ ident ++ ", ") = true := isCode_finish hmember rfl
    have hlimit : isCode (", &self." ++ ident ++ ", " ++ String.ofList (Nat.toDigits 10 max)) =
        true := isCode_append hcomma (isCode_digits max)
    have hline : LineSays ("validation::max_length(" ++ (literal key ++ ", &self." ++ ident) ++
        ", " ++ String.ofList (Nat.toDigits 10 max) ++ ")?;") [key] := by
      simpa only [String.append_assoc] using LineSays.literal "validation::max_length("
        (isOpening_chars rfl) key (.code (isCode_append hlimit hend))
    exact .line hline
  | pattern text skipEmpty =>
    have hpattern := LineSays.literal (", &self." ++ ident ++ ", ") (isOpening_append hmember rfl)
      text (.code hend)
    have hline : LineSays ("validation::matches_pattern(" ++
        (literal key ++ ", &self." ++ ident) ++ ", " ++ literal text ++ ")?;") [key, text] := by
      simpa only [String.append_assoc] using LineSays.literal "validation::matches_pattern("
        (isOpening_chars rfl) key hpattern
    cases skipEmpty with
    | false => exact .line hline
    | true => exact .item (isCode_around h rfl) (.line hline)

structure CommandItem.IsPlain (c : CommandItem) : Prop where
  structName : isCode c.structName = true
  title : isOneLine c.title = true
  handlerMethod : isCode c.handlerMethod = true
  allocatorFn : isCode c.allocatorFn = true
  fields : ∀ f ∈ c.fields, isCode f.ident = true
  rules : ∀ r ∈ c.rules, isCode r.ident = true

namespace CommandItem

def strings (c : CommandItem) : List String :=
  c.fields.map FormField.key ++ [c.key, c.chain] ++ c.rules.flatMap FieldRule.strings

namespace IsPlain

variable {c : CommandItem} (h : c.IsPlain)
include h

theorem says_declaration : Says c.declaration (c.fields.map FormField.key) := by
  have hfields := Says.flatMap_single fun f hf => FormField.says_code (h.fields f hf)
  have hstruct : isCode ("pub struct " ++ c.structName) = true := isCode_start h.structName rfl
  refine .skip (.code (isCode_parts rfl)) ?_
  refine .skip (.chars rfl) ?_
  exact .item hstruct hfields

theorem says_validation : Says c.validation (c.rules.flatMap FieldRule.strings) := by
  have hrules := Says.map fun r hr => FieldRule.says_code (h.rules r hr)
  have hend : Says [.line "Ok(())"] [] := .chars rfl
  have hbody := hrules.append hend
  rwa [List.append_nil] at hbody

theorem says_implementation :
    Says [c.implementation] ([c.key, c.chain] ++ c.rules.flatMap FieldRule.strings) := by
  have hhead : isCode ("impl Command for " ++ c.structName) = true := isCode_start h.structName rfl
  have hhandlers : Says [.line "type Handlers = dyn CommandHandlers;"] [] := .chars rfl
  have hkey : Says [.item "fn key(&self) -> &'static str" [.line (literal c.key)]] [c.key] :=
    .item (isCode_chars rfl) (.line (.alone c.key))
  have hchain : Says [.item "fn middleware_chain(&self) -> &'static str" [.line (literal c.chain)]]
      [c.chain] := .item (isCode_chars rfl) (.line (.alone c.chain))
  have hvalidate : Says [.item "fn validate(&self) -> Result<(), validation::ValidationError>"
      c.validation] (c.rules.flatMap FieldRule.strings) :=
    .item (isCode_chars rfl) h.says_validation
  have hinvoke : Says [.item
      "fn invoke(&self, ctx: &mut Ctx, handlers: &Self::Handlers) -> Result<(), CommandError>"
      [.line ("handlers." ++ c.handlerMethod ++ "(self, ctx)")]] [] :=
    .item (isCode_chars rfl) (.code (isCode_around h.handlerMethod rfl))
  have hlast := hvalidate.apart hinvoke
  rw [List.append_nil] at hlast
  have hmethods := hkey.apart (hchain.apart hlast)
  exact .item hhead (hhandlers.apart_plain hmethods)

theorem says_conversion : Says [c.conversion] [] := by
  refine .item (isCode_around h.structName rfl) ?_
  refine .item (isCode_around h.structName rfl) ?_
  exact .code (isCode_around h.structName rfl)

theorem says_paragraphs : Says (Code.paragraphs c.paragraphs) c.strings := by
  have hconversion := Says.paragraphs_single h.says_conversion
  have himplementation := Says.paragraphs_cons_plain h.says_implementation hconversion
  have hitem := Says.paragraphs_cons h.says_declaration himplementation
  rwa [← List.append_assoc] at hitem

theorem says_handler : Says c.handler [] := by
  have htitle : isRemark ("/// " ++ c.title) = true := isRemark_append (isRemark_chars rfl) h.title
  have hmethod : isCode ("fn " ++ c.handlerMethod ++ "(&self, command: &" ++ c.structName ++
      ", ctx: &mut Ctx) -> Result<(), CommandError>;") = true :=
    isCode_next (isCode_around h.handlerMethod rfl) h.structName rfl
  exact .skip (.remark htitle) (.code hmethod)

theorem says_allocator : Says c.allocator [] := by
  have hcall : isCode ("serde_json::from_value::<" ++ c.structName ++
      ">(body).map(AnyCommand::" ++ c.structName ++ ")") = true :=
    isCode_next (isCode_around h.structName rfl) h.structName rfl
  exact .item (isCode_around h.allocatorFn rfl) (.code hcall)

end IsPlain

end CommandItem

theorem says_registryCode {α : Type} {title : String} (ht : isRemark title = true) {xs : List α}
    {key decoder : α → String} (h : ∀ x ∈ xs, isCode (decoder x) = true) :
    Says (registryCode title (xs.map fun x => (key x, decoder x))) (xs.map key) := by
  have hentries : Says (xs.map fun x => .line ("(" ++ literal (key x) ++ ", " ++ decoder x ++
      " as Allocator),")) (xs.map key) := by
    refine .map_single fun x hx => .line ?_
    have hend : isCode (", " ++ decoder x ++ " as Allocator),") = true := isCode_around (h x hx) rfl
    have hline := LineSays.literal "(" (isOpening_chars rfl) (key x) (.code hend)
    simpa only [String.append_assoc] using hline
  rw [registryCode, List.map_map]
  refine .skip (.remark ht) ?_
  refine .hanging (.code (isCode_parts rfl)) ?_
  refine .nested (.code (isCode_chars rfl)) ?_ (.code (isCode_chars rfl))
  exact .nested (.code (isCode_chars rfl)) hentries (.code (isCode_chars rfl))

namespace CommandsFile

variable {f : CommandsFile} (h : ∀ c ∈ f.commands, c.IsPlain)
include h

theorem says_delegate {head call : List Char} (hh : head.all isCodeChar = true)
    (hc : call.all isCodeChar = true) :
    Says [f.delegate (String.ofList head) (String.ofList call)] [] := by
  have harms : Says (f.commands.map fun c => .line ("Self::" ++ c.structName ++
      "(inner) => inner." ++ String.ofList call ++ ",")) [] := by
    refine .map_plain fun c hm => .code ?_
    exact isCode_next (isCode_around (h c hm).structName rfl) (isCode_chars hc) rfl
  exact .item (isCode_chars hh) (.item (isCode_chars rfl) harms)

theorem says_anyCommand : Says (Code.paragraphs f.anyCommand) [] := by
  have hvariants : Says (f.commands.map fun c =>
      .line (c.structName ++ "(" ++ c.structName ++ "),")) [] := by
    refine .map_plain fun c hm => .code ?_
    have hname := (h c hm).structName
    exact isCode_next (isCode_finish hname rfl) hname rfl
  refine .paragraphs_skip ?_ (.paragraphs_single ?_)
  · refine .skip (.remark (isRemark_chars rfl)) ?_
    refine .skip (.chars rfl) ?_
    exact .item (isCode_chars rfl) hvariants
  · refine .item (isCode_chars rfl) ?_
    refine .apart_plain (.chars rfl) ?_
    refine .apart_plain (says_delegate h rfl rfl) ?_
    refine .apart_plain (says_delegate h rfl rfl) ?_
    refine .apart_plain (says_delegate h rfl rfl) ?_
    exact says_delegate h rfl rfl

omit h in
theorem says_entryPoints : Says (Code.paragraphs entryPoints) [] := by
  refine .paragraphs_skip ?_ (.paragraphs_single ?_)
  · exact .item (isCode_chars rfl) (.chars rfl)
  · have hparameters : Says [.line "key: &str,", .line "body: serde_json::Value,",
        .line "ctx: &mut Ctx,", .line "handlers: &(dyn CommandHandlers + 'static),"] [] := by
      refine .skip (.chars rfl) ?_
      refine .skip (.chars rfl) ?_
      exact .skip (.chars rfl) (.chars rfl)
    refine .skip (.remark (isRemark_chars rfl)) ?_
    refine .skip (.hanging (.code (isCode_chars rfl)) hparameters) ?_
    exact .item (isCode_chars rfl) (.chars rfl)

theorem strings?_render : strings? f.render.toList =
    some (f.commands.flatMap CommandItem.strings ++ f.commands.map CommandItem.key) := by
  have hhandlers := Says.flatMap_plain fun c hm => (h c hm).says_handler
  have hitems := Says.paragraphs_flatMap fun c hm => (h c hm).says_paragraphs
  have hallocators := Says.paragraphs_map_plain fun c hm => (h c hm).says_allocator
  have htable : Says (registryCode "/// Discriminator to decoder, one entry per command."
      (f.commands.map fun c => (c.key, c.allocatorFn))) (f.commands.map CommandItem.key) :=
    says_registryCode (isRemark_chars rfl) fun c hm => (h c hm).allocatorFn
  -- from the last paragraphs to the first
  refine strings?_file (isRemark_chars rfl) ?_
  refine .paragraphs_append_plain ?_ says_entryPoints
  refine .paragraphs_append ?_ (.paragraphs_single htable)
  refine .paragraphs_append_plain ?_ hallocators
  refine .paragraphs_append_plain ?_ (.paragraphs_single (.chars rfl))
  refine .paragraphs_append_plain ?_ (says_anyCommand h)
  refine .paragraphs_plain_append ?_ hitems
  refine .paragraphs_skip (.skip (.chars rfl) (.chars rfl)) (.paragraphs_single ?_)
  exact .skip (.remark (isRemark_chars rfl)) (.item (isCode_chars rfl) hhandlers)

end CommandsFile

end Commands

section Records

variable {config : Config}

structure RecordField.IsPlain (config : Config) (f : RecordField) : Prop where
  ident : isCode f.ident = true
  type : isCode (f.type.render config) = true

structure Record.IsPlain (config : Config) (r : Record) : Prop where
  name : isCode r.name = true
  fields : ∀ f ∈ r.fields, f.IsPlain config

theorem RecordField.IsPlain.says_code {f : RecordField} (h : f.IsPlain config) :
    Says (fieldCode config f) [f.key] :=
  .cons_single (.line (says_rename f.key))
    (.code (isCode_next (isCode_around h.ident rfl) h.type rfl))

theorem Record.IsPlain.says_code {r : Record} (h : r.IsPlain config) (strict : Bool) :
    Says (r.code config strict) (r.fields.map RecordField.key) := by
  have hfields := Says.flatMap_single fun f hf => (h.fields f hf).says_code
  have hstruct : isCode ("pub struct " ++ r.name) = true := isCode_start h.name rfl
  have hitem := Says.item hstruct hfields
  cases strict with
  | true => exact .skip (.chars rfl) (.skip (.chars rfl) hitem)
  | false => exact .skip (.chars rfl) hitem

end Records

section Events

variable {config : Config}

structure EventItem.IsPlain (config : Config) (e : EventItem) : Prop where
  structName : isCode e.structName = true
  applyMethod : isCode e.applyMethod = true
  allocatorFn : isCode e.allocatorFn = true
  fields : ∀ f ∈ e.fields, f.IsPlain config

namespace EventItem

def strings (e : EventItem) : List String :=
  e.fields.map RecordField.key ++ [e.kind]

namespace IsPlain

variable {e : EventItem} (h : e.IsPlain config)
include h

theorem says_declaration : Says (e.declaration config) (e.fields.map RecordField.key) := by
  have hfields := Says.flatMap_single fun f hf => (h.fields f hf).says_code
  refine .skip (.chars rfl) ?_
  refine .item (isCode_start h.structName rfl) ?_
  refine .skip (.chars rfl) ?_
  exact .skip (.chars rfl) hfields

theorem says_constructor : Says [e.constructor config] [e.kind] := by
  have hkind : LineSays ("pub const META_TYPE: &'static str = " ++ literal e.kind ++ ";")
      [e.kind] := by
    have hend : isCode ";" = true := isCode_chars rfl
    simpa only [String.append_assoc] using LineSays.literal
      "pub const META_TYPE: &'static str = " (isOpening_chars rfl) e.kind (.code hend)
  have hparameters : isCode (String.join (e.fields.map fun f =>
      f.ident ++ ": " ++ f.type.render config ++ ", ")) = true := by
    refine isCode_join (List.forall_mem_map.2 fun f hf => ?_)
    have hfield := h.fields f hf
    exact isCode_next (isCode_finish hfield.ident rfl) hfield.type rfl
  have hidents : isCode (String.join (e.fields.map fun f => ", " ++ f.ident)) = true :=
    isCode_join (List.forall_mem_map.2 fun f hf => isCode_start (h.fields f hf).ident rfl)
  refine .item (isCode_start h.structName rfl) ?_
  refine .cons_single (.line hkind) (.skip .empty ?_)
  refine .item (isCode_around hparameters rfl) ?_
  exact .code (isCode_around hidents rfl)

theorem says_implementation : Says [e.implementation] [] := by
  refine .item (isCode_start h.structName rfl) ?_
  refine .apart_plain (.item (isCode_chars rfl) (.chars rfl)) ?_
  refine .apart_plain (.item (isCode_chars rfl) (.chars rfl)) ?_
  exact .item (isCode_chars rfl) (.chars rfl)

theorem says_conversion : Says [e.conversion] [] := by
  refine .item (isCode_around h.structName rfl) ?_
  refine .item (isCode_around h.structName rfl) ?_
  exact .code (isCode_around h.structName rfl)

theorem says_paragraphs : Says (Code.paragraphs (e.paragraphs config)) e.strings := by
  have hconversion := Says.paragraphs_single h.says_conversion
  have himplementation := Says.paragraphs_skip h.says_implementation hconversion
  have hconstructor := Says.paragraphs_cons_plain h.says_constructor himplementation
  exact .paragraphs_cons h.says_declaration hconstructor

theorem says_allocator : Says e.allocator [] := by
  refine .item (isCode_finish (isCode_around h.allocatorFn rfl) rfl) ?_
  refine .skip (.code (isCode_around h.structName rfl)) ?_
  refine .skip (.chars rfl) ?_
  exact .code (isCode_around h.structName rfl)

end IsPlain

end EventItem

namespace EventsFile

variable {f : EventsFile} (h : ∀ e ∈ f.events, e.IsPlain config)
include h

theorem says_delegate {head call : List Char} (hh : head.all isCodeChar = true)
    (hc : call.all isCodeChar = true) :
    Says [f.delegate (String.ofList head) (String.ofList call)] [] := by
  have hcall : isCode (String.ofList call) = true := isCode_chars hc
  have hknown : Says (f.events.map fun e => .line ("Self::" ++ e.structName ++
      "(inner) => inner." ++ String.ofList call ++ ",")) [] := by
    refine .map_plain fun e he => .code ?_
    exact isCode_next (isCode_around (h e he).structName rfl) hcall rfl
  have hunknown : Says [.line ("Self::Unknown(inner) => inner." ++ String.ofList call ++ ",")] [] :=
    .code (isCode_around hcall rfl)
  exact .item (isCode_chars hh) (.item (isCode_chars rfl) (hknown.append hunknown))

theorem says_anyEvent : Says (Code.paragraphs f.anyEvent) [] := by
  have hvariants : Says (f.events.map fun e =>
      .line (e.structName ++ "(" ++ e.structName ++ "),")) [] := by
    refine .map_plain fun e he => .code ?_
    have hname := (h e he).structName
    exact isCode_next (isCode_finish hname rfl) hname rfl
  have hunknown : Says [.line "Unknown(UnknownEvent),"] [] := .chars rfl
  refine .paragraphs_skip ?_ (.paragraphs_single ?_)
  · refine .skip (.remark (isRemark_chars rfl)) ?_
    refine .skip (.chars rfl) ?_
    exact .item (isCode_chars rfl) (hvariants.append hunknown)
  · refine .item (isCode_chars rfl) ?_
    refine .apart_plain (says_delegate h rfl rfl) ?_
    refine .apart_plain (says_delegate h rfl rfl) ?_
    exact says_delegate h rfl rfl

theorem says_listener : Says f.listener [] := by
  have hstart : Says [.line "type Error;", .empty] [] := .skip (.chars rfl) .empty
  have hmethods : Says (f.events.map fun e => .line ("fn " ++ e.applyMethod ++
      "(&mut self, event: &" ++ e.structName ++ ") -> Result<(), Self::Error>;")) [] := by
    refine .map_plain fun e he => .code ?_
    exact isCode_next (isCode_around (h e he).applyMethod rfl) (h e he).structName rfl
  refine .skip (.remark (isRemark_chars rfl)) ?_
  refine .item (isCode_chars rfl) ((hstart.append hmethods).append ?_)
  refine .skip .empty ?_
  refine .skip (.remark (isRemark_chars rfl)) ?_
  exact .code (isCode_parts rfl)

theorem says_dispatch : Says f.dispatch [] := by
  have harms : Says (f.events.map fun e => .line ("AnyEvent::" ++ e.structName ++
      "(inner) => listener." ++ e.applyMethod ++ "(inner),")) [] := by
    refine .map_plain fun e he => .code ?_
    exact isCode_next (isCode_around (h e he).structName rfl) (h e he).applyMethod rfl
  have hunknown : Says [.line
      "AnyEvent::Unknown(inner) => listener.handle_unknown_event(inner),"] [] := .chars rfl
  exact .item (isCode_parts rfl) (.item (isCode_chars rfl) (harms.append hunknown))

omit h in
theorem says_entryPoint : Says entryPoint [] := by
  refine .skip (.remark (isRemark_chars rfl)) ?_
  exact .item (isCode_chars rfl) (.chars rfl)

/-- The literals of the items and of the records of inline objects, then the kinds in the table of
decoders. -/
theorem strings?_render (hr : ∀ r ∈ f.records, r.IsPlain config) :
    strings? (f.render config).toList = some (f.events.flatMap EventItem.strings ++
      f.records.flatMap (fun r => r.fields.map RecordField.key) ++
        f.events.map EventItem.kind) := by
  have hitems := Says.paragraphs_flatMap fun e he => (h e he).says_paragraphs
  have hrecords := Says.paragraphs_map fun r hm => (hr r hm).says_code false
  have hallocators := Says.paragraphs_map_plain fun e he => (h e he).says_allocator
  have htable : Says (registryCode "/// Discriminator to decoder, one entry per event kind."
      (f.events.map fun e => (e.kind, e.allocatorFn))) (f.events.map EventItem.kind) :=
    says_registryCode (isRemark_chars rfl) fun e he => (h e he).allocatorFn
  -- from the last paragraphs to the first
  refine strings?_file (isRemark_chars rfl) ?_
  refine .paragraphs_append ?_ (.paragraphs_cons_plain htable (.paragraphs_single says_entryPoint))
  refine .paragraphs_append_plain ?_ hallocators
  refine .paragraphs_append_plain ?_ (.paragraphs_single (.chars rfl))
  refine .paragraphs_append_plain ?_
    (.paragraphs_skip (says_listener h) (.paragraphs_single (says_dispatch h)))
  refine .paragraphs_append_plain ?_ (says_anyEvent h)
  refine .paragraphs_append ?_ hrecords
  refine .paragraphs_plain_append ?_ hitems
  exact .paragraphs_single (.code (isCode_parts rfl))

end EventsFile

end Events

section Types

structure EnumItem.IsPlain (e : EnumItem) : Prop where
  name : isCode e.name = true
  exhaustiveFn : isCode e.exhaustiveFn = true
  variants : ∀ v ∈ e.variants, isCode v.name = true

namespace EnumItem

def strings (e : EnumItem) : List String :=
  e.variants.map Variant.value ++ e.variants.map Variant.value

namespace IsPlain

variable {e : EnumItem} (h : e.IsPlain)
include h

theorem says_declaration : Says e.declaration (e.variants.map Variant.value) := by
  have hvariants : Says (e.variants.flatMap fun v =>
      [.line ("#[serde(rename = " ++ literal v.value ++ ")]"), .line (v.name ++ ",")])
      (e.variants.map Variant.value) := by
    refine .flatMap_single fun v hv => .cons_single (.line (says_rename v.value)) ?_
    exact .code (isCode_finish (h.variants v hv) rfl)
  refine .skip (.code (isCode_parts rfl)) ?_
  exact .item (isCode_start h.name rfl) hvariants

theorem says_methods : Says [e.methods] (e.variants.map Variant.value) := by
  have harms : Says (e.variants.map fun v =>
      .line ("Self::" ++ v.name ++ " => " ++ literal v.value ++ ","))
      (e.variants.map Variant.value) := by
    refine .map_single fun v hv => .line ?_
    have hend : isCode "," = true := isCode_chars rfl
    have hname : isCode ("Self::" ++ v.name) = true := isCode_start (h.variants v hv) rfl
    have hline := LineSays.literal ("Self::" ++ v.name ++ " => ") (isOpening_append hname rfl)
      v.value (.code hend)
    simpa only [String.append_assoc] using hline
  have hall : isCode (String.intercalate ", " (e.variants.map fun v => "Self::" ++ v.name)) =
      true :=
    isCode_intercalate (isCode_chars rfl) (List.forall_mem_map.2 fun v hv =>
      isCode_start (h.variants v hv) rfl)
  refine .item (isCode_start h.name rfl) ?_
  refine .apart_plain (.code (isCode_next (isCode_around (isCode_digits _) rfl) hall rfl)) ?_
  exact .item (isCode_chars rfl) (.item (isCode_chars rfl) harms)

theorem says_display : Says [e.display] [] := by
  refine .item (isCode_start h.name rfl) ?_
  exact .item (isCode_chars rfl) (.chars rfl)

theorem says_exhaustive : Says e.exhaustive [] := by
  have hstart : isRemark ("/// Identity over [\x60" ++ e.name) = true :=
    isRemark_append (isRemark_chars rfl) (isOneLine_of_isCode h.name)
  have hremark : isRemark ("/// Identity over [\x60" ++ e.name ++
      "\x60]. Its name changes whenever the members do.") = true :=
    isRemark_append hstart (isOneLine_of_isCode (isCode_chars rfl))
  have hhead : isCode ("pub const fn " ++ e.exhaustiveFn ++ "(value: " ++ e.name ++ ") -> " ++
      e.name) = true :=
    isCode_append (isCode_next (isCode_around h.exhaustiveFn rfl) h.name rfl) h.name
  exact .skip (.remark hremark) (.item hhead (.chars rfl))

theorem says_paragraphs : Says (Code.paragraphs e.paragraphs) e.strings := by
  have hexhaustive := Says.paragraphs_single h.says_exhaustive
  have hdisplay := Says.paragraphs_skip h.says_display hexhaustive
  have hmethods := Says.paragraphs_cons_plain h.says_methods hdisplay
  exact .paragraphs_cons h.says_declaration hmethods

end IsPlain

end EnumItem

namespace TypesFile

theorem strings?_render {config : Config} {f : TypesFile}
    (hc : ∀ c ∈ f.constants, isCode c.1 = true) (he : ∀ e ∈ f.enums, e.IsPlain)
    (hr : ∀ r ∈ f.records, r.IsPlain config) :
    strings? (f.render config).toList = some (f.constants.map Prod.snd ++
      f.enums.flatMap EnumItem.strings ++
        f.records.flatMap fun r => r.fields.map RecordField.key) := by
  have hconstants : Says (f.constants.map constantCode) (f.constants.map Prod.snd) := by
    refine .map_single fun c hm => .line ?_
    have hend : isCode ";" = true := isCode_chars rfl
    have hname : isCode ("pub const " ++ c.1) = true := isCode_start (hc c hm) rfl
    have hline := LineSays.literal ("pub const " ++ c.1 ++ ": &str = ") (isOpening_append hname rfl)
      c.2 (.code hend)
    simpa only [String.append_assoc] using hline
  have henums := Says.paragraphs_flatMap fun e hm => (he e hm).says_paragraphs
  have hrecords := Says.paragraphs_map fun r hm => (hr r hm).says_code true
  refine strings?_file (isRemark_chars rfl) ?_
  refine .paragraphs_append ?_ hrecords
  exact .paragraphs_append (.paragraphs_single hconstants) henums

end TypesFile

end Types

end Backend

end EventSchema
