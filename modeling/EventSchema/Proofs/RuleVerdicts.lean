import EventSchema.Proofs.FormAgreement
import EventSchema.Proofs.RuleCode

/-!
What the rules of a command say of a record. A field allows a value or refuses it with one fault;
the rules of a command let a record through if every field allows its value, and otherwise give the
fault of the first field that does not. Bodies that check a record are run as they are emitted.
-/

set_option autoImplicit false

namespace EventSchema

open Outcome

theorem Outcome.refusal_eq_error {ε : Type} {condition : Prop} [Decidable condition] {d e : ε} :
    (if condition then .error d else .ok () : Except ε Unit) = .error e ↔ condition ∧ e = d := by
  split_ifs with h <;> simp [h, eq_comm]

/-- A pattern that can be prepared has a match in the value, or it has none. -/
def Pattern.Answers (pattern value : String) (found : Bool) : Prop :=
  ∃ program, Program.ofText? pattern = some program ∧ program.finds value = found

namespace CommandField

/-- A string that a field may hold. Only an optional field may be empty, and then it needs no
match. -/
structure Allows (f : CommandField) (value : String) : Prop where
  filled : f.optional = true ∨ value ≠ ""
  short : ∀ max, f.effectiveMaxLength = some max → value.length ≤ max
  found : ∀ pattern, f.pattern = some pattern →
    f.optional = true ∧ value = "" ∨ Pattern.Answers pattern value true

/-- Why a field may not hold a string; what is told is the first reason of these. -/
inductive Refuses (f : CommandField) (value : String) : RuleFault → Prop
  | empty (required : f.optional = false) (empty : value = "") : Refuses f value (.empty f.key)
  | tooLong {max : Nat} (filled : f.optional = true ∨ value ≠ "")
      (limit : f.effectiveMaxLength = some max) (long : max < value.length) :
      Refuses f value (.tooLong f.key max)
  | mismatch {pattern : String} (filled : value ≠ "")
      (short : ∀ max, f.effectiveMaxLength = some max → value.length ≤ max)
      (wanted : f.pattern = some pattern) (missed : Pattern.Answers pattern value false) :
      Refuses f value (.patternMismatch f.key pattern)

def IsUsable (f : CommandField) : Prop :=
  ∀ pattern, f.pattern = some pattern → (Pattern.Program.ofText? pattern).isSome = true

def checkRules (f : CommandField) (value : String) : Except RuleFault Unit :=
  f.rules.forM (Rule.check f.key value)

def checkFilled (f : CommandField) (value : String) : Except RuleFault Unit :=
  if f.optional then pure () else Rule.checkNonEmpty f.key value

def checkShort (f : CommandField) (value : String) : Except RuleFault Unit :=
  match f.effectiveMaxLength with
  | none => pure ()
  | some max => Rule.checkMaxLength f.key value max

def checkFound (f : CommandField) (value : String) : Except RuleFault Unit :=
  match f.pattern with
  | none => pure ()
  | some pattern => (Rule.pattern pattern f.optional).check f.key value

section Parts

variable {f : CommandField} {value : String} {fault : RuleFault}

theorem checkRules_eq (h : f.kind.isString = true) :
    f.checkRules value =
      f.checkFilled value >>= fun _ => f.checkShort value >>= fun _ => f.checkFound value := by
  cases ho : f.optional <;> cases hm : f.effectiveMaxLength <;> cases hp : f.pattern <;>
    simp [checkRules, rules, checkFilled, checkShort, checkFound, h, ho, hm, hp, Rule.check]

theorem checkFilled_eq_ok : f.checkFilled value = .ok () ↔ f.optional = true ∨ value ≠ "" := by
  cases ho : f.optional <;> simp [checkFilled, Rule.checkNonEmpty, ho, pure, Except.pure]

theorem checkFilled_eq_error : f.checkFilled value = .error fault ↔
    f.optional = false ∧ value = "" ∧ fault = .empty f.key := by
  cases ho : f.optional with
  | true => simp [checkFilled, ho, pure, Except.pure]
  | false => simp [checkFilled, Rule.checkNonEmpty, ho, refusal_eq_error]

theorem checkShort_eq_ok : f.checkShort value = .ok () ↔
    ∀ max, f.effectiveMaxLength = some max → value.length ≤ max := by
  cases hm : f.effectiveMaxLength <;>
    simp [checkShort, Rule.checkMaxLength, hm, pure, Except.pure]

theorem checkShort_eq_error : f.checkShort value = .error fault ↔
    ∃ max, f.effectiveMaxLength = some max ∧ max < value.length ∧ fault = .tooLong f.key max := by
  cases hm : f.effectiveMaxLength with
  | none => simp [checkShort, hm, pure, Except.pure]
  | some max => simp [checkShort, Rule.checkMaxLength, hm, refusal_eq_error]

theorem checkPattern_eq {field pattern : String} {program : Pattern.Program}
    (h : Pattern.Program.ofText? pattern = some program) :
    Rule.checkPattern field value pattern =
      if program.finds value = false then .error (.patternMismatch field pattern) else .ok () := by
  rw [Rule.checkPattern, h, Rule.checkPrepared]
  cases program.finds value <;> rfl

variable (hu : f.IsUsable)
include hu

theorem checkFound_eq_ok : f.checkFound value = .ok () ↔
    ∀ pattern, f.pattern = some pattern →
      f.optional = true ∧ value = "" ∨ Pattern.Answers pattern value true := by
  cases hp : f.pattern with
  | none => simp [checkFound, hp, pure, Except.pure]
  | some pattern =>
    obtain ⟨program, hprogram⟩ := Option.isSome_iff_exists.1 (hu pattern hp)
    by_cases hopen : f.optional = true ∧ value = "" <;>
      simp [checkFound, hp, Rule.check, checkPattern_eq hprogram, Pattern.Answers, hprogram, hopen]

theorem checkFound_eq_error : f.checkFound value = .error fault ↔
    ∃ pattern, f.pattern = some pattern ∧ ¬ (f.optional = true ∧ value = "") ∧
      Pattern.Answers pattern value false ∧ fault = .patternMismatch f.key pattern := by
  cases hp : f.pattern with
  | none => simp [checkFound, hp, pure, Except.pure]
  | some pattern =>
    obtain ⟨program, hprogram⟩ := Option.isSome_iff_exists.1 (hu pattern hp)
    by_cases hopen : f.optional = true ∧ value = "" <;>
      simp [checkFound, hp, Rule.check, checkPattern_eq hprogram, Pattern.Answers, hprogram, hopen,
        refusal_eq_error]

theorem checkRules_eq_ok :
    f.checkRules value = .ok () ↔ (f.kind.isString = true → f.Allows value) := by
  cases hs : f.kind.isString with
  | false => simp [checkRules, rules, hs, pure, Except.pure]
  | true =>
    rw [checkRules_eq hs, andThen_eq_ok, andThen_eq_ok, checkFilled_eq_ok, checkShort_eq_ok,
      checkFound_eq_ok hu]
    constructor
    · rintro ⟨hfilled, hshort, hfound⟩ -
      exact ⟨hfilled, hshort, hfound⟩
    · intro h
      exact ⟨(h rfl).filled, (h rfl).short, (h rfl).found⟩

theorem checkRules_eq_error :
    f.checkRules value = .error fault ↔ f.kind.isString = true ∧ f.Refuses value fault := by
  cases hs : f.kind.isString with
  | false => simp [checkRules, rules, hs, pure, Except.pure]
  | true =>
    rw [checkRules_eq hs, bind_eq_error, checkFilled_eq_error]
    constructor
    · rintro (⟨hrequired, hempty, rfl⟩ | ⟨u, hfilled, h⟩)
      · exact ⟨rfl, .empty hrequired hempty⟩
      have hfilled := checkFilled_eq_ok.1 hfilled
      rcases bind_eq_error.1 h with h | ⟨u, hshort, h⟩
      · obtain ⟨max, hlimit, hlong, rfl⟩ := checkShort_eq_error.1 h
        exact ⟨rfl, .tooLong hfilled hlimit hlong⟩
      · obtain ⟨pattern, hwanted, hopen, hmissed, rfl⟩ := (checkFound_eq_error hu).1 h
        have hvalue : value ≠ "" := hfilled.elim (fun ho he => hopen ⟨ho, he⟩) id
        exact ⟨rfl, .mismatch hvalue (checkShort_eq_ok.1 hshort) hwanted hmissed⟩
    · rintro ⟨-, h⟩
      cases h with
      | empty hrequired hempty => exact .inl ⟨hrequired, hempty, rfl⟩
      | tooLong hfilled hlimit hlong =>
        refine .inr ⟨(), checkFilled_eq_ok.2 hfilled, bind_eq_error.2 (.inl ?_)⟩
        exact checkShort_eq_error.2 ⟨_, hlimit, hlong, rfl⟩
      | mismatch hvalue hshort hwanted hmissed =>
        refine .inr ⟨(), checkFilled_eq_ok.2 (.inr hvalue), bind_eq_error.2 (.inr ?_)⟩
        refine ⟨(), checkShort_eq_ok.2 hshort, (checkFound_eq_error hu).2 ?_⟩
        exact ⟨_, hwanted, fun ho => hvalue ho.2, hmissed, rfl⟩

end Parts

end CommandField

namespace Command

/-- What checking the texts of a command's fields comes to: it passes if every string field allows
its text, and otherwise it has the fault of the first field that does not. -/
structure HasVerdict (c : Command) (text : String → String) (verdict : Except RuleFault Unit) :
    Prop where
  passes : verdict = .ok () ↔ ∀ f ∈ c.fields, f.kind.isString = true → f.Allows (text f.key)
  fails : ∀ fault, verdict = .error fault ↔
    ∃ before f after, c.fields = before ++ f :: after ∧
      (∀ g ∈ before, g.kind.isString = true → g.Allows (text g.key)) ∧
      f.kind.isString = true ∧ f.Refuses (text f.key) fault
  prepared : ∀ key pattern, verdict ≠ .error (.invalidPattern key pattern)

theorem hasVerdict_of_usable {c : Command} (hu : ∀ f ∈ c.fields, f.IsUsable)
    (text : String → String) :
    c.HasVerdict text (c.fields.forM fun f => f.checkRules (text f.key)) := by
  have hfails : ∀ fault, c.fields.forM (fun f => f.checkRules (text f.key)) = .error fault ↔
      ∃ before f after, c.fields = before ++ f :: after ∧
        (∀ g ∈ before, g.kind.isString = true → g.Allows (text g.key)) ∧
        f.kind.isString = true ∧ f.Refuses (text f.key) fault := by
    intro fault
    rw [forM_eq_error]
    refine exists_congr fun before => exists_congr fun f => exists_congr fun after =>
      and_congr_right fun he => ?_
    have hmem : ∀ g ∈ before ++ f :: after, g.IsUsable := he ▸ hu
    rw [CommandField.checkRules_eq_error (hmem f (by simp))]
    refine and_congr_left fun _ => forall₂_congr fun g hg => ?_
    exact CommandField.checkRules_eq_ok (hmem g (List.mem_append_left _ hg))
  refine ⟨?_, hfails, fun key pattern h => ?_⟩
  · rw [forM_eq_ok]
    exact forall₂_congr fun f hf => CommandField.checkRules_eq_ok (hu f hf)
  · obtain ⟨_, _, _, _, _, _, hrefuses⟩ := (hfails _).1 h
    cases hrefuses

end Command

namespace Check

variable {c : Command} (h : command c = .ok ())
include h

theorem fieldIdents_nodup_of_command :
    (c.fields.map fun f => Backend.fieldIdent? f.key).Nodup := by
  simp only [command, andThen_eq_ok] at h
  obtain ⟨-, -, -, -, hi, -⟩ := h
  have hn := (uniqueIdents_eq_ok.1 (Place.locate_eq_ok.1 hi)).2
  simpa [Function.comp_def] using hn

theorem isUsable_of_command : ∀ f ∈ c.fields, f.IsUsable := by
  simp only [command, andThen_eq_ok, forM_eq_ok, Place.locate_eq_ok] at h
  intro f hf pattern hp
  have hpattern := (andThen_eq_ok.1 (h.2.2.2.2.2 f hf)).2
  rw [hp] at hpattern
  exact ensure_eq_ok.1 hpattern

end Check

theorem SchemaModule.command_of_check {s : SchemaSet} {m : SchemaModule} (h : m.check s = .ok ()) :
    ∀ c ∈ m.commands, Check.command c = .ok () := by
  simp only [check, andThen_eq_ok] at h
  obtain ⟨-, -, -, -, -, -, hc, -, -⟩ := h
  simp only [Check.commands, andThen_eq_ok, forM_eq_ok] at hc
  exact hc.2.2

theorem Json.length_of_record? {strict : Bool} {names : List String} {value : Json}
    {parts : List (Option Json)} (h : record? strict names value = some parts) :
    parts.length = names.length := by
  cases value with
  | arr items =>
    obtain ⟨hl, h⟩ := Option.ite_none_right_eq_some.1 h
    rw [← Option.some.inj h]
    simpa using Nat.add_sub_of_le hl
  | obj members =>
    simp only [record?, Option.ite_none_left_eq_some, Option.some.injEq] at h
    rw [← h.2.2, List.length_map]
  | null | bool | num | str => cases h

namespace FieldValue

def fits : FieldKind → FieldValue → Bool
  | .text, .text _ | .multiline, .text _ | .password, .text _ => true
  | .checkbox, .flag _ => true
  | .integer, .integer _ => true
  | _, _ => false

theorem exists_text_of_fits {kind : FieldKind} {value : FieldValue} (hs : kind.isString = true)
    (hf : fits kind value = true) : ∃ s, value = .text s := by
  cases value with
  | text s => exact ⟨s, rfl⟩
  | flag b => cases kind <;> simp [fits, FieldKind.isString] at hs hf
  | integer n => cases kind <;> simp [fits, FieldKind.isString] at hs hf

theorem fits_empty (kind : FieldKind) : fits kind (empty kind) = true := by
  cases kind <;> rfl

theorem fits_of_ofJson? {kind : FieldKind} {given : Json} {value : FieldValue}
    (h : ofJson? kind given = some value) : fits kind value = true := by
  cases kind <;>
    · obtain ⟨_, -, rfl⟩ := Option.map_eq_some_iff.1 h
      rfl

end FieldValue

namespace CommandRecord

open Backend

def IsFilled (r : CommandRecord) : Prop :=
  ∀ g ∈ r.command.fields, (r.values.lookup g.key).any (FieldValue.fits g.kind) = true

instance (r : CommandRecord) : Decidable r.IsFilled :=
  inferInstanceAs (Decidable (∀ g ∈ r.command.fields, _))

section Decoded

theorem fits_of_fieldValue? {g : FormField} {part : Option Json} {entry : String × FieldValue}
    (h : fieldValue? g part = some entry) :
    entry.1 = g.key ∧ FieldValue.fits g.kind entry.2 = true := by
  obtain ⟨value, hvalue, rfl⟩ := Option.map_eq_some_iff.1 h
  refine ⟨rfl, ?_⟩
  cases part with
  | none =>
    cases hd : g.hasDefault with
    | false => simp [hd, Json.required?] at hvalue
    | true =>
      simp only [hd, if_true, Json.defaulted?, Option.some.injEq] at hvalue
      exact hvalue ▸ FieldValue.fits_empty g.kind
  | some given =>
    have hgiven : FieldValue.ofJson? g.kind given = some value := by
      cases hd : g.hasDefault <;> simpa [hd, Json.required?, Json.defaulted?] using hvalue
    exact FieldValue.fits_of_ofJson? hgiven

theorem forall₂_of_mapM_fieldValue? {fields : List FormField} {parts : List (Option Json)}
    {values : List (String × FieldValue)} (hl : parts.length = fields.length)
    (h : (fields.zip parts).mapM (fun (f, part) => fieldValue? f part) = some values) :
    List.Forall₂ (fun g v => v.1 = g.key ∧ FieldValue.fits g.kind v.2 = true) fields values := by
  induction fields generalizing parts values with
  | nil =>
    cases h
    exact .nil
  | cons g fields ih =>
    cases parts with
    | nil => simp at hl
    | cons part parts =>
      rw [List.zip_cons_cons, List.mapM_cons] at h
      simp only [Option.bind_eq_bind, Option.bind_eq_some_iff] at h
      obtain ⟨v, hv, rest, hrest, h⟩ := h
      cases h
      exact .cons (fits_of_fieldValue? hv) (ih (by simpa using hl) hrest)

theorem isFilled_of_ofJson? {item : CommandItem} (hk : (item.fields.map FormField.key).Nodup)
    {body : Json} {r : CommandRecord} (h : ofJson? item body = some r) : r.IsFilled := by
  simp only [ofJson?, Option.bind_eq_bind, Option.bind_eq_some_iff] at h
  obtain ⟨parts, hparts, values, hvalues, h⟩ := h
  cases h
  have hl : parts.length = item.fields.length := by
    rw [Json.length_of_record? hparts, List.length_map]
  have hfits := forall₂_of_mapM_fieldValue? hl hvalues
  intro g hg
  obtain ⟨v, hv, hkey, hfit⟩ := mem_of_forall₂ hfits hg
  have hkeys : (values.map Prod.fst).Nodup := by
    rwa [map_eq_of_forall₂ (fun _ _ hv => hv.1) hfits]
  have hlookup : values.lookup g.key = some v.2 := hkey ▸ Text.lookup_of_mem hkeys hv
  simp [hlookup, hfit]

end Decoded

theorem memberText?_of_mem {r : CommandRecord} (h : r.IsFilled)
    (hi : (r.command.fields.map FormField.ident).Nodup) {g : FormField}
    (hg : g ∈ r.command.fields) (hs : g.kind.isString = true) :
    memberText? r g.ident = some (r.textOf g.key) := by
  have hfilled := h g hg
  rw [memberText?, Outcome.find?_of_mem hi hg, Option.bind_eq_bind, Option.bind_some, textOf]
  cases hl : r.values.lookup g.key with
  | none => simp [hl] at hfilled
  | some value =>
    rw [hl, Option.any_some] at hfilled
    obtain ⟨text, rfl⟩ := FieldValue.exists_text_of_fits hs hfilled
    rfl

section Rules

variable {c : Command} {r : CommandRecord} (h : r.command.Keeps c)
include h

theorem memberText?_of_rule (hi : (c.fields.map fun f => fieldIdent? f.key).Nodup)
    (hr : r.IsFilled) : ∀ rule ∈ r.command.rules,
      memberText? r rule.ident = some (r.textOf rule.key) := by
  have hidents : (r.command.fields.map FormField.ident).Nodup := by
    rw [← map_eq_of_forall₂ (f := fun f : CommandField => fieldIdent? f.key)
      (g := fun g : FormField => some g.ident) (fun _ _ hg => hg.ident.symm) h.fields] at hi
    exact List.Nodup.of_map some (by rwa [List.map_map])
  intro rule hrule
  obtain ⟨f, hf, hident, hkey, hmem⟩ := h.mem_rules_iff.1 hrule
  obtain ⟨g, hg, hfor⟩ := mem_of_forall₂ h.fields hf
  have hown : rule.ident = g.ident := Option.some.inj (hident.symm.trans hfor.ident)
  have hstring : g.kind.isString = true := by
    rw [hfor.kind]
    by_contra hs
    simp [CommandField.rules, hs] at hmem
  rw [hown, ← hkey, ← hfor.key]
  exact memberText?_of_mem hr hidents hg hstring

theorem validate_eq : r.validate = c.fields.forM fun f => f.checkRules (r.textOf f.key) := by
  rw [validate, h.rules]
  refine forM_flatMap fun f hf => ?_
  obtain ⟨g, -, hfor⟩ := mem_of_forall₂ h.fields hf
  rw [FieldRule.ofField, hfor.ident]
  exact List.forM_map

end Rules

end CommandRecord

namespace SchemaSet

open Backend

/-- The body that checks the record of a command runs on every record that has a value for each
field, such as all that are decoded. It lets the record through just if every string field allows
its text, and otherwise gives the fault of the first field that does not, where emptiness is told
before length and length before the pattern. No pattern turns out to be unusable. -/
theorem rules_give_verdicts {s : SchemaSet} (h : s.check = .ok ()) {m : SchemaModule}
    (hm : m ∈ s.modules) :
    ∃ file, CommandsFile.ofCommands m.commands = .ok file ∧
      ∀ c ∈ m.commands, ∃ item, file.item? c.key = some item ∧
        (∀ body r, CommandRecord.ofJson? item body = some r → r.IsFilled) ∧
        ∀ r : CommandRecord, r.command = item → r.IsFilled →
          runBody? r item.validation = some r.validate ∧ c.HasVerdict r.textOf r.validate := by
  obtain ⟨file, hf⟩ := exists_commandsFile h hm
  refine ⟨file, hf, fun c hc => ?_⟩
  obtain ⟨item, hi, hkeeps⟩ := item_of_command h hm hf hc
  have hcheck := SchemaModule.command_of_check (check_of_mem h hm) c hc
  have hkeys := (SchemaModule.commandRules_of_check (check_of_mem h hm)).fieldKeys c hc
  refine ⟨item, hi, fun body r => CommandRecord.isFilled_of_ofJson? (hkeeps.keys_eq ▸ hkeys), ?_⟩
  rintro r rfl hr
  have hlegal : ∀ rule ∈ r.command.rules, isLegalIdent rule.ident = true := by
    intro rule hrule
    obtain ⟨f, -, hident, -⟩ := hkeeps.mem_rules_iff.1 hrule
    exact (isLegalIdent_of_fieldIdent? hident).1
  have htexts := CommandRecord.memberText?_of_rule hkeeps
    (Check.fieldIdents_nodup_of_command hcheck) hr
  refine ⟨runBody?_validation hlegal htexts, ?_⟩
  rw [CommandRecord.validate_eq hkeeps]
  exact Command.hasVerdict_of_usable (Check.isUsable_of_command hcheck) r.textOf

/-- Of two fields that refuse their texts, the one declared first decides. -/
theorem rules_give_verdicts_accounts :
    let c := Sample.AccountCommands.create
    let m : SchemaModule := { id := "secrets", commands := [c, Sample.AccountCommands.delete] }
    let s : SchemaSet := ⟨[m]⟩
    let values : List (String × FieldValue) :=
      [("Title", .text "Gmail"), ("Pin", .text "12"), ("Note", .text "a note that goes on"),
       ("Starred", .flag true), ("Retries", .integer 3)]
    let fault : RuleFault := .patternMismatch "Pin" "^[0-9]\x7b4\x7d$"
    ∃ file item, s.check = .ok () ∧ m ∈ s.modules ∧ c ∈ m.commands ∧
      CommandsFile.ofCommands m.commands = .ok file ∧ file.item? c.key = some item ∧
      CommandRecord.IsFilled ⟨item, values⟩ ∧
      runBody? ⟨item, values⟩ item.validation = some (.error fault) ∧
      c.HasVerdict (CommandRecord.textOf ⟨item, values⟩) (.error fault) := by
  intro c m s values fault
  have hmodules : ∀ m ∈ s.modules, (m.check s).isOk = true := by decide +kernel
  have hcheck : s.check = .ok () := check_of_modules hmodules (by cbv)
  have hm : m ∈ s.modules := List.mem_singleton_self m
  have hc : c ∈ m.commands := List.mem_cons_self
  have hrecord : ((CommandsFile.ofCommands m.commands).toOption.bind (·.item? c.key)).map
      (fun item => (decide (CommandRecord.IsFilled ⟨item, values⟩),
        CommandRecord.validate ⟨item, values⟩)) = some (true, .error fault) := by
    decide +kernel
  obtain ⟨file, hf, hall⟩ := rules_give_verdicts hcheck hm
  obtain ⟨item, hitem, -, hruns⟩ := hall c hc
  rw [hf, Except.toOption, Option.bind_some, hitem, Option.map_some, Option.some.injEq,
    Prod.mk.injEq, decide_eq_true_eq] at hrecord
  obtain ⟨hfilled, hfault⟩ := hrecord
  obtain ⟨hrun, hverdict⟩ := hruns ⟨item, values⟩ rfl hfilled
  rw [hfault] at hrun hverdict
  exact ⟨file, item, hcheck, hm, hc, hf, hitem, hfilled, hrun, hverdict⟩

end SchemaSet

end EventSchema
