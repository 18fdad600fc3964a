import EventSchema.Proofs.Identifiers
import EventSchema.Proofs.Items

set_option autoImplicit false

namespace EventSchema

open Outcome

theorem nodup_map_congr {α β γ : Type} {f : α → β} {g : α → γ} {xs : List α}
    (h : ∀ a ∈ xs, ∀ b ∈ xs, f a = f b ↔ g a = g b) : (xs.map f).Nodup ↔ (xs.map g).Nodup := by
  simp only [List.Nodup, List.pairwise_map]
  exact List.Pairwise.iff_of_mem fun {a b} ha hb => not_congr (h a ha b hb)

namespace Naming

def WordsApart (names : List String) : Prop :=
  (names.map foldedWords).Nodup

theorem nodup_snake_iff {names : List String} : (names.map snake).Nodup ↔ WordsApart names :=
  nodup_map_congr fun _ _ _ _ => snake_eq_iff

theorem nodup_prefixed_iff (start : String) {names : List String} :
    (names.map fun name => start ++ snake name).Nodup ↔ WordsApart names :=
  nodup_map_congr fun _ _ _ _ => (String.append_right_inj start).trans snake_eq_iff

theorem wordsApart_of_isPlain {names : List String} (h : (names.map pascal).Nodup)
    (hp : ∀ name ∈ names, IsPlain name) : WordsApart names := by
  rw [← nodup_snake_iff]
  refine List.Nodup.map_on (fun a ha b hb hab => ?_) (h.of_map _)
  exact List.inj_on_of_nodup_map h ha hb (pascal_eq_of_snake_eq (hp a ha) (hp b hb) hab)

end Naming

theorem Digest.length_absorb {hash words : List UInt32} (h : hash.length = 8) :
    (absorb hash words).length = 8 := by
  fun_induction absorb hash words with
  | case1 hash words _ => exact h
  | case2 hash words _ ih =>
    apply ih
    simp [compress, State.toList, h]

theorem Digest.length_sha256 (message : List UInt8) : (sha256 message).toList.length = 64 := by
  have hword : ∀ w, (hexOfWord w).length = 8 := fun w => by simp [hexOfWord]
  rw [sha256, String.toList_ofList, List.length_flatMap]
  simp only [hword, List.map_const', List.sum_replicate_nat]
  rw [length_absorb rfl]

theorem Enumeration.length_digest (e : Enumeration) : e.digest.toList.length = 8 := by
  rw [digest, String.toList_ofList, List.length_take, Digest.length_sha256]
  rfl

namespace Backend

theorem EnumItem.exhaustiveFn_eq_iff {a b : Enumeration} :
    (ofEnumeration a).exhaustiveFn = (ofEnumeration b).exhaustiveFn ↔
      (Naming.foldedWords a.name, a.digest) = (Naming.foldedWords b.name, b.digest) := by
  rw [Prod.mk.injEq, ← Naming.snake_eq_iff]
  refine ⟨fun h => ?_, fun ⟨hn, hd⟩ => by simp [ofEnumeration, hn, hd]⟩
  have hl := congrArg String.toList h
  simp only [ofEnumeration, String.toList_append] at hl
  -- both digests have eight digits, so the names end at the same distance from the end
  obtain ⟨hfront, hd⟩ := List.append_inj' hl (by rw [a.length_digest, b.length_digest])
  exact ⟨String.toList_inj.1 (List.append_cancel_right hfront), String.toList_inj.1 hd⟩

section Files

open Naming

theorem RestFile.handlers_nodup_iff {moduleId : String} {es : List Endpoint} {f : RestFile}
    (h : ofEndpoints moduleId es = .ok f) :
    (f.endpoints.map EndpointItem.handler).Nodup ↔ (es.map fun e => snake e.name).Nodup := by
  rw [handlers_of_endpoints h]
  exact nodup_map_congr fun _ _ _ _ => ⟨escapeKeyword_snake_inj, congrArg escapeKeyword⟩

theorem CommandsFile.handlers_nodup_iff {cs : List Command} {f : CommandsFile}
    (h : ofCommands cs = .ok f) :
    (f.commands.map CommandItem.handlerMethod).Nodup ↔ WordsApart (cs.map Command.key) := by
  rw [map_eq_of_forall₂ (fun _ _ hi => hi.handlerMethod) (items_of_commands h),
    ← nodup_snake_iff, List.map_map]
  rfl

theorem CommandsFile.allocators_nodup_iff {cs : List Command} {f : CommandsFile}
    (h : ofCommands cs = .ok f) :
    (f.commands.map CommandItem.allocatorFn).Nodup ↔ WordsApart (cs.map Command.key) := by
  rw [map_eq_of_forall₂ (fun _ _ hi => hi.allocatorFn) (items_of_commands h),
    ← nodup_prefixed_iff "allocate_", List.map_map]
  rfl

theorem EventsFile.applyMethods_nodup_iff {moduleId : String} {es : List Event} {f : EventsFile}
    (h : ofEvents moduleId es = .ok f) :
    (f.events.map EventItem.applyMethod).Nodup ↔ WordsApart (es.map Event.kind) := by
  rw [map_eq_of_forall₂ (fun _ _ hi => hi.applyMethod) (items_of_events h),
    ← nodup_prefixed_iff "apply_", List.map_map]
  rfl

theorem EventsFile.allocators_nodup_iff {moduleId : String} {es : List Event} {f : EventsFile}
    (h : ofEvents moduleId es = .ok f) :
    (f.events.map EventItem.allocatorFn).Nodup ↔ WordsApart (es.map Event.kind) := by
  rw [map_eq_of_forall₂ (fun _ _ hi => hi.allocatorFn) (items_of_events h),
    ← nodup_prefixed_iff "allocate_", List.map_map]
  rfl

theorem TypesFile.exhaustiveFns_nodup_iff {m : SchemaModule} {f : TypesFile}
    (h : ofModule m = .ok f) :
    (f.enums.map EnumItem.exhaustiveFn).Nodup ↔
      (m.types.enums.map fun e => (foldedWords e.name, e.digest)).Nodup := by
  obtain ⟨drafts, -, h⟩ := bind_eq_ok.1 h
  cases h
  rw [List.map_map]
  exact nodup_map_congr fun _ _ _ _ => EnumItem.exhaustiveFn_eq_iff

end Files

end Backend

theorem Check.pascal_of_isTypeName {name : String} (h : isTypeName name = true)
    (hu : '_' ∉ name.toList) : Naming.pascal name = name := by
  obtain ⟨hi, hhead⟩ := Bool.and_eq_true_iff.1 h
  have hlower : name.toList.head?.any Char.isLower = false := by
    cases hc : name.toList.head? with
    | none => rfl
    | some c =>
      rw [hc, Option.any_some] at hhead
      simpa using Char.not_isLower_of_isUpper hhead
  refine Naming.pascal_eq_self (fun c hc => ?_) hlower
  have hne : c ≠ '_' := fun he => hu (he ▸ hc)
  cases hl : name.toList with
  | nil => simp [hl] at hc
  | cons first rest =>
    simp only [Naming.isIdentifier, hl, Naming.isIdentifierText, Naming.isIdentifierStart,
      Bool.and_eq_true, List.all_eq_true] at hi
    rw [hl] at hc
    rcases List.mem_cons.1 hc with rfl | hc
    · simpa [hne, Char.isAlphanum] using Or.inl hi.1
    · simpa [Naming.isIdentifierPart, hne] using hi.2 c hc

namespace SchemaModule.NamesApart

variable {m : SchemaModule} (h : m.NamesApart)
include h

theorem wordsApart_commands (hp : ∀ c ∈ m.commands, Naming.IsPlain c.key) :
    Naming.WordsApart (m.commands.map Command.key) := by
  refine Naming.wordsApart_of_isPlain ?_ (List.forall_mem_map.2 hp)
  rw [List.map_map]
  exact h.commandStructs

theorem wordsApart_events (hp : ∀ e ∈ m.events, Naming.IsPlain e.kind) :
    Naming.WordsApart (m.events.map Event.kind) := by
  refine Naming.wordsApart_of_isPlain ?_ (List.forall_mem_map.2 hp)
  rw [List.map_map]
  exact h.eventStructs

theorem wordsApart_enums
    (hp : ∀ e ∈ m.types.enums, Naming.IsPlain e.name ∧ '_' ∉ e.name.toList) :
    Naming.WordsApart (m.types.enums.map Enumeration.name) := by
  have hpascal : (m.types.enums.map Enumeration.name).map Naming.pascal =
      m.types.enums.map Enumeration.name := by
    rw [List.map_map]
    exact List.map_congr_left fun e he =>
      Check.pascal_of_isTypeName (h.enumNames e he) (hp e he).2
  refine Naming.wordsApart_of_isPlain (by rw [hpascal]; exact h.enums) ?_
  exact List.forall_mem_map.2 fun e he => (hp e he).1

end SchemaModule.NamesApart

namespace SchemaSet

open Backend Naming

/-- The handlers of endpoints have distinct names. Those of commands and events, and the functions
of enums, have so if and only if the names behind them differ in more than the case of their words;
the checks ensure that for names which have capitals only where words start. -/
theorem function_names_distinct {config : Config} {s : SchemaSet} {files : List Artifact}
    (hg : s.generate config = .ok files) {m : SchemaModule} (hm : m ∈ s.modules) :
    (∃ f, RestFile.ofEndpoints m.id m.types.endpoints = .ok f ∧
      (m.types.endpoints ≠ [] →
        ⟨.backend, Section.path m.id .rest, f.render config⟩ ∈ files) ∧
      (f.endpoints.map EndpointItem.handler).Nodup) ∧
    (∃ f, CommandsFile.ofCommands m.commands = .ok f ∧
      (m.commands ≠ [] → ⟨.backend, Section.path m.id .commands, f.render⟩ ∈ files) ∧
      ((f.commands.map CommandItem.handlerMethod).Nodup ↔
        WordsApart (m.commands.map Command.key)) ∧
      ((f.commands.map CommandItem.allocatorFn).Nodup ↔
        WordsApart (m.commands.map Command.key)) ∧
      ((∀ c ∈ m.commands, IsPlain c.key) → WordsApart (m.commands.map Command.key))) ∧
    (∃ f, EventsFile.ofEvents m.id m.events = .ok f ∧
      (m.events ≠ [] → ⟨.backend, Section.path m.id .events, f.render config⟩ ∈ files) ∧
      ((f.events.map EventItem.applyMethod).Nodup ↔ WordsApart (m.events.map Event.kind)) ∧
      ((f.events.map EventItem.allocatorFn).Nodup ↔ WordsApart (m.events.map Event.kind)) ∧
      ((∀ e ∈ m.events, IsPlain e.kind) → WordsApart (m.events.map Event.kind))) ∧
    ∃ f, TypesFile.ofModule m = .ok f ∧
      ⟨.backend, Section.path m.id .types, f.render config⟩ ∈ files ∧
      ((f.enums.map EnumItem.exhaustiveFn).Nodup ↔
        (m.types.enums.map fun e => (foldedWords e.name, e.digest)).Nodup) ∧
      ((∀ e ∈ m.types.enums, IsPlain e.name ∧ '_' ∉ e.name.toList) →
        (f.enums.map EnumItem.exhaustiveFn).Nodup) := by
  have hnames := namesApart_of_generate hg hm
  obtain ⟨_, hrest, hrestFile⟩ := content_of_generate hg hm .rest
  obtain ⟨_, hcommands, hcommandsFile⟩ := content_of_generate hg hm .commands
  obtain ⟨_, hevents, heventsFile⟩ := content_of_generate hg hm .events
  obtain ⟨_, htypes, htypesFile⟩ := content_of_generate hg hm .types
  obtain ⟨r, hr, rfl⟩ := map_eq_ok.1 hrest
  obtain ⟨c, hc, rfl⟩ := map_eq_ok.1 hcommands
  obtain ⟨e, he, rfl⟩ := map_eq_ok.1 hevents
  obtain ⟨t, ht, rfl⟩ := map_eq_ok.1 htypes
  refine ⟨⟨r, hr, fun hn => hrestFile (by simpa [Section.isPresent] using hn), ?_⟩,
    ⟨c, hc, fun hn => hcommandsFile (by simpa [Section.isPresent] using hn),
      CommandsFile.handlers_nodup_iff hc, CommandsFile.allocators_nodup_iff hc,
      hnames.wordsApart_commands⟩,
    ⟨e, he, fun hn => heventsFile (by simpa [Section.isPresent] using hn),
      EventsFile.applyMethods_nodup_iff he, EventsFile.allocators_nodup_iff he,
      hnames.wordsApart_events⟩,
    ⟨t, ht, htypesFile rfl, TypesFile.exhaustiveFns_nodup_iff ht, fun hp => ?_⟩⟩
  · exact (RestFile.handlers_nodup_iff hr).2 hnames.endpoints
  · have hwords := hnames.wordsApart_enums hp
    rw [WordsApart, List.map_map] at hwords
    rw [TypesFile.exhaustiveFns_nodup_iff ht]
    exact List.Nodup.of_map Prod.fst (by rwa [List.map_map])

theorem function_names_distinct_accounts :
    ∃ (s : SchemaSet) (files : List Artifact) (m : SchemaModule) (f : RestFile) (g : EventsFile),
      s.generate {} = .ok files ∧ m ∈ s.modules ∧
      RestFile.ofEndpoints m.id m.types.endpoints = .ok f ∧
      EventsFile.ofEvents m.id m.events = .ok g ∧
      f.endpoints.map EndpointItem.handler = ["r#move", "move_all"] ∧
      (f.endpoints.map EndpointItem.handler).Nodup ∧
      g.events.map EventItem.applyMethod = ["apply_account_created", "apply_account_create"] ∧
      (∀ e ∈ m.events, IsPlain e.kind) ∧ (g.events.map EventItem.applyMethod).Nodup := by
  let command : Command := ⟨"account.Create", "Create", "authenticated", none, none, []⟩
  let m : SchemaModule := {
    id := "m"
    types := { endpoints := [⟨.post, "/move", "move", "public", none, none, none⟩,
      ⟨.post, "/all", "moveAll", "public", none, none, none⟩] }
    commands := [command]
    events := [⟨"account.Created", []⟩, ⟨"accountCreate", []⟩] }
  let s : SchemaSet := ⟨[m]⟩
  have hcheck : s.check = .ok () := by cbv
  have hevents : EventsFile.ofEvents "m" m.events = .ok ⟨
    [⟨"AccountCreated", "account.Created", "apply_account_created", "allocate_account_created", []⟩,
     ⟨"AccountCreate", "accountCreate", "apply_account_create", "allocate_account_create", []⟩],
    []⟩ := by cbv
  have hrest : ∃ f, RestFile.ofEndpoints "m" m.types.endpoints = .ok f ∧
      f.endpoints.map EndpointItem.handler = ["r#move", "move_all"] := ⟨_, by cbv, by cbv⟩
  obtain ⟨f, hrest, hhandlers⟩ := hrest
  have hdraft : ∀ m ∈ s.modules, ∀ part ∈ Section.drafting,
      ∃ text, part.content {} m = .ok text := by
    simp only [s, Section.drafting, List.forall_mem_cons, List.not_mem_nil, false_implies,
      implies_true, and_true]
    exact ⟨⟨_, rfl⟩, ⟨_, map_eq_ok.2 ⟨_, hevents, rfl⟩⟩, ⟨_, map_eq_ok.2 ⟨_, hrest, rfl⟩⟩⟩
  obtain ⟨files, hg⟩ := generate_eq_ok {} hcheck hdraft
  obtain ⟨⟨r, hr, -, hn⟩, -, ⟨g, hf, -, hiff, -, hplain⟩, -⟩ :=
    function_names_distinct hg (show m ∈ s.modules by simp [s])
  cases hevents.symm.trans hf
  cases hrest.symm.trans hr
  have hp : ∀ e ∈ m.events, IsPlain e.kind := by decide +kernel
  exact ⟨s, files, m, f, _, hg, by simp [s], hrest, hevents, hhandlers, hn, by decide, hp,
    hiff.2 (hplain hp)⟩

/-- Two commands and two events that differ only in the case of letters inside a word pass all
checks and share their functions. -/
theorem function_names_clash_acronym :
    ∃ (s : SchemaSet) (files : List Artifact) (m : SchemaModule) (f : CommandsFile)
      (g : EventsFile),
      s.generate {} = .ok files ∧ m ∈ s.modules ∧
      CommandsFile.ofCommands m.commands = .ok f ∧ EventsFile.ofEvents m.id m.events = .ok g ∧
      f.commands.map CommandItem.handlerMethod = ["ssh_key", "ssh_key"] ∧
      ¬ (f.commands.map CommandItem.handlerMethod).Nodup ∧
      ¬ (f.commands.map CommandItem.allocatorFn).Nodup ∧
      ¬ (g.events.map EventItem.applyMethod).Nodup ∧
      ¬ (g.events.map EventItem.allocatorFn).Nodup := by
  let m : SchemaModule := {
    id := "m"
    commands := [⟨"SSHKey", "a", "c", none, none, []⟩, ⟨"SshKey", "b", "c", none, none, []⟩]
    events := [⟨"SSHKey", []⟩, ⟨"SshKey", []⟩] }
  let s : SchemaSet := ⟨[m]⟩
  have hcheck : s.check = .ok () := by cbv
  have hcommands : CommandsFile.ofCommands m.commands = .ok ⟨
    [⟨"SSHKey", "SSHKey", "a", "c", "ssh_key", "allocate_ssh_key", [], []⟩,
     ⟨"SshKey", "SshKey", "b", "c", "ssh_key", "allocate_ssh_key", [], []⟩]⟩ := by cbv
  have hevents : EventsFile.ofEvents "m" m.events = .ok ⟨
    [⟨"SSHKey", "SSHKey", "apply_ssh_key", "allocate_ssh_key", []⟩,
     ⟨"SshKey", "SshKey", "apply_ssh_key", "allocate_ssh_key", []⟩], []⟩ := by cbv
  have hdraft : ∀ m ∈ s.modules, ∀ part ∈ Section.drafting,
      ∃ text, part.content {} m = .ok text := by
    simp only [s, Section.drafting, List.forall_mem_cons, List.not_mem_nil, false_implies,
      implies_true, and_true]
    exact ⟨⟨_, rfl⟩, ⟨_, map_eq_ok.2 ⟨_, hevents, rfl⟩⟩, ⟨_, rfl⟩⟩
  obtain ⟨files, hg⟩ := generate_eq_ok {} hcheck hdraft
  exact ⟨s, files, m, _, _, hg, by simp [s], hcommands, hevents, by decide, by decide, by decide,
    by decide, by decide⟩

end SchemaSet

end EventSchema
