import EventSchema.Proofs.Items
import EventSchema.Sample.Secrets

set_option autoImplicit false

namespace EventSchema

open Outcome

variable {σ ε : Type}

structure Invocation (σ ε : Type) where
  method : String
  record : CommandRecord
  before : CommandContext ε
  step : Step σ ε

def Invocation.events (i : Invocation σ ε) : List ε :=
  i.step.context.raised.drop i.before.raised.length

namespace CommandHandlers

/-- The same handlers, which also note their calls. -/
def noting (handlers : CommandHandlers σ ε) : CommandHandlers (σ × List (Invocation σ ε)) ε :=
  fun method r c (s, calls) =>
    let step := handlers method r c s
    ⟨step.outcome, step.context, (step.state, calls ++ [⟨method, r, c, step⟩])⟩

/-- All that a handler does to the context is to raise events. -/
def OnlyRaise (handlers : CommandHandlers σ ε) : Prop :=
  ∀ method r c s, ∃ events : List ε,
    (handlers method r c s).context = events.foldl CommandContext.raise c

end CommandHandlers

theorem CommandContext.foldl_raise (c : CommandContext ε) (events : List ε) :
    events.foldl raise c = { c with raised := c.raised ++ events } := by
  induction events generalizing c with
  | nil => simp
  | cons event rest ih => simp [ih, raise]

theorem CommandRecord.command_of_ofJson? {item : Backend.CommandItem} {body : Json}
    {r : CommandRecord} (h : ofJson? item body = some r) : r.command = item := by
  simp only [ofJson?, Option.bind_eq_bind, Option.bind_eq_some_iff] at h
  obtain ⟨parts, -, values, -, h⟩ := h
  cases h
  rfl

structure CommandRun (σ ε : Type) where
  outcomes : List (Except CommandFault Unit)
  context : CommandContext ε
  state : σ

namespace CommandRegistry

def dispatchAll (commands : CommandRegistry) (handlers : CommandHandlers σ ε) :
    List (String × Json) → CommandContext ε → σ → CommandRun σ ε
  | [], c, s => ⟨[], c, s⟩
  | (key, body) :: calls, c, s =>
    let step := commands.dispatch handlers key body c s
    let rest := dispatchAll commands handlers calls step.context step.state
    { rest with outcomes := step.outcome :: rest.outcomes }

inductive Refuses (commands : CommandRegistry) (key : String) (body : Json) : CommandFault → Prop
  | unsupported (hkey : commands.get? key = none) : Refuses commands key body (.unsupported key)
  | decode {item : Backend.CommandItem} (hkey : commands.get? key = some item)
      (hbody : CommandRecord.ofJson? item body = none) : Refuses commands key body .decode
  | rule {item : Backend.CommandItem} {r : CommandRecord} {fault : RuleFault}
      (hkey : commands.get? key = some item) (hbody : CommandRecord.ofJson? item body = some r)
      (hrules : r.validate = .error fault) : Refuses commands key body (.rule fault)

/-- The call stands for this command, which passes its rules. -/
structure Accepts (commands : CommandRegistry) (key : String) (body : Json) (r : CommandRecord) :
    Prop where
  key : commands.get? key = some r.command
  body : CommandRecord.ofJson? r.command body = some r
  rules : r.validate = .ok ()

/-- Outcomes, calls of handlers and what is left, call by call. -/
inductive Runs (commands : CommandRegistry) (handlers : CommandHandlers σ ε) :
    List (String × Json) → CommandContext ε → σ → CommandRun σ ε → List (Invocation σ ε) → Prop
  | done {c : CommandContext ε} {s : σ} : Runs commands handlers [] c s ⟨[], c, s⟩ []
  | refused {key : String} {body : Json} {calls : List (String × Json)} {c : CommandContext ε}
      {s : σ} {fault : CommandFault} {run : CommandRun σ ε} {log : List (Invocation σ ε)}
      (head : commands.Refuses key body fault) (tail : Runs commands handlers calls c s run log) :
      Runs commands handlers ((key, body) :: calls) c s
        { run with outcomes := .error fault :: run.outcomes } log
  | accepted {key : String} {body : Json} {calls : List (String × Json)} {c : CommandContext ε}
      {s : σ} {r : CommandRecord} {step : Step σ ε} {run : CommandRun σ ε}
      {log : List (Invocation σ ε)} (head : commands.Accepts key body r)
      (called : handlers r.command.handlerMethod r c s = step)
      (tail : Runs commands handlers calls step.context step.state run log) :
      Runs commands handlers ((key, body) :: calls) c s
        { run with outcomes := step.outcome :: run.outcomes }
        (⟨r.command.handlerMethod, r, c, step⟩ :: log)

section Calls

variable {commands : CommandRegistry} {key : String} {body : Json}

theorem get?_of_decode {r : CommandRecord} (h : commands.decode key body = .ok r) :
    commands.get? key = some r.command := by
  unfold decode at h
  split at h
  · cases h
  · next item hkey =>
    split at h
    · cases h
    · next other hbody =>
      cases h
      rw [hkey, CommandRecord.command_of_ofJson? hbody]

theorem not_accepts_of_refuses {fault : CommandFault} (h : commands.Refuses key body fault)
    (r : CommandRecord) : ¬ commands.Accepts key body r := by
  intro ha
  cases h with
  | unsupported hkey => cases hkey.symm.trans ha.key
  | decode hkey hbody =>
    cases hkey.symm.trans ha.key
    cases hbody.symm.trans ha.body
  | rule hkey hbody hrules =>
    cases hkey.symm.trans ha.key
    cases hbody.symm.trans ha.body
    cases hrules.symm.trans ha.rules

theorem accepts_or_refuses (commands : CommandRegistry) (key : String) (body : Json) :
    (∃ r, commands.Accepts key body r) ∨ ∃ fault, commands.Refuses key body fault := by
  cases hkey : commands.get? key with
  | none => exact .inr ⟨_, .unsupported hkey⟩
  | some item =>
    cases hbody : CommandRecord.ofJson? item body with
    | none => exact .inr ⟨_, .decode hkey hbody⟩
    | some r =>
      cases hrules : r.validate with
      | error fault => exact .inr ⟨_, .rule hkey hbody hrules⟩
      | ok u =>
        have hitem := CommandRecord.command_of_ofJson? hbody
        exact .inl ⟨r, hitem ▸ hkey, hitem ▸ hbody, hrules⟩

variable (handlers : CommandHandlers σ ε) (c : CommandContext ε) (s : σ)

theorem dispatch_of_refuses {fault : CommandFault} (h : commands.Refuses key body fault) :
    commands.dispatch handlers key body c s = ⟨.error fault, c, s⟩ := by
  cases h with
  | unsupported hkey => simp only [dispatch, decode, hkey]
  | decode hkey hbody => simp only [dispatch, decode, hkey, hbody]
  | rule hkey hbody hrules =>
    simp only [dispatch, decode, hkey, hbody, CommandRecord.execute, hrules]

theorem dispatch_of_accepts {r : CommandRecord} (h : commands.Accepts key body r) :
    commands.dispatch handlers key body c s = handlers r.command.handlerMethod r c s := by
  simp only [dispatch, decode, h.key, h.body, CommandRecord.execute, h.rules]

theorem runs_dispatchAll (commands : CommandRegistry) (calls : List (String × Json))
    (earlier : List (Invocation σ ε)) :
    ∃ log, commands.Runs handlers calls c s (commands.dispatchAll handlers calls c s) log ∧
      commands.dispatchAll handlers.noting calls c (s, earlier) =
        { commands.dispatchAll handlers calls c s with
          state := ((commands.dispatchAll handlers calls c s).state, earlier ++ log) } := by
  -- for every context, state and log that the calls before have left
  induction calls generalizing c s earlier with
  | nil => exact ⟨[], .done, by simp [dispatchAll]⟩
  | cons call calls ih =>
    obtain ⟨key, body⟩ := call
    simp only [dispatchAll]
    rcases accepts_or_refuses commands key body with ⟨r, ha⟩ | ⟨fault, hr⟩
    · rw [dispatch_of_accepts handlers c s ha, dispatch_of_accepts handlers.noting c _ ha]
      let step := handlers r.command.handlerMethod r c s
      obtain ⟨log, hruns, hnoting⟩ := ih step.context step.state
        (earlier ++ [⟨r.command.handlerMethod, r, c, step⟩])
      refine ⟨_, .accepted ha rfl hruns, ?_⟩
      simp only [CommandHandlers.noting]
      rw [hnoting]
      simp [step]
    · rw [dispatch_of_refuses handlers c s hr, dispatch_of_refuses handlers.noting c _ hr]
      obtain ⟨log, hruns, hnoting⟩ := ih c s earlier
      refine ⟨log, .refused hr hruns, ?_⟩
      simp only [hnoting]

end Calls

/-- What a run adds to the context are the events of its accepted calls, in the order of these. -/
theorem Runs.context_eq {commands : CommandRegistry} {handlers : CommandHandlers σ ε}
    (ho : handlers.OnlyRaise) {calls : List (String × Json)} {c : CommandContext ε} {s : σ}
    {run : CommandRun σ ε} {log : List (Invocation σ ε)}
    (h : commands.Runs handlers calls c s run log) :
    run.context = { c with raised := c.raised ++ log.flatMap Invocation.events } := by
  induction h with
  | done => simp
  | refused _ _ ih => exact ih
  | @accepted key body calls c s r step run log _ hcalled _ ih =>
    obtain ⟨events, hevents⟩ := ho r.command.handlerMethod r c s
    rw [hcalled, CommandContext.foldl_raise] at hevents
    rw [ih, List.flatMap_cons]
    simp [Invocation.events, hevents]

/-- What commands hold to, whatever their handlers do. Every key has its method. -/
structure Guards (commands : CommandRegistry) (methods : List (String × String))
    (handlers : CommandHandlers σ ε) : Prop where
  registered (key : String) :
    (commands.get? key).map Backend.CommandItem.handlerMethod = methods.lookup key
  decoded {key : String} {body : Json} {r : CommandRecord} :
    commands.decode key body = .ok r → r.command.key = key
  decided (key : String) (body : Json) :
    (∃ r, commands.Accepts key body r) ∨ ∃ fault, commands.Refuses key body fault
  refused {key : String} {body : Json} {fault : CommandFault} :
    commands.Refuses key body fault → (∀ r, ¬ commands.Accepts key body r) ∧
      ∀ c s calls, commands.dispatch handlers.noting key body c (s, calls) =
        ⟨.error fault, c, (s, calls)⟩
  accepted {key : String} {body : Json} {r : CommandRecord} :
    commands.Accepts key body r → ∃ method, methods.lookup key = some method ∧
      ∀ c s calls, commands.dispatch handlers.noting key body c (s, calls) =
        let step := handlers method r c s
        ⟨step.outcome, step.context, (step.state, calls ++ [⟨method, r, c, step⟩])⟩
  sequence (calls : List (String × Json)) (c : CommandContext ε) (s : σ) :
    ∃ log, commands.Runs handlers calls c s (commands.dispatchAll handlers calls c s) log ∧
      commands.dispatchAll handlers.noting calls c (s, []) =
        { commands.dispatchAll handlers calls c s with
          state := ((commands.dispatchAll handlers calls c s).state, log) } ∧
      (handlers.OnlyRaise → (commands.dispatchAll handlers calls c s).context =
        { c with raised := c.raised ++ log.flatMap Invocation.events })

section Files

variable {f : Backend.CommandsFile} (hk : (f.commands.map Backend.CommandItem.key).Nodup)

include hk

theorem get?_ofFile (key : String) :
    (ofFile f).get? key = (f.commands.map fun item => (item.key, item)).lookup key :=
  Registry.get?_ofList (by simpa [Function.comp_def] using hk) key

theorem key_of_get? {key : String} {item : Backend.CommandItem}
    (h : (ofFile f).get? key = some item) : item.key = key := by
  rw [get?_ofFile hk, List.lookup_eq_some_iff] at h
  obtain ⟨front, back, he, -⟩ := h
  have hmem : (key, item) ∈ f.commands.map fun item => (item.key, item) := by simp [he]
  obtain ⟨other, -, hother⟩ := List.mem_map.1 hmem
  cases hother
  rfl

theorem handlerMethod_of_get? (key : String) :
    ((ofFile f).get? key).map Backend.CommandItem.handlerMethod =
      (f.commands.map fun item => (item.key, item.handlerMethod)).lookup key := by
  rw [get?_ofFile hk]
  induction f.commands with
  | nil => rfl
  | cons item rest ih =>
    simp only [List.map_cons, Text.lookup_cons_ite]
    split
    · rfl
    · exact ih

theorem guards_ofFile (handlers : CommandHandlers σ ε) :
    (ofFile f).Guards (f.commands.map fun item => (item.key, item.handlerMethod)) handlers where
  registered := handlerMethod_of_get? hk
  decoded h := key_of_get? hk (get?_of_decode h)
  decided := accepts_or_refuses _
  refused h := ⟨not_accepts_of_refuses h, fun c s calls => dispatch_of_refuses _ c (s, calls) h⟩
  accepted {key body r} h :=
    ⟨r.command.handlerMethod, by rw [← handlerMethod_of_get? hk, h.key, Option.map_some],
      fun c s calls => dispatch_of_accepts handlers.noting c (s, calls) h⟩
  sequence calls c s := by
    obtain ⟨log, hruns, hnoting⟩ := runs_dispatchAll handlers c s (ofFile f) calls []
    exact ⟨log, hruns, hnoting, fun ho => hruns.context_eq ho⟩

end Files

end CommandRegistry

namespace Sample.AccountCommands

/-- The accounts' commands guard whatever handlers they are given. -/
theorem registry_guards (handlers : CommandHandlers σ ε) :
    registry.Guards [("account.Create", "account_create"), ("account.Delete", "account_delete")]
      handlers := by
  have hmethods : (Backend.CommandsFile.ofCommands [create, delete]).map
      (fun f => f.commands.map fun item => (item.key, item.handlerMethod)) =
      .ok [("account.Create", "account_create"), ("account.Delete", "account_delete")] := rfl
  obtain ⟨f, hf, hmethods⟩ := map_eq_ok.1 hmethods
  have hkeys : f.commands.map Backend.CommandItem.key = ["account.Create", "account.Delete"] := by
    simpa [Function.comp_def] using congrArg (List.map Prod.fst) hmethods
  have hregistry : registry = .ofFile f := by simp only [registry, hf]
  rw [hregistry, ← hmethods]
  exact CommandRegistry.guards_ofFile (by rw [hkeys]; decide) handlers

theorem handlers_onlyRaise : CommandHandlers.OnlyRaise handlers := by
  intro method r c calls
  simp only [handlers]
  split
  · simp only [handleCreate]
    split
    · exact ⟨[], rfl⟩
    · exact ⟨[_], rfl⟩
  · split
    · exact ⟨[_], rfl⟩
    · exact ⟨[], rfl⟩

theorem registry_guards_handlers :
    CommandHandlers.OnlyRaise handlers ∧
    registry.Guards [("account.Create", "account_create"), ("account.Delete", "account_delete")]
      handlers ∧
    let info : EventMeta := ⟨⟨2024, 5, 1, 12, 0, 0, 0⟩, "alice"⟩
    let run := registry.dispatchAll handlers
      [("account.Rename", .obj []), ("account.Create", .obj [("Title", .str "")]),
       ("account.Create", .obj [("Title", .str "Gmail")]), ("account.Create", .arr []),
       ("account.Create", .obj [("Title", .str "fail")]),
       ("account.Delete", .obj [("Reason", .str "moved")])] ⟨info, none, []⟩ []
    run.state = ["create Gmail", "create fail", "delete moved"] ∧
    run.context.raised =
      [.known info (.created ⟨"Gmail", none, ⟨defaultUrl⟩⟩), .known info .deleted] := by
  refine ⟨handlers_onlyRaise, registry_guards handlers, ?_⟩
  decide +kernel

end Sample.AccountCommands

end EventSchema
