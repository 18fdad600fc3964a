import EventSchema.Backend.Drafts
import EventSchema.Proofs.Datatype
import Mathlib.Data.List.Nodup

set_option autoImplicit false

namespace EventSchema.Backend.Drafts

/-- A later state, with the records added since. -/
structure Adds (s : Drafts) (new : List Record) (later : Drafts) : Prop where
  kept : ∀ name ∈ s.taken, name ∈ later.taken
  records : later.records = s.records ++ new
  distinct : (new.map Record.name).Nodup
  fresh : ∀ r ∈ new, r.name ∉ s.taken ∧ r.name ∈ later.taken

theorem Adds.refl (s : Drafts) : Adds s [] s where
  kept := fun _ h => h
  records := by simp
  distinct := by simp
  fresh := by simp

theorem Adds.trans {s t u : Drafts} {new more : List Record} (h : Adds s new t)
    (h' : Adds t more u) : Adds s (new ++ more) u where
  kept := fun name hn => h'.kept name (h.kept name hn)
  records := by rw [h'.records, h.records, List.append_assoc]
  distinct := by
    rw [List.map_append]
    refine h.distinct.append h'.distinct fun name hn hm => ?_
    obtain ⟨r, hr, rfl⟩ := List.mem_map.1 hn
    obtain ⟨q, hq, he⟩ := List.mem_map.1 hm
    -- the name was taken by the first records, so it is not fresh for the others
    exact (h'.fresh q hq).1 (he ▸ (h.fresh r hr).2)
  fresh := by
    intro r hr
    rcases List.mem_append.1 hr with hr | hr
    · exact ⟨(h.fresh r hr).1, h'.kept _ (h.fresh r hr).2⟩
    · exact ⟨fun hn => (h'.fresh r hr).1 (h.kept _ hn), (h'.fresh r hr).2⟩

theorem Adds.of_reserved {s t : Drafts} {name : String} {new : List Record}
    (h : Adds { s with taken := name :: s.taken } new t) : Adds s new t where
  kept := fun other ho => h.kept other (List.mem_cons_of_mem _ ho)
  records := h.records
  distinct := h.distinct
  fresh := fun r hr =>
    ⟨fun hs => (h.fresh r hr).1 (List.mem_cons_of_mem _ hs), (h.fresh r hr).2⟩

/-- A record whose name was reserved first comes after the records of its fields. -/
theorem Adds.declare {s t : Drafts} {name : String} {fields : List RecordField}
    {new : List Record} (hn : name ∉ s.taken)
    (h : Adds { s with taken := name :: s.taken } new t) :
    Adds s (new ++ [⟨name, fields⟩]) { t with records := t.records ++ [⟨name, fields⟩] } where
  kept := h.of_reserved.kept
  records := by simp [h.records]
  distinct := by
    rw [List.map_append]
    refine h.distinct.append (by simp) fun other ho hm => ?_
    obtain ⟨r, hr, rfl⟩ := List.mem_map.1 ho
    obtain rfl : r.name = name := by simpa using hm
    exact (h.fresh r hr).1 (by simp)
  fresh := by
    intro r hr
    rcases List.mem_append.1 hr with hr | hr
    · exact h.of_reserved.fresh r hr
    · obtain rfl : r = ⟨name, fields⟩ := by simpa using hr
      exact ⟨hn, h.kept name (by simp)⟩

def chain {α β : Type} (step : Except Fault α × Drafts)
    (next : α → Drafts → Except Fault β × Drafts) : Except Fault β × Drafts :=
  match step with
  | (.error fault, s) => (.error fault, s)
  | (.ok a, s) => next a s

theorem chain_eq_ok {α β : Type} {step : Except Fault α × Drafts}
    {next : α → Drafts → Except Fault β × Drafts} {b : β} {final : Drafts} :
    chain step next = (.ok b, final) ↔ ∃ a s, step = (.ok a, s) ∧ next a s = (.ok b, final) := by
  obtain ⟨_ | a, s⟩ := step <;> simp [chain]

theorem chain_eq_error {α β : Type} {step : Except Fault α × Drafts}
    {next : α → Drafts → Except Fault β × Drafts} {fault : Fault} :
    (chain step next).1 = .error fault ↔
      step.1 = .error fault ∨ ∃ a s, step = (.ok a, s) ∧ (next a s).1 = .error fault := by
  obtain ⟨_ | a, s⟩ := step <;> simp [chain]

theorem chain_adds {α β : Type} {s : Drafts} {step : Except Fault α × Drafts}
    {next : α → Drafts → Except Fault β × Drafts} (h : ∃ new, Adds s new step.2)
    (h' : ∀ a later, ∃ new, Adds later new (next a later).2) :
    ∃ new, Adds s new (chain step next).2 := by
  obtain ⟨new, hn⟩ := h
  obtain ⟨_ | a, later⟩ := step
  · exact ⟨new, hn⟩
  · obtain ⟨more, hm⟩ := h' a later
    exact ⟨new ++ more, hn.trans hm⟩

section Equations

attribute [local simp] project projectFields

variable (home : Home) (owner : String) (s : Drafts) {name : String} {nullable : Bool}

theorem declare_taken {drawUp : Drafts → Except Fault (List RecordField) × Drafts}
    (h : owner ∈ s.taken) :
    declare owner drawUp s = (.error (.duplicate .generatedType owner), s) := by
  simp [declare, h]

theorem declare_free {drawUp : Drafts → Except Fault (List RecordField) × Drafts}
    (h : owner ∉ s.taken) :
    declare owner drawUp s = chain (drawUp { s with taken := owner :: s.taken })
      fun fields s => (.ok (), { s with records := s.records ++ [⟨owner, fields⟩] }) := by
  simp only [declare, List.contains_eq_mem, h, decide_false, Bool.false_eq_true, if_false]
  obtain ⟨_ | fields, later⟩ := drawUp { s with taken := owner :: s.taken } <;> rfl

theorem project_malformed {of : Option Datatype} {fields : Option (List (String × Datatype))}
    {flaw : DatatypeFlaw} (h : Datatype.formOf name of.isSome fields.isSome = .error flaw) :
    project home owner (.node name of fields nullable) s =
      (.error (.malformedDatatype name flaw), s) := by
  simp [h]

theorem project_primitive {p : Primitive}
    (h : Datatype.formOf name false false = .ok (.primitive p)) :
    project home owner (.node name none none nullable) s =
      (.ok (.withNull nullable (.ofPrimitive p)), s) := by
  simp [h]

theorem project_custom {r : CustomRef} (h : Datatype.formOf name false false = .ok (.custom r)) :
    project home owner (.node name none none nullable) s =
      (.ok (.withNull nullable (home.ofRef r)), s) := by
  simp [h]

theorem project_list {of : Datatype} (h : Datatype.formOf name true false = .ok .list) :
    project home owner (.node name (some of) none nullable) s =
      chain (project home owner of s) fun item s => (.ok (.withNull nullable (.list item)), s) := by
  simp only [project, projectItem, h, Option.isSome_some, Option.isSome_none]
  obtain ⟨_ | item, later⟩ := project home owner of s <;> rfl

theorem project_object {fields : List (String × Datatype)}
    (h : Datatype.formOf name false true = .ok .object) :
    project home owner (.node name none (some fields) nullable) s =
      chain (record home owner fields s)
        fun _ s => (.ok (.withNull nullable (.record owner)), s) := by
  have hp : projectObject home owner (some fields) = projectFields home owner fields := by
    funext s
    rw [projectObject]
  simp only [project, record, h, hp, Option.isSome_some, Option.isSome_none]
  obtain ⟨_ | _, later⟩ := declare owner (projectFields home owner fields) s <;> rfl

theorem projectFields_unnamed {key : String} {dt : Datatype} {rest : List (String × Datatype)}
    (h : fieldIdent? key = none) :
    projectFields home owner ((key, dt) :: rest) s =
      (.error (.invalidIdentifier key .fieldKey), s) := by
  simp [h]

theorem projectFields_cons {key ident : String} {dt : Datatype}
    {rest : List (String × Datatype)} (h : fieldIdent? key = some ident) :
    projectFields home owner ((key, dt) :: rest) s =
      chain (project home (owner ++ Naming.pascal key) dt s) fun type s =>
        chain (projectFields home owner rest s) fun fields s =>
          (.ok (⟨ident, key, type⟩ :: fields), s) := by
  simp only [projectFields, h]
  obtain ⟨_ | type, later⟩ := project home (owner ++ Naming.pascal key) dt s
  · rfl
  · simp only [chain]
    obtain ⟨_ | fields, final⟩ := projectFields home owner rest later <;> rfl

end Equations

theorem record_eq_ok {home : Home} {name : String} {fields : List (String × Datatype)}
    {s later : Drafts} (h : record home name fields s = (.ok (), later)) :
    name ∉ s.taken ∧ ∃ own inner,
      projectFields home name fields { s with taken := name :: s.taken } = (.ok own, inner) ∧
        later = { inner with records := inner.records ++ [⟨name, own⟩] } := by
  by_cases hn : name ∈ s.taken
  · simp [record, declare_taken name s hn] at h
  · rw [record, declare_free name s hn] at h
    obtain ⟨own, inner, hp, h⟩ := chain_eq_ok.1 h
    cases h
    exact ⟨hn, own, inner, hp, rfl⟩

theorem projectFields_adds {home : Home} {fields : List (String × Datatype)}
    (each : ∀ f ∈ fields, ∀ owner s, ∃ new, Adds s new (project home owner f.2 s).2)
    (owner : String) (s : Drafts) : ∃ new, Adds s new (projectFields home owner fields s).2 := by
  induction fields generalizing s with
  | nil => exact ⟨[], .refl s⟩
  | cons f rest ih =>
    obtain ⟨key, dt⟩ := f
    obtain ⟨hf, hr⟩ := List.forall_mem_cons.1 each
    cases hk : fieldIdent? key with
    | none =>
      rw [projectFields_unnamed home owner s hk]
      exact ⟨[], .refl s⟩
    | some ident =>
      rw [projectFields_cons home owner s hk]
      refine chain_adds (hf _ s) fun type later => chain_adds (ih hr later) fun fields final => ?_
      exact ⟨[], .refl final⟩

theorem record_adds {home : Home} {fields : List (String × Datatype)}
    (each : ∀ f ∈ fields, ∀ owner s, ∃ new, Adds s new (project home owner f.2 s).2)
    (name : String) (s : Drafts) : ∃ new, Adds s new (record home name fields s).2 := by
  unfold record
  by_cases h : name ∈ s.taken
  · rw [declare_taken name s h]
    exact ⟨[], .refl s⟩
  · rw [declare_free name s h]
    obtain ⟨new, hn⟩ := projectFields_adds each name { s with taken := name :: s.taken }
    cases hp : projectFields home name fields { s with taken := name :: s.taken } with
    | mk result later =>
      rw [hp] at hn
      cases result with
      | error fault => exact ⟨new, hn.of_reserved⟩
      | ok own => exact ⟨new ++ [⟨name, own⟩], hn.declare h⟩

theorem project_adds (home : Home) (dt : Datatype) (owner : String) (s : Drafts) :
    ∃ new, Adds s new (project home owner dt s).2 := by
  induction dt using Datatype.formInduction generalizing owner s with
  | malformed name of fields nullable flaw hf =>
    rw [project_malformed home owner s hf]
    exact ⟨[], .refl s⟩
  | primitive name nullable p hf =>
    rw [project_primitive home owner s hf]
    exact ⟨[], .refl s⟩
  | custom name nullable r hf =>
    rw [project_custom home owner s hf]
    exact ⟨[], .refl s⟩
  | list name of nullable hf ih =>
    rw [project_list home owner s hf]
    exact chain_adds (ih owner s) fun item later => ⟨[], .refl later⟩
  | object name fields nullable hf ih =>
    rw [project_object home owner s hf]
    exact chain_adds (record_adds ih owner s) fun _ later => ⟨[], .refl later⟩

end EventSchema.Backend.Drafts
