import EventSchema.Proofs.Drafts

/-!
Drafting call by call. A call reserves the name of an object before it looks at the fields and adds
the record after them, and what it has done by then stays where a field fails. So the invariant is
one of the records alone, and speaks of each call whether it fails or not: a record only refers to
records before it, and what a call gives only refers to records that are there.
-/

set_option autoImplicit false

namespace EventSchema.Backend

def TypeExpr.objectNames : TypeExpr → List String
  | .list item => item.objectNames
  | .option inner => inner.objectNames
  | .record name => [name]
  | _ => []

theorem TypeExpr.objectNames_withNull (nullable : Bool) (t : TypeExpr) :
    (t.withNull nullable).objectNames = t.objectNames := by
  cases nullable with
  | false => rfl
  | true => rfl

theorem TypeExpr.objectNames_ofPrimitive (p : Primitive) : (ofPrimitive p).objectNames = [] := by
  cases p with
  | string | boolean | integer | datetime => rfl

theorem Home.objectNames_ofRef (home : Home) (r : CustomRef) : (home.ofRef r).objectNames = [] := by
  unfold ofRef
  split
  · rfl
  · split
    · rfl
    · rfl

def objectNames (fields : List RecordField) : List String :=
  fields.flatMap fun f => f.type.objectNames

/-- Every record comes after those of the inline objects that its fields refer to. -/
def InOrder (records : List Record) : Prop :=
  ∀ before r after, records = before ++ r :: after →
    objectNames r.fields ⊆ before.map Record.name

theorem inOrder_nil : InOrder [] := by
  intro before r after h
  simp at h

theorem InOrder.concat {records : List Record} (h : InOrder records) {r : Record}
    (hr : objectNames r.fields ⊆ records.map Record.name) : InOrder (records ++ [r]) := by
  intro before q after he
  rcases List.eq_nil_or_concat after with rfl | ⟨middle, last, rfl⟩
  · obtain ⟨rfl, hq⟩ := List.append_inj' he rfl
    obtain rfl : r = q := by simpa using hq
    exact hr
  · rw [List.concat_eq_append, ← List.cons_append, ← List.append_assoc] at he
    exact h before q middle (List.append_inj' he rfl).1

namespace Drafts

def names (s : Drafts) : List String := s.records.map Record.name

theorem Adds.names_subset {s later : Drafts} {new : List Record} (h : Adds s new later) :
    s.names ⊆ later.names := by
  rw [names, names, h.records, List.map_append]
  exact List.subset_append_left _ _

section Orderly

variable {α β : Type} {refs : α → List String} {others : β → List String} {s : Drafts}

/-- A step keeps the records in order, and gives what refers to records that are there then. -/
structure Orderly (refs : α → List String) (s : Drafts) (step : Except Fault α × Drafts) :
    Prop where
  inOrder : InOrder s.records → InOrder step.2.records
  known : ∀ a, step.1 = .ok a → refs a ⊆ step.2.names

theorem Orderly.error (fault : Fault) : Orderly refs s (.error fault, s) where
  inOrder := fun h => h
  known := by
    intro a h
    cases h

theorem Orderly.ok {a : α} (h : refs a ⊆ s.names) : Orderly refs s (.ok a, s) where
  inOrder := fun h => h
  known := by
    rintro _ ⟨⟩
    exact h

theorem Orderly.chain {step : Except Fault α × Drafts} {next : α → Drafts → Except Fault β × Drafts}
    (h : Orderly refs s step)
    (hn : ∀ a later, step = (.ok a, later) → refs a ⊆ later.names →
      Orderly others later (next a later)) : Orderly others s (Drafts.chain step next) := by
  obtain ⟨fault | a, later⟩ := step
  · exact ⟨h.inOrder, fun b hb => by cases hb⟩
  · obtain ⟨hinner, hknown⟩ := hn a later rfl (h.known a rfl)
    exact ⟨fun hs => hinner (h.inOrder hs), hknown⟩

end Orderly

variable {home : Home}

theorem projectFields_orderly {fields : List (String × Datatype)}
    (each : ∀ f ∈ fields, ∀ owner s,
      Orderly TypeExpr.objectNames s (project home owner f.2 s))
    (owner : String) (s : Drafts) :
    Orderly objectNames s (projectFields home owner fields s) := by
  induction fields generalizing s with
  | nil => exact .ok (List.nil_subset _)
  | cons f rest ih =>
    obtain ⟨key, dt⟩ := f
    obtain ⟨hf, hr⟩ := List.forall_mem_cons.1 each
    cases hk : fieldIdent? key with
    | none =>
      rw [projectFields_unnamed home owner s hk]
      exact .error _
    | some ident =>
      rw [projectFields_cons home owner s hk]
      refine (hf _ s).chain fun type middle _ htype => ?_
      refine (ih hr middle).chain fun own later hlater hown => ?_
      -- the fields that follow only add records, so those of this type are still there
      obtain ⟨new, ha⟩ := projectFields_adds (fun f _ => project_adds home f.2) owner middle
      rw [hlater] at ha
      exact .ok (List.append_subset.2 ⟨List.Subset.trans htype ha.names_subset, hown⟩)

theorem record_orderly {fields : List (String × Datatype)}
    (each : ∀ f ∈ fields, ∀ owner s,
      Orderly TypeExpr.objectNames s (project home owner f.2 s))
    (name : String) (s : Drafts) : Orderly (fun _ => [name]) s (record home name fields s) := by
  unfold record
  by_cases h : name ∈ s.taken
  · rw [declare_taken name s h]
    exact .error _
  · rw [declare_free name s h]
    have hfields := projectFields_orderly each name { s with taken := name :: s.taken }
    have hstep : Orderly objectNames s
        (projectFields home name fields { s with taken := name :: s.taken }) :=
      ⟨hfields.inOrder, hfields.known⟩
    refine hstep.chain fun own later _ hown => ⟨fun hs => hs.concat hown, ?_⟩
    rintro _ -
    simp [names]

theorem project_orderly (home : Home) (dt : Datatype) (owner : String) (s : Drafts) :
    Orderly TypeExpr.objectNames s (project home owner dt s) := by
  induction dt using Datatype.formInduction generalizing owner s with
  | malformed name of fields nullable flaw hf =>
    rw [project_malformed home owner s hf]
    exact .error _
  | primitive name nullable p hf =>
    rw [project_primitive home owner s hf]
    refine .ok ?_
    rw [TypeExpr.objectNames_withNull, TypeExpr.objectNames_ofPrimitive]
    exact List.nil_subset _
  | custom name nullable r hf =>
    rw [project_custom home owner s hf]
    refine .ok ?_
    rw [TypeExpr.objectNames_withNull, Home.objectNames_ofRef]
    exact List.nil_subset _
  | list name of nullable hf ih =>
    rw [project_list home owner s hf]
    refine (ih owner s).chain fun item later _ hitem => .ok ?_
    rw [TypeExpr.objectNames_withNull]
    exact hitem
  | object name fields nullable hf ih =>
    rw [project_object home owner s hf]
    refine (record_orderly ih owner s).chain fun _ later _ howner => .ok ?_
    rw [TypeExpr.objectNames_withNull]
    exact howner

section Calls

/-- What is asked of one mapper: the type of a datatype, or a record of given fields. -/
inductive Call where
  | project (owner : String) (dt : Datatype)
  | record (name : String) (fields : List (String × Datatype))

/-- The state that a call leaves, whether it fails or not. -/
def Call.run (home : Home) : Call → Drafts → Drafts
  | .project owner dt, s => (Drafts.project home owner dt s).2
  | .record name fields, s => (Drafts.record home name fields s).2

def runAll (home : Home) (calls : List Call) (s : Drafts) : Drafts :=
  calls.foldl (fun s call => call.run home s) s

/-- What holds after any calls of the names and records, if these names were taken at first. -/
structure IsSound (taken : List String) (s : Drafts) : Prop where
  kept : taken ⊆ s.taken
  distinct : s.names.Nodup
  fresh : ∀ name ∈ s.names, name ∉ taken
  reserved : s.names ⊆ s.taken
  inOrder : InOrder s.records

theorem Call.run_adds (home : Home) (call : Call) (s : Drafts) :
    ∃ new, Adds s new (call.run home s) := by
  cases call with
  | project owner dt => exact project_adds home dt owner s
  | record name fields => exact record_adds (fun f _ => project_adds home f.2) name s

theorem Call.run_inOrder (call : Call) {s : Drafts} (h : InOrder s.records) :
    InOrder (call.run home s).records := by
  cases call with
  | project owner dt => exact (project_orderly home dt owner s).inOrder h
  | record name fields =>
    exact (record_orderly (fun f _ => project_orderly home f.2) name s).inOrder h

theorem runAll_adds (home : Home) (calls : List Call) (s : Drafts) :
    ∃ new, Adds s new (runAll home calls s) := by
  induction calls generalizing s with
  | nil => exact ⟨[], .refl s⟩
  | cons call rest ih =>
    obtain ⟨new, hn⟩ := call.run_adds home s
    obtain ⟨more, hm⟩ := ih (call.run home s)
    exact ⟨new ++ more, hn.trans hm⟩

theorem runAll_inOrder (calls : List Call) {s : Drafts} (h : InOrder s.records) :
    InOrder (runAll home calls s).records := by
  induction calls generalizing s with
  | nil => exact h
  | cons call rest ih => exact ih (call.run_inOrder h)

theorem isSound_runAll (home : Home) (taken : List String) (calls : List Call) :
    (runAll home calls ⟨taken, []⟩).IsSound taken := by
  obtain ⟨new, ha⟩ := runAll_adds home calls ⟨taken, []⟩
  have hnames : (runAll home calls ⟨taken, []⟩).names = new.map Record.name :=
    congrArg (List.map Record.name) ha.records
  exact {
    kept := ha.kept
    distinct := hnames ▸ ha.distinct
    fresh := by
      intro name hn
      obtain ⟨r, hr, rfl⟩ := List.mem_map.1 (hnames ▸ hn)
      exact (ha.fresh r hr).1
    reserved := by
      intro name hn
      obtain ⟨r, hr, rfl⟩ := List.mem_map.1 (hnames ▸ hn)
      exact (ha.fresh r hr).2
    inOrder := runAll_inOrder calls inOrder_nil }

/-- Whatever is asked of a mapper, in any order and with any failures: the names of its records are
distinct, new and taken, and a record comes after those it refers to. Further calls only add to the
names and records, and a record under a name that is taken is refused and changes nothing. -/
theorem mapper_stays_sound (home : Home) (taken : List String) (calls : List Call) :
    (runAll home calls ⟨taken, []⟩).IsSound taken ∧
    (∀ more : List Call,
      (runAll home calls ⟨taken, []⟩).records <+:
          (runAll home (calls ++ more) ⟨taken, []⟩).records ∧
        (runAll home calls ⟨taken, []⟩).taken ⊆ (runAll home (calls ++ more) ⟨taken, []⟩).taken) ∧
    ∀ name ∈ (runAll home calls ⟨taken, []⟩).taken, ∀ fields,
      record home name fields (runAll home calls ⟨taken, []⟩) =
        (.error (.duplicate .generatedType name), runAll home calls ⟨taken, []⟩) := by
  refine ⟨isSound_runAll home taken calls, fun more => ?_, fun name hn fields => ?_⟩
  · obtain ⟨new, ha⟩ := runAll_adds home more (runAll home calls ⟨taken, []⟩)
    have happ : runAll home (calls ++ more) ⟨taken, []⟩ =
        runAll home more (runAll home calls ⟨taken, []⟩) := List.foldl_append
    rw [happ]
    exact ⟨⟨new, ha.records.symm⟩, ha.kept⟩
  · exact declare_taken name _ hn

/-- A record whose second field fails leaves its name taken and the record of its first field. -/
example :
    let s := runAll ⟨"contacts", .types⟩ [.record "Address"
      [("geo", .node "object" none (some [("lat", .named "integer")]) false),
        ("zip", .named "no name")]] ⟨["Kind"], []⟩
    s.taken = ["AddressGeo", "Address", "Kind"] ∧ s.names = ["AddressGeo"] := by
  decide +kernel

end Calls

end Drafts

end EventSchema.Backend
