import EventSchema.Schema.Datatype

set_option autoImplicit false

namespace EventSchema.Datatype

theorem parts_of_formOf {name : String} {hasOf hasFields : Bool} {form : Form}
    (h : formOf name hasOf hasFields = .ok form) :
    hasOf = decide (form = .list) ∧ hasFields = decide (form = .object) := by
  unfold formOf at h
  repeat' split at h
  all_goals cases h
  all_goals simp_all

section Induction

set_option linter.unusedSectionVars false

variable {motive : Datatype → Prop}
  (malformed : ∀ name of fields nullable flaw,
    formOf name of.isSome fields.isSome = .error flaw → motive (.node name of fields nullable))
  (primitive : ∀ name nullable p, formOf name false false = .ok (.primitive p) →
    motive (.node name none none nullable))
  (custom : ∀ name nullable r, formOf name false false = .ok (.custom r) →
    motive (.node name none none nullable))
  (list : ∀ name of nullable, formOf name true false = .ok .list → motive of →
    motive (.node name (some of) none nullable))
  (object : ∀ name fields nullable, formOf name false true = .ok .object →
    (∀ f ∈ fields, motive f.2) → motive (.node name none (some fields) nullable))
include malformed primitive custom list object

mutual

/-- Induction over the form of a datatype and of all below it. -/
theorem formInduction : ∀ dt, motive dt
  | .node name none none nullable => by
    cases hf : formOf name false false with
    | error flaw => exact malformed name none none nullable flaw hf
    | ok form =>
      cases form with
      | primitive p => exact primitive name nullable p hf
      | custom r => exact custom name nullable r hf
      | list | object => simpa using parts_of_formOf hf
  | .node name (some dt) none nullable => by
    have ih := formInduction dt
    cases hf : formOf name true false with
    | error flaw => exact malformed name (some dt) none nullable flaw hf
    | ok form =>
      obtain rfl : form = .list := by simpa using (parts_of_formOf hf).1
      exact list name dt nullable hf ih
  | .node name none (some fields) nullable => by
    have ih := formInductionFields fields
    cases hf : formOf name false true with
    | error flaw => exact malformed name none (some fields) nullable flaw hf
    | ok form =>
      obtain rfl : form = .object := by simpa using (parts_of_formOf hf).2
      exact object name fields nullable hf ih
  | .node name (some dt) (some fields) nullable => by
    cases hf : formOf name true true with
    | error flaw => exact malformed name (some dt) (some fields) nullable flaw hf
    | ok form =>
      obtain ⟨rfl, ho⟩ : form = .list ∧ form = .object := by simpa using parts_of_formOf hf
      cases ho

theorem formInductionFields : ∀ fields : List (String × Datatype), ∀ f ∈ fields, motive f.2
  | [] => by simp
  | (_, dt) :: rest => List.forall_mem_cons.2 ⟨formInduction dt, formInductionFields rest⟩

end

end Induction

section Shapes

attribute [local simp] shape form Datatype.flaw Datatype.name Datatype.of Datatype.fields

variable {name : String} {nullable : Bool}

theorem shape_of_malformed {of : Option Datatype} {fields : Option (List (String × Datatype))}
    {flaw : DatatypeFlaw} (h : formOf name of.isSome fields.isSome = .error flaw) :
    (node name of fields nullable).shape = .error (.malformedDatatype name flaw) := by
  simp [h]

theorem shape_of_primitive {p : Primitive} (h : formOf name false false = .ok (.primitive p)) :
    (node name none none nullable).shape = .ok (.primitive p) := by
  simp [h]

theorem shape_of_custom {r : CustomRef} (h : formOf name false false = .ok (.custom r)) :
    (node name none none nullable).shape = .ok (.custom r) := by
  simp [h]

theorem shape_of_list {of : Datatype} (h : formOf name true false = .ok .list) :
    (node name (some of) none nullable).shape = .ok (.list of) := by
  simp [h]

theorem shape_of_object {fields : List (String × Datatype)}
    (h : formOf name false true = .ok .object) :
    (node name none (some fields) nullable).shape = .ok (.object fields) := by
  simp [h]

end Shapes

end EventSchema.Datatype
