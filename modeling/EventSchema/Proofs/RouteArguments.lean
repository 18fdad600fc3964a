import EventSchema.Proofs.Parameters

set_option autoImplicit false

namespace EventSchema

open Outcome

namespace Backend

section Routes

namespace RouteItem

theorem perm_insert (e : EndpointItem) (routes : List RouteItem) :
    ((insert e routes).flatMap endpoints).Perm (routes.flatMap endpoints ++ [e]) := by
  induction routes with
  | nil => exact .refl _
  | cons r rest ih =>
    rw [insert]
    split
    · simp only [List.flatMap_cons, List.append_assoc]
      exact List.perm_append_comm.append_left _
    · simpa only [List.flatMap_cons, List.append_assoc] using ih.append_left r.endpoints

def OnPath (r : RouteItem) : Prop :=
  ∀ e ∈ r.endpoints, e.route = r.path

theorem onPath_insert {e : EndpointItem} {routes : List RouteItem} (h : ∀ r ∈ routes, r.OnPath) :
    ∀ r ∈ insert e routes, r.OnPath := by
  induction routes with
  | nil => simp [insert, OnPath]
  | cons r rest ih =>
    obtain ⟨hr, hrest⟩ := List.forall_mem_cons.1 h
    rw [insert]
    split
    · next hp =>
      refine List.forall_mem_cons.2 ⟨fun other hm => ?_, hrest⟩
      rcases List.mem_append.1 hm with hm | hm
      · exact hr other hm
      · rw [List.mem_singleton.1 hm]
        exact hp.symm
    · exact List.forall_mem_cons.2 ⟨hr, ih hrest⟩

end RouteItem

namespace RestFile

theorem routesOf_spec (items : List EndpointItem) :
    ((routesOf items).flatMap RouteItem.endpoints).Perm items ∧
      ∀ r ∈ routesOf items, r.OnPath := by
  induction items using List.reverseRecOn with
  | nil => exact ⟨.refl _, by simp [routesOf]⟩
  | append_singleton items e ih =>
    have hstep : routesOf (items ++ [e]) = RouteItem.insert e (routesOf items) := by
      simp [routesOf]
    rw [hstep]
    exact ⟨(RouteItem.perm_insert e _).trans (ih.1.append_right [e]), RouteItem.onPath_insert ih.2⟩

end RestFile

end Routes

inductive RouteValue where
  | context
  | input
  | text (value : String)
  | tuple (values : List String)

/-- The values of the placeholders of a path as a value of a type: a single one as it is, several as
a tuple of as many texts. -/
def extract? (type : String) (values : List String) : Option RouteValue :=
  if type = "String" then
    match values with
    | [value] => some (.text value)
    | _ => none
  else if type = "(" ++ String.intercalate ", " (values.map fun _ => "String") ++ ")" then
    some (.tuple values)
  else none

def argument? (scope : List (String × RouteValue)) (code : String) : Option RouteValue :=
  match Text.splitAt (· == '.') code.toList with
  | [name] => scope.lookup (String.ofList name)
  | [name, index] =>
    match scope.lookup (String.ofList name) with
    | some (.tuple values) =>
      if index.all Char.isDigit then (values[Nat.ofDigitChars 10 index 0]?).map .text else none
    | _ => none
  | _ => none

theorem argument?_name {scope : List (String × RouteValue)} {name : String}
    (hn : Naming.isIdentifier name = true) : argument? scope name = scope.lookup name := by
  have hpoint : '.' ∉ name.toList := Naming.mark_not_mem hn rfl
  rw [argument?, Text.splitAt_eq_singleton (Text.not_cut_of_not_mem hpoint)]
  simp

theorem argument?_field {scope : List (String × RouteValue)} {values : List String}
    (hs : scope.lookup "params" = some (.tuple values)) (i : Nat) :
    argument? scope ("params." ++ EndpointItem.countText i) = values[i]?.map .text := by
  have htext : ("params." ++ EndpointItem.countText i).toList =
      "params".toList ++ '.' :: Nat.toDigits 10 i := by
    simp [EndpointItem.countText]
  have hdigits : ∀ c ∈ Nat.toDigits 10 i, c.isDigit = true :=
    fun c hc => Nat.isDigit_of_mem_toDigits (by decide) (by decide) hc
  have hpoint : '.' ∉ Nat.toDigits 10 i := fun hm => absurd (hdigits _ hm) (by decide)
  have hname : '.' ∉ "params".toList := Naming.mark_not_mem (by decide) rfl
  rw [argument?, htext, Text.splitAt_append_cons (Text.not_cut_of_not_mem hname) rfl,
    Text.splitAt_eq_singleton (Text.not_cut_of_not_mem hpoint)]
  simp only [String.ofList_toList, hs]
  rw [if_pos (List.all_eq_true.2 hdigits), Nat.ofDigitChars_toDigits (by decide) (by decide)]

namespace EndpointItem

/-- The variables that the call of a handler can use, if the placeholders have these values. -/
def scope? (e : EndpointItem) (values : List String) : Option (List (String × RouteValue)) :=
  let input := if e.input.isSome then [("input", .input)] else []
  match e.pathBinding with
  | none => some (("rctx", .context) :: input)
  | some (name, type) =>
    (extract? type values).map fun value => ("rctx", .context) :: (name, value) :: input

theorem extract?_tuple (values : List String) :
    extract? ("(" ++ String.intercalate ", " (values.map fun _ => "String") ++ ")") values =
      some (.tuple values) := by
  have hne : "(" ++ String.intercalate ", " (values.map fun _ => "String") ++ ")" ≠ "String" := by
    intro h
    have hhead := congrArg (fun text => text.toList.head?) h
    simp at hhead
  unfold extract?
  rw [if_neg hne, if_pos rfl]

theorem mapM_fields {scope : List (String × RouteValue)} {values : List String}
    (hs : scope.lookup "params" = some (.tuple values)) :
    ((List.range values.length).map fun i => "params." ++ countText i).mapM (argument? scope) =
      some (values.map .text) := by
  have hfields : ∀ i ∈ List.range values.length,
      argument? scope ("params." ++ countText i) = some (.text (values[i]?.getD "")) := by
    intro i hi
    rw [argument?_field hs, List.getElem?_eq_getElem (List.mem_range.1 hi)]
    rfl
  rw [List.mapM_map]
  refine (mapM_eq_some_map hfields).trans (congrArg some ?_)
  refine List.ext_getElem (by simp) fun i h₁ h₂ => ?_
  have hi : i < values.length := by simpa using h₂
  simp [hi]

theorem callArgs_spec (e : EndpointItem) {values : List String}
    (hl : values.length = e.params.length) :
    ∃ scope, e.scope? values = some scope ∧ e.callArgs.mapM (argument? scope) =
      some (.context :: values.map .text ++ if e.input.isSome then [.input] else []) := by
  have hname : ∀ name ∈ ["rctx", "param", "input"], Naming.isIdentifier name = true := by decide
  have hargument : ∀ name ∈ ["rctx", "param", "input"], ∀ scope,
      argument? scope name = scope.lookup name :=
    fun name hm scope => argument?_name (hname name hm)
  unfold scope? pathBinding callArgs
  cases hp : e.params with
  | nil =>
    obtain rfl : values = [] := by simpa [hp] using hl
    cases e.input with
    | none => simp [hargument]
    | some type => simp [hargument, Text.lookup_cons_ite]
  | cons param rest =>
    cases rest with
    | nil =>
      obtain ⟨value, rfl⟩ := List.length_eq_one_iff.1 (hl.trans (by rw [hp]; rfl))
      cases e.input with
      | none => simp [hargument, Text.lookup_cons_ite, extract?]
      | some type => simp [hargument, Text.lookup_cons_ite, extract?]
    | cons next rest =>
      rw [hp] at hl
      have htype : (param :: next :: rest).map (fun _ => "String") =
          values.map fun _ => "String" := by
        rw [List.map_const', List.map_const', hl]
      simp only [htype, extract?_tuple, Option.map_some]
      refine ⟨_, rfl, ?_⟩
      rw [← hl, List.cons_append, List.mapM_cons, List.mapM_append,
        mapM_fields (by simp [Text.lookup_cons_ite])]
      cases e.input with
      | none => simp [hargument]
      | some type => simp [hargument, Text.lookup_cons_ite]

end EndpointItem

end Backend

end EventSchema
