import EventSchema.Proofs.AddedMembers
import EventSchema.Proofs.EventLog
import Mathlib.Data.List.Count

/-!
Logs of a newer build, whose payloads have members that this build does not declare. The records of
events are not strict and pass over such a member, wherever it is put into their values. A contact
is a shared record, which is strict: it refuses the member, and with it the line.
-/

set_option autoImplicit false

namespace EventSchema

open Json

/-- Two lines whose payloads differ. -/
def InPayload (R : Tree → Tree → Prop) (line other : String) : Prop :=
  ∃ t u, Tree.ofText? line = some t ∧ Tree.ofText? other = some u ∧
    Tree.InField ["_", "meta", "payload"] "payload" R t u

theorem InPayload.imp {R S : Tree → Tree → Prop} {line other : String}
    (hrs : ∀ {t u}, R t u → S t u) (h : InPayload R line other) : InPayload S line other := by
  obtain ⟨t, u, ht, hu, hin⟩ := h
  exact ⟨t, u, ht, hu, hin.imp hrs⟩

namespace Json.Tree

theorem keys_of_mapM {members : List (Option String × Tree)} {keys : List String}
    (h : members.mapM Prod.fst = some keys) : members.map Prod.fst = keys.map some := by
  induction members generalizing keys with
  | nil =>
    cases h
    rfl
  | cons m members ih =>
    rw [List.mapM_cons] at h
    simp only [Option.bind_eq_bind, Option.bind_eq_some_iff] at h
    obtain ⟨key, hkey, rest, hrest, h⟩ := h
    cases h
    rw [List.map_cons, List.map_cons, hkey, ih hrest]

theorem lookup_before {before after : List (Option String × Tree)} {name : String} {t : Tree}
    {keys names : List String} (hn : name ∈ names)
    (hkeys : (before ++ (some name, t) :: after).mapM Prod.fst = some keys)
    (honce : Text.firstRepeat (keys.filter names.contains) = none) :
    before.lookup (some name) = none := by
  have hmap := keys_of_mapM hkeys
  have hcount : (keys.filter names.contains).count name ≤ 1 :=
    List.nodup_iff_count_le_one.1 (Text.firstRepeat_eq_none.1 honce) name
  rw [List.count_filter (by simpa using hn),
    ← List.count_map_of_injective keys some (Option.some_injective _), ← hmap] at hcount
  refine List.lookup_eq_none_iff.2 fun m hm => bne_iff_ne.2 fun he => ?_
  have hpos : 0 < (before.map Prod.fst).count (some name) :=
    List.count_pos_iff.2 (he ▸ List.mem_map_of_mem hm)
  simp only [List.map_append, List.map_cons, List.count_append, List.count_cons_self] at hcount
  omega

theorem fields?_payload {before after : List (Option String × Tree)} {p : Tree}
    {keys : List String}
    (hkeys : (before ++ (some "payload", p) :: after).mapM Prod.fst = some keys)
    (honce : Text.firstRepeat (keys.filter ["_", "meta", "payload"].contains) = none) :
    fields? ["_", "meta", "payload"] (.obj (before ++ (some "payload", p) :: after)) =
      ((before ++ after).lookup (some "_")).bind fun kind =>
        ((before ++ after).lookup (some "meta")).map fun info => [kind, info, p] := by
  have hpayload : (before ++ (some "payload", p) :: after).lookup (some "payload") = some p := by
    simp [List.lookup_append, lookup_before (by simp) hkeys honce]
  have hother : ∀ name, name ≠ "payload" →
      (before ++ (some "payload", p) :: after).lookup (some name) =
        (before ++ after).lookup (some name) := by
    intro name hname
    simp [List.lookup_append, List.lookup_cons, beq_eq_false_iff_ne.2 hname]
  simp only [fields?, hkeys, honce, Option.bind_eq_bind, Option.bind_some, List.mapM_cons,
    List.mapM_nil, hpayload, hother "_" (by decide), hother "meta" (by decide)]
  cases (before ++ after).lookup (some "_") <;> cases (before ++ after).lookup (some "meta") <;> rfl

theorem InField.fields?_apart {R : Tree → Tree → Prop} {t u kind info p : Tree}
    (h : InField ["_", "meta", "payload"] "payload" R t u)
    (ht : t.fields? ["_", "meta", "payload"] = some [kind, info, p]) :
    ∃ q, R p q ∧ u.fields? ["_", "meta", "payload"] = some [kind, info, q] ∧
      ∀ S : Tree → Tree → Prop, S p q → InField ["_", "meta", "payload"] "payload" S t u := by
  cases h with
  | @member p' q before after hlast h =>
    have hread := ht
    simp only [fields?, Option.bind_eq_bind, Option.bind_eq_some_iff] at hread
    obtain ⟨keys, hkeys, hread⟩ := hread
    have honce : Text.firstRepeat (keys.filter ["_", "meta", "payload"].contains) = none := by
      simpa using (Option.ite_none_left_eq_some.1 hread).1
    have hsame : (before ++ (some "payload", q) :: after).mapM Prod.fst = some keys := by
      simpa [List.mapM_append] using hkeys
    rw [fields?_payload hkeys honce] at ht
    rw [fields?_payload hsame honce]
    obtain ⟨kind', hkind, ht⟩ := Option.bind_eq_some_iff.1 ht
    obtain ⟨info', hinfo, ht⟩ := Option.map_eq_some_iff.1 ht
    cases ht
    exact ⟨q, h, by rw [hkind, hinfo]; rfl, fun S hs => .member hlast hs⟩
  | @item p' q before after hpos h =>
    obtain ⟨-, ht⟩ := Option.ite_none_right_eq_some.1 ht
    have htwo : before.length = 2 := hpos.symm
    obtain ⟨a, b, rfl⟩ := List.length_eq_two.1 htwo
    cases ht
    exact ⟨q, h, rfl, fun S hs => .item hpos hs⟩

end Json.Tree

section Decoding

variable {α : Type} {family : EventFamily α} {R : Tree → Tree → Prop} {line other : String}

theorem Envelope.ofText?_eq_some {e : Envelope} (h : Envelope.ofText? line = some e) :
    ∃ t kind info p v, Tree.ofText? line = some t ∧
      t.fields? ["_", "meta", "payload"] = some [kind, info, p] ∧ kind.text? = some e.kind ∧
      EventMeta.ofTree? info = some e.info ∧ p.value? (maxDepth - 1) = some v ∧
      v.collapse = e.payload := by
  obtain ⟨t, ht, he⟩ := Option.bind_eq_some_iff.1 h
  simp only [ofTree?, Option.bind_eq_bind, Option.bind_eq_some_iff] at he
  obtain ⟨fields, hfields, he⟩ := he
  split at he
  · next kind info p =>
    simp only [Option.bind_eq_some_iff] at he
    obtain ⟨k, hk, m, hm, v, hv, he⟩ := he
    cases he
    exact ⟨t, kind, info, p, v, ht, hfields, hk, hm, hv, rfl⟩
  · cases he

/-- What another payload comes to in the line of a known event. -/
theorem EventFamily.decode_inPayload {info : EventMeta} {event : α}
    (hd : family.decode line = .ok (.known info event)) (h : InPayload R line other) :
    ∃ p q v kind decode?, R p q ∧
      (∀ S : Tree → Tree → Prop, S p q → InPayload S line other) ∧
      p.value? (maxDepth - 1) = some v ∧
      family.decoders.get? kind = some decode? ∧ decode? v.collapse = some event ∧
      (q.value? (maxDepth - 1) = none → family.decode other = .error .envelope) ∧
      ∀ w, q.value? (maxDepth - 1) = some w →
        (decode? w.collapse = none → family.decode other = .error (.payload kind)) ∧
        ∀ event, decode? w.collapse = some event →
          family.decode other = .ok (.known info event) := by
  obtain ⟨e, he, ⟨-, hunknown⟩ | ⟨decode?, event', hget, hevent, hknown⟩⟩ := decode_eq_ok hd
  · cases hunknown
  cases hknown
  obtain ⟨t, kind, rest, p, v, ht, hfields, hkind, hinfo, hv, hpayload⟩ :=
    Envelope.ofText?_eq_some he
  obtain ⟨t', u, ht', hu, hin⟩ := h
  cases ht.symm.trans ht'
  obtain ⟨q, hr, hq, hin⟩ := hin.fields?_apart hfields
  have hother : Envelope.ofText? other =
      (q.value? (maxDepth - 1)).map fun w => ⟨e.kind, e.info, w.collapse⟩ := by
    rw [Envelope.ofText?, hu, Option.bind_some, Envelope.ofTree?, hq]
    simp only [Option.bind_eq_bind, Option.bind_some, hkind, hinfo]
    cases q.value? (maxDepth - 1) <;> rfl
  refine ⟨p, q, v, e.kind, decode?, hr, fun S hs => ⟨t, u, ht, hu, hin S hs⟩, hv, hget,
    hpayload ▸ hevent, fun hnone => ?_, fun w hw => ⟨fun hnone => ?_, fun event hsome => ?_⟩⟩
  · simp only [decode, hother, hnone, Option.map_none]
  · simp only [decode, hother, hw, Option.map_some, hget, hnone]
  · simp only [decode, hother, hw, Option.map_some, hget, hsome]

end Decoding

section Written

theorem memberTreesOf_append (front back : List (String × Json)) :
    memberTreesOf (front ++ back) = memberTreesOf front ++ memberTreesOf back := by
  induction front with
  | nil => rfl
  | cons m front ih =>
    obtain ⟨key, v⟩ := m
    rw [List.cons_append, memberTreesOf, memberTreesOf, ih, List.cons_append]

theorem inserts_treeOf (front back : List (String × Json)) (key : String) (v : Json) :
    Tree.Inserts key (treeOf v) (treeOf (.obj (front ++ back)))
      (treeOf (.obj (front ++ (key, v) :: back))) := by
  rw [treeOf, treeOf, memberTreesOf_append, memberTreesOf_append, memberTreesOf]
  exact .mk

theorem inField_treeOf {names : List String} {name : String} {R : Tree → Tree → Prop} {v w : Json}
    (front back : List (String × Json)) (hlast : name ∉ back.map Prod.fst)
    (h : R (treeOf v) (treeOf w)) :
    Tree.InField names name R (treeOf (.obj (front ++ (name, v) :: back)))
      (treeOf (.obj (front ++ (name, w) :: back))) := by
  have hkeys : ∀ members : List (String × Json),
      (memberTreesOf members).map Prod.fst = (members.map Prod.fst).map some := by
    intro members
    induction members with
    | nil => rfl
    | cons m members ih =>
      obtain ⟨key, v⟩ := m
      rw [memberTreesOf, List.map_cons, ih]
      rfl
  simp only [treeOf, memberTreesOf_append, memberTreesOf]
  refine .member ?_ h
  rw [hkeys]
  simpa using hlast

theorem inPayload_text {R : Tree → Tree → Prop} {kind : String} {info : EventMeta} {v w : Json}
    (hv : v.IsWhole) (hw : w.IsWhole) (h : R (treeOf v) (treeOf w)) :
    InPayload R (Envelope.text ⟨kind, info, v⟩) (Envelope.text ⟨kind, info, w⟩) :=
  ⟨_, _, Tree.ofText?_compact (Envelope.isWhole_toJson hv),
    Tree.ofText?_compact (Envelope.isWhole_toJson hw),
    inField_treeOf [("_", .str kind), ("meta", info.toJson)] [] (List.not_mem_nil) h⟩

end Written

namespace Sample

variable {key : String} {added t u : Tree} {levels depth : Nat} {v w : Json}

theorem Location.ofJson?_passedOver (h : Tree.PassedOver key added ["Url"] levels t u)
    (ht : t.value? depth = some v) (hu : u.value? depth = some w) :
    Location.ofJson? w.collapse = Location.ofJson? v.collapse := by
  rw [Location.ofJson?, Location.ofJson?, h.exactRecord?_eq ht hu]

theorem Location.passedOver_of_gains (h : Tree.Gains key added levels t u) (hk : key ≠ "Url")
    (ht : t.value? depth = some v) {l : Location} (hv : Location.ofJson? v.collapse = some l) :
    Tree.Overwritten key added levels t u ∨ Tree.PassedOver key added ["Url"] levels t u := by
  have hn : ["Url"].Nodup := by decide
  obtain ⟨parts, hparts, hv⟩ := Option.bind_eq_some_iff.1 hv
  obtain ⟨f, hf⟩ := exists_map_of_exactRecord? hn hparts
  rcases h.passedOver_or_inField (by simpa using hk) hn ht hparts with
    h | h | ⟨name, hm, below, -, h⟩
  · exact .inl h
  · exact .inr h
  · obtain rfl := List.mem_singleton.1 hm
    obtain ⟨t', u', _, a, h, ha, hurl, -⟩ := h.exactRecord?_field hn hm ht hf
    cases hparts.symm.trans hf
    simp [hurl, required?, h.text?_eq_none ha] at hv

namespace Contact

def names : List String := ["email", "kind", "name", "tags"]

def kindNames : List String := ["person", "company"]

/-- A member of another name is added to the contact itself, or to the object that stands for its
kind. -/
inductive Refuses (key : String) (added : Tree) : Nat → Tree → Tree → Prop
  | record {t u : Tree} (hk : key ∉ names) (h : Tree.Inserts key added t u) :
      Refuses key added 1 t u
  | kind {t u : Tree} (hk : key ∉ kindNames)
      (h : Tree.InField names "kind" (Tree.Inserts key added) t u) : Refuses key added 2 t u

theorem Refuses.gains (h : Refuses key added levels t u) : Tree.Gains key added levels t u := by
  cases h with
  | record _ h => exact .here h
  | kind _ h => exact h.gains .here

theorem ofJson?_of_names {f : String → Option Json}
    (h : exactRecord? true names v = some (names.map f)) :
    ofJson? v = (optional? text? (f "email")).bind fun email =>
      (required? ContactKind.ofJson? (f "kind")).bind fun kind =>
        (required? text? (f "name")).bind fun name =>
          (required? (list? text?) (f "tags")).bind fun tags => some ⟨email, kind, name, tags⟩ := by
  rw [names] at h
  rw [ofJson?, h]
  rfl

theorem Refuses.ofJson?_eq_none (h : Refuses key added levels t u)
    (ht : t.value? depth = some v) (hu : u.value? depth = some w) {c : Contact}
    (hv : ofJson? v.collapse = some c) : ofJson? w.collapse = none := by
  cases h with
  | record hk h =>
    have hread := h.exactRecord?_eq_none hk hu
    rw [names] at hread
    rw [ofJson?, hread]
    rfl
  | kind hk h =>
    obtain ⟨parts, hparts, -⟩ := Option.bind_eq_some_iff.1 hv
    obtain ⟨t', u', below, a, b, f, g, hin, -, hb, -, hg, -, -, hread⟩ :=
      h.exactRecord?_apart (by decide) ht hu (exactRecord?_of_strict hparts)
    have hkind : ContactKind.ofJson? b.collapse = none := by
      refine Option.eq_none_iff_forall_ne_some.2 fun x hx => ?_
      obtain ⟨members, rfl, hget⟩ := hin.exists_obj hb
      obtain ⟨value, hvalue⟩ := Option.isSome_iff_exists.1 hget
      have hfound := (eq_of_variant?_collapse hx hvalue).2
      obtain ⟨front, back, hsplit, -⟩ := List.lookup_eq_some_iff.1 hfound
      have hkinds : kindNames = (front ++ (key, x) :: back).map Prod.fst :=
        congrArg (List.map Prod.fst) hsplit
      exact hk (by simp [hkinds])
    cases hw : exactRecord? true names w.collapse with
    | none =>
      rw [names] at hw
      rw [ofJson?, hw]
      rfl
    | some parts =>
      cases (exactRecord?_of_strict hw).symm.trans hread
      rw [ofJson?_of_names hw, hg, required?, hkind]
      cases optional? text? (g "email") <;> rfl

theorem overwritten_or_refuses (h : Tree.Gains key added levels t u) (hk : key ∉ names)
    (hkind : key ∉ kindNames) (ht : t.value? depth = some v) {c : Contact}
    (hv : ofJson? v.collapse = some c) :
    Tree.Overwritten key added levels t u ∨ Refuses key added levels t u := by
  have hn : names.Nodup := by decide
  obtain ⟨parts, hstrict, -⟩ := Option.bind_eq_some_iff.1 hv
  have hparts := exactRecord?_of_strict hstrict
  obtain ⟨f, hf⟩ := exists_map_of_exactRecord? hn hparts
  cases hparts.symm.trans hf
  rw [ofJson?_of_names hstrict] at hv
  obtain ⟨email, hemail, hv⟩ := Option.bind_eq_some_iff.1 hv
  obtain ⟨kind, hread, hv⟩ := Option.bind_eq_some_iff.1 hv
  obtain ⟨name, hname, hv⟩ := Option.bind_eq_some_iff.1 hv
  obtain ⟨tags, htags, -⟩ := Option.bind_eq_some_iff.1 hv
  rcases h.passedOver_or_inField hk hn ht hparts with hlost | hpassed | ⟨field, hm, below, rfl, hin⟩
  · exact .inl hlost
  · obtain ⟨rfl, hinserts⟩ := hpassed.inserts_of_strict ht hstrict
    exact .inr (.record hk hinserts)
  obtain ⟨t', u', _, a, hgains, ha, hfield, hplace⟩ := hin.exactRecord?_field hn hm ht hf
  have hcases : field = "email" ∨ field = "kind" ∨ field = "name" ∨ field = "tags" := by
    simpa [names] using hm
  rcases hcases with rfl | rfl | rfl | rfl
  · rw [hfield, Field.optional?_some (hgains.ne_null ha), hgains.text?_eq_none ha] at hemail
    cases hemail
  · rw [hfield, required?] at hread
    rcases hgains.overwritten_or_inserts ha hread with hlost | ⟨rfl, hinserts⟩
    · exact .inl (hplace _ hlost).overwritten
    · exact .inr (.kind hkind (hplace _ hinserts))
  · rw [hfield, required?, hgains.text?_eq_none ha] at hname
    cases hname
  · rw [hfield, required?, hgains.texts?_eq_none ha] at htags
    cases htags

end Contact

namespace AccountCreated

def names : List String := ["Title", "Owner", "Location"]

theorem ofJson?_passedOver (h : Tree.PassedOver key added names levels t u)
    (ht : t.value? depth = some v) (hu : u.value? depth = some w) :
    ofJson? w.collapse = ofJson? v.collapse := by
  have hread := h.exactRecord?_eq ht hu
  rw [names] at hread
  rw [ofJson?, ofJson?, hread]

theorem ofJson?_of_names {f : String → Option Json}
    (h : exactRecord? false names v = some (names.map f)) :
    ofJson? v = (required? text? (f "Title")).bind fun title =>
      (optional? Contact.ofJson? (f "Owner")).bind fun owner =>
        (required? Location.ofJson? (f "Location")).bind fun location =>
          some ⟨title, owner, location⟩ := by
  rw [names] at h
  rw [ofJson?, h]
  rfl

theorem exactRecord?_of_ofJson? {e : AccountCreated} (h : ofJson? v = some e) :
    ∃ parts, exactRecord? false names v = some parts := by
  obtain ⟨parts, hparts, -⟩ := Option.bind_eq_some_iff.1 h
  exact ⟨parts, hparts⟩

theorem ofJson?_location
    (h : Tree.InField names "Location" (Tree.PassedOver key added ["Url"] levels) t u)
    (ht : t.value? depth = some v) (hu : u.value? depth = some w) {e : AccountCreated}
    (hv : ofJson? v.collapse = some e) : ofJson? w.collapse = some e := by
  obtain ⟨parts, hparts⟩ := exactRecord?_of_ofJson? hv
  obtain ⟨t', u', below, a, b, f, g, hin, ha, hb, hf, hg, hother, rfl, hread⟩ :=
    h.exactRecord?_apart (by decide) ht hu hparts
  have hlocation := Location.ofJson?_passedOver hin ha hb
  rw [ofJson?_of_names hparts, hf, required?] at hv
  rw [ofJson?_of_names hread, hother "Title" (by decide) (by decide),
    hother "Owner" (by decide) (by decide), hg, required?, hlocation]
  exact hv

theorem ofJson?_owner
    (h : Tree.InField names "Owner" (Contact.Refuses key added levels) t u)
    (ht : t.value? depth = some v) (hu : u.value? depth = some w) {e : AccountCreated}
    (hv : ofJson? v.collapse = some e) : ofJson? w.collapse = none := by
  obtain ⟨parts, hparts⟩ := exactRecord?_of_ofJson? hv
  obtain ⟨t', u', below, a, b, f, g, hin, ha, hb, hf, hg, hother, rfl, hread⟩ :=
    h.exactRecord?_apart (by decide) ht hu hparts
  obtain ⟨c, hc⟩ : ∃ c, Contact.ofJson? a.collapse = some c := by
    rw [ofJson?_of_names hparts, hf, Field.optional?_some (hin.gains.ne_null ha)] at hv
    obtain ⟨title, -, hv⟩ := Option.bind_eq_some_iff.1 hv
    obtain ⟨owner, howner, -⟩ := Option.bind_eq_some_iff.1 hv
    obtain ⟨c, hc, -⟩ := Option.map_eq_some_iff.1 howner
    exact ⟨c, hc⟩
  rw [ofJson?_of_names hread, hg, Field.optional?_some (hin.gains.ne_null_after hb),
    hin.ofJson?_eq_none ha hb hc]
  cases required? text? (g "Title") <;> rfl

theorem overwritten_or_inField (h : Tree.Gains key added levels t u) (hk : key ∉ names)
    (hurl : key ≠ "Url") (hcontact : key ∉ Contact.names) (hkind : key ∉ Contact.kindNames)
    (ht : t.value? depth = some v) {e : AccountCreated} (hv : ofJson? v.collapse = some e) :
    Tree.Overwritten key added levels t u ∨ Tree.PassedOver key added names levels t u ∨
      ∃ below, levels = below + 1 ∧
        (Tree.InField names "Location" (Tree.PassedOver key added ["Url"] below) t u ∨
          Tree.InField names "Owner" (Contact.Refuses key added below) t u) := by
  have hn : names.Nodup := by decide
  obtain ⟨parts, hparts⟩ := exactRecord?_of_ofJson? hv
  obtain ⟨f, hf⟩ := exists_map_of_exactRecord? hn hparts
  rw [ofJson?_of_names hf] at hv
  obtain ⟨title, htitle, hv⟩ := Option.bind_eq_some_iff.1 hv
  obtain ⟨owner, howner, hv⟩ := Option.bind_eq_some_iff.1 hv
  obtain ⟨location, hlocation, -⟩ := Option.bind_eq_some_iff.1 hv
  rcases h.passedOver_or_inField hk hn ht hparts with hlost | hpassed | ⟨name, hm, below, rfl, hin⟩
  · exact .inl hlost
  · exact .inr (.inl hpassed)
  obtain ⟨t', u', _, a, hgains, ha, hfield, hplace⟩ := hin.exactRecord?_field hn hm ht hf
  have hcases : name = "Title" ∨ name = "Owner" ∨ name = "Location" := by simpa [names] using hm
  rcases hcases with rfl | rfl | rfl
  · -- a title is a text, which has no members
    rw [hfield, required?, hgains.text?_eq_none ha] at htitle
    cases htitle
  · rw [hfield, Field.optional?_some (hgains.ne_null ha)] at howner
    obtain ⟨c, hc, -⟩ := Option.map_eq_some_iff.1 howner
    rcases Contact.overwritten_or_refuses hgains hcontact hkind ha hc with hlost | hrefused
    · exact .inl (hplace _ hlost).overwritten
    · exact .inr (.inr ⟨below, rfl, .inr (hplace _ hrefused)⟩)
  · rw [hfield, required?] at hlocation
    rcases Location.passedOver_of_gains hgains hurl ha hlocation with hlost | hpassed
    · exact .inl (hplace _ hlost).overwritten
    · exact .inr (.inr ⟨below, rfl, .inl (hplace _ hpassed)⟩)

end AccountCreated

namespace AccountEvent

inductive PassesOver (key : String) (added : Tree) : String → Nat → Tree → Tree → Prop
  | overwritten {kind : String} {levels : Nat} {t u : Tree}
      (h : Tree.Overwritten key added levels t u) : PassesOver key added kind levels t u
  | created {levels : Nat} {t u : Tree}
      (h : Tree.PassedOver key added AccountCreated.names levels t u) :
      PassesOver key added "account.Created" levels t u
  | location {levels : Nat} {t u : Tree}
      (h : Tree.InField AccountCreated.names "Location"
        (Tree.PassedOver key added ["Url"] levels) t u) :
      PassesOver key added "account.Created" (levels + 1) t u
  | deleted {levels : Nat} {t u : Tree} (h : Tree.PassedOver key added [] levels t u) :
      PassesOver key added "account.Deleted" levels t u

inductive Refuses (key : String) (added : Tree) : String → Nat → Tree → Tree → Prop
  | owner {levels : Nat} {t u : Tree}
      (h : Tree.InField AccountCreated.names "Owner" (Contact.Refuses key added levels) t u) :
      Refuses key added "account.Created" (levels + 1) t u

variable {kind line other : String} {info : EventMeta} {event : AccountEvent}

/-- All names that the schema of these events declares: of fields, and of kinds of contacts. -/
def declaredNames : List String :=
  AccountCreated.names ++ ["Url"] ++ Contact.names ++ Contact.kindNames

theorem PassesOver.gains (h : PassesOver key added kind levels t u) :
    Tree.Gains key added levels t u := by
  cases h with
  | overwritten h => exact h.gains
  | created h => exact h.gains
  | location h => exact h.gains fun h => h.gains
  | deleted h => exact h.gains

theorem Refuses.gains (h : Refuses key added kind levels t u) :
    Tree.Gains key added levels t u := by
  obtain ⟨h⟩ := h
  exact h.gains fun h => h.gains

section Readers

variable {decode? : Json → Option AccountEvent} (hget : family.decoders.get? kind = some decode?)
include hget

theorem decode?_passesOver (h : PassesOver key added kind levels t u)
    (ht : t.value? depth = some v) (hu : u.value? depth = some w)
    (hv : decode? v.collapse = some event) : decode? w.collapse = some event := by
  rw [decoders_get?] at hget
  cases h with
  | overwritten h => rw [h.collapse_eq ht hu, hv]
  | created h =>
    cases hget
    exact (congrArg (Option.map created) (AccountCreated.ofJson?_passedOver h ht hu)).trans hv
  | location h =>
    cases hget
    obtain ⟨e, he, rfl⟩ := Option.map_eq_some_iff.1 hv
    exact congrArg (Option.map created) (AccountCreated.ofJson?_location h ht hu he)
  | deleted h =>
    cases hget
    rw [deletedOfJson?, h.exactRecord?_eq ht hu]
    exact hv

theorem decode?_refuses (h : Refuses key added kind levels t u)
    (ht : t.value? depth = some v) (hu : u.value? depth = some w)
    (hv : decode? v.collapse = some event) : decode? w.collapse = none := by
  obtain ⟨h⟩ := h
  rw [decoders_get?] at hget
  cases hget
  obtain ⟨e, he, -⟩ := Option.map_eq_some_iff.1 hv
  exact congrArg (Option.map created) (AccountCreated.ofJson?_owner h ht hu he)

/-- Where a member of another name can be added to a payload. -/
theorem passesOver_or_refuses (h : Tree.Gains key added levels t u) (hk : key ∉ declaredNames)
    (ht : t.value? depth = some v) (hv : decode? v.collapse = some event) :
    PassesOver key added kind levels t u ∨ Refuses key added kind levels t u := by
  simp only [declaredNames, List.mem_append, not_or, List.mem_singleton] at hk
  obtain ⟨⟨⟨hnames, hurl⟩, hcontact⟩, hkinds⟩ := hk
  rw [decoders_get?, Text.lookup_cons_ite, Text.lookup_cons_ite] at hget
  split at hget
  · next hkind =>
    cases hget
    obtain ⟨e, he, -⟩ := Option.map_eq_some_iff.1 hv
    rw [hkind]
    rcases AccountCreated.overwritten_or_inField h hnames hurl hcontact hkinds ht he with
      h | h | ⟨below, rfl, h | h⟩
    · exact .inl (.overwritten h)
    · exact .inl (.created h)
    · exact .inl (.location h)
    · exact .inr (.owner h)
  · split at hget
    · next hkind =>
      cases hget
      obtain ⟨parts, hparts, -⟩ := Option.map_eq_some_iff.1 hv
      rw [hkind]
      rcases h.passedOver_or_inField List.not_mem_nil .nil ht hparts with h | h | ⟨_, hm, -⟩
      · exact .inl (.overwritten h)
      · exact .inl (.deleted h)
      · cases hm
    · cases hget

end Readers

section Lines

variable (hd : family.decode line = .ok (.known info event))
include hd

theorem inPayload_passesOver_or_refuses (hk : key ∉ declaredNames)
    (h : InPayload (Tree.Gains key added levels) line other) :
    InPayload (PassesOver key added event.kind levels) line other ∨
      InPayload (Refuses key added event.kind levels) line other := by
  obtain ⟨p, q, v, kind, decode?, hr, hplace, hv, hget, hevent, -⟩ :=
    EventFamily.decode_inPayload hd h
  obtain rfl : event.kind = kind := lawful.kind_of_decoded hget hevent
  exact (passesOver_or_refuses hget hr hk hv hevent).imp (hplace _) (hplace _)

theorem decode_passesOver (h : InPayload (PassesOver key added event.kind levels) line other) :
    family.decode other =
      if (added.value? (maxDepth - 1 - levels)).isSome then .ok (.known info event)
      else .error .envelope := by
  obtain ⟨p, q, v, kind, decode?, hr, -, hv, hget, hevent, hnone, hsome⟩ :=
    EventFamily.decode_inPayload hd h
  obtain rfl : event.kind = kind := lawful.kind_of_decoded hget hevent
  rw [← hr.gains.isSome_value? (Option.isSome_of_mem hv)]
  cases hq : q.value? (maxDepth - 1) with
  | none => exact hnone hq
  | some w => exact (hsome w hq).2 event (decode?_passesOver hget hr hv hq hevent)

theorem decode_refuses (h : InPayload (Refuses key added event.kind levels) line other) :
    family.decode other = .error
      (if (added.value? (maxDepth - 1 - levels)).isSome then .payload event.kind
      else .envelope) := by
  obtain ⟨p, q, v, kind, decode?, hr, -, hv, hget, hevent, hnone, hsome⟩ :=
    EventFamily.decode_inPayload hd h
  obtain rfl : event.kind = kind := lawful.kind_of_decoded hget hevent
  rw [← hr.gains.isSome_value? (Option.isSome_of_mem hv)]
  cases hq : q.value? (maxDepth - 1) with
  | none => exact hnone hq
  | some w => exact (hsome w hq).1 (decode?_refuses hget hr hv hq hevent)

end Lines

/-- The other line says the same, with a member more that can be read and is passed over. -/
inductive Extends (line other : String) : Prop
  | intro {info : EventMeta} {event : AccountEvent} {key : String} {added : Tree} {levels : Nat}
      (hd : family.decode line = .ok (.known info event))
      (h : InPayload (PassesOver key added event.kind levels) line other)
      (hr : (added.value? (maxDepth - 1 - levels)).isSome)

theorem Extends.decode_eq (h : Extends line other) : family.decode other = family.decode line := by
  obtain ⟨hd, h, hr⟩ := h
  rw [decode_passesOver hd h, if_pos hr, hd]

theorem decode_eq_of_extends (h : Relation.ReflTransGen Extends line other) :
    family.decode other = family.decode line := by
  induction h with
  | refl => rfl
  | tail _ hstep ih => exact hstep.decode_eq.trans ih

theorem mapM_decode_of_extends {lines others : List String}
    (h : List.Forall₂ (Relation.ReflTransGen Extends) lines others) :
    others.mapM family.decode = lines.mapM family.decode := by
  induction h with
  | nil => rfl
  | cons hline _ ih => rw [List.mapM_cons, List.mapM_cons, decode_eq_of_extends hline, ih]

structure TakesMembers (line : String) (info : EventMeta) (event : AccountEvent) : Prop where
  place {other key : String} {added : Tree} {levels : Nat} :
    key ∉ declaredNames → InPayload (Tree.Gains key added levels) line other →
    InPayload (PassesOver key added event.kind levels) line other ∨
      InPayload (Refuses key added event.kind levels) line other
  passes {other key : String} {added : Tree} {levels : Nat} :
    InPayload (PassesOver key added event.kind levels) line other →
    family.decode other =
      if (added.value? (maxDepth - 1 - levels)).isSome then .ok (.known info event)
      else .error .envelope
  refuses {other key : String} {added : Tree} {levels : Nat} :
    InPayload (Refuses key added event.kind levels) line other →
    family.decode other = .error
      (if (added.value? (maxDepth - 1 - levels)).isSome then .payload event.kind else .envelope)

/-- A member that this build does not know, added to the payload of a known event or to a value in
it other than the contact, is passed over if it can be read where it stands. So a log whose lines
have more such members gives the same events. A contact refuses what it does not declare. -/
theorem added_members_keep_events :
    (∀ {line : String} {info : EventMeta} {event : AccountEvent},
      family.decode line = .ok (.known info event) → TakesMembers line info event) ∧
    ∀ {lines others : List String} {events : List (LoggedEvent AccountEvent)},
      lines.mapM family.decode = .ok events →
      List.Forall₂ (Relation.ReflTransGen Extends) lines others →
      others.mapM family.decode = .ok events :=
  ⟨fun hd => ⟨inPayload_passesOver_or_refuses hd, decode_passesOver hd, decode_refuses hd⟩,
    fun hlog h => (mapM_decode_of_extends h).trans hlog⟩

def newerPayload (contact location more : List (String × Json)) : Json :=
  .obj (("Title", .str "Gmail") ::
    ("Owner", .obj (("email", .null) :: ("kind", .str "person") :: ("name", .str "Ada") ::
      ("tags", .arr []) :: contact)) ::
    ("Location", .obj (("Url", .str "https://mail.example") :: location)) :: more)

def newerLine (contact location more : List (String × Json)) : String :=
  Envelope.text ⟨"account.Created", ⟨⟨2024, 1, 1, 0, 0, 0, 0⟩, "u"⟩,
    newerPayload contact location more⟩

def newerEvent : LoggedEvent AccountEvent :=
  .known ⟨⟨2024, 1, 1, 0, 0, 0, 0⟩, "u"⟩
    (.created ⟨"Gmail", some ⟨none, .person, "Ada", []⟩, ⟨"https://mail.example"⟩⟩)

theorem decode_newerLine : family.decode (newerLine [] [] []) = .ok newerEvent := by
  have hline : newerLine [] [] [] = family.lineOf newerEvent := rfl
  rw [hline]
  exact EventFamily.decode_envelope_text lawful (by decide) _

theorem isWhole_newerPayload {contact location more : List (String × Json)}
    (hc : MembersWhole contact) (hl : MembersWhole location) (hm : MembersWhole more) :
    (newerPayload contact location more).IsWhole := by
  simp [newerPayload, IsWhole, MembersWhole, AreWhole, hc, hl, hm]

section Lines

variable (key : String) {value : Json} (hv : value.IsWhole)
include hv

theorem inPayload_contact (hk : key ∉ Contact.names) :
    InPayload (Refuses key (treeOf value) "account.Created" 2)
      (newerLine [] [] []) (newerLine [(key, value)] [] []) := by
  refine inPayload_text (isWhole_newerPayload trivial trivial trivial)
    (isWhole_newerPayload ⟨hv, trivial⟩ trivial trivial) (.owner ?_)
  exact inField_treeOf [("Title", _)] [("Location", _)] (by decide)
    (.record hk (inserts_treeOf [("email", _), ("kind", _), ("name", _), ("tags", _)] [] key value))

theorem inPayload_location (hk : key ≠ "Url") :
    InPayload (PassesOver key (treeOf value) "account.Created" 2)
      (newerLine [] [] []) (newerLine [] [(key, value)] []) := by
  refine inPayload_text (isWhole_newerPayload trivial trivial trivial)
    (isWhole_newerPayload trivial ⟨hv, trivial⟩ trivial) (.location ?_)
  exact inField_treeOf [("Title", _), ("Owner", _)] [] List.not_mem_nil
    (.here (by simpa using hk) (inserts_treeOf [("Url", _)] [] key value))

theorem inPayload_more {location : List (String × Json)} (hl : MembersWhole location)
    (hk : key ∉ AccountCreated.names) :
    InPayload (PassesOver key (treeOf value) "account.Created" 1)
      (newerLine [] location []) (newerLine [] location [(key, value)]) := by
  refine inPayload_text (isWhole_newerPayload trivial hl trivial)
    (isWhole_newerPayload trivial hl ⟨hv, trivial⟩) (.created (.here hk ?_))
  exact inserts_treeOf [("Title", _), ("Owner", _), ("Location", _)] [] key value

end Lines

theorem added_members_keep_events_color :
    let port := newerLine [] [("Port", .str "993")] []
    let color := newerLine [] [("Port", .str "993")] [("Color", .obj [("r", .null)])]
    let phone := newerLine [("phone", .str "1")] [] []
    family.decode port = .ok newerEvent ∧
      List.Forall₂ (Relation.ReflTransGen Extends) [newerLine [] [] []] [color] ∧
      [color].mapM family.decode = .ok [newerEvent] ∧
      family.decode phone = .error (.payload "account.Created") := by
  intro port color phone
  have hstring : ∀ text, (Json.str text).IsWhole := fun _ => trivial
  have hin := inPayload_location "Port" (hstring "993") (by decide)
  have hport : family.decode port = .ok newerEvent :=
    ((added_members_keep_events.1 decode_newerLine).passes hin).trans (if_pos (by decide +kernel))
  have hvalue : (Json.obj [("r", .null)]).IsWhole := ⟨trivial, trivial⟩
  have hlocation : MembersWhole [("Port", .str "993")] := ⟨hstring "993", trivial⟩
  have hcolor := inPayload_more "Color" hvalue hlocation (by decide)
  have hextends : List.Forall₂ (Relation.ReflTransGen Extends) [newerLine [] [] []] [color] :=
    .cons (.tail (.single (.intro decode_newerLine hin (by decide +kernel)))
      (.intro hport hcolor (by decide +kernel))) .nil
  have hlog : [newerLine [] [] []].mapM family.decode = .ok [newerEvent] := by
    rw [List.mapM_cons, decode_newerLine]
    rfl
  refine ⟨hport, hextends, added_members_keep_events.2 hlog hextends, ?_⟩
  have hphone := (added_members_keep_events.1 decode_newerLine).refuses
    (inPayload_contact "phone" (hstring "1") (by decide))
  exact hphone.trans (by decide +kernel)

def nested : Nat → Json
  | 0 => .null
  | levels + 1 => .arr [nested levels]

theorem isWhole_nested (levels : Nat) : (nested levels).IsWhole := by
  induction levels with
  | zero => trivial
  | succ levels ih => exact ⟨ih, trivial⟩

/-- Neither a phone number in the contact nor a value that nests too deep is passed over, although
no record declares their keys. -/
theorem added_members_refused :
    let phone := newerLine [("phone", .str "1")] [] []
    let deep := newerLine [] [] [("Deep", nested 126)]
    family.decode (newerLine [] [] []) = .ok newerEvent ∧
      phone = "\x7b\"_\":\"account.Created\",\"meta\":\x7b\"timestamp\":" ++
        "\"2024-01-01T00:00:00Z\",\"user_id\":\"u\"\x7d,\"payload\":\x7b\"Title\":\"Gmail\"," ++
        "\"Owner\":\x7b\"email\":null,\"kind\":\"person\",\"name\":\"Ada\",\"tags\":[]," ++
        "\"phone\":\"1\"\x7d,\"Location\":\x7b\"Url\":\"https://mail.example\"\x7d\x7d\x7d" ∧
      "phone" ∉ declaredNames ∧ "Deep" ∉ declaredNames ∧
      InPayload (Tree.Gains "phone" (treeOf (.str "1")) 2) (newerLine [] [] []) phone ∧
      family.decode phone = .error (.payload "account.Created") ∧
      InPayload (Tree.Gains "Deep" (treeOf (nested 126)) 1) (newerLine [] [] []) deep ∧
      family.decode deep = .error .envelope := by
  intro phone deep
  have hvalue : (Json.str "1").IsWhole := trivial
  have hphone := inPayload_contact "phone" hvalue (by decide)
  have hnone : MembersWhole [] := trivial
  have hdeep := inPayload_more "Deep" (isWhole_nested 126) hnone (by decide)
  refine ⟨decode_newerLine, by decide +kernel, by decide, by decide,
    hphone.imp Refuses.gains, ?_, hdeep.imp PassesOver.gains, ?_⟩
  · exact (decode_refuses decode_newerLine hphone).trans (by decide +kernel)
  · exact (decode_passesOver decode_newerLine hdeep).trans (if_neg (by decide +kernel))

end AccountEvent

end Sample

end EventSchema
