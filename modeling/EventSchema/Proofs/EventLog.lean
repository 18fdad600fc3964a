import EventSchema.Proofs.Instants
import EventSchema.Proofs.JsonText
import EventSchema.Proofs.Outcome
import EventSchema.Sample.Secrets

set_option autoImplicit false

namespace EventSchema

section LineEnds

def isLineEnd (c : Char) : Bool := c == '\r' || c == '\n'

theorem isLineEnd_of_not_isSpace {c : Char} (h : Json.isSpace c = false) : isLineEnd c = false := by
  simp only [Json.isSpace, Bool.or_eq_false_iff] at h
  simp [isLineEnd, h.1.1.2, h.2]

theorem dropLineEnd_toList (line : String) :
    (dropLineEnd line).toList = line.toList.rdropWhile isLineEnd := by
  rw [dropLineEnd, String.toList_ofList]
  rfl

theorem dropLineEnd_dropLineEnd (line : String) :
    dropLineEnd (dropLineEnd line) = dropLineEnd line := by
  rw [← String.toList_inj, dropLineEnd_toList, dropLineEnd_toList, List.rdropWhile_idempotent]

theorem rdropWhile_isLineEnd (init after : List Char) {c : Char} (hc : isLineEnd c = false) :
    (init ++ c :: after).rdropWhile isLineEnd = init ++ c :: after.rdropWhile isLineEnd := by
  have hstop : (c :: init.reverse).dropWhile isLineEnd = c :: init.reverse := by simp [hc]
  simp only [List.rdropWhile, List.reverse_append, List.reverse_cons, List.append_assoc,
    List.singleton_append, List.dropWhile_append, hstop]
  split
  · next he => simp [List.isEmpty_iff.1 he]
  · simp

theorem Json.Tree.ofText?_dropLineEnd {line : String} {t : Json.Tree}
    (h : Json.Tree.ofText? line = some t) : Json.Tree.ofText? (dropLineEnd line) = some t := by
  obtain ⟨before, text, after, hline, hb, ha, ht⟩ := Json.Tree.ofChars?_eq_some_iff.1 h
  obtain ⟨init, c, rfl, hc⟩ := ht.ends
  refine Json.Tree.ofChars?_eq_some_iff.2
    ⟨before, init ++ [c], after.rdropWhile isLineEnd, ?_, hb, ?_, ht⟩
  · rw [dropLineEnd_toList, hline]
    simpa using rdropWhile_isLineEnd (before ++ init) after (isLineEnd_of_not_isSpace hc)
  · exact fun d hd => ha d ((List.rdropWhile_prefix isLineEnd after).subset hd)

end LineEnds

section Envelopes

theorem EventMeta.ofTree?_toJson {m : EventMeta} (h : m.timestamp.isValid = true) :
    EventMeta.ofTree? (Json.treeOf m.toJson) = some m := by
  have hfields : (Json.treeOf m.toJson).fields? EventMeta.fieldNames =
      some [.str (some m.timestamp.text), .str (some m.userId)] := rfl
  simp only [EventMeta.ofTree?, hfields, Json.Tree.text?, Option.bind_eq_bind, Option.bind_some,
    Instant.ofText?_text h]

theorem EventMeta.isValid_of_ofTree? {tree : Json.Tree} {m : EventMeta}
    (h : EventMeta.ofTree? tree = some m) : m.timestamp.isValid = true := by
  simp only [EventMeta.ofTree?, Option.bind_eq_bind, Option.bind_eq_some_iff] at h
  obtain ⟨fields, -, h⟩ := h
  split at h
  · simp only [Option.bind_eq_some_iff] at h
    obtain ⟨s, -, t, ht, u, -, h⟩ := h
    cases h
    exact Instant.isValid_of_ofText? ht
  · cases h

namespace Envelope

theorem isWhole_toJson {e : Envelope} (h : e.payload.IsWhole) : e.toJson.IsWhole :=
  ⟨trivial, ⟨trivial, trivial, trivial⟩, h, trivial⟩

theorem ofText?_text {e : Envelope} (ht : e.info.timestamp.isValid = true)
    (hw : e.payload.IsWhole) (hd : e.payload.height ≤ Json.maxDepth - 1) :
    ofText? e.text = some { e with payload := e.payload.collapse } := by
  have htree : Json.Tree.ofText? e.text = some (Json.treeOf e.toJson) :=
    Json.Tree.ofText?_compact (isWhole_toJson hw)
  have hfields : (Json.treeOf e.toJson).fields? ["_", "meta", "payload"] =
      some [.str (some e.kind), Json.treeOf e.info.toJson, Json.treeOf e.payload] := rfl
  have hpayload := Json.value?_treeOf e.payload (Json.maxDepth - 1) hw hd
  simp only [ofText?, htree, Option.bind_some, ofTree?, hfields, Option.bind_eq_bind,
    Json.Tree.text?, EventMeta.ofTree?_toJson ht, hpayload]

theorem isValid_of_ofText? {line : String} {e : Envelope} (h : ofText? line = some e) :
    e.info.timestamp.isValid = true := by
  simp only [ofText?, ofTree?, Option.bind_eq_bind, Option.bind_eq_some_iff] at h
  obtain ⟨tree, -, fields, -, h⟩ := h
  split at h
  · simp only [Option.bind_eq_some_iff] at h
    obtain ⟨kind, -, info, hi, payload, -, h⟩ := h
    cases h
    exact EventMeta.isValid_of_ofTree? hi
  · cases h

theorem ofText?_dropLineEnd {line : String} {e : Envelope} (h : ofText? line = some e) :
    ofText? (dropLineEnd line) = some e := by
  obtain ⟨tree, htree, he⟩ := Option.bind_eq_some_iff.1 h
  rw [ofText?, Json.Tree.ofText?_dropLineEnd htree]
  exact he

theorem text_printable {e : Envelope} (hw : e.payload.IsWhole) :
    ∀ c ∈ e.text.toList, 0x20 ≤ c.toNat :=
  Json.compact_printable e.toJson (isWhole_toJson hw)

end Envelope

end Envelopes

def LoggedEvent.isUnknown {α : Type} : LoggedEvent α → Bool
  | .known _ _ => false
  | .unknown _ _ => true

namespace EventFamily

variable {α : Type}

/-- Every event has a decoder under its kind, which reads it back from its payload, and a decoder
gives events of its own kind only. -/
structure Lawful (family : EventFamily α) : Prop where
  kind_of_decoded : ∀ {kind decode? value event}, family.decoders.get? kind = some decode? →
    decode? value = some event → family.kind event = kind
  decodes_payload : ∀ event, ∃ decode?, family.decoders.get? (family.kind event) = some decode? ∧
    decode? (family.payload event).collapse = some event
  isWhole : ∀ event, (family.payload event).IsWhole
  height_le : ∀ event, (family.payload event).height ≤ Json.maxDepth - 1

/-- What a decoded event keeps of its line. -/
structure Rewrites (family : EventFamily α) (line : String) (e : LoggedEvent α) : Prop where
  envelope : ∃ env, Envelope.ofText? line = some env ∧
    e.isUnknown = !family.decoders.contains env.kind ∧
    family.kindOf e = env.kind ∧ e.info = env.info
  decodes : family.decode (family.lineOf e) = .ok e
  unknown : e.isUnknown = true → family.lineOf e = dropLineEnd line
  known : e.isUnknown = false →
    '\r' ∉ (family.lineOf e).toList ∧ '\n' ∉ (family.lineOf e).toList

variable {family : EventFamily α}

/-- An event comes from the envelope of its line: either its kind is not known, or its decoder
takes the payload. -/
theorem decode_eq_ok {line : String} {e : LoggedEvent α} (h : family.decode line = .ok e) :
    ∃ env, Envelope.ofText? line = some env ∧
      ((family.decoders.get? env.kind = none ∧ e = .unknown env (dropLineEnd line)) ∨
        ∃ decode? event, family.decoders.get? env.kind = some decode? ∧
          decode? env.payload = some event ∧ e = .known env.info event) := by
  unfold decode at h
  split at h
  · cases h
  · next env henv =>
    refine ⟨env, henv, ?_⟩
    split at h
    · next hnone =>
      cases h
      exact .inl ⟨hnone, rfl⟩
    · next decode? hsome =>
      split at h
      · cases h
      · next event hevent =>
        cases h
        exact .inr ⟨decode?, event, hsome, hevent, rfl⟩

theorem decode_dropLineEnd {line : String} {env : Envelope}
    (henv : Envelope.ofText? line = some env)
    (hnone : family.decoders.get? env.kind = none) :
    family.decode (dropLineEnd line) = .ok (.unknown env (dropLineEnd line)) := by
  simp only [decode, Envelope.ofText?_dropLineEnd henv, hnone, dropLineEnd_dropLineEnd]

theorem decode_envelope_text (hl : family.Lawful) {info : EventMeta}
    (ht : info.timestamp.isValid = true) (event : α) :
    family.decode (family.lineOf (.known info event)) = .ok (.known info event) := by
  obtain ⟨decode?, hsome, hevent⟩ := hl.decodes_payload event
  have htext := Envelope.ofText?_text (e := ⟨family.kind event, info, family.payload event⟩) ht
    (hl.isWhole event) (hl.height_le event)
  simp only [decode, lineOf, htext, hsome, hevent]

theorem rewrites_of_decode (hl : family.Lawful) {line : String} {e : LoggedEvent α}
    (h : family.decode line = .ok e) : family.Rewrites line e := by
  obtain ⟨env, henv, ⟨hnone, rfl⟩ | ⟨decode?, event, hsome, hevent, rfl⟩⟩ := decode_eq_ok h
  · refine ⟨⟨env, henv, ?_, rfl, rfl⟩, decode_dropLineEnd henv hnone, fun _ => rfl, ?_⟩
    · simp [LoggedEvent.isUnknown, Registry.contains, hnone]
    · intro hk
      cases hk
  · have hkind := hl.kind_of_decoded hsome hevent
    refine ⟨⟨env, henv, ?_, hkind, rfl⟩,
      decode_envelope_text hl (Envelope.isValid_of_ofText? henv) event, ?_, ?_⟩
    · simp [LoggedEvent.isUnknown, Registry.contains, hsome]
    · intro hu
      cases hu
    · intro _
      have hprint := Envelope.text_printable
        (e := ⟨family.kind event, env.info, family.payload event⟩) (hl.isWhole event)
      exact ⟨fun hr => absurd (hprint _ hr) (by decide), fun hn => absurd (hprint _ hn) (by decide)⟩

theorem rewrite_log (hl : family.Lawful) {lines : List String} {events : List (LoggedEvent α)}
    (h : lines.mapM family.decode = .ok events) :
    (events.map family.lineOf).mapM family.decode = .ok events := by
  rw [List.mapM_map]
  refine (Outcome.mapM_eq_ok_map fun e he => ?_).trans (by rw [List.map_id])
  obtain ⟨line, -, hline⟩ := (Outcome.mem_iff_of_mapM_eq_ok h).1 he
  exact (rewrites_of_decode hl hline).decodes

end EventFamily

section Strings

theorem Json.list?_strings (names : List String) :
    Json.list? Json.text? (Json.strings names) = some names := by
  rw [Json.strings, Json.list?]
  induction names with
  | nil => rfl
  | cons name names ih => simp [Json.text?, ih]

theorem Json.collapse_strings (names : List String) :
    (Json.strings names).collapse = Json.strings names := by
  rw [Json.strings, Json.collapse]
  congr 1
  induction names with
  | nil => rfl
  | cons name names ih =>
    have hname : (Json.str name).collapse = .str name := rfl
    rw [List.map_cons, Json.collapseItems, ih, hname]

theorem Json.isWhole_strings (names : List String) : (Json.strings names).IsWhole := by
  rw [Json.strings, Json.IsWhole]
  induction names with
  | nil => trivial
  | cons name names ih => exact ⟨trivial, ih⟩

theorem Json.height_strings (names : List String) : (Json.strings names).height = 1 := by
  have hitems : Json.heightItems (names.map .str) = 0 := by
    induction names with
    | nil => rfl
    | cons name names ih =>
      rw [List.map_cons, Json.heightItems, ih, Json.height, Nat.max_self] <;> simp
  rw [Json.strings, Json.height, hitems]

end Strings

namespace Sample

theorem ContactKind.ofJson?_text (k : ContactKind) :
    ContactKind.ofJson? (.str k.text) = some k := by
  cases k <;> rfl

namespace Contact

theorem collapse_toJson (c : Contact) : c.toJson.collapse = c.toJson := by
  have hemail : (Json.ofOption .str c.email).collapse = Json.ofOption .str c.email := by
    cases c.email <;> rfl
  simp only [toJson, Json.collapse, Json.collapseMembers, hemail, Json.collapse_strings]
  simp only [Text.sortKeys, List.foldl_cons, List.foldl_nil, Text.insertKey, String.reduceEq,
      String.reduceLT, reduceIte]

theorem ofJson?_toJson (c : Contact) : ofJson? c.toJson = some c := by
  have hfields : Json.exactRecord? true ["email", "kind", "name", "tags"] c.toJson =
      some [some (Json.ofOption .str c.email), some (.str c.kind.text), some (.str c.name),
        some (Json.strings c.tags)] := rfl
  have hemail : Json.optional? Json.text? (some (Json.ofOption .str c.email)) = some c.email := by
    cases c.email <;> rfl
  simp only [ofJson?, hfields, hemail, Json.required?, ContactKind.ofJson?_text, Json.text?,
    Json.list?_strings, Option.bind_eq_bind, Option.bind_some]

theorem optional?_ofOption (owner : Option Contact) :
    Json.optional? ofJson? (some (Json.ofOption toJson owner)) = some owner := by
  cases owner with
  | none => rfl
  | some c =>
    have hc : Json.optional? ofJson? (some c.toJson) = (ofJson? c.toJson).map some := rfl
    rw [Json.ofOption, hc, c.ofJson?_toJson, Option.map_some]

theorem isWhole_toJson (c : Contact) : c.toJson.IsWhole := by
  have hemail : (Json.ofOption .str c.email).IsWhole := by
    cases c.email <;> trivial
  exact ⟨hemail, trivial, trivial, Json.isWhole_strings c.tags, trivial⟩

theorem height_toJson (c : Contact) : c.toJson.height = 2 := by
  have hemail : (Json.ofOption .str c.email).height = 0 := by
    cases c.email <;> rfl
  simp [toJson, Json.height, Json.heightMembers, hemail, Json.height_strings]

end Contact

namespace AccountCreated

theorem ofJson?_collapse (e : AccountCreated) : ofJson? e.toJson.collapse = some e := by
  obtain ⟨title, owner, ⟨url⟩⟩ := e
  have howner :
      (Json.ofOption Contact.toJson owner).collapse = Json.ofOption Contact.toJson owner := by
    cases owner with
    | none => rfl
    | some c => exact c.collapse_toJson
  have hvalue : (toJson ⟨title, owner, ⟨url⟩⟩).collapse =
      .obj [("Location", .obj [("Url", .str url)]), ("Owner", .ofOption Contact.toJson owner),
        ("Title", .str title)] := by
    simp only [toJson, Location.toJson, Json.collapse, Json.collapseMembers, howner]
    simp only [Text.sortKeys, List.foldl_cons, List.foldl_nil, Text.insertKey, String.reduceEq,
      String.reduceLT, reduceIte]
  have hfields : Json.exactRecord? false ["Title", "Owner", "Location"]
      (.obj [("Location", .obj [("Url", .str url)]), ("Owner", .ofOption Contact.toJson owner),
        ("Title", .str title)]) =
      some [some (.str title), some (Json.ofOption Contact.toJson owner),
        some (.obj [("Url", .str url)])] := rfl
  have hlocation : Location.ofJson? (.obj [("Url", .str url)]) = some ⟨url⟩ := rfl
  simp only [ofJson?, hvalue, hfields, Contact.optional?_ofOption, hlocation, Json.required?,
    Json.text?, Option.bind_eq_bind, Option.bind_some]

theorem ofJson?_toJson (e : AccountCreated) : ofJson? e.toJson = some e := by
  have hfields : Json.exactRecord? false ["Title", "Owner", "Location"] e.toJson =
      some [some (.str e.title), some (Json.ofOption Contact.toJson e.owner),
        some e.location.toJson] := rfl
  have hlocation : Location.ofJson? e.location.toJson = some e.location := rfl
  simp only [ofJson?, hfields, Contact.optional?_ofOption, hlocation, Json.required?,
    Json.text?, Option.bind_eq_bind, Option.bind_some]

theorem isWhole_toJson (e : AccountCreated) : e.toJson.IsWhole := by
  have howner : (Json.ofOption Contact.toJson e.owner).IsWhole := by
    cases e.owner with
    | none => trivial
    | some c => exact c.isWhole_toJson
  exact ⟨trivial, howner, ⟨trivial, trivial⟩, trivial⟩

theorem height_toJson_le (e : AccountCreated) : e.toJson.height ≤ 3 := by
  have howner : (Json.ofOption Contact.toJson e.owner).height ≤ 2 := by
    cases e.owner with
    | none => exact Nat.zero_le 2
    | some c => exact c.height_toJson.le
  simp only [toJson, Location.toJson, Json.height, Json.heightMembers]
  omega

end AccountCreated

namespace AccountEvent

theorem decoders_get? (kind : String) :
    family.decoders.get? kind =
      [("account.Created", fun value => (AccountCreated.ofJson? value).map .created),
        ("account.Deleted", deletedOfJson?)].lookup kind :=
  Registry.get?_ofList (by decide) kind

theorem lawful : family.Lawful where
  kind_of_decoded := by
    intro kind decode? value event hget hdecode
    rw [decoders_get?, Text.lookup_cons_ite, Text.lookup_cons_ite] at hget
    split at hget
    · next hkind =>
      cases hget
      obtain ⟨created, -, rfl⟩ := Option.map_eq_some_iff.1 hdecode
      exact hkind.symm
    · split at hget
      · next hkind =>
        cases hget
        obtain ⟨fields, -, rfl⟩ := Option.map_eq_some_iff.1 hdecode
        exact hkind.symm
      · cases hget
  decodes_payload := by
    intro event
    cases event with
    | created event =>
      refine ⟨_, decoders_get? _, ?_⟩
      exact Option.map_eq_some_iff.2 ⟨event, event.ofJson?_collapse, rfl⟩
    | deleted => exact ⟨_, decoders_get? _, rfl⟩
  isWhole := by
    intro event
    cases event with
    | created event => exact event.isWhole_toJson
    | deleted => trivial
  height_le := by
    intro event
    cases event with
    | created event => exact event.height_toJson_le.trans (by decide)
    | deleted => decide

/-- The event that a line decodes to keeps the kind and the meta data of the line's envelope and is
an unknown one just when no decoder has that kind. Its own line decodes to it again; that is the
line that was read, up to the line end, for an unknown event, and a text of one line for a known
one. So rewriting a log line by line gives a log of the same events. -/
theorem rewriting_keeps_events :
    (∀ line e, family.decode line = .ok e → family.Rewrites line e) ∧
    ∀ (lines : List String) (events : List (LoggedEvent AccountEvent)),
      lines.mapM family.decode = .ok events →
      (events.map family.lineOf).mapM family.decode = .ok events :=
  ⟨fun _ _ => EventFamily.rewrites_of_decode lawful, fun _ _ => EventFamily.rewrite_log lawful⟩

/-- A deletion in local time, with blanks and a key of its own, and an event of another kind. -/
theorem rewriting_keeps_events_offset :
    let deleted := "\x7b \"_\": \"account.Deleted\", \"payload\": \x7b\"by\": [1]\x7d, \"meta\": " ++
      "\x7b\"timestamp\": \"2024-01-01T00:30:00.5+01:00\", \"user_id\": \"u\"\x7d\x7d\r\n"
    let renamed := "[\"account.Renamed\", [\"2024-01-01T00:00:00Z\", \"v\"], 1]\n"
    let events : List (LoggedEvent AccountEvent) :=
      [.known ⟨⟨2023, 12, 31, 23, 30, 0, 500000000⟩, "u"⟩ .deleted,
       .unknown ⟨"account.Renamed", ⟨⟨2024, 1, 1, 0, 0, 0, 0⟩, "v"⟩, .ofNat 1⟩
        "[\"account.Renamed\", [\"2024-01-01T00:00:00Z\", \"v\"], 1]"]
    [deleted, renamed].mapM family.decode = .ok events ∧
      List.Forall₂ family.Rewrites [deleted, renamed] events ∧
      events.map family.lineOf =
        ["\x7b\"_\":\"account.Deleted\",\"meta\":\x7b\"timestamp\":\"2023-12-31T23:30:00.500Z\"," ++
          "\"user_id\":\"u\"\x7d,\"payload\":\x7b\x7d\x7d", dropLineEnd renamed] ∧
      (events.map family.lineOf).mapM family.decode = .ok events := by
  intro deleted renamed events
  have hlog : [deleted, renamed].mapM family.decode = .ok events :=
    Outcome.eq_ok_of_toOption (by decide +kernel)
  exact ⟨hlog, (Outcome.forall₂_of_mapM_eq_ok hlog).imp fun _ _ => rewriting_keeps_events.1 _ _,
    by decide +kernel, rewriting_keeps_events.2 _ _ hlog⟩

end AccountEvent

end Sample

end EventSchema
