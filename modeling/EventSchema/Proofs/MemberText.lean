import EventSchema.Proofs.CaseStyles
import EventSchema.Proofs.NameRules

/-!
The text that the digest of an enum is taken of. It is made of lines, but a value may hold line ends
and equality signs of its own, so the marks alone do not show where a member ends. The key does: it
has as many characters as its value has letters and digits, and the next line starts with another
key, that is, with a letter.
-/

set_option autoImplicit false

namespace EventSchema

namespace Text

theorem toList_loop (bytes : ByteArray) (i : Nat) (read : List UInt8) :
    ByteArray.toList.loop bytes i read = read.reverse ++ bytes.data.toList.drop i := by
  induction i, read using ByteArray.toList.loop.induct bytes with
  | case1 i read hlt ih =>
    have hi : i < bytes.data.toList.length := by simpa using hlt
    have hget : bytes.get! i = bytes.data.toList[i] := by
      rw [Array.getElem_toList]
      exact getElem!_pos bytes.data i (by simpa using hlt)
    rw [ByteArray.toList.loop, if_pos hlt, ih, List.drop_eq_getElem_cons hi, hget]
    simp
  | case2 i read hge =>
    have hi : bytes.data.toList.length ≤ i := by simpa using hge
    rw [ByteArray.toList.loop, if_neg hge, List.drop_of_length_le hi, List.append_nil]

theorem utf8_inj {s t : String} : s.toUTF8.toList = t.toUTF8.toList ↔ s = t := by
  refine ⟨fun h => ?_, fun h => by rw [h]⟩
  simp only [ByteArray.toList, toList_loop] at h
  exact String.toByteArray_inj.1 (ByteArray.ext (Array.toList_inj.1 (by simpa using h)))

end Text

/-- Two texts that the first eight digits of their digests do not tell apart. -/
def Digest.Collide (message other : List UInt8) : Prop :=
  message ≠ other ∧ (sha256 message).toList.take 8 = (sha256 other).toList.take 8

/-- A member as the checks let it pass: the key is that of its value, and an identifier. -/
structure EnumMember.IsKeyed (member : EnumMember) : Prop where
  key_eq : member.key = Naming.pascal member.value
  identifier : Naming.isIdentifier member.key = true

namespace Enumeration

def hashedBytes (e : Enumeration) : List UInt8 :=
  (memberLines e.members).toUTF8.toList

section Lines

def StartsKey (cs : List Char) : Prop :=
  ∀ c ∈ cs.head?, c.isAlphanum = true

/-- Two texts end at the same mark, if neither goes on past the mark that ends the other. -/
theorem end_unique {v w rest more : List Char} {mark : Char}
    (h : v ++ mark :: rest = w ++ mark :: more)
    (hv : ∀ extra, w = v ++ mark :: extra → rest ≠ extra ++ mark :: more)
    (hw : ∀ extra, v = w ++ mark :: extra → more ≠ extra ++ mark :: rest) :
    v = w ∧ rest = more := by
  rcases List.append_eq_append_iff.1 h with ⟨extra, hext, he⟩ | ⟨extra, hext, he⟩ <;>
    rcases extra with _ | ⟨c, extra⟩
  · exact ⟨by simpa using hext.symm, (List.cons.inj he).2⟩
  · obtain ⟨rfl, hrest⟩ := List.cons.inj he
    exact absurd hrest (hv extra hext)
  · exact ⟨by simpa using hext, (List.cons.inj he).2.symm⟩
  · obtain ⟨rfl, hmore⟩ := List.cons.inj he
    exact absurd hmore (hw extra hext)

theorem key_unique {key other rest more : List Char} {mark : Char} (hk : mark ∉ key)
    (ho : mark ∉ other) (h : key ++ mark :: rest = other ++ mark :: more) :
    key = other ∧ rest = more :=
  end_unique h (fun extra he => absurd (by simp [he]) ho) (fun extra he => absurd (by simp [he]) hk)

/-- What one value has past the end of another holds no letter or digit, if the two have equally
many, so no key starts there. -/
theorem ne_of_startsKey {v w rest more extra : List Char} (hw : w = v ++ '\n' :: extra)
    (hl : (v.filter Char.isAlphanum).length = (w.filter Char.isAlphanum).length)
    (hrest : StartsKey rest) : rest ≠ extra ++ '\n' :: more := by
  rintro rfl
  have hnone : ∀ c ∈ extra, c.isAlphanum = false := by
    simpa [hw, show Char.isAlphanum '\n' = false from rfl] using hl
  cases extra with
  | nil => exact absurd (hrest '\n' rfl) (by decide)
  | cons c extra => exact absurd (hrest c rfl) (by simp [hnone c List.mem_cons_self])

theorem value_unique {v w rest more : List Char} (h : v ++ '\n' :: rest = w ++ '\n' :: more)
    (hl : (v.filter Char.isAlphanum).length = (w.filter Char.isAlphanum).length)
    (hrest : StartsKey rest) (hmore : StartsKey more) : v = w ∧ rest = more :=
  end_unique h (fun _ he => ne_of_startsKey he hl hrest)
    (fun _ he => ne_of_startsKey he hl.symm hmore)

theorem toList_memberLines_cons (member : EnumMember) (members : List EnumMember) :
    (memberLines (member :: members)).toList = member.key.toList ++
      '=' :: (member.value.toList ++ '\n' :: (memberLines members).toList) := by
  simp [memberLines, String.join_cons]

theorem startsKey_memberLines {members : List EnumMember} (h : ∀ m ∈ members, m.IsKeyed) :
    StartsKey (memberLines members).toList := by
  cases members with
  | nil => simp [StartsKey, memberLines]
  | cons member members =>
    have hkeyed := h member List.mem_cons_self
    intro c hc
    rw [toList_memberLines_cons] at hc
    have hkey := (Naming.isIdentifierText_iff.1 hkeyed.identifier).1
    cases hl : member.key.toList with
    | nil => simp [hl] at hkey
    | cons d key =>
      obtain rfl : d = c := by simpa [hl] using hc
      refine Naming.isAlphanum_of_mem_pascal (s := member.value) ?_
      rw [← hkeyed.key_eq, hl]
      exact List.mem_cons_self

theorem memberLines_cons_ne_nil (member : EnumMember) (members : List EnumMember) :
    memberLines (member :: members) ≠ memberLines [] := by
  intro h
  have hl := congrArg String.toList h
  rw [toList_memberLines_cons] at hl
  simp [memberLines] at hl

/-- The line of a member ends where the next key starts, so no other member has it. -/
theorem member_unique {member other : EnumMember} (hm : member.IsKeyed) (ho : other.IsKeyed)
    {rest more : List Char} (hrest : StartsKey rest) (hmore : StartsKey more)
    (h : member.key.toList ++ '=' :: (member.value.toList ++ '\n' :: rest) =
      other.key.toList ++ '=' :: (other.value.toList ++ '\n' :: more)) :
    member = other ∧ rest = more := by
  -- no key holds an equality sign, so the first one ends it
  obtain ⟨hkey, hvalues⟩ := key_unique (Naming.mark_not_mem hm.identifier rfl)
    (Naming.mark_not_mem ho.identifier rfl) h
  have hcount : (member.value.toList.filter Char.isAlphanum).length =
      (other.value.toList.filter Char.isAlphanum).length := by
    rw [← Naming.length_pascal, ← Naming.length_pascal, ← hm.key_eq, ← ho.key_eq, hkey]
  obtain ⟨hvalue, hlines⟩ := value_unique hvalues hcount hrest hmore
  refine ⟨?_, hlines⟩
  cases member
  cases other
  simpa using ⟨String.toList_inj.1 hkey, String.toList_inj.1 hvalue⟩

theorem memberLines_inj {members others : List EnumMember} (hm : ∀ m ∈ members, m.IsKeyed)
    (ho : ∀ m ∈ others, m.IsKeyed) (h : memberLines members = memberLines others) :
    members = others := by
  induction members generalizing others with
  | nil =>
    cases others with
    | nil => rfl
    | cons other others => exact absurd h.symm (memberLines_cons_ne_nil other others)
  | cons member members ih =>
    cases others with
    | nil => exact absurd h (memberLines_cons_ne_nil member members)
    | cons other others =>
      obtain ⟨hfirst, hrest⟩ := List.forall_mem_cons.1 hm
      obtain ⟨hother, hmore⟩ := List.forall_mem_cons.1 ho
      have hl := congrArg String.toList h
      rw [toList_memberLines_cons, toList_memberLines_cons] at hl
      obtain ⟨rfl, hlines⟩ := member_unique hfirst hother (startsKey_memberLines hrest)
        (startsKey_memberLines hmore) hl
      rw [ih hrest hmore (String.toList_inj.1 hlines)]

end Lines

theorem isKeyed_of_mem {e : Enumeration}
    (h : ∀ member ∈ e.members, Naming.isIdentifier member.key = true) :
    ∀ member ∈ e.members, member.IsKeyed := by
  intro member hm
  obtain ⟨value, -, rfl⟩ := List.mem_map.1 hm
  exact ⟨rfl, h _ hm⟩

theorem map_value_members (e : Enumeration) : e.members.map EnumMember.value = e.values := by
  simp [members, Function.comp_def]

theorem members_inj {a b : Enumeration} : a.members = b.members ↔ a.values = b.values := by
  refine ⟨fun h => ?_, fun h => by rw [members, members, h]⟩
  rw [← map_value_members a, ← map_value_members b, h]

/-- If the member keys are identifiers, the text that is hashed stays the same only if the members
do, in their order. So an enum keeps its digest under other members only where the digits that are
kept of the hash collide. -/
theorem hashed_text_tells_members {a b : Enumeration}
    (ha : ∀ member ∈ a.members, Naming.isIdentifier member.key = true)
    (hb : ∀ member ∈ b.members, Naming.isIdentifier member.key = true) :
    (a.hashedBytes = b.hashedBytes ↔ a.members = b.members) ∧
      (a.members = b.members ↔ a.values = b.values) ∧
      (a.values ≠ b.values → a.digest = b.digest →
        Digest.Collide a.hashedBytes b.hashedBytes) := by
  have htext : a.hashedBytes = b.hashedBytes ↔ a.members = b.members := by
    refine ⟨fun h => ?_, fun h => by rw [hashedBytes, hashedBytes, h]⟩
    exact memberLines_inj (isKeyed_of_mem ha) (isKeyed_of_mem hb) (Text.utf8_inj.1 h)
  refine ⟨htext, members_inj, fun hv hd => ⟨fun h => hv (members_inj.1 (htext.1 h)), ?_⟩⟩
  exact String.ofList_injective hd

def brokenValue : Enumeration := ⟨"Kind", ["a\nB=b"]⟩

def twoValues : Enumeration := ⟨"Kind", ["a", "b"]⟩

theorem hashed_text_tells_members_of_broken_value :
    memberLines brokenValue.members = "ABB=a\nB=b\n" ∧
      memberLines twoValues.members = "A=a\nB=b\n" ∧
      (∀ member ∈ brokenValue.members, Naming.isIdentifier member.key = true) ∧
      (∀ member ∈ twoValues.members, Naming.isIdentifier member.key = true) ∧
      brokenValue.hashedBytes ≠ twoValues.hashedBytes := by
  have hbroken : ∀ member ∈ brokenValue.members, Naming.isIdentifier member.key = true := by
    decide +kernel
  have htwo : ∀ member ∈ twoValues.members, Naming.isIdentifier member.key = true := by
    decide +kernel
  obtain ⟨htext, hmembers, -⟩ := hashed_text_tells_members hbroken htwo
  refine ⟨by decide +kernel, by decide +kernel, hbroken, htwo, fun h => ?_⟩
  exact absurd (hmembers.1 (htext.1 h)) (by decide)

end Enumeration

end EventSchema
