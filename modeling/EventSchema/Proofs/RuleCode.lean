import EventSchema.Dispatch
import EventSchema.Proofs.Digits
import EventSchema.Proofs.GlueReader
import EventSchema.Proofs.QuotedText

set_option autoImplicit false

namespace EventSchema.Backend

/-- A call of a rule: the key that it reports, the member that it looks at, and what else it is
given. -/
inductive RuleCall where
  | nonEmpty (key ident : String)
  | maxLength (key ident : String) (max : Nat)
  | matchesPattern (key ident pattern : String)
deriving DecidableEq, Repr

inductive RuleStatement where
  | call (c : RuleCall)
  | unlessEmpty (ident : String) (calls : List RuleCall)
deriving DecidableEq, Repr

section Reader

open Glue

def isIdentPart (c : Char) : Bool :=
  Naming.isIdentifierPart c || c == '#'

def readIdent? (cs : List Char) : Option (String × List Char) :=
  let ident := String.ofList (cs.takeWhile isIdentPart)
  if isLegalIdent ident then some (ident, cs.dropWhile isIdentPart) else none

def readLiteral? (cs : List Char) : Option (String × List Char) :=
  ((after? "\"" cs).bind Text.Quoted.read?).map (Prod.map String.ofList id)

def readNumber? (cs : List Char) : Option (Nat × List Char) :=
  let digits := cs.takeWhile Char.isDigit
  if digits.isEmpty then none
  else some (Nat.ofDigitChars 10 digits 0, cs.dropWhile Char.isDigit)

/-- The end of a call that hands its fault on. -/
def callEnd : List Char := ")?;".toList

/-- What a rule is given beside the key and the member, up to the end of the call. -/
def readLast? (key ident rule : String) (cs : List Char) : Option RuleCall :=
  match rule with
  | "non_empty" => if cs = callEnd then some (.nonEmpty key ident) else none
  | "max_length" => do
    let (max, cs) ← (after? ", " cs).bind readNumber?
    if cs = callEnd then some (.maxLength key ident max) else none
  | "matches_pattern" => do
    let (pattern, cs) ← (after? ", " cs).bind readLiteral?
    if cs = callEnd then some (.matchesPattern key ident pattern) else none
  | _ => none

def readCall? (cs : List Char) : Option RuleCall := do
  let (rule, cs) ← (after? "validation::" cs).bind readIdent?
  let (key, cs) ← (after? "(" cs).bind readLiteral?
  let (ident, cs) ← (after? ", &self." cs).bind readIdent?
  readLast? key ident rule cs

def readCallLine? : Code → Option RuleCall
  | .line text => readCall? text.toList
  | _ => none

def readStatement? : Code → Option RuleStatement
  | .line text => (readCall? text.toList).map .call
  | .nested opening body closing => do
    let (ident, cs) ← (after? "if !self." opening.toList).bind readIdent?
    if cs = ".is_empty() \x7b".toList ∧ closing = "\x7d" then
      (body.mapM readCallLine?).map (.unlessEmpty ident)
    else none
  | _ => none

/-- The statements of a body, which ends by letting the record through. -/
def readBody? : List Code → Option (List RuleStatement)
  | [] => none
  | [.line text] => if text = "Ok(())" then some [] else none
  | c :: rest => do
    let statement ← readStatement? c
    (readBody? rest).map (statement :: ·)

end Reader

def memberText? (r : CommandRecord) (ident : String) : Option String := do
  let member ← r.command.fields.find? (·.ident == ident)
  match r.values.lookup member.key with
  | some (.text value) => some value
  | _ => none

/-- Runs steps in their order up to the first that fails; a step that gets stuck gives nothing. -/
def inOrder? {α : Type} (run? : α → Option (Except RuleFault Unit)) :
    List α → Option (Except RuleFault Unit)
  | [] => some (.ok ())
  | step :: rest =>
    match run? step with
    | some (.ok ()) => inOrder? run? rest
    | other => other

def RuleCall.run? (r : CommandRecord) : RuleCall → Option (Except RuleFault Unit)
  | .nonEmpty key ident => (memberText? r ident).map (Rule.checkNonEmpty key)
  | .maxLength key ident max => (memberText? r ident).map (Rule.checkMaxLength key · max)
  | .matchesPattern key ident pattern =>
    (memberText? r ident).map (Rule.checkPattern key · pattern)

namespace RuleStatement

def run? (r : CommandRecord) : RuleStatement → Option (Except RuleFault Unit)
  | .call c => c.run? r
  | .unlessEmpty ident calls =>
    (memberText? r ident).bind fun value =>
      if value.isEmpty then some (.ok ()) else inOrder? (RuleCall.run? r) calls

def ofRule (r : FieldRule) : RuleStatement :=
  match r.rule with
  | .nonEmpty => .call (.nonEmpty r.key r.ident)
  | .maxLength max => .call (.maxLength r.key r.ident max)
  | .pattern text skipEmpty =>
    let check := RuleCall.matchesPattern r.key r.ident text
    if skipEmpty then .unlessEmpty r.ident [check] else .call check

end RuleStatement

/-- What the body of a check comes to for a record. -/
def runBody? (r : CommandRecord) (body : List Code) : Option (Except RuleFault Unit) :=
  (readBody? body).bind (inOrder? (RuleStatement.run? r))

section ReadBack

open Glue

theorem isIdentPart_of_isLegalIdent {ident : String} (h : isLegalIdent ident = true) :
    ∀ c ∈ ident.toList, isIdentPart c = true := by
  have hplain : ∀ cs, isPlainText cs = true → ∀ c ∈ cs, isIdentPart c = true := by
    intro cs hcs c hc
    simp only [isPlainText_eq, Bool.and_eq_true] at hcs
    simp [isIdentPart, (Naming.isIdentifierText_iff.1 hcs.1).2 c hc]
  unfold isLegalIdent at h
  split at h
  · next base hbase =>
    rw [hbase]
    simp only [Bool.and_eq_true] at h
    exact List.forall_mem_cons.2 ⟨rfl, List.forall_mem_cons.2 ⟨rfl, hplain base h.1⟩⟩
  · simp only [Bool.and_eq_true] at h
    exact hplain ident.toList h.1

theorem readIdent?_append {ident : String} (h : isLegalIdent ident = true) {c : Char}
    (hc : isIdentPart c = false) (rest : List Char) :
    readIdent? (ident.toList ++ c :: rest) = some (ident, c :: rest) := by
  have hparts := isIdentPart_of_isLegalIdent h
  have htake : (ident.toList ++ c :: rest).takeWhile isIdentPart = ident.toList := by
    rw [List.takeWhile_append_of_pos hparts, List.takeWhile_cons_of_neg (by simp [hc]),
      List.append_nil]
  have hdrop : (ident.toList ++ c :: rest).dropWhile isIdentPart = c :: rest := by
    rw [List.dropWhile_append_of_pos hparts, List.dropWhile_cons_of_neg (by simp [hc])]
  rw [readIdent?, htake, hdrop, String.ofList_toList, if_pos h]

theorem readLiteral?_append (value : String) (rest : List Char) :
    readLiteral? ((literal value).toList ++ rest) = some (value, rest) := by
  have htext : (literal value).toList ++ rest =
      "\"".toList ++ (Text.Quoted.body '"' value.toList ++ '"' :: rest) := by
    simp [literal, Text.Quoted.toList_text]
  rw [htext, readLiteral?, after?_append, Option.bind_some, Text.Quoted.read?_body]
  simp

theorem readNumber?_append (n : Nat) {c : Char} (hc : c.isDigit = false) (rest : List Char) :
    readNumber? (Nat.toDigits 10 n ++ c :: rest) = some (n, c :: rest) := by
  have hdigits : ∀ d ∈ Nat.toDigits 10 n, d.isDigit = true := fun d hd =>
    Nat.isDigit_of_mem_toDigits (by decide) (by decide) hd
  obtain ⟨htake, hdrop⟩ := Text.span_digits hdigits (Text.EndsDigits.cons hc rest)
  rw [readNumber?, htake, hdrop, Nat.ofDigitChars_toDigits (by decide) (by decide)]
  simp [Nat.toDigits_ne_nil]

section Calls

variable {key ident start finish : String} (hident : isLegalIdent ident = true)

include hident

theorem readCall?_eq (rule : String) (hrule : isLegalIdent rule = true)
    (hstart : start.toList = "validation::".toList ++ (rule.toList ++ ['('])) {c : Char}
    {rest : List Char} (hfinish : finish.toList = c :: rest) (hc : isIdentPart c = false) :
    readCall? (start ++ (literal key ++ ", &self." ++ ident) ++ finish).toList =
      readLast? key ident rule finish.toList := by
  have htext : (start ++ (literal key ++ ", &self." ++ ident) ++ finish).toList =
      "validation::".toList ++ (rule.toList ++ '(' :: ((literal key).toList ++
        (", &self.".toList ++ (ident.toList ++ c :: rest)))) := by
    simp only [String.toList_append, hstart, hfinish, List.append_assoc, List.cons_append,
      List.nil_append]
  have hopen : ∀ cs, after? "(" ('(' :: cs) = some cs := after?_append "("
  have hclose : isIdentPart '(' = false := by decide
  rw [htext, hfinish]
  simp only [readCall?, after?_append, readIdent?_append hrule hclose, hopen, readLiteral?_append,
    readIdent?_append hident hc, Option.bind_eq_bind, Option.bind_some]

theorem readCall?_nonEmpty :
    readCall? ("validation::non_empty(" ++ (literal key ++ ", &self." ++ ident) ++ ")?;").toList =
      some (.nonEmpty key ident) :=
  readCall?_eq hident "non_empty" (by decide) rfl rfl (by decide)

theorem readCall?_maxLength (max : Nat) :
    readCall? ("validation::max_length(" ++ (literal key ++ ", &self." ++ ident) ++ ", " ++
      String.ofList (Nat.toDigits 10 max) ++ ")?;").toList = some (.maxLength key ident max) := by
  have hlast : (", " ++ (String.ofList (Nat.toDigits 10 max) ++ ")?;")).toList =
      ", ".toList ++ (Nat.toDigits 10 max ++ ')' :: ['?', ';']) := by
    simp
  rw [String.append_assoc, String.append_assoc,
    readCall?_eq hident "max_length" (by decide) rfl hlast (by decide), hlast]
  simp only [readLast?, after?_append, Option.bind_some,
    readNumber?_append max (by decide : ')'.isDigit = false)]
  rfl

theorem readCall?_pattern (text : String) :
    readCall? ("validation::matches_pattern(" ++ (literal key ++ ", &self." ++ ident) ++ ", " ++
      literal text ++ ")?;").toList = some (.matchesPattern key ident text) := by
  have hlast : (", " ++ (literal text ++ ")?;")).toList =
      ", ".toList ++ ((literal text).toList ++ callEnd) := by
    simp [callEnd]
  rw [String.append_assoc, String.append_assoc,
    readCall?_eq hident "matches_pattern" (by decide) rfl hlast (by decide), hlast]
  simp only [readLast?, after?_append, Option.bind_some, readLiteral?_append]
  rfl

end Calls

theorem readStatement?_line {text : String} {c : RuleCall} (h : readCall? text.toList = some c) :
    readStatement? (.line text) = some (.call c) := by
  rw [readStatement?, h, Option.map_some]

theorem readStatement?_unlessEmpty {ident text : String} {c : RuleCall}
    (hi : isLegalIdent ident = true) (h : readCall? text.toList = some c) :
    readStatement? (.item ("if !self." ++ ident ++ ".is_empty()") [.line text]) =
      some (.unlessEmpty ident [c]) := by
  have hopening : ("if !self." ++ ident ++ ".is_empty()" ++ " \x7b").toList =
      "if !self.".toList ++ (ident.toList ++ '.' :: "is_empty() \x7b".toList) := by
    simp
  have hbody : [Code.line text].mapM readCallLine? = some [c] := by
    rw [List.mapM_cons, readCallLine?, h]
    rfl
  rw [Code.item, readStatement?, hopening, after?_append, Option.bind_some,
    readIdent?_append hi (by decide : isIdentPart '.' = false), hbody]
  rfl

theorem readStatement?_code {r : FieldRule} (h : isLegalIdent r.ident = true) :
    readStatement? r.code = some (.ofRule r) := by
  obtain ⟨ident, key, rule⟩ := r
  cases rule with
  | nonEmpty => exact readStatement?_line (readCall?_nonEmpty h)
  | maxLength max => exact readStatement?_line (readCall?_maxLength h max)
  | pattern text skipEmpty =>
    cases skipEmpty with
    | false => exact readStatement?_line (readCall?_pattern h text)
    | true => exact readStatement?_unlessEmpty h (readCall?_pattern h text)

theorem readBody?_cons (c : Code) {rest : List Code} (h : rest ≠ []) :
    readBody? (c :: rest) =
      (readStatement? c).bind fun statement => (readBody? rest).map (statement :: ·) := by
  cases rest with
  | nil => exact absurd rfl h
  | cons d rest => simp [readBody?]

theorem readBody?_rules {rules : List FieldRule} (h : ∀ r ∈ rules, isLegalIdent r.ident = true) :
    readBody? (rules.map FieldRule.code ++ [.line "Ok(())"]) = some (rules.map .ofRule) := by
  induction rules with
  | nil => rfl
  | cons r rest ih =>
    obtain ⟨hr, hrest⟩ := List.forall_mem_cons.1 h
    rw [List.map_cons, List.cons_append, readBody?_cons _ (by simp), readStatement?_code hr,
      ih hrest]
    rfl

end ReadBack

section Runs

theorem inOrder?_map {α β : Type} {run? : β → Option (Except RuleFault Unit)} {g : α → β}
    {check : α → Except RuleFault Unit} {xs : List α}
    (h : ∀ x ∈ xs, run? (g x) = some (check x)) :
    inOrder? run? (xs.map g) = some (xs.forM check) := by
  induction xs with
  | nil => rfl
  | cons x xs ih =>
    obtain ⟨hx, hxs⟩ := List.forall_mem_cons.1 h
    have hs : (x :: xs).forM check = check x >>= fun _ => xs.forM check := rfl
    rw [List.map_cons, inOrder?, hx, hs, ih hxs]
    cases check x <;> rfl

theorem run?_ofRule {r : CommandRecord} {rule : FieldRule} {value : String}
    (h : memberText? r rule.ident = some value) :
    (RuleStatement.ofRule rule).run? r = some (rule.rule.check rule.key value) := by
  obtain ⟨ident, key, rule⟩ := rule
  have hcalls : ∀ c : RuleCall, inOrder? (RuleCall.run? r) [c] = c.run? r := by
    intro c
    rw [inOrder?]
    split
    · next hc => rw [hc, inOrder?]
    · rfl
  cases rule with
  | nonEmpty => exact congrArg (Option.map _) h
  | maxLength max => exact congrArg (Option.map _) h
  | pattern text skipEmpty =>
    cases skipEmpty with
    | false => exact congrArg (Option.map _) h
    | true =>
      simp only [RuleStatement.ofRule, if_true, RuleStatement.run?, hcalls, RuleCall.run?]
      rw [h]
      simp only [Option.bind_some, Option.map_some, Rule.check, Bool.true_and]
      split <;> rfl

/-- The body of an item's check runs for every record whose members have texts where a rule looks,
and checks these by the rules in their order. -/
theorem runBody?_validation {r : CommandRecord}
    (hi : ∀ rule ∈ r.command.rules, isLegalIdent rule.ident = true)
    (ht : ∀ rule ∈ r.command.rules, memberText? r rule.ident = some (r.textOf rule.key)) :
    runBody? r r.command.validation = some r.validate := by
  rw [runBody?, CommandItem.validation, readBody?_rules hi, Option.bind_some]
  exact inOrder?_map fun rule hr => run?_ofRule (ht rule hr)

end Runs

end EventSchema.Backend
