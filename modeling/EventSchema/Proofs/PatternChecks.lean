import EventSchema.Proofs.Outcome
import EventSchema.Rule

/-!
Checks by pattern that share their prepared patterns. What is kept for a pattern is what preparing
it gives, so that a check is answered alike from every cache that checks can leave, whatever has
been checked before it.
-/

set_option autoImplicit false

namespace EventSchema

structure PatternCheck where
  field : String
  value : String
  pattern : String
deriving DecidableEq, Repr

namespace PatternCache

def run (cache : PatternCache) (c : PatternCheck) : Except RuleFault Unit × PatternCache :=
  cache.checkPattern c.field c.value c.pattern

/-- Runs checks in order, each on the cache that the one before it has left. -/
def runAll (cache : PatternCache) : List PatternCheck → List (Except RuleFault Unit) × PatternCache
  | [] => ([], cache)
  | c :: rest =>
    let (verdict, next) := cache.run c
    let (verdicts, last) := next.runAll rest
    (verdict :: verdicts, last)

def patterns (cache : PatternCache) : List String :=
  cache.entries.map Prod.fst

/-- What is kept under a pattern is what preparing that pattern gives, and it is kept once. -/
structure IsSound (cache : PatternCache) : Prop where
  prepared : ∀ entry ∈ cache.entries, Pattern.Program.ofText? entry.1 = some entry.2
  once : cache.patterns.Nodup

theorem isSound_empty : IsSound {} where
  prepared := List.forall_mem_nil _
  once := List.nodup_nil

variable {cache : PatternCache}

theorem prepared_of_lookup (h : cache.IsSound) {pattern : String} {program : Pattern.Program}
    (hl : cache.entries.lookup pattern = some program) :
    Pattern.Program.ofText? pattern = some program := by
  obtain ⟨before, after, he, -⟩ := List.lookup_eq_some_iff.1 hl
  exact h.prepared (pattern, program) (by simp [he])

theorem mem_patterns_of_lookup {pattern : String} {program : Pattern.Program}
    (hl : cache.entries.lookup pattern = some program) : pattern ∈ cache.patterns := by
  obtain ⟨before, after, he, -⟩ := List.lookup_eq_some_iff.1 hl
  simp [patterns, he]

theorem not_mem_patterns_of_lookup {pattern : String}
    (hl : cache.entries.lookup pattern = none) : pattern ∉ cache.patterns := by
  intro hm
  obtain ⟨entry, he, rfl⟩ := List.mem_map.1 hm
  exact absurd (List.lookup_eq_none_iff.1 hl entry he) (by simp)

theorem prepare_of_isSound (h : cache.IsSound) (pattern : String) :
    (cache.prepare pattern).1 = Pattern.Program.ofText? pattern ∧
      (cache.prepare pattern).2.IsSound ∧
      ∀ p, p ∈ (cache.prepare pattern).2.patterns ↔
        p ∈ cache.patterns ∨ p = pattern ∧ (Pattern.Program.ofText? pattern).isSome := by
  unfold prepare
  cases hl : cache.entries.lookup pattern with
  | some program =>
    have hkept := mem_patterns_of_lookup hl
    refine ⟨(prepared_of_lookup h hl).symm, h, fun p => ?_⟩
    exact ⟨.inl, fun hp => hp.elim id fun he => he.1 ▸ hkept⟩
  | none =>
    cases hp : Pattern.Program.ofText? pattern with
    | none => exact ⟨rfl, h, fun p => by simp⟩
    | some program =>
      refine ⟨rfl, ⟨?_, ?_⟩, fun p => ?_⟩
      · exact List.forall_mem_cons.2 ⟨hp, h.prepared⟩
      · exact List.nodup_cons.2 ⟨not_mem_patterns_of_lookup hl, h.once⟩
      · simp [patterns, or_comm]

theorem run_of_isSound (h : cache.IsSound) (c : PatternCheck) :
    (cache.run c).1 = Rule.checkPattern c.field c.value c.pattern ∧ (cache.run c).2.IsSound ∧
      ∀ p, p ∈ (cache.run c).2.patterns ↔
        p ∈ cache.patterns ∨ p = c.pattern ∧ (Pattern.Program.ofText? c.pattern).isSome := by
  obtain ⟨hprogram, hsound, hpatterns⟩ := prepare_of_isSound h c.pattern
  exact ⟨congrArg (Rule.checkPrepared c.field c.value c.pattern) hprogram, hsound, hpatterns⟩

theorem runAll_of_isSound (h : cache.IsSound) (checks : List PatternCheck) :
    (cache.runAll checks).1 = checks.map (fun c => Rule.checkPattern c.field c.value c.pattern) ∧
      (cache.runAll checks).2.IsSound ∧
      ∀ p, p ∈ (cache.runAll checks).2.patterns ↔ p ∈ cache.patterns ∨
        p ∈ checks.map PatternCheck.pattern ∧ (Pattern.Program.ofText? p).isSome := by
  -- soundness is what a check leaves for the checks behind it
  induction checks generalizing cache with
  | nil => exact ⟨rfl, h, fun p => by simp [runAll]⟩
  | cons c rest ih =>
    obtain ⟨hverdict, hnext, hpatterns⟩ := run_of_isSound h c
    obtain ⟨hverdicts, hlast, hrest⟩ := ih hnext
    refine ⟨?_, hlast, fun p => ?_⟩
    · exact congrArg₂ List.cons hverdict hverdicts
    · refine (hrest p).trans ?_
      rw [hpatterns, List.map_cons, List.mem_cons, or_assoc]
      grind

/-- Every check of a sequence is answered as if it were the first one, by its field, its value and
its pattern alone. The cache that the sequence leaves holds the usable patterns that were asked for,
each once and as it is prepared, and no other. -/
theorem checks_ignore_cache (checks : List PatternCheck) :
    let answered := runAll {} checks
    answered.1 = checks.map (fun c => (run {} c).1) ∧
      answered.1 = checks.map (fun c => Rule.checkPattern c.field c.value c.pattern) ∧
      answered.2.IsSound ∧
      ∀ pattern, pattern ∈ answered.2.patterns ↔
        pattern ∈ checks.map PatternCheck.pattern ∧ (Pattern.Program.ofText? pattern).isSome := by
  obtain ⟨hverdicts, hsound, hpatterns⟩ := runAll_of_isSound isSound_empty checks
  have hfirst : checks.map (fun c => (run {} c).1) =
      checks.map (fun c => Rule.checkPattern c.field c.value c.pattern) :=
    List.map_congr_left fun c _ => (run_of_isSound isSound_empty c).1
  refine ⟨hverdicts.trans hfirst.symm, hverdicts, hsound, fun pattern => ?_⟩
  simpa [patterns] using hpatterns pattern

end PatternCache

end EventSchema
