import CodeAudit.Proofs.Buildable
import CodeAudit.Proofs.Validation

/-!
# Counts that are too large

A repetition count has an upper limit, and a pattern with a larger one is not refused like other
patterns that cannot be read: the fault is passed on. This is the only way in which compiling a rule
ends other than with a compiled rule or with a problem of that rule (`compile_cases`). Depths of
access chains get into a pattern as counts, and so do the counts of patterns that a rule brings with
it; everything else is always read (`countTooLarge_iff`). A depth with more than `maxDigits` digits
never becomes a count: it cannot be written into a pattern, and the rule is refused for that.

How deep the patterns of a rule are nested has no limit here. Whether the stack of a machine is deep
enough to compile a table is for whoever runs it to say.
-/

namespace CodeAudit.Regex

-- ---------------------------------------------------------------------------
-- Patterns with a count that is too large
-- ---------------------------------------------------------------------------

theorem loop_of_fault (h : Relation.ReflTransGen Reader.Moves s s') (hnext : s'.2.next? = some t)
    (hstep : s'.1.step t s'.2 = .error fault) (hfuel : s.2.rest.length ≤ fuel) :
    Reader.loop fuel s.1 s.2 = .error fault := by
  obtain ⟨fuel', hfuel', hloop⟩ := loop_along h hfuel
  have hsome : 0 < s'.2.rest.length := by
    refine List.length_pos_iff.mpr fun hnil => ?_
    simp [Cursor.next?, hnil] at hnext
  obtain ⟨fuel', rfl⟩ := Nat.exists_eq_succ_of_ne_zero (n := fuel') (by omega)
  rw [hloop, Reader.loop, hnext]
  simp only [hstep, error_bind]

theorem brace_tooLarge {r : Reader} (h : countLimit ≤ n)
    (hshort : (Nat.toDigits 10 n).length ≤ maxDigits) (hrest : .dangling ∉ rest) :
    r.brace ⟨digitTokens n ++ .plain ',' :: .plain '}' :: rest, p⟩ =
      .error Problem.countTooLarge.overall := by
  have hclose : .dangling ∉ Token.plain '}' :: rest := by simpa using hrest
  have hcount : Reader.repeatCount? (Nat.toDigits 10 n) = .error Problem.countTooLarge.overall := by
    have hsome : Nat.toDigits 10 n ≠ [] := Nat.toDigits_ne_nil
    simp [Reader.repeatCount?, hsome, ofDigits_toDigits, Nat.not_lt.mpr hshort, h]
  simp only [Reader.brace, sees_digits (show Char.isDigit '}' = false by decide),
    takeAll_digits hclose (show Char.isDigit ',' = false by decide), ok_bind]
  simp [Cursor.sees, Cursor.next?, advance_cons, hrest, ok_bind, takeAll_none, hcount, error_bind]

def Phrase.atLeast (n : Nat) (e : Phrase) : Phrase := .repeated ⟨.atLeast n, false⟩ e

theorem fine_atLeast {e : Phrase} (hfine : e.fine = true) (hatom : e.isAtom = true)
    (h : n < countLimit) : (e.atLeast n).fine = true := by
  simp only [Phrase.atLeast, Phrase.fine, Bound.fine, hfine, hatom, h, decide_true, Bool.and_self]

theorem compile_tooLarge {e : Phrase} (hfine : e.fine = true) (hatom : e.isAtom = true)
    (hflags : flags.ordinary = true) (h : countLimit ≤ n)
    (hshort : (Nat.toDigits 10 n).length ≤ maxDigits) :
    compile (e.atLeast n).source flags =
      .error ⟨(e.atLeast n).source, Problem.countTooLarge.overall⟩ := by
  have htokens : (e.atLeast n).tokens =
      e.tokens ++ .plain '{' :: (digitTokens n ++ [.plain ',', .plain '}']) := by
    simp [Phrase.atLeast, Phrase.tokens, Mark.tokens, Mark.tail, Bound.tokens]
  have hwhole := dangling_notMem_tokens (e.atLeast n)
  have hslash : .plain '\\' ∉ (e.atLeast n).tokens := by
    have hmark := slash_notMem_mark ⟨.atLeast n, false⟩
    simp [Phrase.atLeast, Phrase.tokens, slash_notMem_tokens hfine, hmark]
  have hbrace : .dangling ∉ Token.plain '{' :: (digitTokens n ++ [.plain ',', .plain '}']) := by
    simp [dangling_notMem_digitTokens]
  have hready := ready_start hflags
  -- The phrase itself is read, so that the run gets to the brace behind it.
  obtain ⟨p, hrun⟩ := reads_phrase hfine hready hbrace (.inl hatom) 0
  rw [← htokens] at hrun
  have hstep : ∀ r : Reader, r.Ready → r.step (.plain '{')
      ⟨.plain '{' :: (digitTokens n ++ [.plain ',', .plain '}']), p⟩ =
        .error Problem.countTooLarge.overall := by
    intro r hr
    rw [step_read hr.exact (by simp [dangling_notMem_digitTokens]) (by simp) (by simp)]
    exact brace_tooLarge h hshort (by simp)
  have hloop := loop_of_fault hrun rfl (hstep _ (hready.redraw_extend e)) (Nat.le_succ _)
  have hread : read (e.atLeast n).source.toList flags = .error Problem.countTooLarge.overall := by
    rw [Phrase.source, read, start_tokens hwhole hslash]
    exact hloop
  simp only [compile, hread]

end CodeAudit.Regex

namespace CodeAudit.Rule

open CodeAudit.Regex (Phrase countLimit)
open CodeAudit.Regex.Phrase (literal)

-- ---------------------------------------------------------------------------
-- Access chains
-- ---------------------------------------------------------------------------

namespace Phrasing

def name : Phrase := .repeated ⟨.some, false⟩ (.shorthand .word false)

@[simp] theorem source_name : name.source = "\\w+" := rfl
@[simp] theorem fine_name : name.fine = true := rfl

def access (operator : String) : Phrase :=
  .group .plain (literal (if operator = "?." then "?." else ".") ++ name)

theorem fine_access (operator : String) : (access operator).fine = true := by
  simp [access, Phrase.fine]

theorem source_atLeast (n : Nat) (e : Phrase) :
    (e.atLeast n).source = e.source ++ "\x7b" ++ toString n ++ ",\x7d" := by
  rw [← String.toList_inj]
  simp [Phrase.atLeast, Phrase.source, Phrase.tokens, Regex.Mark.tokens, Regex.Mark.tail,
    Regex.Bound.tokens, Regex.digitTokens, Regex.Token.chars, List.flatMap_map]

theorem chainedAccessRecipes_eq (minDepth : Int) (operator : String) :
    chainedAccessRecipes minDepth operator =
      [{ source := ((access operator).atLeast (max minDepth 1).toNat).source }] := by
  obtain ⟨depth, hdepth⟩ : ∃ depth : Nat, max minDepth 1 = depth :=
    ⟨_, (Int.toNat_of_nonneg (by omega)).symm⟩
  have hdigits : (depth : Int).repr = depth.repr := rfl
  have hoperator : (if operator = "?." then "\\?\\." else "\\.") =
      Regex.escape (if operator = "?." then "?." else ".") := by
    split <;> rfl
  simp [chainedAccessRecipes, source_atLeast, access, hoperator, hdepth, hdigits,
    String.append_assoc]

end Phrasing

open Phrasing (access fine_access chainedAccessRecipes_eq)

def tooLarge (source : String) : Regex.Error := ⟨source, Regex.Problem.countTooLarge.overall⟩

theorem isLongInteger_of_lt {n : Int} (hpos : 0 ≤ n) (h : n < countLimit) :
    isLongInteger n = false := by
  have hnat : n.natAbs ≤ countLimit := by omega
  simpa [isLongInteger] using Regex.length_toDigits_le_maxDigits hnat

theorem length_toDigits_of_not_long {n : Int} (hpos : 0 ≤ n) (h : isLongInteger n = false) :
    (Nat.toDigits 10 n.toNat).length ≤ maxDigits := by
  have habs : n.natAbs = n.toNat := by omega
  simpa [isLongInteger, habs] using h

/-- An access chain is read, unless it is too long for a count. A depth that cannot even be written
is refused before that. -/
theorem matchers_chainedAccess (minDepth : Int) (operator : String) :
    (minDepth < countLimit →
      ∃ m, (Spec.chainedAccess minDepth operator).matchers = .ok [m]) ∧
    (countLimit ≤ minDepth → isLongInteger minDepth = false →
      ∃ source, (Spec.chainedAccess minDepth operator).matchers =
        .error (.badPattern (tooLarge source))) ∧
    (countLimit ≤ minDepth → isLongInteger minDepth = true →
      (Spec.chainedAccess minDepth operator).matchers = .error .longDepth) := by
  have hfine := fine_access operator
  have hone : (1 : Int) < countLimit := by decide
  refine ⟨fun h => ?_, fun h hshort => ?_, fun h hlong => ?_⟩
  · have hdepth : (max minDepth 1).toNat < countLimit := by omega
    have hshort : isLongInteger (max minDepth 1) = false :=
      isLongInteger_of_lt (by omega) (by omega)
    simp only [Spec.matchers, Spec.recipes, hshort, chainedAccessRecipes_eq, ok_bind,
      List.mapM_cons, List.mapM_nil, Recipe.matcher, Bool.false_eq_true, if_false]
    rw [Regex.compile_source (Regex.fine_atLeast hfine rfl hdepth) rfl]
    exact ⟨_, rfl⟩
  · have hmax : max minDepth 1 = minDepth := by omega
    have hdepth : countLimit ≤ minDepth.toNat := by omega
    have hdigits := length_toDigits_of_not_long (by omega) hshort
    simp only [Spec.matchers, Spec.recipes, chainedAccessRecipes_eq, hmax, hshort, ok_bind,
      List.mapM_cons, List.mapM_nil, Recipe.matcher, Bool.false_eq_true, if_false]
    rw [Regex.compile_tooLarge hfine rfl rfl hdepth hdigits]
    exact ⟨_, rfl⟩
  · have hmax : max minDepth 1 = minDepth := by omega
    simp [Spec.matchers, Spec.recipes, hmax, hlong, error_bind]

theorem exists_refusal_chainedAccess {minDepth : Int} (operator : String)
    (h : countLimit ≤ minDepth) :
    ∃ e, (Spec.chainedAccess minDepth operator).matchers = .error e := by
  obtain ⟨-, hlarge, hlong⟩ := matchers_chainedAccess minDepth operator
  cases hwritten : isLongInteger minDepth with
  | false =>
    obtain ⟨source, hsource⟩ := hlarge h hwritten
    exact ⟨_, hsource⟩
  | true => exact ⟨_, hlong h hwritten⟩

-- ---------------------------------------------------------------------------
-- Descriptions
-- ---------------------------------------------------------------------------

/-- A pattern that is not read because of a count that is too large. -/
def CountFault (source : String) (flags : Regex.Flags) : Prop :=
  ∃ e, Regex.compile source flags = .error e ∧ e.fault.problem = .countTooLarge

/-- The descriptions with a count that is too large: the depth of an access chain, if it can be
written at all, or a count in a pattern that the description brings with it. -/
def Spec.CountTooLarge : Spec → Prop
  | .chainedAccess minDepth _ => countLimit ≤ minDepth ∧ isLongInteger minDepth = false
  | .secret kind custom =>
    kind = "custom" ∧ ∃ source, custom = some source ∧ source ≠ "" ∧ CountFault source {}
  | .raw source letters =>
    ∃ flags repeats, parseFlags letters = .ok (flags, repeats) ∧ CountFault source flags
  | _ => False

theorem not_countTooLarge_of_structured {spec : Spec} (h : spec.IsStructured) :
    ¬ spec.CountTooLarge := by
  cases spec with
  | secret kind custom =>
    rintro ⟨rfl, -⟩
    exact h rfl
  | chainedAccess minDepth operator => exact h.elim
  | raw source letters => exact h.elim
  | _ => exact id

theorem countFault_iff (recipe : Recipe) : CountFault recipe.source recipe.flags ↔
    ∃ e, [recipe].mapM Recipe.matcher = .error (.badPattern e) ∧
      e.fault.problem = .countTooLarge := by
  simp only [CountFault, List.mapM_cons, List.mapM_nil, Recipe.matcher]
  cases Regex.compile recipe.source recipe.flags with
  | ok pattern => simp [ok_bind, pure_ok]
  | error e => simp

theorem countTooLarge_iff (spec : Spec) : spec.CountTooLarge ↔
    ∃ e, spec.matchers = .error (.badPattern e) ∧ e.fault.problem = .countTooLarge := by
  by_cases h : spec.IsStructured
  · obtain ⟨ms, hms, -⟩ := matchers_structured h
    simp [not_countTooLarge_of_structured h, hms]
  cases spec with
  | chainedAccess minDepth operator =>
    obtain ⟨hfits, hlarge, hlong⟩ := matchers_chainedAccess minDepth operator
    by_cases hdepth : minDepth < countLimit
    · obtain ⟨m, hm⟩ := hfits hdepth
      simp [Spec.CountTooLarge, hm, Int.not_le.mpr hdepth]
    have hdepth := Int.not_lt.mp hdepth
    cases hwritten : isLongInteger minDepth with
    | false =>
      obtain ⟨source, hsource⟩ := hlarge hdepth hwritten
      simp [Spec.CountTooLarge, hsource, tooLarge, Regex.Problem.overall, hdepth, hwritten]
    | true => simp [Spec.CountTooLarge, hlong hdepth hwritten, hwritten]
  | secret kind custom =>
    obtain rfl : kind = "custom" := by simpa [Spec.IsStructured] using h
    cases custom with
    | none => simp [Spec.CountTooLarge, Spec.matchers, Spec.recipes, ok_bind, pure_ok]
    | some source =>
      by_cases hsource : source = ""
      · simp [Spec.CountTooLarge, Spec.matchers, Spec.recipes, ok_bind, pure_ok, hsource]
      · have hone := countFault_iff { source }
        simp [Spec.CountTooLarge, Spec.matchers, Spec.recipes, ok_bind, hsource, hone]
  | raw source letters =>
    cases hflags : parseFlags letters with
    | error letter => simp [Spec.CountTooLarge, Spec.matchers, Spec.recipes, hflags, error_bind]
    | ok read =>
      obtain ⟨flags, repeats⟩ := read
      have hone := countFault_iff { source, flags, repeats }
      simp [Spec.CountTooLarge, Spec.matchers, Spec.recipes, hflags, ok_bind, hone]
  | unspecified => simp [Spec.CountTooLarge, Spec.matchers, Spec.recipes, error_bind]
  | _ => exact absurd trivial h

-- ---------------------------------------------------------------------------
-- Rules and tables
-- ---------------------------------------------------------------------------

/-- The rules whose compilation ends with a fault that is passed on. Unknown labels are reported
first. -/
def Definition.Escapes (d : Definition) : Prop :=
  d.severity ∈ severities ∧ d.category ∈ categories ∧ d.spec.CountTooLarge

theorem ofBuild_eq_countTooLarge {id : String} : CompileError.ofBuild id cause = .countTooLarge e ↔
    cause = .badPattern e ∧ e.fault.problem = .countTooLarge := by
  cases cause with
  | badPattern e' =>
    by_cases h : e'.fault.problem = .countTooLarge
    · simp only [CompileError.ofBuild, h, beq_self_eq_true, if_true,
        CompileError.countTooLarge.injEq, BuildError.badPattern.injEq]
      constructor
      · rintro rfl
        exact ⟨rfl, h⟩
      · exact fun h => h.1
    · simp only [CompileError.ofBuild, beq_iff_eq, h, if_false, reduceCtorEq, false_iff,
        BuildError.badPattern.injEq]
      rintro ⟨rfl, h'⟩
      exact h h'
  | unspecified => simp [CompileError.ofBuild]
  | badFlag letter => simp [CompileError.ofBuild]
  | longDepth => simp [CompileError.ofBuild]

theorem exists_compile_countTooLarge_iff (d : Definition) :
    (∃ e, d.compile = .error (.countTooLarge e)) ↔ d.Escapes := by
  rw [Definition.Escapes, countTooLarge_iff, compile_eq]
  by_cases hs : d.severity ∈ severities
  · by_cases hc : d.category ∈ categories
    · cases d.spec.matchers with
      | error cause => simp [hs, hc, ofBuild_eq_countTooLarge]
      | ok ms => cases ms <;> simp [hs, hc]
    · simp [hs, hc]
  · simp [hs]

def Problem.IsOf (id : String) : Problem → Prop
  | .unknownSeverity owner _ | .unknownCategory owner _ | .unbuildable owner _
  | .noPatterns owner => owner = id
  | _ => False

theorem exists_after_colon (id head tail : String) :
    ∃ text, id ++ (": " ++ head) ++ tail = id ++ ": " ++ text :=
  ⟨head ++ tail, by simp [String.append_assoc]⟩

theorem Problem.IsOf.message {id : String} {problem : Problem} (h : problem.IsOf id) :
    ∃ text, problem.message = id ++ ": " ++ text := by
  cases problem with
  | unknownSeverity owner severity =>
    obtain rfl : owner = id := h
    exact exists_after_colon owner "unknown severity " (Text.quoted severity)
  | unknownCategory owner category =>
    obtain rfl : owner = id := h
    exact exists_after_colon owner "unknown category " (Text.quoted category)
  | unbuildable owner cause =>
    obtain rfl : owner = id := h
    cases cause with
    | unspecified => exact ⟨BuildError.unspecified.message, rfl⟩
    | badFlag letter =>
      exact exists_after_colon owner "failed to compile pattern: "
        (BuildError.badFlag letter).message
    | longDepth =>
      exact exists_after_colon owner "failed to compile pattern: " BuildError.longDepth.message
    | badPattern e =>
      exact exists_after_colon owner "failed to compile pattern: " (BuildError.badPattern e).message
  | noPatterns owner =>
    obtain rfl : owner = id := h
    refine ⟨"match description produced no patterns", ?_⟩
    show owner ++ (": " ++ "match description produced no patterns") = _
    rw [String.append_assoc]
  | _ => exact h.elim

theorem ofBuild_refused {id : String} (h : CompileError.ofBuild id cause = .refused problem) :
    problem.IsOf id := by
  cases cause with
  | badPattern e =>
    simp only [CompileError.ofBuild] at h
    split at h
    · cases h
    · cases h
      rfl
  | unspecified =>
    cases h
    rfl
  | badFlag letter =>
    cases h
    rfl
  | longDepth =>
    cases h
    rfl

/-- All that compiling a rule can do: give the rule with its matchers, refuse the rule, or pass on
the fault of a count that is too large. -/
theorem compile_cases (d : Definition) :
    (∃ ms, ms ≠ [] ∧ d.compile = .ok (d.withMatchers ms)) ∨
    (∃ problem, problem.IsOf d.id ∧ d.compile = .error (.refused problem)) ∨
    ∃ e, d.compile = .error (.countTooLarge e) := by
  rw [compile_eq]
  by_cases hs : d.severity ∈ severities
  · by_cases hc : d.category ∈ categories
    · simp only [hs, hc, if_true]
      cases d.spec.matchers with
      | error cause =>
        cases h : CompileError.ofBuild d.id cause with
        | refused problem => exact .inr (.inl ⟨problem, ofBuild_refused h, by simp [h]⟩)
        | countTooLarge e => exact .inr (.inr ⟨e, by simp [h]⟩)
      | ok ms =>
        cases ms with
        | nil => exact .inr (.inl ⟨.noPatterns d.id, rfl, rfl⟩)
        | cons m ms => exact .inl ⟨m :: ms, by simp, rfl⟩
    · exact .inr (.inl ⟨.unknownCategory d.id d.category, rfl, by simp [hs, hc]⟩)
  · exact .inr (.inl ⟨.unknownSeverity d.id d.severity, rfl, by simp [hs]⟩)

theorem exists_problemsFrom_iff (seen : List String) :
    (∃ problems, problemsFrom seen ds = .ok problems) ↔ ∀ d ∈ ds, ¬ d.Escapes := by
  induction ds generalizing seen with
  | nil => simp [problemsFrom]
  | cons d ds ih =>
    rw [List.forall_mem_cons, ← ih (d.id :: seen), ← exists_compile_countTooLarge_iff]
    obtain ⟨ms, -, hd⟩ | ⟨problem, -, hd⟩ | ⟨e, hd⟩ := compile_cases d
    · cases h : problemsFrom (d.id :: seen) ds <;>
        simp [problemsFrom, hd, h, ok_bind, error_bind, pure_ok]
    · cases h : problemsFrom (d.id :: seen) ds <;>
        simp [problemsFrom, hd, h, ok_bind, error_bind, pure_ok]
    · simp [problemsFrom, hd, error_bind, throw_error]

/-- Compiling a rule gives the rule with at least one matcher and all else unchanged, or refuses it
with a message that starts with its id, unless its labels are known and a count in it is too large;
then the fault is passed on. So validating a table lists its problems exactly if that happens to
none of its rules. -/
theorem compile_outcome (d : Definition) (table : List Definition) :
    (¬ d.Escapes →
      (∃ ms, ms ≠ [] ∧ d.compile = .ok (d.withMatchers ms)) ∨
      ∃ problem text, d.compile = .error (.refused problem) ∧
        problem.message = d.id ++ ": " ++ text) ∧
    (d.Escapes → ∃ e, d.compile = .error (.countTooLarge e)) ∧
    ((∃ problems, problemsOf table = .ok problems) ↔ ∀ rule ∈ table, ¬ rule.Escapes) := by
  refine ⟨fun hfits => ?_, (exists_compile_countTooLarge_iff d).mpr, exists_problemsFrom_iff []⟩
  obtain hok | ⟨problem, hof, hd⟩ | hescapes := compile_cases d
  · exact .inl hok
  · obtain ⟨text, htext⟩ := Problem.IsOf.message hof
    exact .inr ⟨problem, text, hd, htext⟩
  · exact absurd ((exists_compile_countTooLarge_iff d).mp hescapes) hfits

def endlessChains : Definition where
  id := "R-1"
  title := "T"
  description := "D"
  severity := "low"
  category := "error"
  spec := .chainedAccess 4294967295 "?."

/-- The rule is neither compiled nor refused, and a table with it is not validated. -/
theorem compile_endlessChains :
    (∀ rule, endlessChains.compile ≠ .ok rule) ∧
    (∀ problem, endlessChains.compile ≠ .error (.refused problem)) ∧
    ∀ problems, problemsOf [endlessChains] ≠ .ok problems := by
  have hescapes : endlessChains.Escapes :=
    ⟨by decide, by decide, show ((4294967295 : Nat) : Int) ≤ 4294967295 by decide, by decide⟩
  obtain ⟨e, he⟩ := (exists_compile_countTooLarge_iff endlessChains).mpr hescapes
  refine ⟨by simp [he], by simp [he], fun problems hproblems => ?_⟩
  exact (exists_problemsFrom_iff []).mp ⟨problems, hproblems⟩ endlessChains (by simp) hescapes

end CodeAudit.Rule
