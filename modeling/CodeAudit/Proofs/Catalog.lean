import CodeAudit.Proofs.Table
import CodeAudit.Scan.Request

/-!
# The cache of a catalog

`Current` says that a cache, if there is one, is the grouped form of the compiled table. Requests
keep it, whether they succeed or fail, so the replies of a used catalog are those of a new one
(`serveAll_fresh`).

Requests are served one after the other; nothing is said about requests that overlap.
-/

namespace CodeAudit.Rule

-- ---------------------------------------------------------------------------
-- Groups
-- ---------------------------------------------------------------------------

theorem select_groupRules (h : ∀ rule ∈ rules, rule.category ∈ categories) (c : String) :
    Catalog.Grouping.select (groupRules rules) (some c) = rules.filter (·.category == c) := by
  by_cases hc : c ∈ categories
  · simp [Catalog.Grouping.select, groupRules, List.lookup_graph _ hc]
  · have hnone : rules.filter (·.category == c) = [] := by
      refine List.filter_eq_nil_iff.mpr ?_
      intro rule hr hcat
      exact hc (beq_iff_eq.mp hcat ▸ h rule hr)
    have hlookup : (groupRules rules).lookup c = none := by
      refine List.lookup_eq_none_iff.mpr ?_
      intro pair hpair
      obtain ⟨k, hk, rfl⟩ := List.mem_map.mp hpair
      exact bne_iff_ne.mpr fun heq => hc (heq ▸ hk)
    simp [Catalog.Grouping.select, hlookup, hnone]

-- ---------------------------------------------------------------------------
-- The invariant
-- ---------------------------------------------------------------------------

namespace Catalog

/-- The cache is absent, or it is the grouped form of the compiled table. -/
def Current (cat : Catalog) : Prop :=
  cat.cache = none ∨
    ∃ rules, compileAll cat.definitions = .ok rules ∧ cat.cache = some (groupRules rules)

variable {cat : Catalog}

theorem current_new (ds : List Definition) : { definitions := ds : Catalog }.Current := .inl rfl

theorem current_clear : cat.clear.Current := current_new cat.definitions

theorem Current.grouping (h : cat.Current) :
    cat.grouping = (compileAll cat.definitions).map groupRules := by
  rcases h with hnone | ⟨rules, hrules, hcache⟩
  · simp [Catalog.grouping, hnone]
  · simp [Catalog.grouping, hcache, hrules, Except.map]

theorem Current.cached (h : cat.Current) (hg : cat.grouping = .ok groups) :
    { cat with cache := some groups }.Current := by
  rw [h.grouping, map_eq_ok] at hg
  obtain ⟨rules, hrules, rfl⟩ := hg
  exact .inr ⟨rules, hrules, rfl⟩

/-- A current cache makes no difference to the rules that are handed out. -/
theorem Current.compiled_clear (h : cat.Current) (c : Option String) :
    cat.clear.compiled c = cat.compiled c := by
  have hg : cat.clear.grouping = cat.grouping := by
    rw [h.grouping, current_clear.grouping]
    rfl
  rw [Catalog.compiled, Catalog.compiled, hg]
  rfl

theorem compiled_ok_iff : cat.compiled c = .ok (rules, cat') ↔
    ∃ groups, cat.grouping = .ok groups ∧ rules = Grouping.select groups c ∧
      cat' = { cat with cache := some groups } := by
  simp only [Catalog.compiled, bind_eq_ok, pure_eq_ok, Prod.mk.injEq]
  constructor
  · rintro ⟨groups, hg, rfl, rfl⟩
    exact ⟨groups, hg, rfl, rfl⟩
  · rintro ⟨groups, hg, rfl, rfl⟩
    exact ⟨groups, hg, rfl, rfl⟩

end Catalog

end CodeAudit.Rule

namespace CodeAudit.Scan

open CodeAudit.Rule

-- ---------------------------------------------------------------------------
-- One request
-- ---------------------------------------------------------------------------

variable {cat : Catalog}

theorem scan_ok_iff : scan cat buffer filename c limit = .ok (found, cat') ↔
    buffer.check limit = .ok () ∧ ∃ groups, cat.grouping = .ok groups ∧
      found = scanRules (Catalog.Grouping.select groups c) buffer filename ∧
      cat' = { cat with cache := some groups } := by
  simp only [scan, bind_eq_ok, mapError_eq_ok, pure_eq_ok, Prod.exists, Catalog.compiled_ok_iff,
    Prod.mk.injEq]
  constructor
  · rintro ⟨⟨⟩, hsize, _, _, ⟨groups, hg, rfl, rfl⟩, rfl, rfl⟩
    exact ⟨hsize, groups, hg, rfl, rfl⟩
  · rintro ⟨hsize, groups, hg, rfl, rfl⟩
    exact ⟨(), hsize, _, _, ⟨groups, hg, rfl, rfl⟩, rfl, rfl⟩

theorem scan_clear (h : cat.Current) :
    scan cat.clear buffer filename c limit = scan cat buffer filename c limit := by
  simp [scan, h.compiled_clear]

def Request.needsRules : Request → Bool
  | .rules _ | .scan .. => true
  | _ => false

/-- All that a request can do to a catalog: clear the cache, fill it, or leave it alone. A request
that needs rules leaves it alone only if it fails. -/
theorem serve_cases (request : Request) (cat : Catalog) :
    (request = .clear ∧ request.serve cat = (.ok .cleared, cat.clear)) ∨
    (request.needsRules ∧ ∃ groups reply, cat.grouping = .ok groups ∧
      request.serve cat = (.ok reply, { cat with cache := some groups })) ∨
    (request ≠ .clear ∧ (request.needsRules → ∃ e, (request.serve cat).1 = .error e) ∧
      (request.serve cat).2 = cat) := by
  cases request with
  | clear => exact .inl ⟨rfl, rfl⟩
  | rules c =>
    cases hc : cat.compiled c with
    | error e => simp [Request.serve, hc, Request.needsRules]
    | ok result =>
      obtain ⟨groups, hg, -, hcat⟩ := Catalog.compiled_ok_iff.mp hc
      exact .inr (.inl ⟨rfl, groups, _, hg, by simp only [Request.serve, hc, hcat]; rfl⟩)
  | scan buffer filename c limit =>
    cases hs : scan cat buffer filename c limit with
    | error e => simp [Request.serve, hs, Request.needsRules]
    | ok result =>
      obtain ⟨-, groups, hg, -, hcat⟩ := scan_ok_iff.mp hs
      exact .inr (.inl ⟨rfl, groups, _, hg, by simp only [Request.serve, hs, hcat]; rfl⟩)
  | problems => cases hp : cat.problems <;> simp [Request.serve, hp, Request.needsRules]
  | stats => simp [Request.serve, Request.needsRules]
  | definitions => simp [Request.serve, Request.needsRules]

theorem serve_current (request : Request) (h : cat.Current) :
    (request.serve cat).2.Current ∧ (request.serve cat).2.definitions = cat.definitions := by
  rcases serve_cases request cat with ⟨-, hs⟩ | ⟨-, groups, reply, hg, hs⟩ | ⟨-, -, hs⟩
  · rw [hs]
    exact ⟨Catalog.current_clear, rfl⟩
  · rw [hs]
    exact ⟨h.cached hg, rfl⟩
  · rw [hs]
    exact ⟨h, rfl⟩

theorem serve_reply_clear (request : Request) (h : cat.Current) :
    (request.serve cat.clear).1 = (request.serve cat).1 := by
  cases request with
  | rules c =>
    rw [Request.serve, Request.serve, h.compiled_clear]
    cases cat.compiled c <;> rfl
  | scan buffer filename c limit =>
    rw [Request.serve, Request.serve, scan_clear h]
    cases scan cat buffer filename c limit <;> rfl
  | problems =>
    have hp : cat.clear.problems = cat.problems := rfl
    rw [Request.serve, Request.serve, hp]
    cases cat.problems <;> rfl
  | _ => rfl

-- ---------------------------------------------------------------------------
-- Runs of requests
-- ---------------------------------------------------------------------------

theorem serveAll_current (requests : List Request) (h : cat.Current) :
    (serveAll cat requests).2.Current ∧
      (serveAll cat requests).2.definitions = cat.definitions := by
  induction requests generalizing cat with
  | nil => exact ⟨h, rfl⟩
  | cons request rest ih =>
    obtain ⟨hserved, hdefs⟩ := serve_current request h
    obtain ⟨hrest, hrestDefs⟩ := ih hserved
    exact ⟨hrest, hrestDefs.trans hdefs⟩

theorem clear_eq (h : cat.definitions = ds) : cat.clear = { definitions := ds } := by
  rw [Catalog.clear, h]

theorem serveAll_replies (requests : List Request) (h : cat.Current) :
    (serveAll cat requests).1 = requests.map fun r => (r.serve cat.clear).1 := by
  induction requests generalizing cat with
  | nil => rfl
  | cons request rest ih =>
    obtain ⟨hserved, hdefs⟩ := serve_current request h
    simp only [serveAll, List.map_cons, serve_reply_clear request h, ih hserved, clear_eq hdefs]
    rfl

/-- A catalog that has served any requests, failed ones among them, holds no cache or the grouped
form of its compiled table. All its replies are those of a new catalog over the same table. A
request that fails leaves the cache as it was; the cache appears exactly when a request that needs
rules succeeds, and disappears exactly when it is cleared. -/
theorem serveAll_fresh (definitions : List Definition) (requests : List Request)
    (next : Request) :
    let fresh : Catalog := { definitions }
    let cat := (serveAll fresh requests).2
    let served := next.serve cat
    (cat.cache = none ∨
      ∃ rules, compileAll definitions = .ok rules ∧ cat.cache = some (groupRules rules)) ∧
    cat.definitions = definitions ∧
    (serveAll fresh requests).1 = requests.map (fun r => (r.serve fresh).1) ∧
    served.1 = (next.serve fresh).1 ∧
    (∀ e, served.1 = .error e → served.2.cache = cat.cache) ∧
    (cat.cache = none →
      (served.2.cache ≠ none ↔ next.needsRules ∧ ∃ reply, served.1 = .ok reply)) ∧
    (cat.cache ≠ none → (served.2.cache = none ↔ next = .clear)) := by
  intro fresh cat served
  obtain ⟨hcur, hdefs⟩ : cat.Current ∧ cat.definitions = definitions :=
    serveAll_current requests (Catalog.current_new definitions)
  have hclear : cat.clear = fresh := clear_eq hdefs
  have hreply : served.1 = (next.serve fresh).1 := by
    rw [← hclear, serve_reply_clear next hcur]
  have hcache : cat.cache = none ∨
      ∃ rules, compileAll definitions = .ok rules ∧ cat.cache = some (groupRules rules) := by
    simpa only [Catalog.Current, hdefs] using hcur
  refine ⟨hcache, hdefs, serveAll_replies requests (Catalog.current_new definitions), hreply, ?_⟩
  · rcases serve_cases next cat with ⟨rfl, hs⟩ | ⟨hneeds, groups, reply, -, hs⟩ | ⟨hne, hfail, hs⟩
    · simp [served, hs, Catalog.clear, Request.needsRules]
    · have hne : next ≠ .clear := by
        rintro rfl
        cases hneeds
      simp [served, hs, hneeds, hne]
    · have hsame : served.2.cache = cat.cache := congrArg Catalog.cache hs
      refine ⟨fun _ _ => hsame, ?_, ?_⟩
      · intro hnone
        refine iff_of_false (fun hsome => hsome (hsame.trans hnone)) ?_
        rintro ⟨hneeds, reply, hok⟩
        obtain ⟨e, he⟩ := hfail hneeds
        exact absurd (hok.symm.trans he) (by simp)
      · intro hsome
        exact iff_of_false (fun hnone => hsome (hsame ▸ hnone)) hne

end CodeAudit.Scan
