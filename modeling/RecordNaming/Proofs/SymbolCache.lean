/-
  RecordNaming.Proofs.SymbolCache — a cache of currency symbols in front of a backend that
  changes.

  A step sets or removes a symbol in the backend (in a table, `step_ofTable`), resolves an
  identifier through the cache, or clears the cache (`SymbolStep`). `asked` are the identifiers
  resolved since the latest clear.

  (1) One question changes the entry of its identifier only, and only if there is none
  (`get?_resolve`, `calls_resolve`, `size_resolve`).

  (2) Runs. The cache has an answer for exactly the identifiers asked (`isSome_get?_run_iff`),
  each of them what the backend said when it was first asked (`get?_run_of_mem_asked`); the
  backend is called once for each (`calls_run_of_no_clear`, `size_run`).

  (3) Names. Each rule that shows the symbol asks for itself, through the cache as the rules
  before it left it (`evaluateThrough`). A question asked again is answered as before and
  changes nothing, so a name comes to one question at most, for the currency of its record
  (`evaluateThrough_eq`, `evaluateCached_cache`).

  (4) Lists of names. A cache whose answers are those of the backend (`Faithful`) stays so, and
  names made through it are those that the backend gives (`evaluateAll_names`); the cache is
  left as by the questions alone (`evaluateAll_cache`).

  `cache_answers_as_first_asked` puts them together.
-/
import RecordNaming.Proofs.Dependence
import Mathlib.Data.List.Dedup
import Mathlib.Data.List.Induction

namespace RecordNaming

/-! ## (1) One question -/

namespace SymbolCache

variable (cache : SymbolCache) (source : SymbolSource)

theorem resolve_of_some {id : EntityId} {answer : Option String} (h : cache.answers.get? id = some answer) :
    cache.resolve source id = (answer, cache) := by
  rw [resolve, h]

theorem resolve_of_none {id : EntityId} (h : cache.answers.get? id = none) :
    cache.resolve source id = (source id, ⟨cache.answers.put id (source id), cache.calls + 1⟩) := by
  rw [resolve, h]

theorem get?_resolve (id other : EntityId) :
    (cache.resolve source id).2.answers.get? other =
      if other = id then some (cache.resolve source id).1 else cache.answers.get? other := by
  cases h : cache.answers.get? id with
  | some answer =>
    rw [resolve_of_some cache source h]
    split
    · rename_i e
      rw [e, h]
    · rfl
  | none =>
    rw [resolve_of_none cache source h]
    split
    · rename_i e
      rw [e]
      exact cache.answers.get?_put_self id (source id)
    · rename_i e
      exact cache.answers.get?_put_ne (source id) e

theorem calls_resolve (id : EntityId) :
    (cache.resolve source id).2.calls =
      cache.calls + if (cache.answers.get? id).isSome then 0 else 1 := by
  cases h : cache.answers.get? id with
  | some answer => rw [resolve_of_some cache source h]; rfl
  | none => rw [resolve_of_none cache source h]; rfl

theorem size_resolve (id : EntityId) :
    (cache.resolve source id).2.size = cache.size + if (cache.answers.get? id).isSome then 0 else 1 := by
  cases h : cache.answers.get? id with
  | some answer => rw [resolve_of_some cache source h]; rfl
  | none =>
    rw [resolve_of_none cache source h, size, Table.size_put, h]
    rfl

end SymbolCache

/-! ## (2) Runs -/

/-- What can happen to a backend of symbols and the cache in front of it. -/
inductive SymbolStep where
  | set (id : EntityId) (symbol : String)
  | remove (id : EntityId)
  | resolve (id : EntityId)
  | clear
  deriving DecidableEq

/-- The identifiers resolved since the latest clear, one step later. -/
def SymbolStep.track (ids : List EntityId) : SymbolStep → List EntityId
  | set _ _ => ids
  | remove _ => ids
  | resolve id => ids ++ [id]
  | clear => []

/-- The identifiers resolved since the latest clear. -/
def SymbolStep.asked (steps : List SymbolStep) : List EntityId := steps.foldl track []

/-- The step resolves an identifier for the first time since the latest clear. -/
def SymbolStep.asksFirst (before : List SymbolStep) : SymbolStep → Bool
  | resolve id => !(asked before).contains id
  | _ => false

theorem SymbolStep.asked_concat (steps : List SymbolStep) (next : SymbolStep) :
    asked (steps ++ [next]) = track (asked steps) next := by
  simp [asked]

/-- A backend of symbols with a cache in front of it. -/
structure CachedBackend where
  backend : SymbolSource
  cache : SymbolCache := {}

namespace CachedBackend

open SymbolStep (asked asked_concat asksFirst)

def step (s : CachedBackend) : SymbolStep → CachedBackend
  | .set id symbol => { s with backend := fun other => if other = id then some symbol else s.backend other }
  | .remove id => { s with backend := fun other => if other = id then none else s.backend other }
  | .resolve id => { s with cache := (s.cache.resolve s.backend id).2 }
  | .clear => { s with cache := s.cache.clear }

def run (s : CachedBackend) (steps : List SymbolStep) : CachedBackend := steps.foldl step s

/-- The answer to an identifier that is resolved through the cache. -/
def answer (s : CachedBackend) (id : EntityId) : Option String := (s.cache.resolve s.backend id).1

theorem run_concat (s : CachedBackend) (steps : List SymbolStep) (next : SymbolStep) :
    s.run (steps ++ [next]) = (s.run steps).step next := by
  simp [run]

/-- A step that sets or removes a symbol is the write to the table, where a table is the backend. -/
theorem step_ofTable (t : SymbolTable) (cache : SymbolCache) (id : EntityId) (symbol : String) :
    step ⟨.ofTable t, cache⟩ (.set id symbol) = ⟨.ofTable (t.put id symbol), cache⟩ ∧
      step ⟨.ofTable t, cache⟩ (.remove id) = ⟨.ofTable (t.erase id), cache⟩ := by
  refine ⟨?_, ?_⟩
  · rw [step, CachedBackend.mk.injEq]
    refine ⟨funext fun other => ?_, rfl⟩
    by_cases e : other = id
    · subst e
      rw [if_pos rfl, SymbolSource.ofTable, Table.get?_put_self]
    · rw [if_neg e, SymbolSource.ofTable, SymbolSource.ofTable, Table.get?_put_ne t symbol e]
  · rw [step, CachedBackend.mk.injEq]
    exact ⟨funext fun other => (t.get?_erase id other).symm, rfl⟩

variable {s : CachedBackend} (hs : s.cache.answers = .empty)
include hs

/-- The cache has an answer for exactly the identifiers resolved since the latest clear. -/
theorem isSome_get?_run_iff (steps : List SymbolStep) (id : EntityId) :
    ((s.run steps).cache.answers.get? id).isSome = true ↔ id ∈ asked steps := by
  induction steps using List.reverseRecOn with
  | nil => simp [run, hs, asked]
  | append_singleton steps next ih =>
    rw [run_concat, asked_concat]
    cases next with
    | set other symbol => exact ih
    | remove other => exact ih
    | clear => simp [step, SymbolCache.clear, SymbolStep.track]
    | resolve other =>
      simp only [step, SymbolCache.get?_resolve, SymbolStep.track, List.mem_append, List.mem_singleton]
      by_cases e : id = other
      · simp [e]
      · simp [e, ih]

/-- The kept answer to an identifier is what the backend said when it was first resolved since the
latest clear. -/
theorem get?_run_of_mem_asked (steps : List SymbolStep) {id : EntityId} (h : id ∈ asked steps) :
    ∃ before between, steps = before ++ .resolve id :: between ∧ id ∉ asked before ∧
      .clear ∉ between ∧ (s.run steps).cache.answers.get? id = some ((s.run before).backend id) := by
  induction steps using List.reverseRecOn with
  | nil => cases h
  | append_singleton steps next ih =>
    -- a later step that neither clears nor comes first leaves the answer
    have later (hm : id ∈ asked steps) (hc : next ≠ .clear)
        (hk : ((s.run steps).step next).cache.answers.get? id = (s.run steps).cache.answers.get? id) :
        ∃ before between, steps ++ [next] = before ++ .resolve id :: between ∧ id ∉ asked before ∧
          .clear ∉ between ∧
          (s.run (steps ++ [next])).cache.answers.get? id = some ((s.run before).backend id) := by
      obtain ⟨before, between, rfl, hb, hn, ha⟩ := ih hm
      refine ⟨before, between ++ [next], by simp, hb, by simp [hn, hc.symm], ?_⟩
      rw [run_concat, hk, ha]
    rw [asked_concat] at h
    cases next with
    | set other symbol => exact later h (by simp) rfl
    | remove other => exact later h (by simp) rfl
    | clear => cases h
    | resolve other =>
      by_cases hm : id ∈ asked steps
      · refine later hm (by simp) ?_
        rw [step, SymbolCache.get?_resolve]
        split
        · rename_i e
          obtain ⟨known, hk⟩ := Option.isSome_iff_exists.mp ((isSome_get?_run_iff hs steps id).mpr hm)
          rw [← e, SymbolCache.resolve_of_some _ _ hk, hk]
        · rfl
      · have e : id = other := by simpa [SymbolStep.track, hm] using h
        subst e
        have hn : (s.run steps).cache.answers.get? id = none := by
          rw [← Option.not_isSome_iff_eq_none, isSome_get?_run_iff hs]
          exact hm
        refine ⟨steps, [], rfl, hm, by simp, ?_⟩
        rw [run_concat, step, SymbolCache.get?_resolve, if_pos rfl, SymbolCache.resolve_of_none _ _ hn]

theorem isSome_get?_run_eq (steps : List SymbolStep) (id : EntityId) :
    ((s.run steps).cache.answers.get? id).isSome = (asked steps).contains id := by
  rw [Bool.eq_iff_iff, isSome_get?_run_iff hs, List.contains_iff_mem]

theorem calls_step (steps : List SymbolStep) (next : SymbolStep) :
    (s.run (steps ++ [next])).cache.calls =
      (s.run steps).cache.calls + if asksFirst steps next then 1 else 0 := by
  rw [run_concat]
  cases next with
  | resolve id =>
    rw [step, SymbolCache.calls_resolve, isSome_get?_run_eq hs, asksFirst]
    cases (asked steps).contains id <;> rfl
  | _ => rfl

theorem size_run (steps : List SymbolStep) : (s.run steps).cache.size = (asked steps).dedup.length := by
  let keys := (s.run steps).cache.answers.entries.map Prod.fst
  have hk : keys.Perm (asked steps).dedup := by
    refine (List.perm_ext_iff_of_nodup (s.run steps).cache.answers.nodup (List.nodup_dedup _)).mpr fun id => ?_
    rw [List.mem_dedup, ← isSome_get?_run_iff hs, Table.isSome_get?_iff]
  rw [← hk.length_eq, List.length_map]
  rfl

/-- Without a clear every call of the backend has left an answer. -/
theorem calls_run_of_no_clear (steps : List SymbolStep) (h : .clear ∉ steps) :
    (s.run steps).cache.calls = s.cache.calls + (s.run steps).cache.size := by
  induction steps using List.reverseRecOn with
  | nil => simp [run, hs, SymbolCache.size, Table.size, Table.empty]
  | append_singleton steps next ih =>
    simp only [List.mem_append, List.mem_singleton, not_or] at h
    have hi := ih h.1
    rw [run_concat]
    cases next with
    | set other symbol => exact hi
    | remove other => exact hi
    | clear => exact absurd rfl h.2
    | resolve id => rw [step, SymbolCache.calls_resolve, SymbolCache.size_resolve, hi, Nat.add_assoc]

end CachedBackend

/-! ## (3) Names -/

namespace SymbolCache

variable (cache : SymbolCache) (backend : SymbolSource)

/-- A question asked again is answered as before and leaves the cache alone. -/
theorem resolve_resolve (id : EntityId) :
    (cache.resolve backend id).2.resolve backend id = cache.resolve backend id := by
  have h : (cache.resolve backend id).2.answers.get? id = some (cache.resolve backend id).1 := by
    rw [get?_resolve, if_pos rfl]
  rw [resolve_of_some _ _ h]

theorem ask_ask (r : Record) : (cache.ask backend r).ask backend r = cache.ask backend r := by
  unfold ask
  cases r.askedCurrency? with
  | none => rfl
  | some id => simp only [resolve_resolve]

/-- Asking for the currency of a record does not change its symbol. -/
theorem symbol?_ask (r : Record) :
    r.symbol? ((cache.ask backend r).source backend) = r.symbol? (cache.source backend) := by
  unfold Record.symbol? ask
  cases r.askedCurrency? with
  | none => rfl
  | some id => simp only [Option.bind_some, source, resolve_resolve]

/-- Asks for the currency of a record if the condition holds. -/
def askIf (cond : Bool) (r : Record) : SymbolCache := if cond then cache.ask backend r else cache

theorem askIf_askIf (a b : Bool) (r : Record) :
    (cache.askIf backend a r).askIf backend b r = cache.askIf backend (a || b) r := by
  cases a <;> cases b <;> simp [askIf, ask_ask]

end SymbolCache

variable (backend : SymbolSource) (cache : SymbolCache)

/-- The symbol of a record's amounts, its currency asked for through the cache. -/
def Record.symbolThrough (r : Record) : Option String × SymbolCache :=
  match r.askedCurrency? with
  | some id => (Text.nonBlank? (cache.resolve backend id).1, (cache.resolve backend id).2)
  | none => (Text.nonBlank? r.currencySymbol, cache)

/-- The text of a value; an amount asks for its symbol through the cache. -/
def FieldRule.formatThrough (rule : FieldRule) (value : FieldValue) (r : Record) : String × SymbolCache :=
  match FieldType.effective rule.type value, value.decimal? with
  | .currency, some amount =>
    let (symbol, cache) := r.symbolThrough backend cache
    (Money.format amount rule.format (r.shownLabel? rule.field) symbol, cache)
  | _, _ => (rule.formatValue value r .none, cache)

namespace RuleChain

/-- As `resolveFrom`, through the cache. -/
def resolveThrough (r : Record) (rule : FieldRule) :
    List FieldRule → (String × ContributionSource) × SymbolCache
  | [] =>
    match r.value? rule.field with
    | some value =>
      let (text, cache) := rule.formatThrough backend cache value r
      (withSource (rule.finish text) .primary, cache)
    | none => (withSource (rule.finish (rule.default.getD "")) .default, cache)
  | next :: rest =>
    match r.value? rule.field with
    | some value =>
      let (text, cache) := rule.formatThrough backend cache value r
      (withSource (rule.finish text) .primary, cache)
    | none =>
      let (resolved, cache) := resolveThrough r next rest
      (withSource resolved.1 .alternate, cache)

/-- As `contribution`, through the cache. -/
def contributionThrough (chain : RuleChain) (r : Record) : Contribution × SymbolCache :=
  if chain.included r then
    let (resolved, cache) := resolveThrough backend cache r chain.first chain.alternates
    (⟨chain.first.field, resolved.2, resolved.1⟩, cache)
  else (⟨chain.first.field, .skippedByCondition, ""⟩, cache)

/-- What the rules contribute, each through the cache as those before it left it. -/
def contributeThrough (r : Record) : SymbolCache → List RuleChain → List Contribution × SymbolCache
  | cache, [] => ([], cache)
  | cache, chain :: rest =>
    let (contribution, cache) := chain.contributionThrough backend cache r
    let (contributions, cache) := contributeThrough r cache rest
    (contribution :: contributions, cache)

end RuleChain

/-- The name of a record, each of its amounts asking for its symbol through the cache. -/
def RuleSet.evaluateThrough (rules : RuleSet) (r : Record) : Outcome × SymbolCache :=
  let c := rules.configuration
  let (contributions, cache) := RuleChain.contributeThrough backend r cache c.fields
  ((contributions.foldl Outcome.record {}).limited c.outputLimit c.indicator, cache)

variable (r : Record)

theorem Record.symbolThrough_eq :
    r.symbolThrough backend cache = (r.symbol? (cache.source backend), cache.ask backend r) := by
  unfold symbolThrough symbol? SymbolCache.ask
  cases ha : r.askedCurrency? with
  | none => simp
  | some id =>
    -- a record that asks has no symbol of its own
    have hn : Text.nonBlank? r.currencySymbol = none := by
      unfold askedCurrency? at ha
      split at ha
      · cases ha
      · exact Option.not_isSome_iff_eq_none.mp ‹_›
    simp [hn, SymbolCache.source]

theorem FieldRule.formatThrough_eq (rule : FieldRule) (value : FieldValue) :
    rule.formatThrough backend cache value r =
      (rule.formatValue value r (cache.source backend),
        cache.askIf backend (FieldType.effective rule.type value == .currency && value.decimal?.isSome) r) := by
  unfold formatThrough
  split
  · rename_i amount ht hd
    simp [Record.symbolThrough_eq, formatValue, ht, hd, SymbolCache.askIf]
  · rename_i hn
    have hs : ¬rule.ShowsSymbol value := fun h => by
      obtain ⟨amount, ha⟩ := Option.isSome_iff_exists.mp h.2
      exact hn amount h.1 ha
    have hb : (FieldType.effective rule.type value == .currency && value.decimal?.isSome) = false := by
      rw [← Bool.not_eq_true, Bool.and_eq_true, beq_iff_eq]
      exact hs
    have same : Record.SameAt (fun _ => True) r r := .refl r
    rw [hb, rule.formatValue_congr same trivial value fun h => absurd h hs]
    rfl

namespace RuleChain

theorem resolveThrough_eq (rule : FieldRule) (alternates : List FieldRule) :
    resolveThrough backend cache r rule alternates =
      (resolveFrom r (cache.source backend) rule alternates,
        cache.askIf backend (showsSymbol ⟨rule, alternates⟩ r) r) := by
  induction alternates generalizing rule with
  | nil =>
    unfold resolveThrough resolveFrom
    cases hv : r.value? rule.field with
    | some value => simp [FieldRule.formatThrough_eq, primaryText, showsSymbol, supplier?, rules, hv]
    | none => simp [showsSymbol, supplier?, rules, hv, SymbolCache.askIf]
  | cons next rest ih =>
    unfold resolveThrough resolveFrom
    cases hv : r.value? rule.field with
    | some value => simp [FieldRule.formatThrough_eq, primaryText, showsSymbol, supplier?, rules, hv]
    | none => simp [ih, showsSymbol, supplier?, rules, hv]

theorem contributionThrough_eq (chain : RuleChain) :
    chain.contributionThrough backend cache r =
      (chain.contribution r (cache.source backend),
        cache.askIf backend (chain.included r && chain.showsSymbol r) r) := by
  unfold contributionThrough contribution
  cases chain.included r with
  | false => rfl
  | true => simp [resolveThrough_eq, resolve]

/-- Rules that ask one after the other show the same symbol, and come to one question. -/
theorem contributeThrough_eq (chains : List RuleChain) :
    contributeThrough backend r cache chains =
      (chains.map (·.contribution r (cache.source backend)),
        cache.askIf backend (chains.any fun chain => chain.included r && chain.showsSymbol r) r) := by
  induction chains generalizing cache with
  | nil => rfl
  | cons chain rest ih =>
    have same : Record.SameAt (fun _ => True) r r := .refl r
    have hs (b : Bool) :
        r.symbol? ((cache.askIf backend b r).source backend) = r.symbol? (cache.source backend) := by
      cases b with
      | false => rfl
      | true => exact cache.symbol?_ask backend r
    have hc (b : Bool) : rest.map (·.contribution r ((cache.askIf backend b r).source backend)) =
        rest.map (·.contribution r (cache.source backend)) :=
      List.map_congr_left fun other _ => contribution_congr same other (fun _ _ => trivial) fun _ _ => hs b
    simp only [contributeThrough, contributionThrough_eq, ih, hc, SymbolCache.askIf_askIf, List.map_cons,
      List.any_cons]

end RuleChain

namespace RuleSet

variable (rules : RuleSet)

theorem evaluateThrough_eq : rules.evaluateThrough backend cache r = rules.evaluateCached backend cache r := by
  simp only [evaluateThrough, RuleChain.contributeThrough_eq]
  rfl

/-- The currency that the name of a record asks its source for, if any. -/
def asked? (rules : RuleSet) (r : Record) : Option EntityId :=
  if rules.showsSymbol r then r.askedCurrency? else none

/-- A name asks at most once. -/
theorem evaluateCached_cache :
    (rules.evaluateCached backend cache r).2 =
      match rules.asked? r with
      | some id => (cache.resolve backend id).2
      | none => cache := by
  unfold evaluateCached asked? SymbolCache.ask
  split <;> rfl

end RuleSet

/-! ## (4) Lists of names -/

/-- Each answer in the cache is the one that the source gives. -/
def SymbolCache.Faithful : Prop := ∀ id answer, cache.answers.get? id = some answer → answer = backend id

namespace SymbolCache.Faithful

variable {backend : SymbolSource} {cache : SymbolCache}

theorem clear : cache.clear.Faithful backend := fun _ _ h => by cases h

theorem source_eq (h : cache.Faithful backend) : cache.source backend = backend := by
  funext id
  cases ha : cache.answers.get? id with
  | some answer => rw [SymbolCache.source, resolve_of_some cache backend ha, h id answer ha]
  | none => rw [SymbolCache.source, resolve_of_none cache backend ha]

theorem resolve (h : cache.Faithful backend) (id : EntityId) : (cache.resolve backend id).2.Faithful backend := by
  intro other answer ha
  rw [get?_resolve] at ha
  split at ha
  · rename_i e
    have hs : (cache.resolve backend id).1 = backend id := congrFun h.source_eq id
    rw [e, ← hs]
    exact (Option.some.inj ha).symm
  · exact h other answer ha

end SymbolCache.Faithful

namespace CachedBackend

open SymbolStep (asked asked_concat)

/-- A backend with a cache that was asked nothing yet. -/
def start : CachedBackend := ⟨backend, {}⟩

theorem asked_resolves (ids : List EntityId) : asked (ids.map .resolve) = ids := by
  induction ids using List.reverseRecOn with
  | nil => rfl
  | append_singleton ids id ih =>
    rw [List.map_append, List.map_singleton, asked_concat, ih]
    rfl

/-- Questions to an empty cache call the backend once for each identifier in them. -/
theorem calls_resolves (ids : List EntityId) :
    (run ⟨backend, cache.clear⟩ (ids.map .resolve)).cache.calls = cache.calls + ids.dedup.length := by
  rw [calls_run_of_no_clear rfl _ (by simp), size_run rfl, asked_resolves]
  rfl

end CachedBackend

namespace RuleSet

variable (rules : RuleSet)

/-- The names of the records one after the other, through the cache. -/
def evaluateAll : SymbolCache → List Record → List Outcome × SymbolCache
  | cache, [] => ([], cache)
  | cache, r :: rest =>
    let (outcome, cache) := rules.evaluateCached backend cache r
    let (outcomes, cache) := evaluateAll cache rest
    (outcome :: outcomes, cache)

theorem evaluateAll_names (records : List Record) {cache : SymbolCache} (h : cache.Faithful backend) :
    (rules.evaluateAll backend cache records).1 = records.map (rules.evaluate backend) := by
  induction records generalizing cache with
  | nil => rfl
  | cons r rest ih =>
    have hn : (rules.evaluateCached backend cache r).1 = rules.evaluate backend r := by
      rw [evaluateCached, h.source_eq]
    have hf : (rules.evaluateCached backend cache r).2.Faithful backend := by
      rw [evaluateCached_cache]
      split
      · exact h.resolve _
      · exact h
    simp only [evaluateAll, hn, ih hf, List.map_cons]

theorem evaluateAll_cache (records : List Record) :
    (rules.evaluateAll backend cache records).2 =
      (CachedBackend.run ⟨backend, cache⟩ ((records.filterMap rules.asked?).map .resolve)).cache := by
  induction records generalizing cache with
  | nil => rfl
  | cons r rest ih =>
    rw [evaluateAll, ih, evaluateCached_cache]
    cases ha : rules.asked? r with
    | none => rw [List.filterMap_cons_none ha]
    | some id =>
      rw [List.filterMap_cons_some ha]
      rfl

end RuleSet

open SymbolStep CachedBackend

/-- Through all changes of the backend, the cache answers what the backend said when the identifier
was first asked since the latest clear; the backend is called at these first questions only, and the
cache holds one answer for each identifier asked. Names made through it, each amount asking for
itself, are those of the backend, which is called once for each currency that the names show. -/
theorem cache_answers_as_first_asked :
    (∀ steps id,
      (id ∉ asked steps ∧ ((start backend).run steps).answer id = ((start backend).run steps).backend id) ∨
      ∃ before between, steps = before ++ .resolve id :: between ∧ id ∉ asked before ∧
        .clear ∉ between ∧
        ((start backend).run steps).answer id = ((start backend).run before).backend id) ∧
    (∀ steps next, ((start backend).run (steps ++ [next])).cache.calls =
      ((start backend).run steps).cache.calls + if asksFirst steps next then 1 else 0) ∧
    (∀ steps, ((start backend).run steps).cache.size = (asked steps).dedup.length) ∧
    (∀ (rules : RuleSet) cache r,
      rules.evaluateThrough backend cache r = rules.evaluateCached backend cache r) ∧
    (∀ (rules : RuleSet) (cache : SymbolCache) records,
      (rules.evaluateAll backend cache.clear records).1 = records.map (rules.evaluate backend) ∧
      (rules.evaluateAll backend cache.clear records).2.calls =
        cache.calls + (records.filterMap rules.asked?).dedup.length) := by
  refine ⟨fun steps id => ?_, calls_step rfl, size_run rfl,
    fun rules => rules.evaluateThrough_eq backend, fun rules cache records => ⟨?_, ?_⟩⟩
  · by_cases hm : id ∈ asked steps
    · obtain ⟨before, between, hsteps, hb, hc, ha⟩ := get?_run_of_mem_asked (s := start backend) rfl steps hm
      refine .inr ⟨before, between, hsteps, hb, hc, ?_⟩
      rw [answer, SymbolCache.resolve_of_some _ _ ha]
    · have hn : ((start backend).run steps).cache.answers.get? id = none := by
        rw [← Option.not_isSome_iff_eq_none, isSome_get?_run_iff rfl]
        exact hm
      refine .inl ⟨hm, ?_⟩
      rw [answer, SymbolCache.resolve_of_none _ _ hn]
  · exact rules.evaluateAll_names backend records SymbolCache.Faithful.clear
  · rw [rules.evaluateAll_cache, calls_resolves]

end RecordNaming
