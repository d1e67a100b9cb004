/-
  RecordNaming.RuleSet — configurations without a defect, and the names they make of
  records. Making a name never fails.
-/
import RecordNaming.Configuration.Validity
import RecordNaming.Resolution

namespace RecordNaming

/-- A configuration that is valid under a limit on nesting. -/
structure RuleSet where
  configuration : Configuration
  maxDepth : Nat
  valid : configuration.validate maxDepth = .ok ()

namespace RuleSet

/-- The rule set of a configuration, or its first defect. -/
def ofConfiguration (c : Configuration) (maxDepth : Nat) : Except RuleError RuleSet :=
  match h : c.validate maxDepth with
  | .ok () => .ok ⟨c, maxDepth, h⟩
  | .error e => .error e

/-- What each rule contributes, joined in order and cut to the limit of the configuration. -/
def evaluate (rules : RuleSet) (source : SymbolSource) (r : Record) : Outcome :=
  let c := rules.configuration
  ((c.fields.map (·.contribution r source)).foldl Outcome.record {}).limited
    c.outputLimit c.indicator

/-- The name of a record. -/
def build (rules : RuleSet) (source : SymbolSource) (r : Record) : String :=
  (rules.evaluate source r).value

/-- Some rule that contributes shows the currency symbol of the record. -/
def showsSymbol (rules : RuleSet) (r : Record) : Bool :=
  rules.configuration.fields.any fun chain => chain.included r && chain.showsSymbol r

/-- As `evaluate`, with a backend that is asked through a cache. -/
def evaluateCached (rules : RuleSet) (backend : SymbolSource) (cache : SymbolCache) (r : Record) :
    Outcome × SymbolCache :=
  (rules.evaluate (cache.source backend) r,
    if rules.showsSymbol r then cache.ask backend r else cache)

end RuleSet

end RecordNaming
