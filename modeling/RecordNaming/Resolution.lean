/-
  RecordNaming.Resolution — the text of a rule for a record: the value of its field by type
  and format, cut and affixed, or what its alternates or its default supply instead.
-/
import RecordNaming.Condition.Evaluation
import RecordNaming.Currency
import RecordNaming.Money
import RecordNaming.Outcome
import RecordNaming.Rule

namespace RecordNaming

/-- The value of a field that is not empty. -/
def Record.value? (r : Record) (field : String) : Option FieldValue :=
  (r.get? field).filter (!·.isEmpty)

namespace FieldRule

/-- The text of a value by the type in effect. A value that is nothing of that type has its
default text. -/
def formatValue (rule : FieldRule) (value : FieldValue) (r : Record) (source : SymbolSource) :
    String :=
  let label := r.shownLabel? rule.field
  match FieldType.effective rule.type value with
  | .date | .dateTime =>
    match value.instant? with
    | some t => t.format rule.format rule.offsetHours
    | none => value.defaultText
  | .number =>
    match value.decimal? with
    | some d => Numeral.format d rule.format
    | none => value.defaultText
  | .currency =>
    match value.decimal? with
    | some amount => Money.format amount rule.format label (r.symbol? source)
    | none => value.defaultText
  | .optionSet | .boolean => label.getD value.defaultText
  | .lookup => value.defaultText
  | .string =>
    match value with
    | .optionSet _ => label.getD value.defaultText
    | .money _ => label.getD value.defaultText
    | .boolean _ => label.getD value.defaultText
    | _ => value.defaultText

/-- A text cut to the length of the rule, then affixed unless it is empty. -/
def finish (rule : FieldRule) (text : String) : String :=
  let kept := match rule.maxLength with
    | some limit => Text.cut text limit.toNat rule.indicator
    | none => text
  if kept.isEmpty then kept else rule.leading.getD "" ++ kept ++ rule.trailing.getD ""

end FieldRule

/-- A text and where it came from; empty text came from nowhere. -/
def withSource (text : String) (source : ContributionSource) : String × ContributionSource :=
  (text, if text.isEmpty then .empty else source)

namespace RuleChain

/-- The text of a rule whose field is not empty. -/
def primaryText (rule : FieldRule) (value : FieldValue) (r : Record) (source : SymbolSource) :
    String × ContributionSource :=
  withSource (rule.finish (rule.formatValue value r source)) .primary

/-- The text of a rule with these alternates. The conditions of the rules do not matter here. -/
def resolveFrom (r : Record) (source : SymbolSource) (rule : FieldRule) :
    List FieldRule → String × ContributionSource
  | [] =>
    match r.value? rule.field with
    | some value => primaryText rule value r source
    | none => withSource (rule.finish (rule.default.getD "")) .default
  | next :: rest =>
    match r.value? rule.field with
    | some value => primaryText rule value r source
    | none => withSource (resolveFrom r source next rest).1 .alternate

def resolve (chain : RuleChain) (r : Record) (source : SymbolSource) :
    String × ContributionSource :=
  resolveFrom r source chain.first chain.alternates

/-- The first rule of a chain whose field is not empty, with its value. -/
def supplier? (chain : RuleChain) (r : Record) : Option (FieldRule × FieldValue) :=
  chain.rules.findSome? fun rule => (r.value? rule.field).map fun value => (rule, value)

/-- The text of the chain has a currency symbol in it, if there is one for the record. -/
def showsSymbol (chain : RuleChain) (r : Record) : Bool :=
  match chain.supplier? r with
  | some (rule, value) => FieldType.effective rule.type value == .currency && value.decimal?.isSome
  | none => false

/-- The condition on the first rule holds; without one it always does. -/
def included (chain : RuleChain) (r : Record) : Bool :=
  match chain.first.includeIf with
  | some c => c.holds r
  | none => true

/-- What a rule contributes to the name. -/
def contribution (chain : RuleChain) (r : Record) (source : SymbolSource) : Contribution :=
  if chain.included r then
    let (text, origin) := chain.resolve r source
    ⟨chain.first.field, origin, text⟩
  else ⟨chain.first.field, .skippedByCondition, ""⟩

end RuleChain

end RecordNaming
