/-
  RecordNaming.Currency — where the currency symbol of a record comes from: the record
  itself, else a source that is asked by the identifier of the currency. A source can
  keep what it was told, so that it is asked once for each currency.
-/
import RecordNaming.Record

namespace RecordNaming

/-- What a source says of a currency. -/
abbrev SymbolSource := EntityId → Option String

/-- A fixed table of symbols. -/
abbrev SymbolTable := Table EntityId String

namespace SymbolSource

/-- The source that knows no currency. -/
def none : SymbolSource := fun _ => .none

def ofTable (t : SymbolTable) : SymbolSource := t.get?

end SymbolSource

/-- The currency that a source is asked for: a record with a symbol of its own needs none. -/
def Record.askedCurrency? (r : Record) : Option EntityId :=
  if (Text.nonBlank? r.currencySymbol).isSome then .none else r.currencyReference?.map (·.id)

/-- The symbol of a record's amounts: its own, else what the source says of its currency. Blank
symbols are none. -/
def Record.symbol? (r : Record) (source : SymbolSource) : Option String :=
  (Text.nonBlank? r.currencySymbol).or (r.askedCurrency?.bind fun id => Text.nonBlank? (source id))

/-- What a source has answered so far, and how often it was asked. An answer that there is no
symbol is kept too. -/
structure SymbolCache where
  answers : Table EntityId (Option String) := .empty
  calls : Nat := 0

namespace SymbolCache

/-- Asks through the cache. -/
def resolve (cache : SymbolCache) (source : SymbolSource) (id : EntityId) :
    Option String × SymbolCache :=
  match cache.answers.get? id with
  | some answer => (answer, cache)
  | .none =>
    let answer := source id
    (answer, ⟨cache.answers.put id answer, cache.calls + 1⟩)

/-- The source that answers as the cache would. -/
def source (cache : SymbolCache) (backend : SymbolSource) : SymbolSource :=
  fun id => (cache.resolve backend id).1

/-- Asks for the currency of a record, if it needs one. -/
def ask (cache : SymbolCache) (backend : SymbolSource) (r : Record) : SymbolCache :=
  match r.askedCurrency? with
  | some id => (cache.resolve backend id).2
  | .none => cache

/-- Forgets the answers; the calls stay counted. -/
def clear (cache : SymbolCache) : SymbolCache := { cache with answers := .empty }

def size (cache : SymbolCache) : Nat := cache.answers.size

end SymbolCache

end RecordNaming
