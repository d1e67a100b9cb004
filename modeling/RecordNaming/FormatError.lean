/-
  RecordNaming.FormatError — what can be wrong with a number or date pattern, or with a
  value for it.
-/

namespace RecordNaming

inductive FormatError where
  | unterminatedLiteral
  | trailingEscape
  | unsupportedSpecifier (specifier : String)
  | overflow
  | nonIntegral
  deriving DecidableEq, Repr

namespace FormatError

def message : FormatError → String
  | unterminatedLiteral => "unterminated quoted literal"
  | trailingEscape => "format ends with an escape character"
  | unsupportedSpecifier specifier => "unsupported format specifier: " ++ specifier
  | overflow => "numeric overflow while formatting"
  | nonIntegral => "integer format applied to a fractional value"

end FormatError

end RecordNaming
