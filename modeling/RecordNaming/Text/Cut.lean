/-
  RecordNaming.Text.Cut — shortening a text to a number of characters, with an indicator
  at its end. Lengths count Unicode scalar values.
-/

namespace RecordNaming.Text

/-- The indicator of a cut when none is given. -/
def defaultIndicator : String := "..."

/-- The indicator itself, or the default for none and for an empty one. -/
def indicatorOr (indicator : Option String) : String :=
  (indicator.filter (!·.isEmpty)).getD defaultIndicator

/-- At most `limit` characters of a text. A text that is too long ends with the indicator, and
a limit within the indicator leaves the start of the indicator only. -/
def cutChars (text : List Char) (limit : Nat) (indicator : List Char) : List Char :=
  if text.length ≤ limit then text
  else if limit ≤ indicator.length then indicator.take limit
  else text.take (limit - indicator.length) ++ indicator

/-- The cut of `cutChars` on strings; the empty indicator stands for the default one. -/
def cut (text : String) (limit : Nat) (indicator : String) : String :=
  String.ofList (cutChars text.toList limit (indicatorOr (some indicator)).toList)

end RecordNaming.Text
