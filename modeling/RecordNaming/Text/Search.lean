/-
  RecordNaming.Text.Search — runs of characters within a text.
-/

namespace RecordNaming.Text

/-- The characters `part` occur in a text as a run of characters. The
empty run occurs in every text. -/
def occursIn (part : List Char) : List Char → Bool
  | [] => part.isEmpty
  | c :: rest => part.isPrefixOf (c :: rest) || occursIn part rest

end RecordNaming.Text
