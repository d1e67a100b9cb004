/-
  RecordNaming.Money — amounts of money as text: a number by format, by label or in two
  places, with the currency symbol after the sign and inside accounting parentheses.
-/
import RecordNaming.Numeral.Format
import RecordNaming.Text.Search

namespace RecordNaming.Money

/-- The text between outer parentheses, if there are any. -/
def inside? (cs : List Char) : Option (List Char) :=
  match cs with
  | '(' :: rest => if rest.getLast? = some ')' then some rest.dropLast else none
  | _ => none

theorem length_trim_le (cs : List Char) : (Text.trim cs).length ≤ cs.length := by
  have h1 := (List.dropWhile_sublist (p := Text.isBlank) (l := cs)).length_le
  have h2 := (List.dropWhile_sublist (p := Text.isBlank)
    (l := (cs.dropWhile Text.isBlank).reverse)).length_le
  simp only [Text.trim, List.length_reverse] at *
  omega

theorem length_inside?_lt {cs inner : List Char} (h : inside? cs = some inner) :
    inner.length < cs.length := by
  unfold inside? at h
  split at h
  · split at h
    · cases h
      simp only [List.length_dropLast, List.length_cons]
      omega
    · cases h
  · cases h

/-- Puts the symbol into a formatted amount. Text that has it already is only trimmed. -/
def withSymbolChars (symbol text : List Char) : List Char :=
  let trimmed := Text.trim text
  if trimmed.isEmpty || symbol.all Text.isBlank then text
  else if Text.occursIn symbol trimmed then trimmed
  else if trimmed.head? = some '-' then '-' :: symbol ++ trimmed.drop 1
  else
    match _h : inside? trimmed with
    | some inner => '(' :: withSymbolChars symbol inner ++ [')']
    | none => symbol ++ trimmed
  termination_by text.length
  decreasing_by
    exact Nat.lt_of_lt_of_le (length_inside?_lt ‹_›) (length_trim_le text)

def withSymbol (text symbol : String) : String :=
  String.ofList (withSymbolChars symbol.toList text.toList)

/-- An amount as text. A format beats the label, and two grouped places stand in for text that
would be blank. -/
def format (amount : Decimal) (format label symbol : Option String) : String :=
  let text := match Text.nonBlank? format, label with
    | some f, _ => Numeral.format amount (some f)
    | none, some l => l
    | none, none => ""
  let text := if Text.allBlank text then String.ofList (Numeral.groupedTwoPlaces amount) else text
  match symbol with
  | some s => withSymbol text s
  | none => text

end RecordNaming.Money
