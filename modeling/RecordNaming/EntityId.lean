/-
  RecordNaming.EntityId — identifiers of 128 bits, written as 32 hexadecimal digits in
  groups of 8, 4, 4, 4 and 12.
-/
import RecordNaming.Json.Reader

namespace RecordNaming

/-- The number of identifiers, 2 ^ 128. -/
def EntityId.count : Nat := 340282366920938463463374607431768211456

structure EntityId where
  value : Nat
  value_lt : value < EntityId.count
  deriving DecidableEq

namespace EntityId

/-- The identifier that names nothing. -/
def isNil (id : EntityId) : Bool := id.value == 0

def digits (id : EntityId) : List Char := (Nat.toDigits 16 id.value).leftpad 32 '0'

/-- The grouped form in lower case. -/
def text (id : EntityId) : String :=
  let d := id.digits
  String.ofList (d.take 8 ++ '-' :: (d.drop 8).take 4 ++ '-' :: (d.drop 12).take 4 ++
    '-' :: (d.drop 16).take 4 ++ '-' :: d.drop 20)

/-- The identifier of 32 hexadecimal digits of either case. -/
def ofDigits? (cs : List Char) : Option EntityId := do
  let digits ← cs.mapM Json.hex?
  let value := digits.foldl (fun n d => n * 16 + d) 0
  if h : cs.length = 32 ∧ value < count then some ⟨value, h.2⟩ else none

/-- The identifier of a grouped form. -/
def ofGrouped? (cs : List Char) : Option EntityId :=
  let isHyphen := fun (place : Nat) => cs[place]? == some '-'
  if cs.length = 36 && isHyphen 8 && isHyphen 13 && isHyphen 18 && isHyphen 23 then
    ofDigits? (cs.take 8 ++ (cs.drop 9).take 4 ++ (cs.drop 14).take 4 ++ (cs.drop 19).take 4 ++
      cs.drop 24)
  else none

/-- Reads an identifier: its digits alone, the grouped form, the grouped form in braces or after
the scheme of a resource name. -/
def parse? (s : String) : Option EntityId :=
  let cs := s.toList
  match cs.length with
  | 32 => ofDigits? cs
  | 36 => ofGrouped? cs
  | 38 =>
    if cs.head? = some '\x7b' && cs.getLast? = some '\x7d' then ofGrouped? (cs.drop 1).dropLast
    else none
  | 45 => if (cs.take 9).map Char.toLower = "urn:uuid:".toList then ofGrouped? (cs.drop 9) else none
  | _ => none

end EntityId

end RecordNaming
