/-
  RecordNaming.Yaml.Tag — the bytes of a tag, some of which can be written as escapes, and
  what they mean for a scalar.
-/
import RecordNaming.Document.Node
import RecordNaming.Json.Reader
import RecordNaming.Yaml.Cursor

namespace RecordNaming.Yaml

/-- The bytes of an ASCII text. -/
def asciiBytes (s : String) : List UInt8 := s.toList.map fun c => UInt8.ofNat c.toNat

/-! ## Escapes -/

/-- The length of a character in bytes, by its first byte. -/
def byteWidth? (first : Nat) : Option Nat :=
  if first < 0x80 then some 1
  else if first < 0xC0 then none
  else if first < 0xE0 then some 2
  else if first < 0xF0 then some 3
  else if first < 0xF8 then some 4
  else none

/-- The characters of a tag that stand for themselves. Some signs do so only where no bracket can
end the tag. -/
def isTagChar (all : Bool) (c : Char) : Bool :=
  isNameChar c || ";/?:@&=+$.!~*\x27()".toList.contains c || (all && ",[]".toList.contains c)

/-- The bytes that the characters of a tag give, and the number of those characters. An escape is a
byte in two hexadecimal digits; `pending` bytes of a character are still to come, each as an
escape. -/
def tagBytes? (all : Bool) (pending : Nat) : List Char → Option (List UInt8 × Nat)
  | '%' :: a :: b :: rest => do
    let byte := (← Json.hex? a) * 16 + (← Json.hex? b)
    let pending ←
      if pending = 0 then (byteWidth? byte).map (· - 1)
      else if 0x80 ≤ byte && byte < 0xC0 then some (pending - 1)
      else none
    let (bytes, count) ← tagBytes? all pending rest
    pure (UInt8.ofNat byte :: bytes, count + 3)
  | c :: rest =>
    if 0 < pending || c == '%' then none
    else if isTagChar all c then
      (tagBytes? all 0 rest).map fun (bytes, count) => (UInt8.ofNat c.toNat :: bytes, count + 1)
    else some ([], 0)
  | [] => if pending = 0 then some ([], 0) else none

/-- The bytes before the first zero byte; what is behind that does not count. -/
def uptoZero (bytes : List UInt8) : List UInt8 := bytes.takeWhile (· != 0)

/-! ## Meaning -/

/-- What the handle of a tag stands for unless a directive says otherwise. -/
def standardLead? (handle : String) : Option (List UInt8) :=
  if handle == "!" then some (asciiBytes "!")
  else if handle == "!!" then some (asciiBytes "tag:yaml.org,2002:")
  else none

/-- The types of scalars whose tags are standard. -/
def standardTags : List (String × Document.Tag) :=
  [("null", .null), ("bool", .bool), ("int", .int), ("float", .float)]

/-- What the bytes of a tag mean. -/
def tagOfBytes (bytes : List UInt8) : Document.Tag :=
  match standardTags.find? fun t => asciiBytes ("tag:yaml.org,2002:" ++ t.1) == bytes with
  | some (_, tag) => tag
  | none =>
    if bytes.head? != some 0x21 then .other
    else if (String.fromUTF8? (ByteArray.mk bytes.toArray)).isSome then .own
    else .unreadable

end RecordNaming.Yaml
