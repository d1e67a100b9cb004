/-
  RecordNaming.Files — files by path, as much of them as reading needs: a path names a
  file, a directory or nothing.
-/

namespace RecordNaming

/-- What a path names. -/
inductive FileEntry where
  | directory
  | file (bytes : ByteArray)
  /-- A file whose bytes cannot be had. -/
  | unreadable

/-- What each path names. -/
abbrev FileLookup := String → Option FileEntry

namespace FileEntry

/-- The text of a file in UTF-8. -/
def text? : FileEntry → Option String
  | file bytes => String.fromUTF8? bytes
  | _ => none

/-- Cuts bytes behind each line feed. -/
def splitLines (line : List UInt8) : List UInt8 → List (List UInt8)
  | [] => [line.reverse]
  | b :: rest =>
      if b == 10 then (b :: line).reverse :: splitLines [] rest
      else splitLines (b :: line) rest

/-- The text of the lines before the first one that is not in UTF-8. -/
def leadingText? : FileEntry → Option String
  | file bytes =>
    let lines := (splitLines [] bytes.toList).map fun line =>
      String.fromUTF8? (ByteArray.mk line.toArray)
    some (String.join ((lines.takeWhile Option.isSome).filterMap id))
  | _ => none

end FileEntry

namespace FileLookup

/-- The steps of a path; a step that stays where it is does not count. -/
def steps (path : String) : List String := (path.splitOn "/").filter fun p => !p.isEmpty && p != "."

/-- What is at a place below a directory. The directories on the way to a file are there too. -/
def entryAt (entries : List (List String × FileEntry)) (place : List String) : Option FileEntry :=
  match entries.find? (·.1 == place) with
  | some (_, entry) => some entry
  | none => if place.isEmpty || entries.any (place.isPrefixOf ·.1) then some .directory else none

/-- What a path names from a place on. Each step is one from a directory. -/
def walk (entries : List (List String × FileEntry)) (place : List String) :
    List String → Option FileEntry
  | [] => entryAt entries place
  | step :: rest =>
    match entryAt entries place with
    | some .directory =>
      if step.isEmpty || step == "." then walk entries place rest
      else if step == ".." then walk entries place.dropLast rest
      else walk entries (place ++ [step]) rest
    | _ => none

/-- The lookup in a list of files below one directory, above which there is nothing. -/
def ofList (entries : List (String × FileEntry)) : FileLookup := fun path =>
  if path.isEmpty || path.startsWith "/" then none
  else walk (entries.map fun e => (steps e.1, e.2)) [] (path.splitOn "/")

end FileLookup

end RecordNaming
