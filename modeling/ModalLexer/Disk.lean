import ModalLexer.Path
import ModalLexer.Span

/-! Disks: the files below one directory, and reading the text of one by its path. -/
namespace ModalLexer

inductive ReadFault where
  | missing
  | denied
  | notUtf8
  | isDirectory
  | throughFile
  | nameTooLong
  | nulInName
  | other (reason : String)
  deriving DecidableEq, Repr

def ReadFault.message (path : String) : ReadFault → String
  | missing => "cannot find file '" ++ path ++ "'"
  | denied => "permission denied reading '" ++ path ++ "'"
  | notUtf8 => "'" ++ path ++ "' contains invalid UTF-8 data"
  | isDirectory => "error reading '" ++ path ++ "': Is a directory (os error 21)"
  | throughFile => "error reading '" ++ path ++ "': Not a directory (os error 20)"
  | nameTooLong => "error reading '" ++ path ++ "': File name too long (os error 36)"
  | nulInName => "error reading '" ++ path ++ "': file name contained an unexpected NUL byte"
  | other reason => "error reading '" ++ path ++ "': " ++ reason

/-- Bytes that are no UTF-8 are no text. Nothing else is changed, not even a byte order mark. -/
def readText (bytes : ByteArray) : Except ReadFault String :=
  match String.fromUTF8? bytes with
  | some text => .ok text
  | none => .error .notUtf8

inductive Node where
  | file (bytes : ByteArray)
  | directory

/-- Nodes by the names that lead to them. A directory on the way to a node needs no entry. -/
structure Disk where
  entries : List (List (List Char) × Node)

namespace Disk

inductive Place where
  | within (names : List (List Char))
  | above
  deriving DecidableEq, Repr

def node? (d : Disk) (names : List (List Char)) : Option Node :=
  if names = [] then some .directory
  else
    match d.entries.lookup names with
    | some node => some node
    | none =>
      if d.entries.any fun entry => names.isPrefixOf entry.1 then some .directory else none

def largestName : Nat := 255

def largestPath : Nat := 4095

def follow (d : Disk) (place : Place) (part : List Char) : Except ReadFault Place :=
  let stays := part = [] ∨ part = ['.']
  let rises := part = ['.', '.']
  match place with
  | .above =>
    if stays ∨ rises then .ok .above
    else if utf8Size part ≤ largestName then .error .missing
    else .error .nameTooLong
  | .within names =>
    match d.node? names with
    | none => .error .missing
    | some (.file _) => .error .throughFile
    | some .directory =>
      if stays then .ok place
      else if rises then .ok (if names = [] then .above else .within names.dropLast)
      else if utf8Size part ≤ largestName then .ok (.within (names ++ [part]))
      else .error .nameTooLong

def resolve (d : Disk) (path : String) : Except ReadFault Place :=
  let chars := path.toList
  if '\x00' ∈ chars then .error .nulInName
  else if chars = [] then .error .missing
  else if utf8Size chars ≤ largestPath then
    (Path.parts path).foldlM d.follow (if chars.head? = some '/' then .above else .within [])
  else .error .nameTooLong

def read (d : Disk) (path : String) : Except ReadFault String := do
  match ← d.resolve path with
  | .above => .error .isDirectory
  | .within names =>
    match d.node? names with
    | none => .error .missing
    | some .directory => .error .isDirectory
    | some (.file bytes) => readText bytes

end Disk
end ModalLexer
