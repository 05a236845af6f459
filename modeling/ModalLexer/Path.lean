/-! Paths of files, as names between slashes. -/
namespace ModalLexer.Path

def parts (path : String) : List (List Char) := path.toList.splitOn '/'

def lastName? (path : String) : Option (List Char) :=
  ((parts path).filter fun part => part ≠ [] ∧ part ≠ ['.']).getLast?

def extension? (path : String) : Option (List Char) :=
  match lastName? path with
  | none => none
  | some name =>
    if name = ['.', '.'] then none
    else
      let reversed := name.reverse
      match reversed.dropWhile (· ≠ '.') with
      | _ :: _ :: _ => some (reversed.takeWhile (· ≠ '.')).reverse
      | _ => none

end ModalLexer.Path
