import ModalLexer.Command

/-! The program itself: it looks at the machine, and leaves the rest to the command line. -/
namespace ModalLexer

def errorNumber (code : UInt32) : Nat := min code.toNat (-code).toNat

/-- Errors that carry a number are told by it: 20 is a path through a file, 21 a directory, 36 a
name that is too long. -/
def readFault : IO.Error → ReadFault
  | .noFileOrDirectory .. => .missing
  | .permissionDenied .. => .denied
  | .inappropriateType _ code reason | .invalidArgument _ code reason | .otherError code reason =>
    match errorNumber code with
    | 20 => .throughFile
    | 21 => .isDirectory
    | 36 => .nameTooLong
    | _ => .other reason
  | e => .other (toString e)

def readPath (path : String) : IO (Except ReadFault String) := do
  if '\x00' ∈ path.toList then return .error .nulInName
  try return readText (← IO.FS.readBinFile path)
  catch e => return .error (readFault e)

end ModalLexer

open ModalLexer

def main (args : List String) : IO UInt32 := do
  let plan := Command.plan args
  let content ← match plan.file? with
    | some path => readPath path
    | none => pure (.error .missing)
  let log := Log.ofSettings (← IO.getEnv "RUST_LOG") (← IO.getEnv "QUILL_LOG_TREE").isSome
  let color ← (← IO.getStderr).isTty
  let outcome := plan.run ⟨fun _ => content, color, log⟩
  IO.print outcome.stdout
  IO.eprint outcome.stderr
  return UInt32.ofNat outcome.exit
