import NestingRules.Program
import Std.Time.DateTime.Timestamp

/-!
# The executable

The thin layer between the program and the system: it gives a run its arguments, the clock and real
files, and writes the answer.
-/

namespace NestingRules.Main

/-- A failure of the system as one of the program's. -/
def fileError : IO.Error → FileError
  | .noFileOrDirectory .. => .notFound
  | .inappropriateType _ code details =>
    if code = 20 then .notADirectory
    else if code = 21 then .isADirectory
    else .other details
  | .invalidArgument _ code details => if code = 36 then .nameTooLong else .other details
  | e => .other (toString e)

/-- An operation of the system with its failure as a value. -/
def attempt {α : Type} (action : IO α) : IO (Except FileError α) := do
  try return .ok (← action) catch e => return .error (fileError e)

/-- Real files. -/
def files : FileAccess IO where
  read path := do
    return match ← attempt (IO.FS.readBinFile path) with
      | .ok bytes => .file bytes.toList
      | .error .isADirectory => .unreadable .isADirectory
      | .error e => .refused e
  write path bytes := attempt (IO.FS.writeBinFile path bytes.toByteArray)
  append path bytes := attempt do
    let h ← IO.FS.Handle.mk path .append
    h.write bytes.toByteArray

/-- What the clock says. -/
def clock : IO Clock := do
  let now ← Std.Time.Timestamp.now
  let nanoseconds := now.toNanosecondsSinceUnixEpoch.val
  let instant := Instant.ofUnix? (nanoseconds.ediv 1000000000) (nanoseconds.emod 1000000000).toNat
  return ⟨instant.getD default, 0⟩

end NestingRules.Main

/-- Run the program on real files. -/
def main (args : List String) : IO UInt32 := do
  let stderr ← IO.getStderr
  let answer ← NestingRules.Program.run NestingRules.Main.files
    { args
      filter := ← IO.getEnv "RUST_LOG"
      clock := ← NestingRules.Main.clock
      terminal := ← stderr.isTty }
  IO.print answer.stdout
  stderr.putStr answer.stderr
  return answer.exit.toUInt32
