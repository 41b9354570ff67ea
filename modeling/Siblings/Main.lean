import Siblings.Command

/-!
# The program

The command performed on a real machine: its disk, its clock and its streams.
-/

namespace Siblings.Machine

/-- The number of an error of the machine, if it has one, and its wording. -/
def codeOf : IO.Error → Nat × String
  | .alreadyExists _ code details => (code.toNat, details)
  | .otherError code details => (code.toNat, details)
  | .resourceBusy code details => (code.toNat, details)
  | .resourceVanished code details => (code.toNat, details)
  | .unsupportedOperation code details => (code.toNat, details)
  | .hardwareFault code details => (code.toNat, details)
  | .unsatisfiedConstraints code details => (code.toNat, details)
  | .illegalOperation code details => (code.toNat, details)
  | .protocolError code details => (code.toNat, details)
  | .timeExpired code details => (code.toNat, details)
  | .interrupted _ code details => (code.toNat, details)
  | .noFileOrDirectory _ code details => (code.toNat, details)
  | .invalidArgument _ code details => (code.toNat, details)
  | .permissionDenied _ code details => (code.toNat, details)
  | .resourceExhausted _ code details => (code.toNat, details)
  | .inappropriateType _ code details => (code.toNat, details)
  | .noSuchThing _ code details => (code.toNat, details)
  | .unexpectedEof => (0, "unexpected end of file")
  | .userError details => (0, details)

/-- An error of the machine as a fault of its disk. -/
def faultOf (error : IO.Error) : Fault :=
  let (code, details) := codeOf error
  match code with
  | 2 => .missing
  | 17 => .occupied
  | 20 => .notDirectory
  | 21 => .isDirectory
  | _ => .other code details.toList

/-- What an action gives, or the fault that it meets. -/
def attempt {α : Type} (action : IO α) : IO (Except Fault α) := do
  match ← action.toBaseIO with
  | .ok result => return .ok result
  | .error error => return .error (faultOf error)

/-- The stream where a text is shown. -/
def streamOf : Stream → IO IO.FS.Stream
  | .out => IO.getStdout
  | .err => IO.getStderr

/-- **Performs a script.** -/
def perform {α : Type} : Script α → IO α
  | .done result => return result
  | .read path next => do
    let action : IO ByteArray := do
      (← IO.FS.Handle.mk (String.ofList path) .read).readBinToEnd
    perform (next ((← attempt action).map ByteArray.toList))
  | .isPresent path next => do
    let place := (← IO.currentDir) / String.ofList path
    perform (next (!path.isEmpty && (← place.pathExists)))
  | .isDirectory path next => do
    let place := (← IO.currentDir) / String.ofList path
    perform (next (!path.isEmpty && (← place.isDir)))
  | .makeDirectory path next => do
    perform (next (← attempt (IO.FS.createDir (String.ofList path))))
  | .write path bytes next => do
    let content := ByteArray.mk bytes.toArray
    perform (next (← attempt (IO.FS.writeBinFile (String.ofList path) content)))
  | .append path bytes next => do
    let action : IO Unit := do
      (← IO.FS.Handle.mk (String.ofList path) .append).write (ByteArray.mk bytes.toArray)
    perform (next (← attempt action))
  | .clock next => do perform (next (← IO.monoMsNow))
  | .say stream text next => do
    (← streamOf stream).putStr (String.ofList text)
    perform next

end Siblings.Machine

/-- The command with the arguments of the program. -/
def main (arguments : List String) : IO UInt32 := do
  let filter ← IO.getEnv "RUST_LOG"
  let surroundings : Siblings.Surroundings :=
    { logFilter := filter.map String.toList
      isTerminal := ← (← IO.getStderr).isTty }
  let script := Siblings.Command.execute surroundings (arguments.map String.toList)
  return (← Siblings.Machine.perform script).toUInt32
