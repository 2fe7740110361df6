/-
# `Main` — the program

The surroundings are looked at first: the file that the command line
names, and the variables that its placeholders name.  Then the run is
computed, and what it leaves behind is written down.  No transport is
built in, so the network of this program is one that nobody is on.
-/
import OrderDesk.Program
import Std.Time.Format

namespace OrderDesk

/-- The number by which the system names a failure; it may arrive with a
minus sign, as a word of 32 bits. -/
def systemCode (code : UInt32) : Int :=
  if code.toNat < 0x80000000 then code.toNat else 0x100000000 - code.toNat

/-- Why a file could not be read. -/
def FileError.ofSystem : IO.Error → FileError
  | .noFileOrDirectory _ code _ | .permissionDenied _ code _ | .inappropriateType _ code _
  | .invalidArgument _ code _ | .resourceExhausted _ code _ | .noSuchThing _ code _
  | .alreadyExists _ code _ | .interrupted _ code _ | .otherError code _ | .resourceBusy code _
  | .resourceVanished code _ | .unsupportedOperation code _ | .hardwareFault code _
  | .unsatisfiedConstraints code _ | .illegalOperation code _ | .protocolError code _
  | .timeExpired code _ => .system (systemCode code)
  | .unexpectedEof => .other "unexpected end of file"
  | .userError message => .other message

/-- The content of a file. -/
def fileContent (path : Word) : IO (Except FileError (List UInt8)) := do
  try
    let octets ← IO.FS.readBinFile (String.ofList (Utf8.lossy path))
    return .ok octets.toList
  catch e => return .error (.ofSystem e)

/-- The values of the variables that have these names. -/
def environmentOf (names : List String) : IO Environment := do
  let values ← names.mapM fun name => do return (name, ← IO.getEnv name)
  return fun name => (values.lookup name).join

/-- What a run with this command line depends on. -/
def Surroundings.gather (words : List Word) : IO Surroundings := do
  let content ← match CommandLine.read words with
    | .ok ⟨{ config := some path, .. }, _⟩ => fileContent path
    | _ => pure (.ok [])
  let text := content.toOption.bind Utf8.string?
  let names := Template.names (text.getD "").toList
  return {
    environment := ← environmentOf (Log.filterVariable :: names)
    files := fun _ => content
    network := Network.unreachable }

/-- The time, in the form in which the log shows it. -/
def timeStamp : IO String := do
  let now ← Std.Time.Timestamp.now
  let wall := Std.Time.WallTime.ofTimestamp now .zero
  return (Std.Time.PlainDateTime.ofWallTime wall).format "uuuu-MM-dd'T'HH:mm:ss.SSSSSS'Z'"

end OrderDesk

open OrderDesk in
/-- Runs the program. -/
def main (args : List String) : IO UInt32 := do
  let words := args.map Utf8.ofString
  let outcome := Program.run (← Surroundings.gather words) words
  let times ← outcome.notices.mapM fun _ => timeStamp
  IO.print outcome.output
  IO.eprint (outcome.errors fun i => times.getD i "")
  return outcome.exit.toUInt32
