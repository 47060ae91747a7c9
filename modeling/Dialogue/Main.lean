import Std.Time.DateTime.Timestamp
import Dialogue.Program.Basic

/-!
# The command line

Collects what the program is started with, runs it, and writes what it wrote. This program has no
transport of its own: every server counts as one that cannot be reached, and the command line tool
for tokens as one that is not there.
-/

namespace Dialogue.Main

/-- The outside of a program without a transport. -/
def outside (now : Time.Instant) : Outside Unit where
  network := Http.Network.offline
  az _ w := (.notStarted "No such file or directory (os error 2)", w)
  clock _ := now
  zone := .fixed 0

/-- The octets of a file, if it can be read. -/
def readOctets? (path : String) : IO (Option (List Nat)) := do
  try
    let bytes ← IO.FS.readBinFile path
    return some (bytes.toList.map UInt8.toNat)
  catch _ => return none

/-- The names and values in the entries of an environment block, which end with zeros. -/
def entriesOf (octets : List Nat) : List (List Nat × List Nat) :=
  ((octets.splitOn 0).filter (!·.isEmpty)).map fun entry =>
    let name := entry.take 1 ++ (entry.drop 1).takeWhile (· != '='.toNat)
    (name, entry.drop (name.length + 1))

/-- The bytes of the rest of a stream. -/
partial def drain (stream : IO.FS.Stream) (read : ByteArray) : IO ByteArray := do
  let bytes ← stream.read 65536
  if bytes.isEmpty then return read
  else drain stream (read ++ bytes)

/-- The instant it is. -/
def now : IO Time.Instant := do
  let t ← Std.Time.Timestamp.now
  let nanos := t.toNanosecondsSinceUnixEpoch.val
  return (Time.Instant.make? (nanos / 1000000000) (nanos % 1000000000).toNat).getD .start

/-- Runs the program. -/
def run (arguments : List String) : IO UInt32 := do
  let environment := entriesOf ((← readOctets? "/proc/self/environ").getD [])
  let environmentFile ← readOctets? ".env"
  let input := (← drain (← IO.getStdin) .empty).toList.map UInt8.toNat
  let invocation : Program.Invocation :=
    { arguments, environment, environmentFile, input := .ofOctets false input }
  let (report, _) :=
    Program.run (outside (← now)) 1000 .never invocation (World.initial ())
  IO.print report.output
  IO.eprint report.errors
  return (report.code.getD 1).toUInt32

end Dialogue.Main

/-- The entry point. -/
def main (arguments : List String) : IO UInt32 :=
  Dialogue.Main.run arguments
