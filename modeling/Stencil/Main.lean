import Std.Time
import Stencil.CommandLine.Command

/-!
# The program

The command line with the files, the clock and the environment of the machine.
-/

namespace Stencil

/-- The seconds from the start of year 1 to the start of 1970. -/
def unixEpoch : Int := 719162 * 86400

/-- What is left of the standard input. -/
partial def readAll (stream : IO.FS.Stream) (sofar : ByteArray) : IO ByteArray := do
  let chunk ← stream.read 65536
  if chunk.isEmpty then return sofar
  readAll stream (sofar ++ chunk)

/-- The bytes of a file, if it can be read. -/
def readFile? (path : Text) : IO (Option (List UInt8)) := do
  try
    let bytes ← IO.FS.readBinFile (String.ofList path)
    return some bytes.toList
  catch _ => return none

/-- The current instant. -/
def currentInstant : IO Instant := do
  let now ← Std.Time.Timestamp.now
  return ⟨now.val.second.val + unixEpoch, now.val.nano.val.toNat % 1000000000, by omega⟩

/-- The offset of the local clock by the rules of a time zone. -/
def zoneOffset (rules : Std.Time.TimeZone.ZoneRules) (instant : Instant) : UtcOffset :=
  let stamp := Std.Time.Timestamp.ofSecondsSinceUnixEpoch ⟨instant.second - unixEpoch⟩
  (UtcOffset.ofSeconds? (rules.timezoneAt stamp).offset.second.val).getD .utc

/-- The rules of the local time zone, or those of UTC where there are none. -/
def localRules : IO Std.Time.TimeZone.ZoneRules := do
  try Std.Time.Database.defaultGetLocalZoneRules catch _ =>
    return Std.Time.TimeZone.ZoneRules.UTC

/-- The machine as the words of a command line can ask for it. -/
def machine (words : List Text) : IO Host := do
  let directory ← IO.currentDir
  let directory := directory.toString.toList
  let input ← if readsInput words then
      pure (← readAll (← IO.getStdin) ByteArray.empty).toList
    else pure []
  let files ← (filePaths directory words).filterMapM fun path => do
    return (← readFile? path).map fun bytes => (path, bytes)
  let settings ← (variableNames words input).filterMapM fun name => do
    return (← IO.getEnv (String.ofList name)).map fun value => (name, value.toList)
  let rules ← localRules
  let now ← currentInstant
  let seed ← IO.rand 0 (UInt64.size - 1)
  let environment : Environment := ⟨now, zoneOffset rules, fun name => settings.lookup name⟩
  return ⟨directory, fun path => files.lookup path, input, environment, ⟨UInt64.ofNat seed⟩⟩

/-- An error with its code and the advice that goes with it. -/
def reportText (e : ExpandError) : Text :=
  line e.code ++ line ("  x ".toList ++ e.message) ++
    (e.help?.map fun help => line ("  help: ".toList ++ help)).getD []

/-- Prints how a command line ends, and gives the exit code. -/
def finish (outcome : Outcome) : IO UInt32 := do
  IO.print (String.ofList outcome.output)
  IO.eprint (String.ofList outcome.notice)
  if let some e := outcome.error? then IO.eprint (String.ofList (reportText e))
  return UInt32.ofNat outcome.exitCode

/-- Carries out what a command line leads to, and gives the exit code. -/
def carryOut : Reply → IO UInt32
  | .done outcome => finish outcome
  | .help => finish (.success helpText)
  | .create path content report => do
    try
      IO.FS.writeBinFile (String.ofList path) (ByteArray.mk (Utf8.encode content).toArray)
      finish (.success report)
    catch e =>
      finish (.refused 2 (line ("error: ".toList ++ (toString e).toList)))

end Stencil

/-- The program. -/
def main (arguments : List String) : IO UInt32 := do
  let words := arguments.map String.toList
  Stencil.carryOut (Stencil.runWords (← Stencil.machine words) words)
