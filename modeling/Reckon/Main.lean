import Reckon.CommandLine
import Std.Time.DateTime.Timestamp

/-!
# Running the command

The clock and a random number for each function that the formula may call, and the file with values,
are read before the command runs; what it reports is printed afterwards.
-/

namespace Reckon

/-- System codes come with either sign. -/
def FileFault.ofError : IO.Error → FileFault
  | .noFileOrDirectory .. => .notFound
  | .noSuchThing .. => .notFound
  | .permissionDenied .. => .notAllowed
  | .inappropriateType _ code _ => if code = 20 ∨ -code = 20 then .notDirectory else .isDirectory
  | e => .other (toString e)

def readFile (path : String) : IO (Except FileFault String) := do
  try
    match String.fromUTF8? (← IO.FS.readBinFile path) with
    | some text => return .ok text
    | none => return .error .notText
  catch e => return .error (.ofError e)

/-- Of all files only the one that is asked for can be read. -/
def filesFor (arguments : List String) : IO Files := do
  match Invocation.read arguments with
  | .ok ⟨_, _, _, some path, _⟩ =>
    let content ← readFile path
    return fun name => if name = path then content else .error .notFound
  | _ => return fun _ => .error .notFound

def currentMoment : IO Moment := do
  let nanos := (← Std.Time.Timestamp.now).toNanosecondsSinceUnixEpoch.toInt
  let now := Instant.make? (nanos / 1000000000) (nanos % 1000000000).toNat
  let chance ← IO.rand 0 (Nat.pow 2 53 - 1)
  return ⟨now.getD .epoch, chance.toFloat / (Nat.pow 2 53).toFloat⟩

/-- A formula has no more instructions than characters. -/
def momentsFor (arguments : List String) : IO Moments := do
  let count :=
    match Invocation.read arguments with
    | .ok call => call.formula.length
    | .error _ => 0
  let moments := (← (List.range count).mapM fun _ => currentMoment).toArray
  return fun done => moments[done]?.getD ⟨.epoch, 0⟩

end Reckon

def main (args : List String) : IO UInt32 := do
  let moments ← Reckon.momentsFor args
  let report := Reckon.CommandLine.run moments (← Reckon.filesFor args) args
  IO.print report.output
  IO.eprint report.errors
  return report.exit.toUInt32
