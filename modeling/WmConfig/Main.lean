import WmConfig.CommandLine
import WmConfig.Platform.Scripted

/-! # The program

Loads a configuration file without a display, on a platform that has every font and the colours that
are written out, and prints what is wrong with it. -/

namespace WmConfig.CommandLine

/-- The bytes of a file, if it can be read. -/
def readBytes (path : String) : IO (Option ByteArray) := do
  try return some (← IO.FS.readBinFile path) catch _ => return none

/-- Loads the configuration and prints the outcome; the result is zero if there is a session. -/
def runLoad (config : Option String) : IO UInt32 := do
  let home ← IO.getEnv "HOME"
  let bytes ← match Settings.locate? config home with
    | some path => readBytes path
    | none => pure none
  let load := Loading.load (Script.platform {}) (fun _ => bytes) config home
  let (result, progress) := load.start 0
  progress.warnings.forM fun w => IO.eprintln (warningLine w)
  match result with
  | .ok _ => do IO.println (finalLine result); return 0
  | .error _ => do IO.eprintln (finalLine result); return 1

end WmConfig.CommandLine

/-- Runs the program. -/
def main (args : List String) : IO UInt32 := do
  match WmConfig.CommandLine.Request.ofArguments? args with
  | some (.load config) => WmConfig.CommandLine.runLoad config
  | some .help => do IO.println WmConfig.CommandLine.usage; return 0
  | none => do IO.eprintln WmConfig.CommandLine.usage; return 2
