import WmConfig.Session.Load

/-! # The command line

The arguments of the program, and the lines that it prints: one for each warning, and one that says
how the load ended. -/

namespace WmConfig.CommandLine

/-- What the program is asked to do. -/
inductive Request where
  /-- To load the file at the path, or else the one in the home directory. -/
  | load (config : Option String)
  /-- To show how it is used. -/
  | help
deriving DecidableEq

/-- Reads the arguments. -/
def Request.ofArguments? : List String → Option Request
  | [] => some (load none)
  | ["-h"] => some help
  | ["--help"] => some help
  | ["-c", path] => some (load (some path))
  | ["--config", path] => some (load (some path))
  | _ => none

/-- How the program is used. -/
def usage : String := "usage: [-c PATH | --config PATH]"

/-- A piece of data in a line. -/
def shown : Warning.Detail → String
  | .text s => s
  | .number n => toString n
  | .ratio x => toString x.toBits

/-- The line of a warning. -/
def warningLine (w : Warning) : String :=
  w.details.foldl (fun line (name, d) => line ++ " " ++ name ++ "=" ++ shown d)
    ("warning: " ++ w.message)

/-- The line at the end. -/
def finalLine : Except LoadError Session → String
  | .ok s =>
    "Configuration loaded layouts=" ++ toString s.layouts.length ++ " tags=" ++
      toString s.tags.length ++ " rules=" ++ toString s.rules.length ++ " keys=" ++
      toString s.keys.length
  | .error e => "fatal configuration error: " ++ e.message

end WmConfig.CommandLine
