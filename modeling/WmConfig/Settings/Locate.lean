/-! # Where the configuration is

A path that is given is used as it is; without one the file stands in the home directory under a
fixed name. -/

namespace WmConfig.Settings

/-- The name of the file in the home directory. -/
def fileName : String := ".awesomerc"

/-- The path of a file in a directory. No separator is added where one would be idle. -/
def inDirectory (directory file : String) : String :=
  if directory.isEmpty || directory.endsWith "/" then directory ++ file
  else directory ++ "/" ++ file

/-- The path of the configuration file, unless neither a path nor a home directory is known. -/
def locate? (explicit home : Option String) : Option String :=
  explicit <|> home.map (inDirectory · fileName)

end WmConfig.Settings
