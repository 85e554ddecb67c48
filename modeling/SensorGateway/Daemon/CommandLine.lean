/-!
# The command line

The only thing to be said on the command line is where the configuration is: behind `--config` or
`-c`, or as the first word.  The flag may stand anywhere, and what follows it is taken as a path
whatever it looks like; a flag that nothing follows says nothing.
-/

namespace SensorGateway.CommandLine

/-- Where the configuration is unless something else is said. -/
def defaultPath : String := "sensorbridge.toml"

/-- Whether a word is the flag in front of a path. -/
def isPathFlag (word : String) : Bool := word == "--config" || word == "-c"

/-- Whether a word looks like a flag. -/
def isFlag (word : String) : Bool := word.toList.head? == some '-'

/-- What follows the first flag that something follows. -/
def flaggedPath? : List String → Option String
  | word :: next :: rest =>
      if isPathFlag word then some next else flaggedPath? (next :: rest)
  | _ => none

/-- The first word, unless it looks like a flag. -/
def leadingPath? : List String → Option String
  | word :: _ => if isFlag word then none else some word
  | [] => none

/-- The path of the configuration. -/
def configPath (words : List String) : String :=
  ((flaggedPath? words).or (leadingPath? words)).getD defaultPath

end SensorGateway.CommandLine
