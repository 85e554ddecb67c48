import SensorGateway.Log.Entry
import SensorGateway.Pattern.Reader
import SensorGateway.Text.Parts

/-!
# Which lines are kept

The configured level is a list of directives between commas.  A directive is a verbosity, as in
`warn`, or the beginning of a part's name with or without a verbosity, as in `name` and `name=info`.
For a line that directive counts which has the longest name that the line's part begins with.  Behind
a slash may stand a pattern that must occur in a line.

Directives and patterns that cannot be read are left out, and so is all of a text with more than one
slash; when no directive is left only errors are kept.
-/

namespace SensorGateway.Log

/-- How much is kept. -/
inductive Verbosity
  | off
  | error
  | warn
  | info
  | debug
  | trace
  deriving DecidableEq, Repr

namespace Verbosity

/-- The words for verbosities. -/
def words : List (String × Verbosity) :=
  [("off", off), ("error", error), ("warn", warn), ("info", info), ("debug", debug),
    ("trace", trace)]

/-- Reads a verbosity in either case. -/
def ofChars? (word : List Char) : Option Verbosity :=
  words.lookup (String.ofList (word.map Char.toLower))

/-- The number of levels that are kept, the weightiest first. -/
def rank : Verbosity → Nat
  | off => 0
  | error => 1
  | warn => 2
  | info => 3
  | debug => 4
  | trace => 5

end Verbosity

/-- The verbosity at which lines of a level begin to be kept. -/
def Level.verbosity : Level → Verbosity
  | error => .error
  | warn => .warn
  | info => .info

/-- The name by which a directive can mean a part of the program. -/
def Source.name : Source → String
  | main => "sensorbridge"
  | publisher => "sensorbridge::publisher"
  | registry => "sensorbridge::registry"
  | session => "sensorbridge::session"
  | bluetooth => "sensorbridge::ble"

/-- How much is kept of the parts whose name begins in some way; without a name, of all parts. -/
structure Directive where
  name : Option (List Char)
  verbosity : Verbosity
  deriving DecidableEq, Repr

namespace Directive

/-- The length of the name. -/
def size (d : Directive) : Nat := d.name.elim 0 List.length

/-- Whether the directive is about a part. -/
def covers (d : Directive) (part : String) : Bool :=
  d.name.elim true fun name => name.isPrefixOf part.toList

/-- Reads a directive. -/
def ofChars? (text : List Char) : Option Directive :=
  match Text.pieces (· == '=') text with
  | [word] =>
      match Verbosity.ofChars? word with
      | some verbosity => some { name := none, verbosity }
      | none => some { name := some word, verbosity := .trace }
  | [name, word] =>
      let word := Text.trim word
      if word.isEmpty then some { name := some name, verbosity := .trace }
      else (Verbosity.ofChars? word).map fun verbosity => { name := some name, verbosity }
  | _ => none

end Directive

/-- What is kept. -/
structure Filter where
  directives : List Directive
  /-- What must occur in a line. -/
  pattern : Option Pattern
  deriving DecidableEq, Repr

namespace Filter

/-- The filter that keeps errors only. -/
def errorsOnly (pattern : Option Pattern) : Filter where
  directives := [{ name := none, verbosity := .error }]
  pattern

/-- Adds a directive, in the place of one with the same name. -/
def add (ds : List Directive) (d : Directive) : List Directive :=
  if ds.any (·.name == d.name) then ds.map fun e => if e.name == d.name then d else e
  else ds ++ [d]

/-- The directives of a list between commas. -/
def directivesOf (text : List Char) : List Directive :=
  let words := (Text.pieces (· == ',') text).map Text.trim
  ((words.filter (!·.isEmpty)).filterMap Directive.ofChars?).foldl add []

/-- Reads a filter. -/
def ofText (text : String) : Filter :=
  match Text.pieces (· == '/') text.toList with
  | directives :: rest =>
      if rest.length ≤ 1 then
        let pattern := rest.head?.bind Pattern.ofChars?
        match directivesOf directives with
        | [] => errorsOnly pattern
        | directives => { directives, pattern }
      else errorsOnly none
  | [] => errorsOnly none

/-- Of two directives the one with the longer name, and the second if neither is longer. -/
def longer (best : Option Directive) (d : Directive) : Option Directive :=
  match best with
  | none => some d
  | some b => if b.size ≤ d.size then some d else some b

/-- The directive that counts for a part. -/
def directive? (f : Filter) (part : String) : Option Directive :=
  (f.directives.filter (·.covers part)).foldl longer none

/-- Whether a line is kept. -/
def admits (f : Filter) (e : Entry) : Bool :=
  (match f.directive? e.source.name with
    | some d => e.level.verbosity.rank ≤ d.verbosity.rank
    | none => false)
  && f.pattern.elim true (·.occursIn e.message.toList)

/-- The lines that are kept. -/
def apply (f : Filter) (entries : List Entry) : List Entry := entries.filter f.admits

end Filter

end SensorGateway.Log
