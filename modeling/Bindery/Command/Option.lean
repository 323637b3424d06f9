/-! # Options of the command line

An option has a long name and perhaps a letter, and either is a flag or takes one value. The three
global options are understood by the program itself and by every command; each command has options
of its own.
-/

namespace Bindery.Command

/-- The commands of the program. -/
inductive Verb where
  | generate
  | validate
  | layout
  deriving DecidableEq, Repr

namespace Verb

/-- All commands. -/
def all : List Verb := [.generate, .validate, .layout]

/-- The word that calls a command. -/
def name : Verb → String
  | .generate => "generate"
  | .validate => "validate"
  | .layout => "layout"

/-- The command that a word calls. -/
def ofName? (word : String) : Option Verb := all.find? (·.name = word)

end Verb

/-- The options. -/
inductive Switch where
  | logLevel
  | quiet
  | noColor
  | help
  | version
  | model
  | config
  | schema
  | typeTables
  | output
  | includeDir
  | backup
  | dryRun
  | verbose
  | className
  deriving DecidableEq, Repr

/-- What an option takes. -/
inductive Takes where
  | nothing
  | text
  /-- A path, which must not be empty. -/
  | path
  deriving DecidableEq, Repr

namespace Switch

/-- The long name, without its dashes. -/
def longName : Switch → String
  | .logLevel => "log-level"
  | .quiet => "quiet"
  | .noColor => "no-color"
  | .help => "help"
  | .version => "version"
  | .model => "model"
  | .config => "config"
  | .schema => "schema"
  | .typeTables => "type-tables"
  | .output => "output"
  | .includeDir => "include-dir"
  | .backup => "backup"
  | .dryRun => "dry-run"
  | .verbose => "verbose"
  | .className => "class"

/-- The letter, for options that have one. -/
def letter? : Switch → Option Char
  | .logLevel => some 'l'
  | .quiet => some 'q'
  | .help => some 'h'
  | .version => some 'V'
  | .model => some 'm'
  | .config => some 'c'
  | .output => some 'o'
  | .includeDir => some 'i'
  | _ => none

/-- What an option takes. -/
def takes : Switch → Takes
  | .logLevel => .text
  | .className => .text
  | .model => .path
  | .config => .path
  | .schema => .path
  | .typeTables => .path
  | .output => .path
  | .includeDir => .path
  | _ => .nothing

/-- The options that are understood everywhere. -/
def globals : List Switch := [.logLevel, .quiet, .noColor, .help]

/-- The options that name the inputs of a command. -/
def inputs : List Switch := [.model, .config, .schema, .typeTables]

/-- The options that are understood in front of the command, or after a certain command. -/
def understood : Option Verb → List Switch
  | none => globals ++ [.version]
  | some .generate => globals ++ inputs ++ [.output, .includeDir, .backup, .dryRun]
  | some .validate => globals ++ inputs ++ [.verbose]
  | some .layout => globals ++ inputs ++ [.className]

/-- The options that a command cannot do without. -/
def required : Verb → List Switch
  | .generate => [.model, .output]
  | .validate => [.model]
  | .layout => [.model, .className]

/-- The option with a long name among those that are understood. -/
def ofLongName? (level : Option Verb) (name : String) : Option Switch :=
  (understood level).find? (·.longName = name)

/-- The option with a letter among those that are understood. -/
def ofLetter? (level : Option Verb) (c : Char) : Option Switch :=
  (understood level).find? (·.letter? = some c)

end Switch

end Bindery.Command
