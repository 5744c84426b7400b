import TableSearch.CommandLine.Arguments
import TableSearch.Source.FilePath

/-! # Requests

What a command line asks for: general options, a command, and the options and words of the command.
-/

namespace TableSearch

/-- The commands. -/
inductive CommandName where
  | filter
  | explain
  | initConfig
  | help
deriving DecidableEq, Repr

namespace CommandName

/-- All commands. -/
def all : List CommandName := [explain, filter, help, initConfig]

/-- The word for a command. -/
def word : CommandName → String
  | filter => "filter"
  | explain => "explain"
  | initConfig => "init-config"
  | help => "help"

/-- The command that a word stands for. -/
def named? (word : Text) : Option CommandName :=
  all.find? (·.word == word.toString)

/-- What may be written behind a command. -/
def synopsis : CommandName → String
  | filter => "filter [OPTIONS] SOURCE [DIRECTIVE]..."
  | explain => "explain [OPTIONS] DIRECTIVE..."
  | initConfig => "init-config [OPTIONS]"
  | help => "help [OPTIONS] [COMMAND]..."

end CommandName

/-- The name of the program. -/
def programName : String := "table-control"

/-- The version of the program. -/
def programVersion : String := "0.1.0"

/-- How the program, or one of its commands, is used. -/
def usageLine (command : Option CommandName) : String :=
  "Usage: " ++ programName ++ " " ++
    (command.elim "[OPTIONS] COMMAND [ARGS]..." CommandName.synopsis) ++ "\n"

/-- Why a command line cannot be used: the command whose words are wrong, if it got that far. -/
structure UsageError where
  command : Option CommandName
  problem : UsageProblem
deriving DecidableEq, Repr

namespace UsageError

/-- The wording of an error. -/
def message (error : UsageError) : String :=
  usageLine error.command ++ "Try '" ++ programName ++
    (error.command.elim "" fun command => " " ++ command.word) ++ " --help' for help.\n\nError: " ++
    error.problem.message ++ "\n"

end UsageError

/-! ## General options -/

/-- The options before the command. -/
structure GeneralOptions where
  settings : Option FilePath
  noColor : Bool
  verbose : Bool
  debug : Bool
  quiet : Bool
deriving DecidableEq, Repr

/-- What is asked for before a command can be carried out. -/
inductive Invocation where
  | version
  | usage
  | command (options : GeneralOptions) (name : CommandName) (words : List Text)
deriving DecidableEq, Repr

namespace Invocation

/-- The general options. -/
def forms : List OptionForm :=
  [⟨["--config".toList, "-c".toList], true⟩, ⟨["--no-color".toList], false⟩,
    ⟨["--verbose".toList, "-v".toList], false⟩, ⟨["--debug".toList], false⟩,
    ⟨["--quiet".toList, "-q".toList], false⟩, ⟨["--pager".toList], false⟩,
    ⟨["--no-pager".toList], false⟩, ⟨["--version".toList], false⟩, ⟨["--help".toList], false⟩]

/-- The invocation that options and words ask for. -/
def ofArguments (arguments : Arguments) : Except UsageProblem Invocation :=
  let early := arguments.options.find? fun option =>
    option.name == "--version".toList || option.name == "--help".toList
  match early with
  | some option => .ok (if option.name = "--version".toList then version else usage)
  | none =>
    match arguments.words with
    | [] => .error .commandMissing
    | word :: words =>
      match CommandName.named? word with
      | none => .error (.noSuchCommand word)
      | some name =>
        let options : GeneralOptions :=
          ⟨(arguments.value? "--config").map FilePath.ofText, arguments.has "--no-color",
            arguments.has "--verbose" || arguments.has "--debug", arguments.has "--debug",
            arguments.has "--quiet"⟩
        .ok (command options name words)

/-- The invocation that the words of a command line ask for. -/
def read (words : List Text) : Except UsageError Invocation :=
  if words.isEmpty then .ok usage
  else ((Arguments.scan forms false words).bind ofArguments).mapError (⟨none, ·⟩)

end Invocation

/-! ## Commands -/

/-- The ways to print rows. -/
inductive OutputFormat where
  | table
  | json
  | csv
deriving DecidableEq, Repr

namespace OutputFormat

/-- All formats. -/
def all : List OutputFormat := [table, json, csv]

/-- The word for a format. -/
def word : OutputFormat → String
  | table => "table"
  | json => "json"
  | csv => "csv"

end OutputFormat

/-- What rows of a source are asked for. -/
structure FilterRequest where
  source : FilePath
  directive : List Text
  /-- The directive given as an option. -/
  directiveOption : Option Text
  table : Option Text
  format : OutputFormat
  limit : Option Nat
  noHighlight : Bool
deriving DecidableEq, Repr

/-- What a command is asked to do. -/
inductive Request where
  /-- How a command is used. -/
  | usage (command : CommandName)
  | filter (request : FilterRequest)
  | explain (directive : List Text)
  | initConfig (force : Bool) (output : Option FilePath)
  | help (commands : List Text)
deriving DecidableEq, Repr

namespace Request

/-- The option of the format. -/
def formatForm : OptionForm := ⟨["--format".toList, "-f".toList], true⟩

/-- The option of the limit. -/
def limitForm : OptionForm := ⟨["--limit".toList, "-l".toList], true⟩

/-- The options of a command. -/
def forms : CommandName → List OptionForm
  | .filter =>
    [⟨["--table".toList, "-t".toList], true⟩, ⟨["--directive".toList, "-d".toList], true⟩,
      formatForm, limitForm, ⟨["--no-highlight".toList], false⟩, ⟨["--help".toList], false⟩]
  | .initConfig =>
    [⟨["--force".toList, "-f".toList], false⟩, ⟨["--output".toList, "-o".toList], true⟩,
      ⟨["--help".toList], false⟩]
  | .explain | .help => [⟨["--help".toList], false⟩]

/-- The format that a word stands for. -/
def readFormat (word : Text) : Except UsageProblem OutputFormat :=
  match OutputFormat.all.find? (·.word == word.toString) with
  | some format => .ok format
  | none => .error (.noChoice formatForm word (OutputFormat.all.map OutputFormat.word))

/-- The integer that a word writes: digits with single underscores between them, a sign before them
and blanks around them. -/
def readInteger? (word : Text) : Option Int :=
  let trimmed := word.trim
  let (negative, digits) : Bool × Text :=
    match trimmed with
    | '-' :: rest => (true, rest)
    | '+' :: rest => (false, rest)
    | rest => (false, rest)
  let groups := digits.splitOn '_'
  if groups.any (·.isEmpty) then none
  else
    (groups.flatten.mapM CharClass.decimalValue?).map fun values =>
      let value : Nat := values.foldl (fun value digit => 10 * value + digit) 0
      if negative then -(value : Int) else value

/-- The limit that a word writes. -/
def readLimit (word : Text) : Except UsageProblem Nat :=
  match readInteger? word with
  | none => .error (.notANumber limitForm word)
  | some value => if value < 0 then .error (.negativeNumber limitForm value) else .ok value.toNat

/-- The first thing that is wrong with the values of options, in the order in which the options were
given first. -/
def checkValues (arguments : Arguments) : Except UsageProblem Unit :=
  arguments.options.forM fun option =>
    if option.name = formatForm.name then
      ((arguments.value? "--format").elim (.ok ()) fun word => (readFormat word).map fun _ => ())
    else if option.name = limitForm.name then
      ((arguments.value? "--limit").elim (.ok ()) fun word => (readLimit word).map fun _ => ())
    else .ok ()

/-- What options and words ask the filter for. -/
def ofFilter (arguments : Arguments) : Except UsageProblem Request := do
  checkValues arguments
  let format ← (arguments.value? "--format").mapM readFormat
  let limit ← (arguments.value? "--limit").mapM readLimit
  match arguments.words with
  | [] => throw (.argumentMissing "SOURCE")
  | source :: directive =>
    return filter ⟨FilePath.ofText source, directive, arguments.value? "--directive",
      arguments.value? "--table", format.getD .table, limit, arguments.has "--no-highlight"⟩

/-- What options and words ask a command for. -/
def ofArguments (name : CommandName) (arguments : Arguments) : Except UsageProblem Request :=
  if arguments.has "--help" then .ok (usage name)
  else
    match name with
    | .filter => ofFilter arguments
    | .explain =>
      if arguments.words.isEmpty then .error (.argumentMissing "DIRECTIVE...")
      else .ok (explain arguments.words)
    | .initConfig =>
      if arguments.words.isEmpty then
        .ok (initConfig (arguments.has "--force")
          ((arguments.value? "--output").map FilePath.ofText))
      else .error (.unexpectedArguments arguments.words)
    | .help => .ok (help arguments.words)

/-- What the words behind a command ask for. -/
def read (name : CommandName) (words : List Text) : Except UsageError Request :=
  ((Arguments.scan (forms name) true words).bind (ofArguments name)).mapError (⟨some name, ·⟩)

end Request

end TableSearch
