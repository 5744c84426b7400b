import TableSearch.CommandLine.Explain
import TableSearch.CommandLine.Filter
import TableSearch.CommandLine.InitConfig
import TableSearch.CommandLine.Request

/-! # The program

`Program.run` carries out a command line on a tree of files.  It answers with an exit code, what is
printed, and the files afterwards.
-/

namespace TableSearch

/-- What a run of the program leaves behind. -/
structure Outcome where
  code : Nat
  output : Text
  errors : Text
  files : FileTree
  /-- Why the run broke off, if it did. -/
  failure : Option Failure

namespace Program

/-- The exit code for words that cannot be used. -/
def usageCode : Nat := 2

/-- The exit code for settings that cannot be used, and for an unknown command. -/
def failureCode : Nat := 1

/-- A step that says how a command line is wrong, and ends the run. -/
def refuse {α : Type} (error : UsageError) : Step α :=
  Step.andThen (Step.writeError error.message.toList) fun _ => Step.stop (.exit usageCode)

/-- A step that loads the settings and prints the warnings about them.  That there is no file is
only said in a verbose run. -/
def loadSettings (options : GeneralOptions) : Step Settings :=
  Step.andThen Step.files fun files =>
    match files.loadSettings .standard options.settings with
    | .ok (settings, warnings) =>
      let shown := warnings.filter fun warning =>
        match warning with
        | .noFile _ => options.verbose
        | _ => true
      Step.andThen
        (if options.quiet then Step.done ()
          else Step.all (shown.map fun warning => Step.warning warning.message.toList))
        fun _ => Step.done settings
    | .error error =>
      match error with
      | .malformed .. | .unfit _ | .negativeRows =>
        Step.andThen
          (Step.all
            [Step.error error.message.toList,
              Step.hint
                "Fix the file or create a new one with: table-control init-config".toList])
          fun _ => Step.stop (.exit failureCode)
      | error => Step.stop (.failure (.settings error))

/-- A step that explains how commands are used.  A word that is no command ends the run. -/
def help : List Text → Step Unit
  | [] => Step.write (usageLine none).toList
  | word :: _ =>
    match CommandName.named? word with
    | some name => Step.write (usageLine (some name)).toList
    | none =>
      Step.andThen (Step.error ("Unknown command: ".toList ++ word)) fun _ =>
        Step.stop (.exit failureCode)

/-- A step that does what a command is asked to do. -/
def perform (context : Filter.Context) : Request → Step Unit
  | .usage name => Step.write (usageLine (some name)).toList
  | .filter request => Filter.run context request
  | .explain directive =>
    Step.andThen
      (Step.ofExcept .directive
        (Control.parse Filter.environment.readDate (Text.join [' '] directive)))
      Explain.run
  | .initConfig force output => InitConfig.run force output
  | .help words => help words

/-- A step that carries out a command line.  The words of a command are only looked at when the
settings are loaded. -/
def invoke (noColor : Bool) : Invocation → Step Unit
  | .version => Step.write (programName ++ ", version " ++ programVersion ++ "\n").toList
  | .usage => Step.write (usageLine none).toList
  | .command options name words =>
    Step.andThen (loadSettings options) fun settings =>
      match Request.read name words with
      | .error error => refuse error
      | .ok request =>
        let colored := !noColor && !options.noColor && settings.coloredOutput
        perform ⟨settings, options.verbose, options.debug, colored⟩ request

/-- The paths at which a command line may look. -/
def paths (files : FileTree) (words : List Text) : List FilePath :=
  match Invocation.read words with
  | .ok (.command options name words) =>
    let settings := (files.findSettings options.settings).toOption.toList
    match Request.read name words with
    | .ok (.filter request) => request.source :: settings
    | .ok (.initConfig _ output) => (files.findSettings output).toOption.toList ++ settings
    | _ => settings
  | _ => []

/-- What a command line does.  Colors may be switched off from outside. -/
def run (files : FileTree) (noColor : Bool) (words : List Text) : Outcome :=
  let step : Step Unit :=
    match Invocation.read words with
    | .ok invocation => invoke noColor invocation
    | .error error => refuse error
  match step ⟨files, [], []⟩ with
  | (.ok (), session) => ⟨0, session.output, session.errors, session.files, none⟩
  | (.error (.exit code), session) => ⟨code, session.output, session.errors, session.files, none⟩
  | (.error (.failure failure), session) =>
    ⟨1, session.output, session.errors, session.files, some failure⟩

end Program

end TableSearch
