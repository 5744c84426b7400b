import TableSearch.Control.Parser
import TableSearch.Output.Layout
import TableSearch.Settings.File
import TableSearch.Source.Load
import TableSearch.Table.Basic

/-! # Sessions

A session is one run of the program: the files it works on and what it has printed so far.  A step
of a run changes the session and may stop the run.
-/

namespace TableSearch

/-- Why a run broke off without a message of its own. -/
inductive Failure where
  | settings (error : SettingsError)
  | load (error : LoadError)
  | directive (error : DirectiveError)
  | table (error : TableError)
  | markup (error : MarkupError)

namespace Failure

/-- The wording of a failure. -/
def message : Failure → String
  | settings error => error.message
  | load error => error.message
  | directive error => error.message
  | table error => error.message
  | markup error => error.message

end Failure

/-- How a run ends. -/
inductive Stop where
  /-- With an exit code, after everything has been said. -/
  | exit (code : Nat)
  | failure (failure : Failure)

/-- The files and the output of a run. -/
structure Session where
  files : FileTree
  output : Text
  errors : Text

/-- A step of a run. -/
abbrev Step (α : Type) := Session → Except Stop α × Session

namespace Step

/-- A step that does nothing. -/
def done {α : Type} (value : α) : Step α :=
  fun session => (.ok value, session)

/-- One step after another; the second is left out if the first stops the run. -/
def andThen {α β : Type} (first : Step α) (second : α → Step β) : Step β :=
  fun session =>
    match first session with
    | (.ok value, session) => second value session
    | (.error stop, session) => (.error stop, session)

/-- The end of a run. -/
def stop {α : Type} (stop : Stop) : Step α :=
  fun session => (.error stop, session)

/-- The value of a computation that may fail. -/
def ofExcept {ε α : Type} (failure : ε → Failure) (result : Except ε α) : Step α :=
  match result with
  | .ok value => done value
  | .error error => stop (.failure (failure error))

/-- The files of the run. -/
def files : Step FileTree :=
  fun session => (.ok session.files, session)

/-- A step that replaces the files. -/
def setFiles (files : FileTree) : Step Unit :=
  fun session => (.ok (), { session with files })

/-- A step that prints text as it is. -/
def write (text : Text) : Step Unit :=
  fun session => (.ok (), { session with output := session.output ++ text })

/-- A step that prints text to the errors. -/
def writeError (text : Text) : Step Unit :=
  fun session => (.ok (), { session with errors := session.errors ++ text })

/-- Several steps in order. -/
def all : List (Step Unit) → Step Unit
  | [] => done ()
  | step :: rest => andThen step fun _ => all rest

/-! ## Messages -/

/-- The line that markup makes. -/
def line (markup : Text) : Step Text :=
  ofExcept .markup ((Markup.read markup).map fun shown => shown.printed ++ ['\n'])

/-- A step that prints a line of markup. -/
def print (markup : Text) : Step Unit :=
  andThen (line markup) write

/-- A step that prints a line of markup to the errors. -/
def printError (markup : Text) : Step Unit :=
  andThen (line markup) writeError

/-- A text between the tags of a style. -/
def styled (style : String) (text : Text) : Text :=
  ('[' :: style.toList) ++ ']' :: text ++ '[' :: '/' :: style.toList ++ [']']

/-- A step that informs. -/
def info (message : Text) : Step Unit :=
  print (styled "info" message)

/-- A step that reports a success. -/
def success (message : Text) : Step Unit :=
  print (styled "success" message)

/-- A step that warns. -/
def warning (message : Text) : Step Unit :=
  printError (styled "warning" "Warning:".toList ++ ' ' :: message)

/-- A step that reports an error. -/
def error (message : Text) : Step Unit :=
  printError (styled "error" "Error:".toList ++ ' ' :: message)

/-- A step that says how an error can be mended. -/
def hint (message : Text) : Step Unit :=
  printError (' ' :: ' ' :: styled "info" "Hint:".toList ++ ' ' :: message)

end Step

end TableSearch
