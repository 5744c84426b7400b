import TableSearch.CommandLine.Program

/-! # The executable

The outer layer of the program: it reads the files that the command line names, runs the program on
them, prints what it says and writes the files that it changed.
-/

namespace TableSearch

namespace Main

/-- The path of absolute names, as the system writes it. -/
def systemPath (parts : List Text) : String :=
  (FilePath.text ⟨true, parts⟩).toString

/-- What stands at absolute names, if anything does. -/
def lookAt (parts : List Text) : IO (Option FileEntry) := do
  match ← (IO.FS.readBinFile (systemPath parts)).toBaseIO with
  | .ok bytes => return some (.file (.bytes bytes.toList))
  | .error (.noFileOrDirectory ..) => return none
  | .error _ => return some .directory

/-- What stands at the places on the way to a file, up to the first one where no directory is. -/
def lookAlong : List (List Text) → IO (List (List Text × FileEntry))
  | [] => return []
  | parts :: rest => do
    match ← lookAt parts with
    | some .directory => return (parts, .directory) :: (← lookAlong rest)
    | some entry => return [(parts, entry)]
    | none => return []

/-- The files that a command line may look at. -/
def readFiles (words : List Text) : IO FileTree := do
  let here := FilePath.ofText (← IO.currentDir).toString.toList
  let home := ((← IO.getEnv "HOME").map fun home => FilePath.ofText home.toList).getD here
  let files : FileTree := ⟨here, home, []⟩
  let entries ← (Program.paths files words).mapM fun path => lookAlong (files.placesOn path)
  return { files with entries := entries.flatten }

/-- Writes the files that a run has changed. -/
def writeFiles (before after : FileTree) : IO Unit :=
  (after.changesFrom before).forM fun (parts, content) => do
    IO.FS.createDirAll (systemPath parts.dropLast)
    IO.FS.writeBinFile (systemPath parts) (ByteArray.mk content.toArray)

end Main

end TableSearch

open TableSearch in
/-- Runs the program on the words of the command line. -/
def main (args : List String) : IO UInt32 := do
  let words := args.map String.toList
  let files ← Main.readFiles words
  let noColor := (← IO.getEnv "NO_COLOR").isSome
  let outcome := Program.run files noColor words
  IO.print outcome.output.toString
  IO.eprint outcome.errors.toString
  match outcome.failure with
  | some failure => IO.eprintln failure.message
  | none => Main.writeFiles files outcome.files
  return UInt32.ofNat outcome.code
