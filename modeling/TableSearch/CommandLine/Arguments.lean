import TableSearch.Text.Quoted

/-! # Arguments

The words of a command line are options and other words.  An option is known by its spellings; it
may take a value, which is written behind an equals sign, in the same word, or as the next word.
`Arguments.scan` tells the two apart.
-/

namespace TableSearch

/-- An option of a command. -/
structure OptionForm where
  /-- The ways to write the option; the first one stands for it. -/
  spellings : List Text
  takesValue : Bool
deriving DecidableEq, Repr

namespace OptionForm

/-- The spelling that stands for an option. -/
def name (option : OptionForm) : Text :=
  option.spellings.headD []

/-- The spellings of an option inside a message. -/
def shown (option : OptionForm) : Text :=
  Text.join " / ".toList (option.spellings.map fun spelling => '\'' :: spelling ++ ['\''])

end OptionForm

/-- Why the words of a command line cannot be used. -/
inductive UsageProblem where
  | noSuchOption (spelling : Text)
  | valueMissing (spelling : Text)
  | valueUnexpected (spelling : Text)
  | noSuchCommand (name : Text)
  | commandMissing
  | argumentMissing (name : String)
  | unexpectedArguments (words : List Text)
  /-- The value of an option is none of some words. -/
  | noChoice (option : OptionForm) (value : Text) (choices : List String)
  | notANumber (option : OptionForm) (value : Text)
  | negativeNumber (option : OptionForm) (value : Int)
deriving DecidableEq, Repr

namespace UsageProblem

/-- The wording of a problem. -/
def message : UsageProblem → String
  | noSuchOption spelling => "No such option: " ++ spelling.toString
  | valueMissing spelling => "Option " ++ spelling.quoted.toString ++ " requires an argument."
  | valueUnexpected spelling => "Option " ++ spelling.quoted.toString ++ " does not take a value."
  | noSuchCommand name => "No such command " ++ name.quoted.toString ++ "."
  | commandMissing => "Missing command."
  | argumentMissing name => "Missing argument '" ++ name ++ "'."
  | unexpectedArguments words =>
    "Got unexpected extra argument" ++ (if words.length = 1 then " (" else "s (") ++
      (Text.join [' '] words).toString ++ ")"
  | noChoice option value choices =>
    "Invalid value for " ++ option.shown.toString ++ ": " ++ value.quoted.toString ++
      " is not one of " ++ ", ".intercalate (choices.map fun choice => "'" ++ choice ++ "'") ++ "."
  | notANumber option value =>
    "Invalid value for " ++ option.shown.toString ++ ": " ++ value.quoted.toString ++
      " is not a valid integer range."
  | negativeNumber option value =>
    "Invalid value for " ++ option.shown.toString ++ ": " ++ (Text.ofInt value).toString ++
      " is not in the range x>=0."

end UsageProblem

/-- An option as it was given. -/
structure GivenOption where
  /-- The spelling that stands for the option. -/
  name : Text
  value : Option Text
deriving DecidableEq, Repr

/-- The words of a command line told apart. -/
structure Arguments where
  options : List GivenOption
  words : List Text
deriving DecidableEq, Repr

namespace Arguments

/-- The option with a spelling. -/
def form? (forms : List OptionForm) (spelling : Text) : Option OptionForm :=
  forms.find? (·.spellings.contains spelling)

/-- An option that takes a value, with the next word as its value. -/
def withNext (option : OptionForm) (spelling : Text) :
    List Text → Except UsageProblem (GivenOption × List Text)
  | [] => .error (.valueMissing spelling)
  | value :: rest => .ok (⟨option.name, some value⟩, rest)

/-- The option that a long word writes, and the words behind it. -/
def scanLong (forms : List OptionForm) (word : Text) (rest : List Text) :
    Except UsageProblem (GivenOption × List Text) :=
  let spelling := word.takeWhile (· != '=')
  let attached : Option Text :=
    match word.drop spelling.length with
    | [] => none
    | _ :: value => some value
  match form? forms spelling with
  | none => .error (.noSuchOption spelling)
  | some option =>
    match option.takesValue, attached with
    | true, some value => .ok (⟨option.name, some value⟩, rest)
    | true, none => withNext option spelling rest
    | false, some _ => .error (.valueUnexpected spelling)
    | false, none => .ok (⟨option.name, none⟩, rest)

/-- The options that the letters of a word write, and the words behind it.  What follows the letter
of an option with a value is that value. -/
def scanLetters (forms : List OptionForm) (rest : List Text) :
    Text → Except UsageProblem (List GivenOption × List Text)
  | [] => .ok ([], rest)
  | letter :: letters =>
    let spelling : Text := ['-', letter]
    match form? forms spelling with
    | none => .error (.noSuchOption spelling)
    | some option =>
      if option.takesValue then
        if letters.isEmpty then
          (withNext option spelling rest).map fun (given, rest) => ([given], rest)
        else .ok ([⟨option.name, some letters⟩], rest)
      else
        (scanLetters forms rest letters).map fun (given, rest) =>
          (⟨option.name, none⟩ :: given, rest)

/-- The options that a word writes, and the words behind it. -/
def scanOption (forms : List OptionForm) (word : Text) (rest : List Text) :
    Except UsageProblem (List GivenOption × List Text) :=
  if ['-', '-'].isPrefixOf word then
    (scanLong forms word rest).map fun (given, rest) => ([given], rest)
  else scanLetters forms rest (word.drop 1)

/-- Whether a word writes options. -/
def isOption (word : Text) : Bool :=
  word.head? == some '-' && 1 < word.length

/-- The options and words of a command line from given ones on.  Two dashes end the options, and
without `mixed` the first other word does.  The number bounds the words. -/
def scanFrom (forms : List OptionForm) (mixed : Bool) (found : Arguments) :
    List Text → Nat → Except UsageProblem Arguments
  | [], _ => .ok found
  | words, 0 => .ok { found with words := found.words ++ words }
  | word :: rest, rounds + 1 =>
    if word = ['-', '-'] then .ok { found with words := found.words ++ rest }
    else if isOption word then
      match scanOption forms word rest with
      | .ok (given, rest) =>
        scanFrom forms mixed { found with options := found.options ++ given } rest rounds
      | .error problem => .error problem
    else if mixed then
      scanFrom forms mixed { found with words := found.words ++ [word] } rest rounds
    else .ok { found with words := found.words ++ word :: rest }

/-- The options and words of a command line. -/
def scan (forms : List OptionForm) (mixed : Bool) (words : List Text) :
    Except UsageProblem Arguments :=
  scanFrom forms mixed ⟨[], []⟩ words words.length

/-- Whether an option was given. -/
def has (arguments : Arguments) (name : String) : Bool :=
  arguments.options.any (·.name == name.toList)

/-- The last value given for an option. -/
def value? (arguments : Arguments) (name : String) : Option Text :=
  (arguments.options.reverse.find? (·.name == name.toList)).bind (·.value)

end Arguments

end TableSearch
