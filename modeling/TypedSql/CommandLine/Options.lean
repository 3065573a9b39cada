/-! Scanning of command-line arguments: options with and without a value, by a short or
a long name, among plain words. A group of short options may share one dash, and the
last of them may have its value attached. -/
namespace TypedSql.CommandLine

/-- An option by its key. -/
structure OptionSpec (κ : Type) where
  key : κ
  long : String
  short : Option Char := none
  takesValue : Bool := false

/-- One thing said on the command line. -/
inductive Event (κ : Type) where
  | flag (key : κ)
  | value (key : κ) (text : String)
  | word (text : String)
  deriving DecidableEq

/-- How the scanning of one argument ends. -/
inductive ArgumentEnd (κ : Type) where
  | done
  | needsValue (key : κ)
  | invalid

/-- How the scanning of a command line ends. -/
inductive Ending where
  | finished
  | invalid
  /-- A plain word, and the arguments behind it. -/
  | word (text : String) (rest : List String)
  deriving DecidableEq

/-- The options of a group of letters. -/
def scanLetters (specs : List (OptionSpec κ)) : List Char → List (Event κ) × ArgumentEnd κ
  | [] => ([], .done)
  | c :: rest =>
    match specs.find? fun spec => spec.short = some c with
    | none => ([], .invalid)
    | some spec =>
      if spec.takesValue then
        match rest with
        | [] => ([], .needsValue spec.key)
        | '=' :: value => ([.value spec.key (String.ofList value)], .done)
        | value => ([.value spec.key (String.ofList value)], .done)
      else
        let (events, ending) := scanLetters specs rest
        (.flag spec.key :: events, ending)

/-- An option by its long name, with a value behind an equals sign or without. -/
def scanLong (specs : List (OptionSpec κ)) (text : List Char) : List (Event κ) × ArgumentEnd κ :=
  let name := String.ofList (text.takeWhile (· ≠ '='))
  match specs.find? fun spec => spec.long = name with
  | none => ([], .invalid)
  | some spec =>
    match text.dropWhile (· ≠ '='), spec.takesValue with
    | [], true => ([], .needsValue spec.key)
    | [], false => ([.flag spec.key], .done)
    | _ :: value, true => ([.value spec.key (String.ofList value)], .done)
    | _ :: _, false => ([], .invalid)

/-- Whether an argument begins an option or ends the options. A lone dash is a word. -/
def isDashed (arg : String) : Bool :=
  match arg.toList with
  | '-' :: _ :: _ => true
  | _ => false

/-- Scans a command line from left to right; `pending` is an option that still waits for
its value. Words are passed over if `words` is set, and end the scan otherwise. Behind
`--` there are only words. -/
def scanFrom (specs : List (OptionSpec κ)) (words : Bool) :
    (pending : Option κ) → List String → List (Event κ) × Ending
  | none, [] => ([], .finished)
  | some _, [] => ([], .invalid)
  | some key, arg :: rest =>
    if isDashed arg then ([], .invalid)
    else
      let (later, ending) := scanFrom specs words none rest
      (.value key arg :: later, ending)
  | none, arg :: rest =>
    if arg = "--" then
      if words then (rest.map .word, .finished)
      else ([], if rest.isEmpty then .finished else .invalid)
    else if isDashed arg then
      let (events, ending) := match arg.toList with
        | '-' :: '-' :: name => scanLong specs name
        | _ :: letters => scanLetters specs letters
        | [] => ([], .invalid)
      match ending with
      | .invalid => (events, .invalid)
      | .done =>
        let (later, ending) := scanFrom specs words none rest
        (events ++ later, ending)
      | .needsValue key =>
        let (later, ending) := scanFrom specs words (some key) rest
        (events ++ later, ending)
    else if words then
      let (later, ending) := scanFrom specs words none rest
      (.word arg :: later, ending)
    else ([], .word arg rest)

def scan (specs : List (OptionSpec κ)) (words : Bool) (args : List String) :
    List (Event κ) × Ending :=
  scanFrom specs words none args

end TypedSql.CommandLine
