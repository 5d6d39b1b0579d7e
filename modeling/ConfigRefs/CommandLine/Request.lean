import ConfigRefs.CommandLine.Token

/-!
# CommandLine: requests

What a command line asks for. `request?` reads the arguments; it gives nothing where they are not
used as they should be.
-/

namespace ConfigRefs.CommandLine

/-- Where the configuration comes from. Without any of these it is read from the standard input. -/
structure Input where
  workdir : Bool
  files : List String
  directories : List String

/-- Whether the standard input is to be read. -/
def Input.isStandard (input : Input) : Bool :=
  !input.workdir && input.files.isEmpty && input.directories.isEmpty

/-- How results are written. -/
inductive Format where
  /-- As source text of the generated program. -/
  | source
  | json
  | yaml
  deriving DecidableEq, Repr

/-- What is to be done with the configuration. -/
inductive Task where
  /-- Lists the references of every declaration. -/
  | references
  /-- Converts a text, with the loop variables in force where it stands. -/
  | expression (text : String) (loopVariables : List String)
  /-- Lists the dynamic blocks of every declaration. -/
  | dynamic

/-- A task with its input, the format of its output, and the directories to change to before. -/
structure Job where
  directories : List String
  input : Input
  format : Format
  task : Task

/-- What a command line asks for. -/
inductive Request where
  | version
  | help
  | job (job : Job)

/-- The option that every command knows. -/
def directoryOption : OptSpec := ⟨.directory, 'C', "directory", true, false⟩

/-- The option that asks for help. -/
def helpOption : OptSpec := ⟨.help, 'h', "help", false, true⟩

/-- The options in front of a command. -/
def topOptions : List OptSpec :=
  [directoryOption, helpOption, ⟨.version, 'V', "version", false, true⟩]

/-- The options of every command. -/
def commandOptions : List OptSpec :=
  [directoryOption, helpOption, ⟨.workdir, 'w', "input-workdir", false, false⟩,
    ⟨.inputFile, 'f', "input-file", true, false⟩, ⟨.inputDir, 'd', "input-dir", true, false⟩,
    ⟨.format, 'F', "output-format", true, false⟩]

/-- The option of the command that converts a text. -/
def expressionOptions : List OptSpec :=
  commandOptions ++ [⟨.loopVariable, 's', "scoped", true, false⟩]

/-- The commands. -/
inductive Command where
  | references
  | expression
  | dynamic
  deriving DecidableEq, Repr

/-- The command of a word. -/
def Command.ofWord? (word : String) : Option Command :=
  if word = "references" ∨ word = "refs" then some .references
  else if word = "expression" ∨ word = "expr" then some .expression
  else if word = "dynamic" then some .dynamic
  else none

/-- The options of a command. -/
def Command.options : Command → List OptSpec
  | .expression => expressionOptions
  | _ => commandOptions

/-- The formats that a command can write, each under its name, the first being the one that is taken
where none is given. -/
def Command.formats : Command → List (String × Format)
  | .expression => [("ts", .source), ("json", .json), ("yaml", .yaml)]
  | _ => [("yaml", .yaml), ("json", .json)]

/-- The values of an option in order. -/
def valuesOf (opt : Opt) (items : List Item) : List String :=
  items.filterMap fun
    | .value other text => if other = opt then some text else none
    | _ => none

/-- The words among items. -/
def wordsOf (items : List Item) : List String :=
  items.filterMap fun
    | .word text => some text
    | _ => none

/-- The values of an option that are paths, none of which is empty. -/
def paths? (opt : Opt) (items : List Item) : Option (List String) :=
  let paths := valuesOf opt items
  if paths.contains "" then none else some paths

/-- Whether a flag is given, which is possible once. -/
def flag? (opt : Opt) (items : List Item) : Option Bool :=
  match items.count (.flag opt) with
  | 0 => some false
  | 1 => some true
  | _ => none

/-- The format that is asked for, which is possible once. -/
def format? (command : Command) (items : List Item) : Option Format :=
  match valuesOf .format items with
  | [] => (command.formats.head?).map (·.2)
  | [name] => command.formats.lookup name
  | _ => none

/-- The task of a command with its words. -/
def task? (command : Command) (items : List Item) : Option Task :=
  match command, wordsOf items with
  | .references, [] => some .references
  | .dynamic, [] => some .dynamic
  | .expression, [text] => some (.expression text (valuesOf .loopVariable items))
  | _, _ => none

/-- The greatest number of words behind a command. -/
def Command.wordLimit : Command → Nat
  | .expression => 1
  | _ => 0

/-- What a command with its arguments asks for. Directories behind the command replace those in front
of it. A request for help does not need the words of the command, but what stands before it must be
right. -/
def commandRequest? (directories : List String) (command : Command) (items : List Item) :
    Option Request := do
  let inner ← paths? .directory items
  let workdir ← flag? .workdir items
  let files ← paths? .inputFile items
  let inputDirectories ← paths? .inputDir items
  let format ← format? command items
  if command.wordLimit < (wordsOf items).length then none
  else if items.contains (.flag .help) then return .help
  else return .job {
    directories := if inner.isEmpty then directories else inner
    input := ⟨workdir, files, inputDirectories⟩
    format := format
    task := ← task? command items }

/-- What the arguments of a command line ask for. -/
def request? (arguments : List String) : Option Request := do
  let (items, behind) ← items? topOptions true arguments
  let directories ← paths? .directory items
  if items.contains (.flag .version) then return .version
  if items.contains (.flag .help) then return .help
  match wordsOf items with
  | ["help"] =>
    if behind.length ≤ 1 && behind.all (fun word => (Command.ofWord? word).isSome) then some .help
    else none
  | [word] =>
    let command ← Command.ofWord? word
    let (inner, _) ← items? command.options false behind
    commandRequest? directories command inner
  | _ => none

end ConfigRefs.CommandLine
