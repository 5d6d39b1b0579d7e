/-!
# CommandLine: options and words

The arguments of a command line are options, with or without a value, and words. `items?` tells them
apart for a given set of options; it fails at an option that is unknown or lacks its value.
-/

namespace ConfigRefs.CommandLine

/-- The options of the program. -/
inductive Opt where
  | directory
  | workdir
  | inputFile
  | inputDir
  | format
  | loopVariable
  | version
  | help
  deriving DecidableEq, Repr

/-- How an option is written and whether it takes a value. An option that ends the command line hides
everything behind it. -/
structure OptSpec where
  opt : Opt
  short : Char
  long : String
  takesValue : Bool
  ends : Bool := false

/-- A part of a command line. -/
inductive Item where
  | flag (opt : Opt)
  | value (opt : Opt) (text : String)
  | word (text : String)
  deriving DecidableEq, Repr

/-- Whether an argument is no word: it begins with a minus sign and is more than that. -/
def isOption (argument : String) : Bool :=
  match argument.toList with
  | '-' :: _ :: _ => true
  | _ => false

/-- An option whose value is the next argument, and the arguments behind it. -/
def withNext? (spec : OptSpec) : List String → Option (List Item × List String)
  | [] => none
  | text :: rest => if isOption text then none else some ([.value spec.opt text], rest)

/-- The text of a value that is written together with its option, after an equals sign or not. -/
def attached : List Char → String
  | '=' :: text => String.ofList text
  | text => String.ofList text

/-- The options of an argument of letters behind one minus sign. The last one may take a value, from
the rest of the argument or from the next one. -/
def cluster? (specs : List OptSpec) (later : List String) :
    List Char → Option (List Item × List String)
  | [] => some ([], later)
  | c :: more =>
    match specs.find? (·.short == c) with
    | none => none
    | some spec =>
      if spec.takesValue then
        if more.isEmpty then withNext? spec later
        else some ([.value spec.opt (attached more)], later)
      else if spec.ends then some ([.flag spec.opt], [])
      else (cluster? specs later more).map fun (items, rest) => (.flag spec.opt :: items, rest)

/-- The option of an argument behind two minus signs. -/
def long? (specs : List OptSpec) (later : List String) (text : List Char) :
    Option (List Item × List String) :=
  let (key, behind) := text.span (· != '=')
  match specs.find? (·.long == String.ofList key) with
  | none => none
  | some spec =>
    match spec.takesValue, behind with
    | true, [] => withNext? spec later
    | true, value => some ([.value spec.opt (attached value)], later)
    | false, [] => some ([.flag spec.opt], if spec.ends then [] else later)
    | false, _ => none

/-- The items of arguments, in at most `fuel` steps. With `stopAtWord` the first word ends them and
the arguments behind it are left. Behind two minus signs alone everything is a word. -/
def itemsFrom? (specs : List OptSpec) (stopAtWord : Bool) :
    (fuel : Nat) → List String → Option (List Item × List String)
  | 0, _ => some ([], [])
  | _, [] => some ([], [])
  | fuel + 1, argument :: later => do
    let continueWith (split : List Item × List String) : Option (List Item × List String) := do
      let (items, rest) ← itemsFrom? specs stopAtWord fuel split.2
      return (split.1 ++ items, rest)
    match argument.toList with
    | ['-', '-'] => if stopAtWord then none else return (later.map .word, [])
    | '-' :: '-' :: text => continueWith (← long? specs later text)
    | '-' :: c :: text => continueWith (← cluster? specs later (c :: text))
    | _ =>
      if stopAtWord then return ([.word argument], later)
      else continueWith ([.word argument], later)

/-- The items of all arguments, or those up to the first word and the arguments behind it. -/
def items? (specs : List OptSpec) (stopAtWord : Bool) (arguments : List String) :
    Option (List Item × List String) :=
  itemsFrom? specs stopAtWord arguments.length arguments

end ConfigRefs.CommandLine
