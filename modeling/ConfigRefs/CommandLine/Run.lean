import ConfigRefs.CommandLine.Request
import ConfigRefs.Configuration.Loading
import ConfigRefs.Hcl.BodyReader
import ConfigRefs.Json.Reader
import ConfigRefs.Json.Writer
import ConfigRefs.Yaml.Writer

/-!
# CommandLine: running a request

`run` does what a command line asks for and gives the outcome: the exit code and what is written.
-/

namespace ConfigRefs.CommandLine

open ConfigRefs.Configuration ConfigRefs.Declaration ConfigRefs.Report

/-- The exit code of a run, what it prints, and the message of its failure. -/
structure Outcome where
  exitCode : UInt32
  output : String
  message : String
  deriving DecidableEq, Repr

/-- The name and the number of this version of the program. -/
def versionText : String := "hclref 0.1.0"

/-- How the program is used. -/
def usageText : String :=
  "Usage: hclref [-C DIRECTORY]... (references | expression EXPRESSION | dynamic) [OPTIONS]"

/-- Why a run fails. -/
inductive Failure where
  /-- The arguments are not used as they should be. -/
  | usage
  /-- A directory to change to leads nowhere. -/
  | noSuchPlace (path : String)
  /-- A place to change to is no directory. -/
  | noDirectory (place : Place)
  /-- The standard input is not in the configuration language. -/
  | badInput
  | load (error : LoadError)
  | resolve (error : ResolveError)

/-- The message of a failure. -/
def Failure.message : Failure → String
  | .usage => usageText
  | .noSuchPlace path => "Failed to resolve path for -C/--directory " ++ path
  | .noDirectory place => "Failed to set work directory to " ++ place.render
  | .badInput => "HCL parse error"
  | .load error => error.message
  | .resolve error => error.message

/-- The exit code of a failure. -/
def Failure.exitCode : Failure → UInt32
  | .usage => 2
  | _ => 1

/-- The readers of the formats that configurations are written in. -/
def formats : Formats := ⟨Hcl.read?, Json.read?⟩

variable {m : Type → Type} [Monad m]

/-- Changes to a directory, whose path is taken from another one. -/
def changeDirectory (files : FileSystem m) (place : Place) (path : String) :
    ExceptT Failure m Place := do
  match ← (liftM (files.resolve place path) : ExceptT Failure m (Option Place)) with
  | none => throw (.noSuchPlace path)
  | some next =>
    match ← (liftM (files.list next) : ExceptT Failure m _) with
    | none => throw (.noDirectory next)
    | some _ => return next

/-- Adds everything that an input names. -/
def loadAll (files : FileSystem m) (place : Place) (input : Input) : Load m Unit := do
  if input.workdir then loadDirectory files formats place "."
  input.files.forM (loadFile files formats place)
  input.directories.forM (loadDirectory files formats place)

/-- The documents of an input. -/
def documentsOf (files : FileSystem m) (place : Place) (input : Input) (standardInput : String) :
    ExceptT Failure m Documents := do
  if input.isStandard then
    match Hcl.read? standardInput with
    | some document => return .ofValue document
    | none => throw .badInput
  else
    let (outcome, documents) ←
      (liftM ((loadAll files place input).run.run .empty) : ExceptT Failure m _)
    match outcome with
    | .ok () => return documents
    | .error error => throw (.load error)

/-- Data in the given format. -/
def writeData (format : Format) (data : Data) : String :=
  match format with
  | .json => Json.write data
  | _ => Yaml.write data

/-- The output of a task on documents. -/
def perform (documents : Documents) (format : Format) : Task → Except ResolveError String
  | .references => do
    return writeData format (.ofEntries .ofReference (← documents.references))
  | .expression text loopVariables => do
    let expr ← Expr.convert text documents.index ⟨loopVariables⟩
    match format with
    | .source => return expr.render ++ "\n"
    | _ => return writeData format (.ofExpr expr)
  | .dynamic => return writeData format (.ofEntries .ofDynamicBlock documents.dynamicBlocks)

/-- The output of a job that begins in a directory. -/
def runJob (files : FileSystem m) (start : Place) (job : Job) (standardInput : String) :
    ExceptT Failure m String := do
  let place ← job.directories.foldlM (changeDirectory files) start
  let documents ← documentsOf files place job.input standardInput
  match perform documents job.format job.task with
  | .ok output => return output
  | .error error => throw (.resolve error)

/-- The output of a command line that begins in a directory. -/
def runArguments (files : FileSystem m) (start : Place) (arguments : List String)
    (standardInput : String) : ExceptT Failure m String :=
  match request? arguments with
  | none => throw .usage
  | some .version => return versionText ++ "\n"
  | some .help => return usageText ++ "\n"
  | some (.job job) => runJob files start job standardInput

/-- The outcome of a command line that begins in a directory. -/
def run (files : FileSystem m) (start : Place) (arguments : List String) (standardInput : String) :
    m Outcome := do
  match ← (runArguments files start arguments standardInput).run with
  | .ok output => return ⟨0, output, ""⟩
  | .error failure => return ⟨failure.exitCode, "", failure.message⟩

end ConfigRefs.CommandLine
