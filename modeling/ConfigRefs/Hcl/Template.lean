import ConfigRefs.Hcl.Transcript
import ConfigRefs.Text.CharClass

/-!
# Hcl: templates

The text of a quoted string or of a heredoc is a `Template`: literal characters, and interpolations
and directives that are kept as transcripts. `text` is the text that a template stands for and
`transcript` what is kept of it in an interpolation around it. `indentation?` and `dedent` take away
the indentation of a heredoc, and `indentLines` gives it back.
-/

namespace ConfigRefs.Hcl

open ConfigRefs.Text

/-- A part of a template. -/
inductive TemplatePart where
  /-- Characters, their escapes having been decoded. -/
  | literal (text : List Char)
  /-- An interpolation or a directive with its marks. -/
  | inserted (transcript : Transcript)
  deriving DecidableEq, Repr

/-- The parts of a quoted string or a heredoc in order. -/
abbrev Template := List TemplatePart

namespace Template

/-- The characters of a template that is a single literal or empty. -/
def plain? : Template → Option (List Char)
  | [] => some []
  | [.literal text] => some text
  | _ => none

/-- The text that a template with interpolations stands for. -/
def text (template : Template) : List Char :=
  template.flatMap fun
    | .literal text => escapeMarks text
    | .inserted transcript => transcript.text

/-- What is kept of the parts of a template. -/
def inner (template : Template) : Transcript :=
  template.flatMap fun
    | .literal text => Transcript.ofLiteral text
    | .inserted transcript => transcript

/-- What is kept of a quoted string. -/
def transcript (template : Template) : Transcript :=
  match template.plain? with
  | some text => Transcript.ofString text
  | none => .opening :: template.inner ++ [.closing]

/-- A template whose neighbouring literals are joined. -/
def join : Template → Template
  | .literal text :: rest =>
    match join rest with
    | .literal more :: others => .literal (text ++ more) :: others
    | others => .literal text :: others
  | .inserted transcript :: rest => .inserted transcript :: join rest
  | [] => []

/-- The lines of a text without the line feeds that end them, or the carriage returns before these. -/
def lines : List Char → List (List Char)
  | [] => []
  | '\n' :: rest => [] :: lines rest
  | '\r' :: '\n' :: rest => [] :: lines rest
  | c :: rest =>
    match lines rest with
    | [] => [[c]]
    | line :: later => (c :: line) :: later

/-- The text of lines. The last one ends with a line feed if it does in the text that they are from. -/
def unlines (source : List Char) (lines : List (List Char)) : List Char :=
  List.intercalate ['\n'] lines ++ if source.getLast? = some '\n' then ['\n'] else []

/-- The least number of white space characters that begin one of the lines that are not empty. Nothing
if there is a line that begins with none. -/
def leastIndent? (lines : List (List Char)) : Option Nat :=
  match ((lines.filter (!·.isEmpty)).map fun line => (line.takeWhile isBlank).length).min? with
  | some 0 => none
  | least => least

/-- The least indentations of the literals of a template. The first line of a literal behind another
part does not begin there. -/
def indents (atStart : Bool) : Template → List Nat
  | [] => []
  | .literal text :: rest =>
    (leastIndent? ((lines text).drop (if atStart then 0 else 1))).toList ++ indents false rest
  | .inserted _ :: rest => indents false rest

/-- Whether an interpolation or a directive is the first thing on a line. -/
def beginsLine (lineStart : Bool) : Template → Bool
  | [] => false
  | .literal text :: rest => beginsLine (text.getLast? = some '\n') rest
  | .inserted _ :: rest => lineStart || beginsLine false rest

/-- The indentation that a template loses: the least one of its literals, those with a line that has
none being left out. There is none if an interpolation or a directive begins a line. -/
def indentation? (template : Template) : Option Nat :=
  if template.beginsLine true then none else (template.indents true).min?

/-- A literal without the first `size` characters of the lines that begin in it. Its lines then end
with line feeds alone. -/
def dedentLiteral (size : Nat) (atStart : Bool) (text : List Char) : List Char :=
  unlines text <|
    match lines text with
    | [] => []
    | first :: later => (if atStart then first.drop size else first) :: later.map (·.drop size)

/-- A template without the first `size` characters of the lines that begin in it. -/
def dedent (size : Nat) (atStart : Bool) : Template → Template
  | [] => []
  | .literal text :: rest => .literal (dedentLiteral size atStart text) :: dedent size false rest
  | .inserted transcript :: rest => .inserted transcript :: dedent size false rest

/-- A text whose lines are moved in, unless they are empty. -/
def indentLines (size : Nat) (text : List Char) : List Char :=
  unlines text <| (lines text).map fun line =>
    if line.isEmpty then line else List.replicate size ' ' ++ line

end Template

/-- A heredoc. Its template has already lost the indentation, if it has any. -/
structure Heredoc where
  delimiter : String
  indentation : Option Nat
  template : Template

namespace Heredoc

/-- The heredoc of a template, which loses its indentation if that is asked for. -/
def ofTemplate (delimiter : String) (dedented : Bool) (template : Template) : Heredoc :=
  match if dedented then template.indentation? else none with
  | some size => ⟨delimiter, some size, template.dedent size true⟩
  | none => ⟨delimiter, none, template⟩

/-- The line that begins a heredoc. -/
def firstLine (heredoc : Heredoc) : List Char :=
  (if heredoc.indentation.isSome then "<<-" else "<<").toList ++ heredoc.delimiter.toList ++ ['\n']

/-- A heredoc as it is written without indentation. -/
def source (heredoc : Heredoc) : List Char :=
  let text := heredoc.template.text
  heredoc.firstLine ++ text ++ (if text.getLast? = some '\n' then [] else ['\n'])
    ++ heredoc.delimiter.toList

/-- What is kept of a heredoc. Its lines get their indentation back, and `gap` is what stands before
the delimiter that ends it. -/
def transcript (heredoc : Heredoc) (gap : List Char) : Transcript :=
  Transcript.ofText heredoc.firstLine
    ++ (match heredoc.indentation with
      | some size => Transcript.ofText (Template.indentLines size heredoc.template.text)
      | none => heredoc.template.inner)
    ++ Transcript.ofText (gap ++ heredoc.delimiter.toList)

end Heredoc

end ConfigRefs.Hcl
