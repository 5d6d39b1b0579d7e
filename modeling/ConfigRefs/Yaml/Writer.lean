import ConfigRefs.Report.Data
import ConfigRefs.Yaml.Scalar

/-!
# Yaml: writing

`write` writes the data of a report in block style. A list below a key is not moved further in, a
list or a record in a list begins on the line of its dash, and data of a named shape carries the name
as a tag.
-/

namespace ConfigRefs.Yaml

open ConfigRefs.Report

/-- What is written for data: a scalar, or the lines of a list or of a record. -/
inductive Block where
  | scalar (shape : Scalar)
  | list (lines : List Line)
  | record (lines : List Line)

/-- A line with a beginning and a space in front of it. -/
def Line.after (start : List Char) (line : Line) : Line :=
  { line with text := start ++ ' ' :: line.text }

/-- The lines of data behind the given beginning of its first line. A list that is `level` with what
it belongs to is not moved in. -/
def Block.behind (start : List Char) (level : Bool) : Block → List Line
  | .scalar shape => shape.head.after start :: shape.lines.map Line.indent
  | .list lines => ⟨start, '\n'⟩ :: if level then lines else lines.map Line.indent
  | .record lines => ⟨start, '\n'⟩ :: lines.map Line.indent

/-- The lines of data behind a mark of one character, on the same line if the data is not tagged. -/
def Block.item (mark : Char) : Block → List Line
  | .scalar shape => shape.head.after [mark] :: shape.lines.map Line.indent
  | .list lines => beside lines
  | .record lines => beside lines
where
  /-- Lines of which the first stands behind the mark. -/
  beside : List Line → List Line
    | [] => [⟨[mark], '\n'⟩]
    | first :: rest => first.after [mark] :: rest.map Line.indent

/-- A tag behind a key or a dash. -/
def tagMark (tag : Option String) : List Char :=
  match tag with
  | some name => ' ' :: '!' :: name.toList
  | none => []

/-- The lines of a key with its value, whose block and tag are given. -/
def keyLines (key : String) (tag : Option String) (value : Block) : List Line :=
  let scalar := Scalar.ofText key
  if isSimpleKey key then value.behind (scalar.head.text ++ ':' :: tagMark tag) true
  else
    Block.item '?' (.scalar scalar)
      ++ match tag with
        | some _ => value.behind (':' :: tagMark tag) true
        | none => value.item ':'

mutual

/-- The block of data. -/
def blockOf : Data → Block
  | .null => .scalar (.ofChars "null".toList)
  | .bool value => .scalar (.ofChars (toString value).toList)
  | .number value => .scalar (.ofChars (value.render Number.layout).toList)
  | .text value => .scalar (.ofText value)
  | .list [] => .scalar (.ofChars "[]".toList)
  | .list items => .list (itemLines items)
  | .record [] => .scalar (.ofChars "\x7b\x7d".toList)
  | .record fields => .record (fieldLines fields)
  | .tagged _ content => blockOf content

/-- The lines of the items of a list. -/
def itemLines : List Data → List Line
  | [] => []
  | .tagged name content :: rest =>
    (blockOf content).behind ('-' :: tagMark (some name)) false ++ itemLines rest
  | item :: rest => (blockOf item).item '-' ++ itemLines rest

/-- The lines of the fields of a record. -/
def fieldLines : List (String × Data) → List Line
  | [] => []
  | (key, .tagged name content) :: rest =>
    keyLines key (some name) (blockOf content) ++ fieldLines rest
  | (key, value) :: rest => keyLines key none (blockOf value) ++ fieldLines rest

end

/-- Data as a YAML document. -/
def write (data : Data) : String :=
  let lines := match blockOf data with
    | .scalar shape => shape.head :: shape.lines.map Line.indent
    | .list lines => lines
    | .record lines => lines
  String.ofList (lines.flatMap fun line => line.text ++ [line.ending])

end ConfigRefs.Yaml
