import ConfigRefs.Json.Quoted
import ConfigRefs.Report.Data

/-!
# Json: writing

`write` writes the data of a report as JSON with two spaces for each level and every item on a line
of its own.
-/

namespace ConfigRefs.Json

open ConfigRefs.Report

/-- How doubles are written in JSON: an exponent has a sign in any case. -/
def numberLayout : Number.Layout := { Number.layout with plus := true }

/-- Items between brackets, each on a line of its own one level further in. -/
def bracketed (opening closing margin : String) (items : List String) : String :=
  if items.isEmpty then opening ++ closing
  else
    let inner := "\n" ++ margin ++ "  "
    opening ++ inner ++ String.intercalate ("," ++ inner) items ++ "\n" ++ margin ++ closing

mutual

/-- Data as JSON on lines that begin with a margin. -/
def writeAt (margin : String) : Data → String
  | .null => "null"
  | .bool value => toString value
  | .number value => value.render numberLayout
  | .text value => quoted value
  | .list items => bracketed "[" "]" margin (writeItems (margin ++ "  ") items)
  | .record fields => bracketed "\x7b" "\x7d" margin (writeFields (margin ++ "  ") fields)
  | .tagged name content =>
    bracketed "\x7b" "\x7d" margin [quoted name ++ ": " ++ writeAt (margin ++ "  ") content]

/-- Each item of a list as JSON. -/
def writeItems (margin : String) : List Data → List String
  | [] => []
  | item :: rest => writeAt margin item :: writeItems margin rest

/-- Each field of a record as JSON. -/
def writeFields (margin : String) : List (String × Data) → List String
  | [] => []
  | (key, value) :: rest =>
    (quoted key ++ ": " ++ writeAt margin value) :: writeFields margin rest

end

/-- Data as JSON. -/
def write (data : Data) : String := writeAt "" data

end ConfigRefs.Json
