import ConfigRefs.Json.Quoted
import ConfigRefs.Text.Hexadecimal

/-!
# Hcl: transcripts

An interpolation is kept in the form in which it was read, apart from the text of quoted strings, which
is decoded when it is read and escaped again when it is kept. A `Transcript` is that form. Whether the
characters of a string with interpolations are escaped is known only when the transcript is written:
they are if the last quote of such a string before them is an opening one.
-/

namespace ConfigRefs.Hcl

open ConfigRefs.Text

/-- A sign of a transcript. -/
inductive Glyph where
  /-- A character that stands as it is. -/
  | plain (c : Char)
  /-- A character of the text of a string, decoded. -/
  | literal (c : Char)
  /-- The quote in front of a string that holds interpolations. -/
  | opening
  /-- The quote behind a string that holds interpolations. -/
  | closing
  deriving DecidableEq, Repr

/-- The form in which a part of a document is kept. -/
abbrev Transcript := List Glyph

/-- How a character is written between quotes. -/
def escapeChar (c : Char) : List Char :=
  match Json.shortEscape? c with
  | some short => ['\\', short]
  | none =>
    if c.toNat < 0x20 || c.toNat == 0x7f then '\\' :: 'u' :: hexDigits 4 c.toNat else [c]

/-- A text whose interpolations and directives are doubled from a place on where one begins. The
characters behind a dollar or a percent sign are taken together with it, so the mark behind another
such sign stays. -/
def doubleMarks : List Char → List Char
  | c :: next :: rest =>
    if c == '$' || c == '%' then
      if next == '\x7b' then c :: c :: next :: doubleMarks rest else c :: next :: doubleMarks rest
    else c :: doubleMarks (next :: rest)
  | text => text

/-- A text with the marks of interpolations and directives in it doubled, so that they begin none. -/
def escapeMarks : List Char → List Char
  | c :: next :: rest =>
    if (c == '$' || c == '%') && next == '\x7b' then doubleMarks (c :: next :: rest)
    else c :: escapeMarks (next :: rest)
  | text => text

namespace Transcript

/-- Characters that stand as they are. -/
def ofText (text : List Char) : Transcript := text.map .plain

/-- The decoded text of a part of a string. -/
def ofLiteral (text : List Char) : Transcript := (escapeMarks text).map .literal

/-- A quoted string without interpolations. -/
def ofString (text : List Char) : Transcript :=
  ofText ('"' :: (escapeMarks text).flatMap escapeChar ++ ['"'])

/-- What is written for a transcript, `escaping` being whether a string with interpolations has begun
and none has ended since. -/
def textFrom : (escaping : Bool) → Transcript → List Char
  | _, [] => []
  | escaping, .plain c :: rest => c :: textFrom escaping rest
  | escaping, .literal c :: rest =>
    (if escaping then escapeChar c else [c]) ++ textFrom escaping rest
  | _, .opening :: rest => '"' :: textFrom true rest
  | _, .closing :: rest => '"' :: textFrom false rest

/-- What is written for a transcript that is in no string. -/
def text (transcript : Transcript) : List Char := textFrom false transcript

end Transcript

end ConfigRefs.Hcl
