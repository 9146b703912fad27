/-
# Flags of patterns

Flags hold to the end of the group in which they are set. In extended notation
blanks and comments may stand between the parts of a pattern; a comment goes from
a number sign to the end of the line.

Key definitions: `Pattern.Flags`, `Pattern.Flags.skip`, `Pattern.Flags.braced?`.
-/
import RowQuery.Text.Blank

namespace RowQuery.Pattern

/-- What the flags of a group say. -/
structure Flags where
  /-- `i`: letters without regard to case. -/
  caseless : Bool := false
  /-- `m`: the start and the end of lines, not of the text. -/
  multiline : Bool := false
  /-- `s`: a point takes line feeds. -/
  dotAll : Bool := false
  /-- `u`: classes of all scripts, not of ASCII. -/
  allScripts : Bool := true
  /-- `x`: blanks and comments between the parts. -/
  extended : Bool := false
  /-- `R`: lines that end with a carriage return. -/
  returns : Bool := false

namespace Flags

/-- The flags with one set; `U` has no influence on whether a pattern matches. -/
def set? (f : Flags) (value : Bool) : Char → Option Flags
  | 'i' => some { f with caseless := value }
  | 'm' => some { f with multiline := value }
  | 's' => some { f with dotAll := value }
  | 'u' => some { f with allScripts := value }
  | 'x' => some { f with extended := value }
  | 'R' => some { f with returns := value }
  | 'U' => some f
  | _ => none

/-- The rest of a text after its leading blanks and comments, from within a comment or not. -/
def skipExtended (comment : Bool) : List Char → List Char
  | [] => []
  | c :: rest =>
    if comment then skipExtended (c != '\n') rest
    else if Text.isBlank c then skipExtended false rest
    else if c = '#' then skipExtended true rest
    else c :: rest

/-- The text at which reading goes on. -/
def skip (f : Flags) (text : List Char) : List Char :=
  if f.extended then skipExtended false text else text

/-- The next character that counts. Within a comment any character counts that is not blank. -/
def peek? (f : Flags) (text : List Char) : Option Char :=
  if f.extended then
    match text.dropWhile Text.isBlank with
    | '#' :: rest => (rest.dropWhile Text.isBlank).head?
    | rest => rest.head?
  else text.head?

/-- The characters up to a closing brace, after those in `read`, which are in reverse. -/
def bracedFrom (f : Flags) (comment : Bool) (read : List Char) :
    List Char → Option (List Char × List Char)
  | [] => none
  | c :: rest =>
    if comment then bracedFrom f (c != '\n') read rest
    else if c = '\x7d' then some (read.reverse, rest)
    else if f.extended && Text.isBlank c then bracedFrom f false read rest
    else if f.extended && c = '#' then bracedFrom f true read rest
    else bracedFrom f false (c :: read) rest

/-- The characters up to a closing brace, without blanks and comments, and the text after it. -/
def braced? (f : Flags) (text : List Char) : Option (List Char × List Char) :=
  bracedFrom f false [] text

/-- The decimal digits at the front of a text, after those in `read`, which are in reverse. -/
def digitsFrom (f : Flags) (comment : Bool) (read : List Char) :
    List Char → List Char × List Char
  | [] => (read.reverse, [])
  | c :: rest =>
    if comment then digitsFrom f (c != '\n') read rest
    else if c.isDigit then digitsFrom f false (c :: read) rest
    else if f.extended && Text.isBlank c then digitsFrom f false read rest
    else if f.extended && c = '#' then digitsFrom f true read rest
    else (read.reverse, c :: rest)

/-- The decimal digits at the front of a text, with blanks and comments between them, and the
text after them. -/
def digits (f : Flags) (text : List Char) : List Char × List Char := digitsFrom f false [] text

end Flags

end RowQuery.Pattern
