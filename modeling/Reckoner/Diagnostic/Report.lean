import Reckoner.Diagnostic.Basic
import Reckoner.Text.Blank
import Reckoner.Text.Width

namespace Reckoner

namespace Diagnostic

namespace Report

def paint (code text : String) : String :=
  "\x1b[" ++ code ++ "m" ++ text ++ "\x1b[0m"

def marginColour : String := "38;5;246"

def skippedColour : String := "38;5;240"

def sourceColour : String := "38;5;249"

def noteColour : String := "38;5;115"

def colourOf : Kind → String
  | .illegalCharacter | .expectedCharacter => "31"
  | .invalidSyntax => "33"
  | .divisionByZero | .undefinedVariable | .illegalOperation => "35"

def endsLine (c : Char) : Bool :=
  ['\n', '\r', Char.ofNat 0x0B, Char.ofNat 0x0C, Char.ofNat 0x85, Char.ofNat 0x2028,
    Char.ofNat 0x2029].contains c

def terminalLines : List Char → List (List Char)
  | [] => []
  | c :: rest =>
    if endsLine c && !(c == '\r' && rest.head? == some '\n') then [c] :: terminalLines rest
    else match terminalLines rest with
      | [] => [[c]]
      | line :: lines => (c :: line) :: lines

structure Line where
  number : Nat
  offset : Nat
  text : List Char

-- An index past the end lies in the last line.
def lineHolding (index : Nat) : Line → List (List Char) → Line
  | line, [] => line
  | line, next :: rest =>
    let offset := line.offset + line.text.length
    if index < offset then line else lineHolding index ⟨line.number + 1, offset, next⟩ rest

def Line.ofSpan (s : Span) : Line :=
  match terminalLines s.source.text with
  | [] => ⟨0, 0, []⟩
  | first :: rest => lineHolding s.start.index ⟨0, 0, first⟩ rest

-- A tab reaches to the next place that is a multiple of four.
def columnsAt (place : Nat) (c : Char) : Nat :=
  if c = '\t' then 4 - place % 4 else if Text.isBlank c then 1 else Text.columnsOf c

def drawn (colour : String) (place : Nat) (c : Char) : String :=
  if Text.isBlank c then String.join (List.replicate (columnsAt place c) (paint colour " "))
  else paint colour (String.singleton c)

structure Mark where
  first : String
  further : String

def Mark.blank : Mark :=
  ⟨" ", " "⟩

def Mark.coloured (colour first further : String) : Mark :=
  ⟨paint colour first, paint colour further⟩

def Mark.across (m : Mark) : Nat → String
  | 0 => ""
  | n + 1 => m.first ++ String.join (List.replicate n m.further)

-- The part of a line that a span takes, in places of that line.
structure Target where
  first : Nat
  stop : Nat

def Target.middle (t : Target) : Nat :=
  (t.first + t.stop) / 2

def Target.contains (t : Target) (place : Nat) : Bool :=
  t.first ≤ place && place < t.stop

def sourceRow (colour : String) (t : Target) (text : List Char) : String :=
  String.join <| text.zipIdx.map fun (c, place) =>
    drawn (if t.contains place then colour else sourceColour) place c

-- The row goes two places beyond the target.
def markRow (t : Target) (text : List Char) (mark : Nat → Mark) : String :=
  String.join <| (List.range (t.stop + 2)).map fun place =>
    (mark place).across ((text[place]?.map (columnsAt place)).getD 1)

def underlineRow (colour : String) (t : Target) (text : List Char) : String :=
  markRow t text fun place =>
    if place = t.middle then .coloured colour "┬" "─"
    else if t.contains place then .coloured colour "─" "─"
    else .blank

def armRow (colour : String) (t : Target) (text : List Char) : String :=
  markRow t text fun place =>
    if place = t.middle then .coloured colour "╰" "─"
    else if t.middle < place then .coloured colour "─" "─"
    else .blank

end Report

open Report in
-- A span that goes beyond its line is not drawn.
def report (d : Diagnostic) : String :=
  let colour := colourOf d.kind
  let line := Line.ofSpan d.span
  let number := toString (line.number + 1)
  let blanks := "".pushn ' ' number.length
  let skipped := " " ++ paint skippedColour (blanks ++ " │") ++ " "
  let target : Target := ⟨d.span.start.index - line.offset, d.span.stop.index - line.offset⟩
  let text := Text.trimEnd line.text
  let drawing :=
    if line.text.length < target.stop then skipped ++ "\n"
    else
      " " ++ paint marginColour (number ++ " │") ++ " " ++ sourceRow colour target text ++ "\n"
        ++ skipped ++ underlineRow colour target text ++ "\n"
        ++ skipped ++ armRow colour target text ++ " " ++ d.details ++ "\n"
  let calls := d.traceback.map fun c => c.frame ++ " (line " ++ toString c.line ++ ")"
  let note :=
    if calls.isEmpty then ""
    else skipped ++ "\n" ++ skipped ++ paint noteColour "Note" ++ ": " ++ paint "36" "traceback"
      ++ ": " ++ String.intercalate " -> " calls ++ "\n"
  paint "31" "Error:" ++ " " ++ paint colour d.kind.heading ++ ": " ++ d.details ++ "\n"
    ++ blanks ++ "  " ++ paint marginColour "╭" ++ paint marginColour "─" ++ paint marginColour "["
    ++ d.span.source.name ++ ":" ++ number ++ ":" ++ toString (target.first + 1)
    ++ paint marginColour "]" ++ "\n"
    ++ blanks ++ "  " ++ paint marginColour "│" ++ "\n"
    ++ drawing ++ note
    ++ paint marginColour ("".pushn '─' (number.length + 2) ++ "╯") ++ "\n"

end Diagnostic

end Reckoner
