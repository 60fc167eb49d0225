import Reckoner.Diagnostic.Basic

namespace Reckoner

namespace Span

-- That of its last character, and its start if it has none.
def lastIndex (s : Span) : Nat :=
  max (s.stop.index - 1) s.start.index

def touchedLines (s : Span) : List Nat :=
  let first := s.source.lineOf s.start.index
  let last := s.source.lineOf s.lastIndex
  List.range' first (last + 1 - first)

def firstColumn (s : Span) (line : Nat) : Nat :=
  if line = s.source.lineOf s.start.index then
    s.start.index - s.source.lineStart s.start.index
  else 0

def stopColumn (s : Span) (line : Nat) : Nat :=
  if line = s.source.lineOf s.lastIndex then
    s.stop.index - s.source.lineStart s.lastIndex
  else (s.source.lineText line).length

end Span

namespace Diagnostic

-- A column once the tabs before it are left out.
def untabbed (line : List Char) (column : Nat) : Nat :=
  column - (line.take column).count '\t'

structure Underline where
  shown : List Char
  indent : Nat
  carets : Nat
  deriving DecidableEq

-- There is one caret at least.
def underlineAt (span : Span) (line : Nat) : Underline :=
  let text := span.source.lineText line
  let first := untabbed text (span.firstColumn line)
  let stop := untabbed text (span.stopColumn line)
  ⟨text.filter (· ≠ '\t'), first, max 1 (stop - first)⟩

def underlines (span : Span) : List Underline :=
  span.touchedLines.map (underlineAt span)

def Underline.text (u : Underline) : List Char :=
  u.shown ++ '\n' :: List.replicate u.indent ' ' ++ List.replicate u.carets '^' ++ ['\n']

def Call.text (c : Call) : String :=
  "  File " ++ c.file ++ ", line " ++ toString c.line ++ ", in " ++ c.frame ++ "\n"

def located (d : Diagnostic) : String :=
  if d.kind.isRuntime then
    "Traceback (most recent call last):\n" ++ String.join (d.traceback.map Call.text)
      ++ d.text ++ "\n"
  else
    d.text ++ "\nFile " ++ d.span.source.name
      ++ ", line " ++ toString d.span.start.shownLine ++ "\n"

def render (d : Diagnostic) : String :=
  d.located ++ "\n" ++ String.ofList ((underlines d.span).flatMap Underline.text)

end Diagnostic

end Reckoner
