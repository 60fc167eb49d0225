import Reckoner.Token.Lexeme

namespace Reckoner

-- After the tokens comes the one that ends the text, or the failure that cut scanning short.
structure Scan where
  tokens : List Token
  ending : Except Diagnostic Token

namespace Scan

-- Only spaces and tabs may stand between lexemes.
def isGap (c : Char) : Bool :=
  c == ' ' || c == '\t'

def fail (span : Span) (fault : Lexeme.Fault) : Scan :=
  ⟨[], .error ⟨fault.kind, fault.details, span, []⟩⟩

def cons (t : Token) (s : Scan) : Scan :=
  ⟨t :: s.tokens, s.ending⟩

def scanFrom (p : Position) : List Char → Scan
  | [] => ⟨[], .ok (.stopAt p)⟩
  | c :: rest =>
    if isGap c then scanFrom p.advance rest
    else
      let lexeme := Lexeme.front c rest
      let span := Span.covering p (lexeme.tail + 1)
      match lexeme.meaning with
      | .error fault => fail span fault
      | .ok (kind, payload) =>
        cons ⟨kind, payload, span⟩ (scanFrom span.stop (rest.drop lexeme.tail))
termination_by text => text.length
decreasing_by
  all_goals simp only [List.length_drop, List.length_cons]; omega

def ofSource (s : Source) : Scan :=
  scanFrom (.start s) s.text

def complete (s : Scan) : Except Diagnostic (List Token) :=
  s.ending.map fun stop => s.tokens ++ [stop]

end Scan

def tokenize (s : Source) : Except Diagnostic (List Token) :=
  (Scan.ofSource s).complete

end Reckoner
