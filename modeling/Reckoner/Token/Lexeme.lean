import Reckoner.Token.Basic
import Reckoner.Diagnostic.Basic
import Reckoner.Text.Alphabetic

namespace Reckoner

namespace Lexeme

inductive Fault where
  | illegal (c : Char)
  | loneBang
  | outOfRange (literal : List Char)
  deriving DecidableEq

def Fault.kind : Fault → Diagnostic.Kind
  | illegal _ => .illegalCharacter
  | loneBang => .expectedCharacter
  | outOfRange _ => .invalidSyntax

def Fault.details : Fault → String
  | illegal c => "'" ++ String.singleton c ++ "'"
  | loneBang => "'=' (after '!')"
  | outOfRange literal => "Integer literal " ++ String.ofList literal ++ " is out of range"

end Lexeme

-- The tail is how many characters follow the first one.
structure Lexeme where
  tail : Nat
  meaning : Except Lexeme.Fault (Token.Kind × Option Token.Payload)

namespace Lexeme

def symbol (kind : Token.Kind) : Lexeme :=
  ⟨0, .ok (kind, none)⟩

def orWithEquals (rest : List Char) (plain withEquals : Token.Kind) : Lexeme :=
  match rest with
  | '=' :: _ => ⟨1, .ok (withEquals, none)⟩
  | _ => symbol plain

def bang (rest : List Char) : Lexeme :=
  match rest with
  | '=' :: _ => ⟨1, .ok (.notEqual, none)⟩
  | _ => ⟨0, .error .loneBang⟩

def integer (digits : List Char) : Except Fault (Token.Kind × Option Token.Payload) :=
  let n := Nat.ofDigitChars 10 digits 0
  if n ≤ Int64.maxValue.toInt then .ok (.int, some (.int (.ofNat n)))
  else .error (.outOfRange digits)

def decimal (whole fraction : List Char) : Decimal :=
  ⟨Nat.ofDigitChars 10 (whole ++ fraction) 0, -fraction.length⟩

-- A second decimal point does not belong to the number.
def number (text : List Char) : Lexeme :=
  let whole := text.takeWhile Char.isDigit
  match text.dropWhile Char.isDigit with
  | '.' :: more =>
    let fraction := more.takeWhile Char.isDigit
    ⟨whole.length + fraction.length,
      .ok (.float, some (.float ((decimal whole fraction).toBinary64 false)))⟩
  | _ => ⟨whole.length - 1, integer whole⟩

def word (text : List Char) : Lexeme :=
  let letters := text.takeWhile Text.isAlphanumeric
  let spelled := String.ofList letters
  ⟨letters.length - 1, .ok <| match Keyword.ofWord? spelled with
    | some k => (.keyword k, none)
    | none => (.identifier, some (.name spelled))⟩

def startsWithDigit : List Char → Bool
  | c :: _ => c.isDigit
  | [] => false

-- The first character is no blank.
def front (c : Char) (rest : List Char) : Lexeme :=
  match c with
  | '+' => symbol .plus
  | '-' => symbol .minus
  | '*' => symbol .star
  | '/' => symbol .slash
  | '^' => symbol .caret
  | '(' => symbol .openParen
  | ')' => symbol .closeParen
  | '!' => bang rest
  | '=' => orWithEquals rest .assign .equal
  | '<' => orWithEquals rest .less .lessEqual
  | '>' => orWithEquals rest .greater .greaterEqual
  | c =>
    if c.isDigit || c == '.' && startsWithDigit rest then number (c :: rest)
    else if Text.isAlphabetic c then word (c :: rest)
    else ⟨0, .error (.illegal c)⟩

end Lexeme

end Reckoner
