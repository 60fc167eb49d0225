import Reckoner.Text.Alphabetic
import Reckoner.Text.Blank

namespace Reckoner

namespace Journal

inductive Level where
  | off
  | error
  | warn
  | info
  | debug
  | trace
  deriving DecidableEq, Inhabited

namespace Level

def rank : Level → Nat
  | off => 0
  | error => 1
  | warn => 2
  | info => 3
  | debug => 4
  | trace => 5

def name : Level → String
  | off => "OFF"
  | error => "ERROR"
  | warn => "WARN"
  | info => "INFO"
  | debug => "DEBUG"
  | trace => "TRACE"

def all : List Level :=
  [off, error, warn, info, debug, trace]

-- A level is given by its rank or by its name, in letters of either case.
def ofText? (text : List Char) : Option Level :=
  let digits := if text.head? = some '+' then text.tail else text
  if !digits.isEmpty && digits.all Char.isDigit then
    all.find? (·.rank = Nat.ofDigitChars 10 digits 0)
  else
    all.find? (·.name.toList = text.map Char.toUpper)

end Level

structure Entry where
  level : Level
  topic : String
  message : String
  fields : List (String × String)
  deriving DecidableEq

namespace Entry

-- The message is a field of its own.
def hasField (e : Entry) (name : String) : Bool :=
  name = "message" || e.fields.any (·.1 = name)

-- The level stands flush right in five columns.
def text (e : Entry) : String :=
  let name := e.level.name
  let fields := e.fields.map fun (name, value) => " " ++ name ++ "=" ++ value
  "".pushn ' ' (5 - name.length) ++ name ++ " " ++ e.topic ++ ": " ++ e.message
    ++ String.join fields

end Entry

-- Entries whose topic starts with the given one, and which have the given field if one is given,
-- are kept up to a level.
structure Directive where
  topic : String
  field? : Option String
  level : Level
  deriving DecidableEq

namespace Directive

def concerns (d : Directive) (e : Entry) : Bool :=
  e.topic.startsWith d.topic && d.field?.all e.hasField

-- A longer topic says more than a shorter one, then a field more than none.
def saysAtLeast (d other : Directive) : Bool :=
  match compare d.topic.length other.topic.length with
  | .lt => false
  | .gt => true
  | .eq => match d.field?, other.field? with
    | _, none => true
    | none, some _ => false
    | some f, some g => g ≤ f

end Directive

structure Filter where
  directives : List Directive
  deriving DecidableEq

namespace Filter

def upTo (level : Level) : Filter :=
  ⟨[⟨"", none, level⟩]⟩

-- The last one of several that say the same decides.
def deciding? (f : Filter) (e : Entry) : Option Directive :=
  (f.directives.filter (·.concerns e)).foldl
    (fun best d => if best.all d.saysAtLeast then some d else best)
    none

def keeps (f : Filter) (e : Entry) : Bool :=
  match f.deciding? e with
  | some d => e.level.rank ≤ d.level.rank
  | none => false

end Filter

def startsTopic (text : List Char) : Bool :=
  text.head?.any fun c => Text.isAlphanumeric c || ['-', ':', '_'].contains c

-- Nothing after an equals sign means everything.
def levelAfter? (text : List Char) : Option Level :=
  if text.isEmpty then some .trace else Level.ofText? text

-- Brackets may name a scope of work and, in braces, a field with or without a value. Only a field
-- that stands alone is returned: no scope of work is ever entered, and values belong to scopes.
def brackets? (text : List Char) : Option (Option String × List Char) :=
  let inScope (c : Char) : Bool := c != ']' && c != '\x7b'
  match text.dropWhile inScope with
  | [] => none
  | ']' :: rest => some (none, rest)
  | _ :: inner =>
    let field := inner.takeWhile (· ≠ '\x7d')
    match inner.dropWhile (· ≠ '\x7d') with
    | _ :: ']' :: rest =>
      if field.isEmpty then none
      else if (text.takeWhile inScope).isEmpty && !field.contains '=' then
        some (some (String.ofList field), rest)
      else some (none, rest)
    | _ => none

-- Blanks may stand around a directive that gives no level after an equals sign.
def directive? (text : List Char) : Option (List Directive) :=
  let inTopic (c : Char) : Bool := c != '=' && c != '['
  let topic := text.takeWhile inTopic
  let unspaced := topic.dropWhile Text.isBlank
  match text.dropWhile inTopic with
  | [] =>
    if startsTopic unspaced then
      match Level.ofText? topic with
      | some level => some [⟨"", none, level⟩]
      | none => some [⟨String.ofList topic, none, .trace⟩]
    else none
  | '=' :: level =>
    if startsTopic topic then
      (levelAfter? level).map fun level => [⟨String.ofList topic, none, level⟩]
    else none
  | _ :: inner =>
    let ofField (field? : Option String) (level : Level) : List Directive :=
      (field?.map fun field => ⟨String.ofList topic, some field, level⟩).toList
    match brackets? inner with
    | none => none
    | some (field?, '=' :: level) =>
      if topic.isEmpty || startsTopic topic then (levelAfter? level).map (ofField field?)
      else none
    | some (field?, rest) =>
      if (unspaced.isEmpty || startsTopic unspaced) && rest.all Text.isBlank then
        some (ofField field? .trace)
      else none

def Filter.ofText? (text : String) : Option Filter :=
  let parts := (text.toList.splitOn ',').filter (!·.isEmpty)
  (parts.mapM directive?).map fun directives => ⟨directives.flatten⟩

end Journal

end Reckoner
