import Reckoner.Proofs.Viable

namespace Reckoner

open Parse (Level Expected Stop)
open Grammar (Rule operators)

namespace Walk

-- Why a walk comes to nothing: it asked for a token that is not in the list, or it found one that
-- does not fit.
inductive Fault where
  | outside
  | rejected (d : Diagnostic)

-- A call to go on: the token where it was made and the one that it returned.
structure Advance where
  tested : Token
  taken : Token

-- The cursor, and a record of all calls to go on, which the walk itself never looks at.
structure State where
  current : Nat
  advances : List Advance

end Walk

-- A part of a walk. It leaves the cursor where it is when it comes to a fault, and it is `none` if
-- it has no end.
abbrev Walk : Type → Type :=
  ExceptT Walk.Fault (StateT Walk.State Option)

namespace Walk

-- What a walk comes to from a state, and the state that it leaves.
def runFrom {α : Type} (x : Walk α) (s : State) : Option (Except Fault α × State) :=
  x.run.run s

-- A walk that does something else if it comes to a fault.
abbrev onFault {α : Type} (x : Walk α) (handle : Fault → Walk α) : Walk α :=
  (do match ← x.run with
    | .ok a => return .ok a
    | .error fault => (handle fault).run : StateT State Option (Except Fault α))

def cursor : Walk Nat := do
  return (← get).current

section Cursor

variable (ts : List Token)

def tokenAt (i : Nat) : Walk Token :=
  match ts[i]? with
  | some t => return t
  | none => throw .outside

-- The token at the cursor. Behind the list it is the last one.
def peek : Walk Token := do
  tokenAt ts (min (← cursor) (ts.length - 1))

def previous : Walk Token := do
  tokenAt ts ((← cursor) - 1)

-- Goes on by one token, but not from one that ends the text, and returns the one before the cursor.
def advance : Walk Token := do
  let tested ← peek ts
  if tested.kind ≠ .stop then
    modify fun s => { s with current := s.current + 1 }
  let taken ← previous ts
  modify fun s => { s with advances := s.advances ++ [⟨tested, taken⟩] }
  return taken

def check (kind : Token.Kind) : Walk Bool := do
  return (← peek ts).kind = kind

def reject {α : Type} (expected : Expected) : Walk α := do
  throw (.rejected ⟨.invalidSyntax, expected.message, (← peek ts).span, []⟩)

def consume (kind : Token.Kind) (expected : Expected) : Walk Token := do
  if ← check ts kind then advance ts else reject ts expected

-- Keeps a fault if the cursor has gone on since the entry of a rule.
def unlessAdvanced (entry : Nat) (expected : Expected) : Fault → Walk Expr
  | .outside => throw .outside
  | .rejected d => do
    if (← cursor) ≠ entry then throw (.rejected d) else reject ts expected

end Cursor

end Walk

section Rules

open Walk

variable (ts : List Token)

mutual

def Grammar.Rule.walk : Rule → Walk Expr
  | .expression => do
    let entry ← cursor
    if ← check ts (.keyword .var) then
      let _ ← advance ts
      let name ← consume ts .identifier .identifier
      let _ ← consume ts .assign .assign
      let value ← Rule.expression |>.walk
      return .assign name value
    else
      onFault (Rule.chain .logical |>.walk) (unlessAdvanced ts entry .expression)
  | .comparison => do
    let entry ← cursor
    if ← check ts (.keyword .not) then
      let operator ← advance ts
      let operand ← Rule.comparison |>.walk
      return .unary operator operand
    else
      onFault (Rule.chain .relational |>.walk) (unlessAdvanced ts entry .comparison)
  | .factor => do
    if (← check ts .plus) || (← check ts .minus) then
      let operator ← advance ts
      let operand ← Rule.factor |>.walk
      return .unary operator operand
    else
      Rule.chain .power |>.walk
  | .atom => do
    let token ← peek ts
    match token.kind with
    | .int | .float =>
      let _ ← advance ts
      return .number token
    | .identifier =>
      let _ ← advance ts
      return .var token
    | .openParen =>
      let _ ← advance ts
      let inner ← Rule.expression |>.walk
      let _ ← consume ts .closeParen .closeParen
      return inner
    | _ => reject ts .operand
  | .chain level => do
    let left ← Grammar.operand level |>.walk
    level |>.walkOn left
partial_fixpoint

-- Goes on with a chain as long as an operator of its level stands at the cursor.
def Parse.Level.walkOn (level : Level) (left : Expr) : Walk Expr := do
  if (← peek ts).kind ∈ operators level then
    let operator ← advance ts
    let right ← Grammar.right level |>.walk
    level |>.walkOn (.binary left operator right)
  else
    return left
partial_fixpoint

end

end Rules

namespace Walk

section Wholes

variable (ts : List Token)

-- An expression with the end of the text behind it.
def whole : Walk Expr := do
  let e ← Rule.walk ts .expression
  if (← peek ts).kind = .stop then return e else reject ts .continuation

-- A power with at most one exponent: the loop is but a condition.
def powered : Walk Expr := do
  let base ← Rule.walk ts .atom
  if (← peek ts).kind ∈ operators .power then
    let operator ← advance ts
    let exponent ← Rule.walk ts .factor
    return .binary base operator exponent
  else
    return base

end Wholes

section Running

variable {α β : Type} {x : Walk α} {f : α → Walk β} {handle : Fault → Walk α} {s s' : State} {a : α}
  {fault : Fault}

theorem run_cursor : cursor.runFrom s = some (.ok s.current, s) :=
  rfl

theorem run_modify {g : State → State} : (modify g : Walk PUnit).runFrom s = some (.ok ⟨⟩, g s) :=
  rfl

theorem run_bind_ok (h : x.runFrom s = some (.ok a, s')) :
    (x >>= f).runFrom s = (f a).runFrom s' := by
  simp only [runFrom, ExceptT.run_bind, StateT.run_bind] at *
  rw [h]
  rfl

theorem run_bind_error (h : x.runFrom s = some (.error fault, s')) :
    (x >>= f).runFrom s = some (.error fault, s') := by
  simp only [runFrom, ExceptT.run_bind, StateT.run_bind] at *
  rw [h]
  rfl

theorem run_onFault : (onFault x handle).runFrom s = (x.runFrom s).bind fun
    | (.ok a, s') => some (.ok a, s')
    | (.error fault, s') => (handle fault).runFrom s' := by
  change StateT.run (do match ← x.run with
    | .ok a => return .ok a
    | .error fault => (handle fault).run) s = _
  rw [StateT.run_bind]
  refine congrArg (x.runFrom s).bind (funext fun result => ?_)
  obtain ⟨_ | _, _⟩ := result <;> rfl

end Running

-- A list of tokens, cut at the first one that ends the text.
structure Tape where
  before : List Token
  stop : Token
  after : List Token
  readable : ∀ t ∈ before, t.kind ≠ .stop
  stops : stop.kind = .stop

namespace Tape

variable {tape : Tape} {t : Token} {us rest : List Token}

def tokens (tape : Tape) : List Token :=
  tape.before ++ tape.stop :: tape.after

-- Where the cursor stands if some last tokens of the text are still to be read.
def place (tape : Tape) (us : List Token) : Nat :=
  tape.before.length - us.length

theorem place_of_append {front : List Token} (h : front ++ us = tape.before) :
    tape.place us = front.length := by
  rw [place, ← h, List.length_append, Nat.add_sub_cancel]

theorem getElem?_place (h : us <:+ tape.before) :
    tape.tokens[tape.place us]? = some (us.headD tape.stop) := by
  obtain ⟨front, hfront⟩ := h
  rw [place_of_append hfront, tokens, ← hfront, List.append_assoc,
    List.getElem?_append_right (Nat.le_refl _), Nat.sub_self]
  cases us <;> rfl

theorem place_le (tape : Tape) (us : List Token) : tape.place us ≤ tape.before.length :=
  Nat.sub_le ..

theorem place_tail (h : (t :: us) <:+ tape.before) : tape.place us = tape.place (t :: us) + 1 := by
  have hlength := h.length_le
  rw [List.length_cons] at hlength
  rw [place, place, List.length_cons]
  omega

theorem place_eq_iff (h : us <:+ tape.before) (h' : rest <:+ tape.before) :
    tape.place us = tape.place rest ↔ us.length = rest.length := by
  have := h.length_le
  have := h'.length_le
  rw [place, place]
  omega

theorem ne_stop_of_suffix (h : us <:+ tape.before) : ∀ t ∈ us, t.kind ≠ .stop :=
  fun t ht => tape.readable t (h.mem ht)

-- What holds of the token at the cursor unless it ends the text, and else holds too.
theorem kind_headD {p : Token.Kind → Prop} (hstop : p .stop) (h : ∀ t ∈ us.head?, p t.kind) :
    p (us.headD tape.stop).kind := by
  cases us
  case nil => exact tape.stops ▸ hstop
  case cons t us => exact h t rfl

-- The fault of a walk that is stopped where parsing stops.
def rejection (tape : Tape) (stop : Stop) : Fault :=
  .rejected (Parse.diagnostic tape.stop stop)

end Tape

section Steps

variable {tape : Tape} {t : Token} {us : List Token} {log : List Advance}

theorem run_tokenAt {ts : List Token} {i : Nat} {s : State} (h : ts[i]? = some t) :
    (tokenAt ts i).runFrom s = some (.ok t, s) := by
  rw [tokenAt, h]
  rfl

theorem run_peek_of_getElem? {ts : List Token} {s : State} (h : ts[s.current]? = some t) :
    (peek ts).runFrom s = some (.ok t, s) := by
  obtain ⟨hlt, _⟩ := List.getElem?_eq_some_iff.mp h
  have hcurrent : min s.current (ts.length - 1) = s.current :=
    min_eq_left (Nat.le_sub_one_of_lt hlt)
  rw [peek, run_bind_ok run_cursor, hcurrent, run_tokenAt h]

theorem run_peek (h : us <:+ tape.before) : (peek tape.tokens).runFrom ⟨tape.place us, log⟩ =
    some (.ok (us.headD tape.stop), ⟨tape.place us, log⟩) :=
  run_peek_of_getElem? (Tape.getElem?_place h)

theorem run_advance (h : (t :: us) <:+ tape.before) :
    (advance tape.tokens).runFrom ⟨tape.place (t :: us), log⟩ =
      some (.ok t, ⟨tape.place us, log ++ [⟨t, t⟩]⟩) := by
  have ht : ((t :: us).headD tape.stop).kind ≠ .stop := Tape.ne_stop_of_suffix h t (by simp)
  have hprevious : (previous tape.tokens).runFrom ⟨tape.place us, log⟩ =
      some (.ok t, ⟨tape.place us, log⟩) := by
    rw [previous, run_bind_ok run_cursor]
    refine run_tokenAt ?_
    rw [Tape.place_tail h, Nat.add_sub_cancel, Tape.getElem?_place h]
    rfl
  rw [advance, run_bind_ok (run_peek h), if_pos ht, run_bind_ok run_modify, ← Tape.place_tail h,
    run_bind_ok hprevious]
  rfl

-- What replaces a failure is read at the same cursor, so it is at the same token.
theorem run_unlessAdvanced {ts : List Token} {s : State} {d : Diagnostic}
    (ht : ts[s.current]? = some t) (hkind : d.kind = .invalidSyntax) (hspan : d.span = t.span)
    (entry : Nat) (expected : Expected) : ∃ d', (unlessAdvanced ts entry expected
      (.rejected d)).runFrom s = some (.error (.rejected d'), s) ∧ d'.kind = d.kind ∧
        d'.span = d.span ∧ (s.current ≠ entry → d' = d) := by
  rw [unlessAdvanced, run_bind_ok run_cursor]
  by_cases hentry : s.current = entry
  case neg =>
    rw [if_pos hentry]
    exact ⟨d, rfl, rfl, rfl, fun _ => rfl⟩
  case pos =>
    rw [if_neg (not_not.mpr hentry), reject, run_bind_ok (run_peek_of_getElem? ht)]
    exact ⟨_, rfl, hkind.symm, hspan.symm, absurd hentry⟩

end Steps

-- A walk that starts with some last tokens of the text to be read, and comes to a result with the
-- rest of them to be read. It has taken every token between, each by a call that was made on it.
def Goes {α : Type} (tape : Tape) (x : Walk α) (us : List Token) (result : Except Fault α)
    (rest : List Token) : Prop :=
  us <:+ tape.before → ∃ v, us = v ++ rest ∧ ∀ log, x.runFrom ⟨tape.place us, log⟩ =
    some (result, ⟨tape.place rest, log ++ v.map fun t => ⟨t, t⟩⟩)

section Goes

variable {α β : Type} {tape : Tape} {x y : Walk α} {f : α → Walk β} {handle : Fault → Walk α}
  {a : α} {t : Token} {us mid rest : List Token} {kind : Token.Kind} {expected : Expected}
  {result : Except Fault α} {result' : Except Fault β} {fault : Fault}

theorem goes_self (h : us <:+ tape.before →
    ∀ log, x.runFrom ⟨tape.place us, log⟩ = some (result, ⟨tape.place us, log⟩)) :
    Goes tape x us result us :=
  fun hus => ⟨[], rfl, fun log => by simp [h hus log]⟩

theorem Goes.pure : Goes tape (pure a) us (.ok a) us :=
  goes_self fun _ _ => rfl

theorem Goes.bind (h : Goes tape x us (.ok a) mid) (h' : Goes tape (f a) mid result' rest) :
    Goes tape (x >>= f) us result' rest := by
  intro hus
  obtain ⟨u, rfl, hx⟩ := h hus
  obtain ⟨v, rfl, hf⟩ := h' ((List.suffix_append u mid).trans hus)
  refine ⟨u ++ v, by simp, fun log => ?_⟩
  rw [run_bind_ok (hx log), hf]
  simp

theorem Goes.bind_error (h : Goes tape x us (.error fault) rest) :
    Goes tape (x >>= f) us (.error fault) rest := by
  intro hus
  obtain ⟨v, rfl, hx⟩ := h hus
  exact ⟨v, rfl, fun log => run_bind_error (hx log)⟩

theorem Goes.onFault_ok (h : Goes tape x us (.ok a) rest) :
    Goes tape (Walk.onFault x handle) us (.ok a) rest := by
  intro hus
  obtain ⟨v, rfl, hx⟩ := h hus
  refine ⟨v, rfl, fun log => ?_⟩
  rw [run_onFault, hx]
  rfl

theorem Goes.onFault_error (h : Goes tape x us (.error fault) mid)
    (h' : us <:+ tape.before → mid <:+ us → Goes tape (handle fault) mid result rest) :
    Goes tape (Walk.onFault x handle) us result rest := by
  intro hus
  obtain ⟨u, rfl, hx⟩ := h hus
  have hmid := List.suffix_append u mid
  obtain ⟨v, rfl, hf⟩ := h' hus hmid (hmid.trans hus)
  refine ⟨u ++ v, by simp, fun log => ?_⟩
  rw [run_onFault, hx, List.map_append, ← List.append_assoc]
  exact hf _

-- Walks that come to the same result in the same place have made the same calls.
theorem Goes.run_eq (h : Goes tape x us result rest) (h' : Goes tape y us result rest)
    (hus : us <:+ tape.before) (log : List Advance) :
    x.runFrom ⟨tape.place us, log⟩ = y.runFrom ⟨tape.place us, log⟩ := by
  obtain ⟨u, hu, hx⟩ := h hus
  obtain ⟨v, hv, hy⟩ := h' hus
  rw [hx, hy, List.append_cancel_right (hu.symm.trans hv)]

theorem goes_cursor : Goes tape cursor us (.ok (tape.place us)) us :=
  goes_self fun _ _ => rfl

theorem goes_peek : Goes tape (peek tape.tokens) us (.ok (us.headD tape.stop)) us :=
  goes_self fun hus _ => run_peek hus

theorem goes_advance : Goes tape (advance tape.tokens) (t :: us) (.ok t) us :=
  fun hus => ⟨[t], rfl, fun _ => run_advance hus⟩

theorem goes_check :
    Goes tape (check tape.tokens kind) us (.ok ((us.headD tape.stop).kind = kind)) us :=
  goes_peek.bind .pure

theorem goes_reject : Goes tape (reject tape.tokens expected : Walk α) us
    (.error (tape.rejection ⟨us, expected⟩)) us :=
  goes_peek.bind <| goes_self fun _ _ => rfl

theorem Goes.of_check (ht : t.kind = kind) (h : Goes tape x (t :: us) result rest) :
    Goes tape (do if ← check tape.tokens kind then x else y) (t :: us) result rest := by
  refine goes_check.bind ?_
  rwa [if_pos (by simpa using ht)]

theorem Goes.of_not_check (hkind : .stop ≠ kind) (hus : ∀ t ∈ us.head?, t.kind ≠ kind)
    (h : Goes tape y us result rest) :
    Goes tape (do if ← check tape.tokens kind then x else y) us result rest := by
  refine goes_check.bind ?_
  rwa [if_neg (by simpa using tape.kind_headD (p := (· ≠ kind)) hkind hus)]

theorem goes_consume (ht : t.kind = kind) :
    Goes tape (consume tape.tokens kind expected) (t :: us) (.ok t) us :=
  .of_check ht goes_advance

theorem goes_consume_error (hkind : .stop ≠ kind) (hus : ∀ t ∈ us.head?, t.kind ≠ kind) :
    Goes tape (consume tape.tokens kind expected) us (.error (tape.rejection ⟨us, expected⟩)) us :=
  .of_not_check hkind hus goes_reject

-- A fault is replaced if the cursor is where the rule began, which is if no token has been read.
theorem goes_unlessAdvanced {x : Walk Expr} {r : Parse.Front Expr us} {stop stop' : Stop}
    (h : Goes tape x us (.error (tape.rejection stop)) stop.rest) (hr : r = .error stop)
    (hstop : Parse.orExpected expected r = .error stop') :
    Goes tape (onFault x (unlessAdvanced tape.tokens (tape.place us) expected)) us
      (.error (tape.rejection stop')) stop'.rest := by
  rw [hr, Parse.orExpected, Except.error.injEq] at hstop
  refine h.onFault_error fun hus hrest => goes_cursor.bind ?_
  have hsame := Tape.place_eq_iff (hrest.trans hus) hus
  split at hstop <;> subst hstop
  case isTrue hlength =>
    rw [if_neg (by simpa using hsame.mpr hlength)]
    exact goes_reject
  case isFalse hlength =>
    rw [if_pos (by simpa using hsame.not.mpr hlength)]
    exact goes_self fun _ _ => rfl

end Goes

end Walk

end Reckoner
