import Mathlib
import Reckoner.Session
import Reckoner.Expr.Display
import Reckoner.Diagnostic.Render
import Reckoner.Proofs.Outcomes
import Reckoner.Proofs.Spelling
import Reckoner.Proofs.Stopping

namespace Reckoner

open Eval (Fault Failure Outcome)
open Grammar (Rule Exponents Derives Stops Rejects operators)

-- The same under another name.

def Source.named (name : String) (s : Source) : Source :=
  { s with name }

def Position.named (name : String) (p : Position) : Position :=
  { p with source := p.source.named name }

def Span.named (name : String) (s : Span) : Span :=
  ⟨s.start.named name, s.stop.named name⟩

def Token.named (name : String) (t : Token) : Token :=
  { t with span := t.span.named name }

def Expr.map (f : Token → Token) : Expr → Expr
  | number token => number (f token)
  | binary left operator right => binary (left.map f) (f operator) (right.map f)
  | unary operator operand => unary (f operator) (operand.map f)
  | var name => var (f name)
  | assign name value => assign (f name) (value.map f)

def Expr.named (name : String) : Expr → Expr :=
  Expr.map (Token.named name)

def Diagnostic.named (name : String) (d : Diagnostic) : Diagnostic :=
  { d with
    span      := d.span.named name
    traceback := d.traceback.map fun call => { call with file := name } }

def Scan.named (name : String) (s : Scan) : Scan :=
  ⟨s.tokens.map (Token.named name),
    (s.ending.map (Token.named name)).mapError (Diagnostic.named name)⟩

def Session.named (name : String) (s : Session) : Session :=
  { s with name }

section Scanning

variable {name : String} {p : Position} {s : Source} {text : List Char} {n : Nat} {d : Diagnostic}
  {ts : List Token}

theorem Position.advance_named : (p.named name).advance = p.advance.named name := by
  unfold advance
  split
  case isTrue h => exact (if_pos h).symm ▸ rfl
  case isFalse h => exact (if_neg h).symm ▸ rfl

theorem Position.forward_named : (p.named name).forward n = (p.forward n).named name := by
  induction n
  case zero => rfl
  case succ n ih => rw [forward, ih, advance_named, forward]

theorem Span.covering_named : covering (p.named name) n = (covering p n).named name := by
  rw [covering, Position.forward_named]
  rfl

theorem Scan.scanFrom_named : scanFrom (p.named name) text = (scanFrom p text).named name := by
  fun_induction scanFrom p text
  case case1 p =>
    rw [scanFrom, Token.stopAt, Span.single, Position.advance_named]
    rfl
  case case2 p c rest hc ih => rw [scanFrom, if_pos hc, Position.advance_named, ih]
  case case3 p c rest hc lexeme span fault hfault =>
    rw [scanFrom, if_neg hc]
    simp only [lexeme] at hfault
    simp only [hfault, Span.covering_named]
    rfl
  case case4 p c rest hc lexeme span kind payload hmeaning ih =>
    rw [scanFrom, if_neg hc]
    simp only [lexeme] at hmeaning
    simp only [hmeaning, Span.covering_named]
    change cons _ (scanFrom (span.stop.named name) _) = _
    rw [ih]
    rfl

theorem Scan.ofSource_named : ofSource (s.named name) = (ofSource s).named name :=
  @scanFrom_named name (.start s) s.text

theorem tokenize_named_error (h : tokenize s = .error d) :
    tokenize (s.named name) = .error (d.named name) := by
  rw [tokenize, Scan.complete] at *
  rw [Scan.ofSource_named, Scan.named]
  cases hending : (Scan.ofSource s).ending <;> rw [hending] at h <;> cases h
  rfl

theorem tokenize_named_ok (h : tokenize s = .ok ts) :
    tokenize (s.named name) = .ok (ts.map (Token.named name)) := by
  rw [tokenize, Scan.complete] at *
  rw [Scan.ofSource_named, Scan.named]
  cases hending : (Scan.ofSource s).ending <;> rw [hending] at h <;> cases h
  simp [Except.map, Except.mapError]

theorem exists_stop_of_tokenize (h : tokenize s = .ok ts) : ∃ t ∈ ts, t.kind = .stop := by
  obtain ⟨_, stop, rfl, hstop, _⟩ := Lexical.spelled_of_tokenize h
  exact ⟨stop, by simp, hstop⟩

end Scanning

-- Parsing asks for the kinds of tokens alone.
section Parsing

variable {f : Token → Token} {x : Exponents} {r : Rule} {u w ts : List Token} {e : Expr}
  {next : Option Token} {expected : Parse.Expected} {stop : Parse.Stop} {name : String}
  {d : Diagnostic}

theorem Grammar.Derives.map (hf : ∀ t, (f t).kind = t.kind) (h : Derives x r w e) :
    Derives x r (w.map f) (e.map f) := by
  induction h
  case assignment hv hn ha _ ih =>
    exact .assignment ((hf _).trans hv) ((hf _).trans hn) ((hf _).trans ha) ih
  case logical ih => exact .logical ih
  case not ht _ ih => exact .not ((hf _).trans ht) ih
  case relational ih => exact .relational ih
  case sign t _ _ ht _ ih => exact .sign (hf t ▸ ht) ih
  case power ih => exact .power ih
  case number t ht => exact .number (hf t ▸ ht)
  case name ht => exact .name ((hf _).trans ht)
  case parens ho hc _ ih =>
    rw [List.map_append]
    exact .parens ((hf _).trans ho) ((hf _).trans hc) ih
  case operand ih => exact .operand ih
  case join level t _ _ _ _ ht _ _ ihl ihr =>
    rw [List.map_append]
    exact .join (hf t ▸ ht) ihl ihr

theorem Grammar.Stops.map (hf : ∀ t, (f t).kind = t.kind) (h : Stops r u next expected) :
    Stops r (u.map f) (next.map f) expected := by
  have hnext : ∀ (p : Token.Kind → Prop) {next : Option Token}, (∀ t ∈ next, p t.kind) →
      ∀ t ∈ next.map f, p t.kind := by
    intro p next h t ht
    obtain ⟨t', ht', rfl⟩ := Option.mem_map.mp ht
    exact (hf t').symm ▸ h t' ht'
  induction h
  case start h => exact .start (hnext (· ∉ Grammar.first _) h)
  case identifier hv h => exact .identifier ((hf _).trans hv) (hnext (· ≠ .identifier) h)
  case assign hv hn h =>
    exact .assign ((hf _).trans hv) ((hf _).trans hn) (hnext (· ≠ .assign) h)
  case value hv hn ha _ ih =>
    exact .value ((hf _).trans hv) ((hf _).trans hn) ((hf _).trans ha) ih
  case logical hu _ ih => exact .logical (by simpa using hu) ih
  case not ht _ ih => exact .not ((hf _).trans ht) ih
  case relational hu _ ih => exact .relational (by simpa using hu) ih
  case sign t _ _ _ ht _ ih => exact .sign (hf t ▸ ht) ih
  case power hu _ ih => exact .power (by simpa using hu) ih
  case inside ho _ ih => exact .inside ((hf _).trans ho) ih
  case close ho hd h =>
    exact .close ((hf _).trans ho) (hd.map hf)
      (hnext (fun k => k ≠ .closeParen ∧ ∀ level, k ∉ operators level) h)
  case operand hu _ ih => exact .operand (by simpa using hu) ih
  case right t _ _ _ _ _ hd ht _ ih =>
    rw [List.map_append]
    exact .right (hd.map hf) (hf t ▸ ht) ih

theorem Grammar.Rejects.map (hf : ∀ t, (f t).kind = t.kind) (h : Rejects u next expected) :
    Rejects (u.map f) (next.map f) expected := by
  cases h
  case stopped h => exact .stopped (h.map hf)
  case complete t hd hnext ht => exact .complete (hd.map hf) (hnext ▸ rfl) (hf t ▸ ht)

theorem Parse.whole_map_error (hf : ∀ t, (f t).kind = t.kind) (h : whole ts = .error stop) :
    whole (ts.map f) = .error ⟨stop.rest.map f, stop.expected⟩ := by
  obtain ⟨u, rfl, hrejects⟩ := whole_eq_error_iff.mp h
  refine whole_eq_error_iff.mpr ⟨u.map f, List.map_append .., ?_⟩
  rw [List.head?_map]
  exact hrejects.map hf

theorem Parse.body_map (hf : ∀ t, (f t).kind = t.kind) : body (ts.map f) = (body ts).map f := by
  rw [body, body, List.takeWhile_map]
  congr 1
  simp [Function.comp_def, hf]

theorem parse_named_ok (h : parse ts = .ok e) :
    parse (ts.map (Token.named name)) = .ok (e.named name) := by
  have hkind : ∀ t, (Token.named name t).kind = t.kind := fun _ => rfl
  rw [parse_eq_ok_iff] at *
  exact Parse.body_map hkind ▸ h.map hkind

-- Unless the token that ends the text is missing, the place where parsing stops is one of the text.
theorem parse_named_error (hstop : ∃ t ∈ ts, t.kind = .stop) (h : parse ts = .error d) :
    parse (ts.map (Token.named name)) = .error (d.named name) := by
  have hkind : ∀ t, (Token.named name t).kind = t.kind := fun _ => rfl
  have hending : Parse.ending (ts.map (Token.named name))
      = (Parse.ending ts).named name := by
    obtain ⟨t, ht, hk⟩ := hstop
    obtain ⟨stop, hfind⟩ := Option.isSome_iff_exists.mp
      (List.find?_isSome (p := (·.kind = .stop)) |>.mpr ⟨t, ht, decide_eq_true hk⟩)
    have hfind' : (ts.map (Token.named name)).find? (·.kind = .stop)
        = some (stop.named name) := by
      rw [List.find?_map]
      exact congrArg (Option.map (Token.named name)) hfind
    simp only [Parse.ending, hfind, hfind']
  rw [parse] at h
  cases hwhole : Parse.whole (Parse.body ts) <;> rw [hwhole] at h <;> cases h
  case error stop =>
    rw [parse, Parse.body_map hkind, Parse.whole_map_error hkind hwhole, hending]
    cases hrest : stop.rest <;> simp [Except.mapError, Parse.diagnostic, Diagnostic.named, hrest]
    all_goals rfl

end Parsing

section Evaluation

variable {name : String} {e : Expr} {scope : ScopeId} {store : Store} {o : Outcome}

def Eval.Fault.named (name : String) : Fault → Fault
  | .notNumber token => .notNumber (token.named name)
  | fault => fault

def Eval.Failure.named (name : String) (f : Failure) : Failure :=
  ⟨f.fault.named name, f.span.named name⟩

def Eval.Outcome.named (name : String) (o : Outcome) : Outcome :=
  { o with result := o.result.mapError (Failure.named name) }

theorem Eval.Outcome.andThen_named {next : Value → Store → Outcome} :
    (o.andThen next).named name
      = (o.named name).andThen fun v store => (next v store).named name := by
  obtain ⟨_ | v, store, events⟩ := o <;> rfl

theorem Expr.span_named : (e.named name).span = e.span.named name := by
  induction e
  case number => rfl
  case var => rfl
  case binary ihl ihr => exact congrArg₂ Span.through ihl ihr
  case unary ih => exact congrArg₂ Span.through rfl ih
  case assign ih => exact congrArg₂ Span.through rfl ih

theorem Eval.literal_named (token : Token) :
    literal (token.named name) store = (literal token store).named name := by
  have hpayload : (token.named name).payload = token.payload := rfl
  rcases h : token.payload with _ | (_ | _ | _) <;> simp only [literal, hpayload, h] <;> rfl

theorem Eval.lookup_named (token : Token) :
    lookup scope (token.named name) store = (lookup scope token store).named name := by
  have hname : nameOf (token.named name) = nameOf token := rfl
  cases h : store.find? scope (nameOf token) <;> simp only [lookup, hname, h] <;> rfl

theorem Eval.unary_named (operator : Token) (operand : Expr) (v : Value) :
    unary (operator.named name) (operand.named name) v store
      = (unary operator operand v store).named name := by
  have hkind : (operator.named name).kind = operator.kind := rfl
  cases hop : UnaryOperator.ofKind? operator.kind
  case none => simp only [unary, hkind, hop]; rfl
  case some op =>
    cases happly : op.apply v <;> simp only [unary, hkind, hop, happly, Expr.span_named] <;> rfl

theorem Eval.binary_named (left right : Expr) (operator : Token) (l r : Value) :
    binary (left.named name) (operator.named name) (right.named name) l r store
      = (binary left operator right l r store).named name := by
  have hkind : (operator.named name).kind = operator.kind := rfl
  cases hop : BinaryOperator.ofKind? operator.kind
  case none => simp only [binary, hkind, hop]; rfl
  case some op =>
    rcases happly : op.apply l r with (_ | ⟨_, _ | _⟩) | _ <;>
      simp only [binary, hkind, hop, happly, Expr.span_named] <;> rfl

theorem Expr.eval_named : (e.named name).eval scope store = (e.eval scope store).named name := by
  induction e generalizing store
  case number token => exact Eval.literal_named token
  case var token => exact Eval.lookup_named token
  case unary operator operand ih =>
    change (((operand.named name).eval scope store).andThen fun v store =>
      Eval.unary (operator.named name) (operand.named name) v store) = _
    rw [ih, Expr.eval, Eval.Outcome.andThen_named]
    simp only [Eval.unary_named]
  case binary left operator right ihl ihr =>
    change (((left.named name).eval scope store).andThen fun l store =>
      ((right.named name).eval scope store).andThen fun r store =>
        Eval.binary (left.named name) (operator.named name) (right.named name) l r store) = _
    simp only [ihl, ihr, Expr.eval, Eval.Outcome.andThen_named, Eval.binary_named]
  case assign token value ih =>
    change (((value.named name).eval scope store).andThen fun v store =>
      Eval.assign scope (token.named name) v store) = _
    rw [ih, Expr.eval, Eval.Outcome.andThen_named]
    rfl

-- The frame of a program has the name of its source in the one call that it reports.
theorem Eval.Outcome.reported_named (i : ScopeId) : (o.named name).reported (.program i)
    = (o.reported (.program i)).mapError (Diagnostic.named name) := by
  obtain ⟨⟨fault, span⟩ | v, store, events⟩ := o
  case error =>
    simp only [reported, named, Except.mapError, Failure.diagnostic_program]
    cases fault <;> rfl
  case ok => rfl

theorem Frame.evaluate_named (i : ScopeId) : (program i).evaluate (e.named name) store =
    (((program i).evaluate e store).1.mapError (Diagnostic.named name),
      ((program i).evaluate e store).2) := by
  rw [evaluate_eq, evaluate_eq, Expr.eval_named, Eval.Outcome.reported_named]
  rfl

end Evaluation

section Lines

variable {name : String} {s : Session} {line : List Char} {store : Store}

theorem Session.parseLine_named : (s.named name).parseLine line
    = ((s.parseLine line).map (Expr.named name)).mapError (Diagnostic.named name) := by
  have hsource : (s.named name).source line = (s.source line).named name := rfl
  rw [parseLine, parseLine, hsource]
  cases htokens : tokenize (s.source line)
  case error d => rw [tokenize_named_error htokens]; rfl
  case ok ts =>
    rw [tokenize_named_ok htokens]
    simp only [Except.bind]
    cases hparse : parse ts
    case error d => exact parse_named_error (exists_stop_of_tokenize htokens) hparse
    case ok e => exact parse_named_ok hparse

-- The name of a session is only seen in its failures.
theorem Session.run_named : (s.named name).run line store
    = ((s.run line store).1.mapError (Diagnostic.named name), (s.run line store).2) := by
  rw [run, run, parseLine_named]
  cases s.parseLine line
  case error => rfl
  case ok e => exact Frame.evaluate_named s.scope

end Lines

section Reporting

variable {name : String} {e : Expr} {d : Diagnostic}

theorem Expr.text_named : (e.named name).text = e.text := by
  induction e
  case number => rfl
  case var => rfl
  case binary left operator right ihl ihr =>
    change "(" ++ (left.named name).text ++ _ ++ _ ++ _ ++ (right.named name).text ++ _ = _
    rw [ihl, ihr]
    rfl
  case unary operator operand ih =>
    change "(" ++ _ ++ (operand.named name).text ++ _ = _
    rw [ih]
    rfl
  case assign token value ih =>
    change "(VAR " ++ _ ++ " = " ++ (value.named name).text ++ _ = _
    rw [ih]
    rfl

-- A plain report has the name in one place.
theorem Diagnostic.render_named (h : d.kind.isRuntime → ∃ call, d.traceback = [call]) :
    ∃ front back, ∀ name, (d.named name).render = front ++ name ++ back := by
  -- The source lines and their carets do not show it.
  obtain ⟨carets, hcarets⟩ : ∃ carets, ∀ name,
      (d.named name).render = (d.named name).located ++ carets :=
    ⟨"\n" ++ String.ofList ((underlines d.span).flatMap Underline.text),
      fun _ => String.append_assoc ..⟩
  cases hkind : d.kind.isRuntime
  case true =>
    obtain ⟨call, hcall⟩ := h hkind
    refine ⟨"Traceback (most recent call last):\n" ++ "  File ", ", line " ++ toString call.line
      ++ ", in " ++ call.frame ++ "\n" ++ d.text ++ "\n" ++ carets, fun name => ?_⟩
    have hkind' : (d.named name).kind.isRuntime = true := hkind
    have hcall' : (d.named name).traceback = [{ call with file := name }] := by
      rw [named, hcall]
      rfl
    rw [hcarets, located, if_pos hkind', hcall']
    simp only [List.map_singleton, String.join, Call.text, List.foldl, String.append_assoc,
      String.empty_append]
    rfl
  case false =>
    refine ⟨d.text ++ "\nFile ", ", line " ++ toString d.span.start.shownLine ++ "\n" ++ carets,
      fun name => ?_⟩
    have hkind' : ¬(d.named name).kind.isRuntime := by simp [named, hkind]
    rw [hcarets, located, if_neg hkind']
    simp only [String.append_assoc]
    rfl

end Reporting

end Reckoner
