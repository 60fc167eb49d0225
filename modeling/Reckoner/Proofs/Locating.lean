import Reckoner.Proofs.Evaluable
import Reckoner.Proofs.Nesting

namespace Reckoner

open Lexical Machine

-- The line that is shown for a failure to read a text. It is the first one, except for a newline
-- that no lexeme takes: it begins the next line, unless the text starts with it.
def Diagnostic.readLine (s : Source) (d : Diagnostic) : Nat :=
  if d.kind = .illegalCharacter ∧ 0 < d.span.start.index ∧
    s.charAt? d.span.start.index = some '\n' then 2 else 1

structure Diagnostic.Unread (s : Source) (d : Diagnostic) : Prop where
  kind      : d.kind.isRuntime = false
  traceback : d.traceback = []
  line      : d.span.start.shownLine = d.readLine s

structure Diagnostic.EndsEarly (s : Source) (d : Diagnostic) : Prop where
  kind   : d.kind = .invalidSyntax
  parsed : ∃ ts, tokenize s = .ok ts ∧ parse ts = .error d
  span   : d.span = ⟨.after s s.length, .after s (s.length + 1)⟩

structure Diagnostic.Ran (name : String) (d : Diagnostic) : Prop where
  kind      : d.kind.isRuntime
  traceback : d.traceback = [⟨name, 1, "<program>"⟩]

section Reading

variable {s : Source} {ts : List Token} {d : Diagnostic} {front rest : List Char} {n : Nat}

theorem shownLine_of_append (hs : s.text = front ++ rest) (hfront : '\n' ∉ front)
    (hn : n ≤ front.length) : (Position.after s n).shownLine =
      if 0 < n ∧ n = front.length ∧ rest.head? = some '\n' then 2 else 1 := by
  rw [Position.shownLine, Position.after_line_of_append hs hfront hn]
  split <;> rfl

theorem shownLine_of_newline_not_mem (hs : '\n' ∉ s.text) (hn : n ≤ s.length) :
    (Position.after s n).shownLine = 1 := by
  simpa using shownLine_of_append (List.append_nil s.text).symm hs hn

theorem unread_of_tokenize (h : tokenize s = .error d) : d.span.Lies s ∧ d.Unread s := by
  obtain ⟨ps, rest, hcuts⟩ := exists_cut s.text
  have houtcome := outcome_of_source hcuts
  have htext := hcuts.concat.symm
  have hlength : s.length = (ps.flatMap Piece.text).length + rest.length := by
    rw [Source.length, htext, List.length_append]
  have hline := fun n => @shownLine_of_append s _ rest n htext hcuts.newline_not_mem
  rw [h] at houtcome
  generalize hls : lexemes 0 ps = ls at houtcome
  cases houtcome
  case outOfRange _ i l _ hls' _ hne _ _ =>
    obtain ⟨_, _, hstop⟩ := hcuts.lexeme_range 0 (i, l) (by simp [hls, hls'])
    rw [Nat.zero_add] at hstop
    have hlies : (spanOf s (i, l)).Lies s :=
      lies_spanOf hne (Nat.le_trans hstop (hlength ▸ Nat.le_add_right ..))
    have hbefore : i < (ps.flatMap Piece.text).length :=
      Nat.lt_of_lt_of_le (Nat.lt_add_of_pos_right (List.length_pos_iff.mpr hne)) hstop
    refine ⟨hlies, rfl, rfl, ?_⟩
    rw [hline i (Nat.le_of_lt hbefore), if_neg fun h => absurd h.right.left (Nat.ne_of_lt hbefore)]
    rfl
  case bang rest _ =>
    rw [List.length_cons] at hlength
    refine ⟨Span.lies_after (Nat.lt_succ_self _) (by omega), rfl, rfl, ?_⟩
    rw [hline _ (Nat.le_refl _), Diagnostic.readLine, if_neg (by simp), if_neg (by simp)]
  case illegal c rest _ _ =>
    rw [List.length_cons] at hlength
    refine ⟨Span.lies_after (Nat.lt_succ_self _) (by omega), rfl, rfl, ?_⟩
    rw [hline _ (Nat.le_refl _), Diagnostic.readLine]
    simp [Source.charAt?, htext]

theorem unread_of_parse (htokens : tokenize s = .ok ts) (hparse : parse ts = .error d) :
    (d.span.Lies s ∨ d.EndsEarly s) ∧ d.Unread s := by
  obtain ⟨w, rfl, hlies, _, hs⟩ := placed_of_tokenize htokens
  obtain ⟨u, t, after, x, hcompleted, _, _, _, hd⟩ := Parse.exists_rejected hparse
  have ht : t ∈ Parse.completed (w ++ [.stopAt (.after s s.length)]) := by simp [hcompleted]
  rw [Parse.completed, List.getLast?_concat] at ht
  have hspan : t.span.Lies s ∨ t.span = ⟨.after s s.length, .after s (s.length + 1)⟩ := by
    rcases List.mem_append.mp ht with ht | ht
    · exact .inl (hlies t ht)
    · exact .inr (by rw [List.mem_singleton.mp ht]; rfl)
  have hline : t.span.start.shownLine = 1 := by
    rcases hspan with hspan | hspan
    · rw [hspan.start]
      exact shownLine_of_newline_not_mem hs (Nat.le_trans (Nat.le_of_lt hspan.lt) hspan.le)
    · rw [hspan]
      exact shownLine_of_newline_not_mem hs (Nat.le_refl _)
  refine ⟨hspan.imp (fun h => hd ▸ h) fun h => ?_, hd ▸ ⟨rfl, rfl, hline⟩⟩
  exact ⟨hd ▸ rfl, ⟨_, htokens, hparse⟩, hd ▸ h⟩

end Reading

section Running

variable {source : Source} {scope : ScopeId} {e node : Expr} {state : State} {f : Eval.Failure}
  {d : Diagnostic} {s : Session} {line : List Char} {store : Store}

-- What a node is blamed on is one of its tokens or one of its parts.
theorem lies_of_blames (hlaid : node.Laid source) (h : Blames scope node state f) :
    f.span.Lies source := by
  have hpart : ∀ part ∈ node.subtrees, part.span.Lies source := fun part hpart =>
    (hlaid.of_mem_subtrees hpart).span_lies
  cases h
  case notNumber | undefined | unknownPrefix | unknownOperator =>
    exact hlaid.lies _ (by simp [Expr.tokens])
  case notOperand | divisor | leftOperand | rightOperand =>
    exact hpart _ (by simp [Expr.subtrees, Expr.mem_subtrees_self])

theorem Eval.Failure.ran (hs : '\n' ∉ source.text) (h : f.span.Lies source) :
    (f.diagnostic (.program scope)).Ran source.name where
  kind := by
    obtain ⟨_ | _ | _ | (_ | _), _⟩ := f <;> rfl
  traceback := by
    have hstart := Nat.le_trans (Nat.le_of_lt h.lt) h.le
    have hline := shownLine_of_newline_not_mem hs hstart
    rw [← h.start] at hline
    rw [f.diagnostic_program, hline, h.start, Position.after_source]

theorem error_of_parseLine (h : s.parseLine line = .error d) :
    tokenize (s.source line) = .error d ∨
      ∃ ts, tokenize (s.source line) = .ok ts ∧ parse ts = .error d := by
  rw [Session.parseLine] at h
  cases htokens : tokenize (s.source line) <;> rw [htokens] at h
  case error => exact .inl (congrArg _ (Except.error.inj h))
  case ok ts => exact .inr ⟨ts, rfl, h⟩

theorem ok_of_parseLine (h : s.parseLine line = .ok e) :
    ∃ ts, tokenize (s.source line) = .ok ts ∧ parse ts = .ok e := by
  rw [Session.parseLine] at h
  cases htokens : tokenize (s.source line) <;> rw [htokens] at h
  case error => cases h
  case ok ts => exact ⟨ts, rfl, h⟩

theorem error_of_run (h : (s.run line store).1 = .error d) : s.parseLine line = .error d ∨
    ∃ e f, s.parseLine line = .ok e ∧ (e.eval s.scope store).result = .error f ∧
      d = f.diagnostic s.frame := by
  rw [Session.run] at h
  cases hparse : s.parseLine line <;> rw [hparse] at h
  case error => exact .inl (congrArg _ (Except.error.inj h))
  case ok e =>
    simp only [Frame.evaluate_eq, Eval.Outcome.reported] at h
    cases hresult : (e.eval s.frame.scope store).result <;> rw [hresult] at h
    case ok => cases h
    case error f => exact .inr ⟨e, f, rfl, hresult, (Except.error.inj h).symm⟩

theorem unread_of_parseLine (h : s.parseLine line = .error d) :
    (d.span.Lies (s.source line) ∨ d.EndsEarly (s.source line)) ∧ d.Unread (s.source line) := by
  rcases error_of_parseLine h with htokens | ⟨ts, htokens, hparse⟩
  case inl =>
    obtain ⟨hlies, hunread⟩ := unread_of_tokenize htokens
    exact ⟨.inl hlies, hunread⟩
  case inr => exact unread_of_parse htokens hparse

theorem ran_of_eval (hparse : s.parseLine line = .ok e)
    (hresult : (e.eval s.scope store).result = .error f) :
    f.span.Lies (s.source line) ∧ (f.diagnostic s.frame).Ran s.name := by
  obtain ⟨ts, htokens, hparse⟩ := ok_of_parseLine hparse
  obtain ⟨_, _, _, _, hs⟩ := placed_of_tokenize htokens
  obtain ⟨_, _, _, hlaid⟩ := derives_of_parse htokens hparse
  obtain ⟨node, hnode, _, hblames⟩ := exists_blamed hresult
  have hlies := lies_of_blames (hlaid.of_mem_subtrees hnode) hblames
  exact ⟨hlies, Eval.Failure.ran hs hlies⟩

theorem points_into_line (h : (s.run line store).1 = .error d) :
    (d.span.Lies (s.source line) ∨ d.EndsEarly (s.source line)) ∧
      (s.parseLine line = .error d ∧ d.Unread (s.source line) ∨
        (∃ e, s.parseLine line = .ok e) ∧ d.Ran s.name) := by
  rcases error_of_run h with hparse | ⟨e, f, hparse, hresult, rfl⟩
  case inl =>
    obtain ⟨hspan, hunread⟩ := unread_of_parseLine hparse
    exact ⟨hspan, .inl ⟨hparse, hunread⟩⟩
  case inr =>
    obtain ⟨hlies, hran⟩ := ran_of_eval hparse hresult
    exact ⟨.inl hlies, .inr ⟨⟨e, hparse⟩, hran⟩⟩

end Running

-- What is reported of a line, whatever is bound:
-- 1. it points at a place in the line that was walked to from its start
-- 2. up to another such place behind it, which is in the line too, or else parsing has failed at
--    the end of the line and it points behind its last character
-- 3. it is of a kind that is kept for evaluation if the line was read, and else it is not
-- 4. in the first case it was reached by no call but the program itself, in the first line
-- 5. in the second one there are no calls, and it is shown in the first line unless it points at a
--    newline with something before it
theorem run_points_into_line {s : Session} {line : List Char} {store : Store} {d : Diagnostic}
    (h : (s.run line store).1 = .error d) :
    let source := s.source line
    (d.span.start = .after source d.span.start.index ∧ d.span.start.index ≤ line.length) ∧
    (d.span.stop = .after source d.span.stop.index ∧ d.span.start.index < d.span.stop.index ∧
      (d.span.stop.index ≤ line.length ∨
        d.kind = .invalidSyntax ∧ (∃ ts, tokenize source = .ok ts ∧ parse ts = .error d) ∧
          d.span = ⟨.after source line.length, .after source (line.length + 1)⟩)) ∧
    (d.kind.isRuntime ↔ ∃ e, s.parseLine line = .ok e) ∧
    (d.kind.isRuntime → d.traceback = [⟨s.name, 1, "<program>"⟩]) ∧
    (d.kind.isRuntime = false → d.traceback = [] ∧
      d.span.start.shownLine =
        if d.kind = .illegalCharacter ∧ 0 < d.span.start.index ∧
          source.charAt? d.span.start.index = some '\n' then 2 else 1) := by
  intro source
  obtain ⟨hspan, hreported⟩ := points_into_line h
  have hplace : d.span.start = .after source d.span.start.index ∧
      d.span.stop = .after source d.span.stop.index ∧
      d.span.start.index < d.span.stop.index ∧ d.span.start.index ≤ line.length := by
    rcases hspan with hspan | hspan
    · exact ⟨hspan.start, hspan.stop, hspan.lt, Nat.le_trans (Nat.le_of_lt hspan.lt) hspan.le⟩
    · rw [hspan.span]
      simp [source, Source.length, Session.source]
  obtain ⟨hstart, hstop, hlt, hle⟩ := hplace
  refine ⟨⟨hstart, hle⟩, ⟨hstop, hlt, hspan.imp (·.le) fun h => ⟨h.kind, h.parsed, h.span⟩⟩, ?_⟩
  rcases hreported with ⟨hparse, hunread⟩ | ⟨hread, hran⟩
  case inl =>
    have hkind : ¬d.kind.isRuntime := by simp [hunread.kind]
    refine ⟨iff_of_false hkind ?_, fun hruntime => absurd hruntime hkind, fun _ => ?_⟩
    case refine_1 => simp [hparse]
    case refine_2 => exact ⟨hunread.traceback, hunread.line⟩
  case inr =>
    refine ⟨iff_of_true hran.kind hread, fun _ => hran.traceback, fun hruntime => ?_⟩
    exact absurd hran.kind (by simp [hruntime])

-- A newline behind a number is rejected, and shown in the line that it begins.
theorem run_points_into_line_newline :
    let s : Session := ⟨"n", 0⟩
    let line := "1 \n".toList
    ∃ d, (s.run line ⟨[.builtins]⟩).1 = .error d ∧ d.kind = .illegalCharacter ∧
      d.span.range = (2, 3) ∧ d.span.start = .after (s.source line) 2 ∧ d.traceback = [] ∧
      d.span.start.shownLine = 2 := by
  intro s line
  have hread : ((s.run line ⟨[.builtins]⟩).1.mapError fun d => (d.kind, d.span.range)).map
      (fun _ => ()) = .error (.illegalCharacter, 2, 3) := by decide +kernel
  cases h : (s.run line ⟨[.builtins]⟩).1 <;> rw [h] at hread
  case ok => cases hread
  case error d =>
    obtain ⟨⟨hstart, _⟩, _, _, _, hunread⟩ := run_points_into_line h
    have hread : (d.kind, d.span.range) = (.illegalCharacter, 2, 3) := Except.error.inj hread
    obtain ⟨hkind, hrange⟩ := Prod.ext_iff.mp hread
    have hkind : d.kind = .illegalCharacter := hkind
    have hindex : d.span.start.index = 2 := congrArg Prod.fst hrange
    rw [hindex] at hstart
    obtain ⟨htraceback, hline⟩ := hunread (hkind ▸ rfl)
    refine ⟨d, rfl, hkind, hrange, hstart, htraceback, ?_⟩
    rw [hline, hkind, hindex]
    rfl

end Reckoner
