import Reckoner.Frame
import Reckoner.Proofs.Placement
import Reckoner.Proofs.Underlining

namespace Reckoner

namespace Position

theorem after_succ (s : Source) (n : Nat) : after s (n + 1) = (after s n).advance :=
  rfl

theorem after_line_succ (s : Source) (n : Nat) : (after s (n + 1)).line =
    (after s n).line + if s.charAt? (n + 1) = some '\n' then 1 else 0 := by
  rw [after_succ, advance, after_source, after_index]
  split <;> rfl

theorem after_column_succ (s : Source) (n : Nat) : (after s (n + 1)).column =
    if s.charAt? (n + 1) = some '\n' then 0 else (after s n).column + 1 := by
  rw [after_succ, advance, after_source, after_index]
  split <;> rfl

theorem after_line_eq_card (s : Source) (n : Nat) :
    (after s n).line = ((Finset.Icc 1 n).filter fun i => s.charAt? i = some '\n').card := by
  rw [Finset.card_filter]
  induction n
  case zero => rfl
  case succ n ih => rw [after_line_succ, ih, Finset.sum_Icc_succ_top (Nat.le_add_left ..)]

theorem after_column (s : Source) (n : Nat) :
    (after s n).column = n - Nat.findGreatest (fun i => s.charAt? i = some '\n') n := by
  induction n
  case zero => rfl
  case succ n ih =>
    have hle := Nat.findGreatest_le (P := fun i => s.charAt? i = some '\n') n
    rw [after_column_succ, Nat.findGreatest_succ]
    split
    case isTrue => rw [Nat.sub_self]
    case isFalse => omega

theorem exists_after_column (s : Source) (n : Nat) : ∃ j, (after s n).column = n - j ∧
    (IsGreatest {i | i ∈ Set.Icc 1 n ∧ s.charAt? i = some '\n'} j ∨
      j = 0 ∧ ∀ i ∈ Set.Icc 1 n, s.charAt? i ≠ some '\n') := by
  refine ⟨_, after_column s n, ?_⟩
  obtain ⟨hle, hspec, hbehind⟩ := (Nat.findGreatest_eq_iff
    (P := fun i => s.charAt? i = some '\n')).mp (Eq.refl (Nat.findGreatest _ n))
  by_cases hzero : Nat.findGreatest (fun i => s.charAt? i = some '\n') n = 0
  case pos => exact .inr ⟨hzero, fun i ⟨hpos, hi⟩ => hbehind (hzero ▸ hpos) hi⟩
  case neg =>
    refine .inl ⟨⟨⟨Nat.one_le_iff_ne_zero.mpr hzero, hle⟩, hspec hzero⟩, fun i ⟨⟨_, hi⟩, hc⟩ => ?_⟩
    exact Nat.le_findGreatest hi hc

end Position

theorem Source.lineOf_succ (s : Source) (n : Nat) :
    s.lineOf (n + 1) = s.lineOf n + if s.charAt? n = some '\n' then 1 else 0 := by
  rw [lineOf, lineOf, List.take_add_one, List.count_append, charAt?]
  cases s.text[n]? <;> simp [List.count_singleton]

-- Both ways to count go on by one at each newline: one when it is come to, the other when it is
-- left.
theorem line_add_first (s : Source) (n : Nat) :
    (Position.after s n).line + (if s.charAt? 0 = some '\n' then 1 else 0) =
      s.lineOf n + if s.charAt? n = some '\n' then 1 else 0 := by
  induction n
  case zero => rfl
  case succ n ih =>
    rw [Position.after_line_succ, s.lineOf_succ, ← ih]
    omega

theorem line_eq_lineOf_iff (s : Source) (n : Nat) :
    (Position.after s n).line = s.lineOf n ↔
      (s.charAt? 0 = some '\n' ↔ s.charAt? n = some '\n') := by
  have h := line_add_first s n
  split at h <;> split at h <;> grind

section Reports

variable {d : Diagnostic}

theorem Diagnostic.exists_render_eq (d : Diagnostic) : ∃ more, d.render = d.located ++ "\n" ++
    String.ofList ((d.span.source.lineText (d.span.source.lineOf d.span.start.index)).filter
      (· ≠ '\t') ++ '\n' :: more) := by
  have hle := d.span.lineOf_start_le_lineOf_lastIndex
  have hlines : ∃ lines, d.span.touchedLines =
      d.span.source.lineOf d.span.start.index :: lines := by
    rw [Span.touchedLines, Nat.succ_sub hle, List.range'_succ]
    exact ⟨_, rfl⟩
  obtain ⟨lines, hlines⟩ := hlines
  rw [render, underlines, hlines, List.map_cons, List.flatMap_cons, Underline.text,
    List.append_assoc, List.append_assoc, List.append_assoc]
  exact ⟨_, rfl⟩

theorem Diagnostic.located_of_unread (h : d.kind.isRuntime = false) : d.located =
    d.text ++ "\nFile " ++ d.span.source.name ++ ", line " ++ toString d.span.start.shownLine
      ++ "\n" := by
  rw [located, if_neg (by simp [h])]

theorem Frame.exists_located_eq (frame : Frame) {kind : Diagnostic.Kind} (h : kind.isRuntime)
    (details : String) (span : Span) : ∃ calls,
    (frame.blame kind details span).located = "Traceback (most recent call last):\n" ++ calls
      ++ "  File " ++ span.source.name ++ ", line " ++ toString span.start.shownLine ++ ", in "
      ++ frame.name ++ "\n" ++ (frame.blame kind details span).text ++ "\n" := by
  let calls := (outwards frame.caller frame.entry []).reverse
  refine ⟨String.join (calls.map Diagnostic.Call.text), ?_⟩
  simp [Diagnostic.located, blame, h, calls, traceback_eq, Diagnostic.Call.text,
    String.append_assoc, Span.source]

end Reports

-- The place that is reached from the start of a source in some number of steps, past its end too:
-- 1. its index is that number
-- 2. its line is the number of newlines from the second character up to the one that stands there
-- 3. its column is counted from the last of them, or from the start if there are none
-- 4. it would be the line that the source tells for the index if a first newline were counted too,
--    and in the source the one that stands there
-- 5. a report of what begins there names the line of the place, whether before evaluation or from
--    any frame, and echoes the line that the source tells
-- 6. these are the same unless just one of the first character and the one that stands there is a
--    newline
theorem line_of_position_and_source (s : Source) (n : Nat) :
    let p := Position.after s n
    let line := s.lineOf n
    p.index = n ∧
    p.line = ((Finset.Icc 1 n).filter fun i => s.charAt? i = some '\n').card ∧
    (∃ j, p.column = n - j ∧
      (IsGreatest {i | i ∈ Set.Icc 1 n ∧ s.charAt? i = some '\n'} j ∨
        j = 0 ∧ ∀ i ∈ Set.Icc 1 n, s.charAt? i ≠ some '\n')) ∧
    p.line + (if s.charAt? 0 = some '\n' then 1 else 0) =
      line + (if s.charAt? n = some '\n' then 1 else 0) ∧
    (∀ d : Diagnostic, d.span.start = p → ∃ more, d.render = d.located ++ "\n" ++
      String.ofList ((s.lineText line).filter (· ≠ '\t') ++ '\n' :: more)) ∧
    (∀ d : Diagnostic, d.span.start = p → d.kind.isRuntime = false → d.located =
      d.text ++ "\nFile " ++ s.name ++ ", line " ++ toString (p.line + 1) ++ "\n") ∧
    (∀ frame kind details span, span.start = p → kind.isRuntime →
      let d := Frame.blame frame kind details span
      ∃ calls, d.located = "Traceback (most recent call last):\n" ++ calls ++ "  File " ++ s.name
        ++ ", line " ++ toString (p.line + 1) ++ ", in " ++ frame.name ++ "\n" ++ d.text ++ "\n") ∧
    (p.line = line ↔ n = 0 ∨ (s.charAt? 0 = some '\n' ↔ s.charAt? n = some '\n')) := by
  intro p line
  have hsource : ∀ span : Span, span.start = p → span.source = s := fun span h => by
    rw [Span.source, h, Position.after_source]
  refine ⟨Position.after_index s n, Position.after_line_eq_card s n,
    Position.exists_after_column s n, line_add_first s n, fun d hd => ?echoed,
    fun d hd hkind => ?unread, fun frame kind details span hspan hkind => ?ran, ?same⟩
  case echoed =>
    have hrender := d.exists_render_eq
    rwa [hsource _ hd, hd, Position.after_index] at hrender
  case unread => rw [Diagnostic.located_of_unread hkind, hsource _ hd, hd, Position.shownLine]
  case ran =>
    have hlocated := frame.exists_located_eq hkind details span
    rwa [hsource _ hspan, hspan, Position.shownLine] at hlocated
  case same =>
    rw [line_eq_lineOf_iff]
    constructor
    case mp => exact .inr
    case mpr =>
      rintro (rfl | h)
      · rfl
      · exact h

-- The newline behind a number is named as part of the second line and echoed with the first one.
theorem line_of_position_and_source_newline :
    let s : Source := ⟨"n", ['1', ' ', '\n', '2']⟩
    let p := Position.after s 2
    let unread : Diagnostic := ⟨.illegalCharacter, "", .single p, []⟩
    let ran := (Frame.program 0).blame .divisionByZero "" (.single p)
    (unread.kind.isRuntime = false ∧
      unread.located = unread.text ++ "\nFile " ++ "n" ++ ", line " ++ "2" ++ "\n") ∧
    (ran.kind.isRuntime ∧ ∃ calls, ran.located = "Traceback (most recent call last):\n" ++ calls
      ++ "  File " ++ "n" ++ ", line " ++ "2" ++ ", in " ++ "<program>" ++ "\n" ++ ran.text
      ++ "\n") ∧
    (∃ more, ran.render = ran.located ++ "\n" ++ String.ofList (['1', ' '] ++ '\n' :: more)) ∧
    p.column = 0 ∧ p.line ≠ s.lineOf 2 := by
  intro s p unread ran
  obtain ⟨_, _, _, _, hrender, hunread, hran, hsame⟩ := line_of_position_and_source s 2
  have hshown : toString (p.line + 1) = "2" := by decide +kernel
  refine ⟨⟨rfl, ?unread⟩, ⟨rfl, ?ran⟩, hrender ran rfl, rfl,
    fun h => absurd (hsame.mp h) (by decide)⟩
  case unread => exact hshown ▸ hunread unread rfl rfl
  case ran => exact hshown ▸ hran (.program 0) .divisionByZero "" (.single p) rfl rfl

end Reckoner
