import Mathlib
import Reckoner.Diagnostic.Render
import Reckoner.Proofs.Lines

namespace Reckoner

open Diagnostic

section Columns

variable {l : List Char} {c : Char} {column first stop e : Nat}

theorem count_take_le (l : List Char) (column : Nat) : (l.take column).count '\t' ≤ column :=
  List.count_le_length.trans (List.length_take_le ..)

theorem untabbed_eq (l : List Char) (column : Nat) :
    untabbed l column = (l.take column).countP (· ≠ '\t') + (column - l.length) := by
  have hsplit := List.length_eq_countP_add_countP (l := l.take column) (· == '\t')
  simp only [beq_iff_eq, List.length_take] at hsplit
  change _ = (l.take column).count '\t' + (l.take column).countP (· ≠ '\t') at hsplit
  rw [untabbed]
  omega

theorem untabbed_succ_of_tab (h : l[column]? = some '\t') :
    untabbed l (column + 1) = untabbed l column := by
  rw [untabbed, untabbed, List.take_add_one, h, List.count_append]
  simp

theorem untabbed_succ (h : l[column]? ≠ some '\t') :
    untabbed l (column + 1) = untabbed l column + 1 := by
  have hle := count_take_le l column
  have hnone : l[column]?.toList.count '\t' = 0 := by
    cases hc : l[column]? <;> simp_all
  rw [untabbed, untabbed, List.take_add_one, List.count_append, hnone]
  omega

theorem untabbed_mono (l : List Char) : Monotone (untabbed l) := by
  refine monotone_nat_of_le_succ fun column => ?_
  by_cases h : l[column]? = some '\t'
  case pos => rw [untabbed_succ_of_tab h]
  case neg => rw [untabbed_succ h]; exact Nat.le_succ _

theorem untabbed_lt_iff (h : l[column]? ≠ some '\t') :
    untabbed l column < untabbed l stop ↔ column < stop := by
  constructor
  case mp => exact (untabbed_mono l).reflect_lt
  case mpr =>
    intro hlt
    have := untabbed_mono l (Nat.succ_le_of_lt hlt)
    rw [untabbed_succ h] at this
    omega

theorem untabbed_le_iff (h : l[column]? ≠ some '\t') :
    untabbed l first ≤ untabbed l column ↔ first ≤ column := by
  rw [← not_lt, untabbed_lt_iff h, not_lt]

theorem exists_untabbed_eq (hfirst : untabbed l first ≤ e) (hstop : e < untabbed l stop) :
    ∃ column, first ≤ column ∧ column < stop ∧ l[column]? ≠ some '\t' ∧ untabbed l column = e := by
  induction stop
  case zero => simp [untabbed] at hstop
  case succ stop ih =>
    by_cases htab : l[stop]? = some '\t'
    case pos =>
      rw [untabbed_succ_of_tab htab] at hstop
      obtain ⟨column, hle, hlt, hrest⟩ := ih hstop
      exact ⟨column, hle, by omega, hrest⟩
    case neg =>
      rw [untabbed_succ htab] at hstop
      by_cases he : e < untabbed l stop
      case pos =>
        obtain ⟨column, hle, hlt, hrest⟩ := ih he
        exact ⟨column, hle, by omega, hrest⟩
      case neg =>
        obtain rfl : e = untabbed l stop := by omega
        exact ⟨stop, (untabbed_le_iff htab).mp hfirst, Nat.lt_succ_self _, htab, rfl⟩

theorem getElem?_filter_untabbed (hc : l[column]? = some c) (hne : c ≠ '\t') :
    (l.filter (· ≠ '\t'))[untabbed l column]? = some c := by
  obtain ⟨hlt, rfl⟩ := List.getElem?_eq_some_iff.mp hc
  have hcolumn : untabbed l column = ((l.take column).filter (· ≠ '\t')).length := by
    rw [untabbed_eq, List.countP_eq_length_filter, Nat.sub_eq_zero_of_le (Nat.le_of_lt hlt)]
    rfl
  rw [hcolumn]
  nth_rewrite 1 [← List.take_append_drop column l]
  rw [List.filter_append, List.getElem?_append_right (le_refl _), Nat.sub_self,
    List.drop_eq_getElem_cons hlt, List.filter_cons_of_pos (by simpa using hne)]
  rfl

theorem untabbed_of_length_le (h : l.length ≤ column) :
    untabbed l column = (l.filter (· ≠ '\t')).length + (column - l.length) := by
  rw [untabbed_eq, List.take_of_length_le h, List.countP_eq_length_filter]

end Columns

-- The column in which an index is shown: what stands before it on its line and is no tab. Behind
-- the end of the text every index has a column.
def Source.echo (s : Source) (index : Nat) : Nat :=
  (s.before index).countP (· ≠ '\t') + (index - s.length)

theorem Source.echo_eq_untabbed (s : Source) (i : Nat) :
    s.echo i = untabbed (s.lineText (s.lineOf i)) (i - s.lineStart i) := by
  have hlength := s.length_before i
  have hle := s.lineStart_le i
  rw [untabbed_eq, Source.lineText_lineOf, Source.echo]
  obtain h | h := le_total i s.length
  case inl =>
    rw [min_eq_left h] at hlength
    rw [← hlength, List.take_left, List.length_append]
    omega
  case inr =>
    rw [min_eq_right h] at hlength hle
    have hnil : s.text.drop i = [] := List.drop_eq_nil_of_le h
    rw [hnil, List.takeWhile_nil, List.append_nil, List.take_of_length_le (by omega), hlength]
    omega

namespace Span

-- The indexes of a line that have a column of their own: all but those of tabs. A newline has one
-- only on the last line that a span touches.
def shownOn (span : Span) (line : Nat) : Set Nat :=
  {i | span.source.lineOf i = line ∧ span.source.charAt? i ≠ some '\t' ∧
    (span.source.charAt? i = some '\n' → line = span.source.lineOf span.lastIndex)}

def covered (span : Span) : Set Nat :=
  Set.Ico span.start.index span.stop.index

variable {span : Span} {line column i j e : Nat}

theorem lineOf_start_le_lineOf_lastIndex (span : Span) :
    span.source.lineOf span.start.index ≤ span.source.lineOf span.lastIndex :=
  span.source.lineOf_mono (le_max_right ..)

-- A line up to the last touched one holds some index.
theorem exists_lineOf_eq_of_le (h : line ≤ span.source.lineOf span.lastIndex) :
    ∃ i, span.source.lineOf i = line :=
  let ⟨i, _, hi⟩ := span.source.exists_lineOf_eq h
  ⟨i, hi⟩

theorem firstColumn_le_iff (hfirst : span.source.lineOf span.start.index ≤ line)
    (hi : span.source.lineOf i = line) :
    span.firstColumn line ≤ i - span.source.lineStart i ↔ span.start.index ≤ i := by
  have hile := span.source.lineStart_le i
  have hsle := span.source.lineStart_le span.start.index
  rw [firstColumn]
  split
  case isTrue h =>
    rw [Source.lineStart_eq (h.symm.trans hi.symm)] at hsle ⊢
    omega
  case isFalse h =>
    have hlt : span.source.lineOf span.start.index < span.source.lineOf i := by omega
    exact iff_of_true (Nat.zero_le _) (Nat.le_of_lt (Source.lt_of_lineOf_lt hlt))

theorem lt_stopColumn_iff (hfirst : span.source.lineOf span.start.index ≤ line)
    (hlast : line ≤ span.source.lineOf span.lastIndex) (hi : i ∈ span.shownOn line) :
    i - span.source.lineStart i < span.stopColumn line ↔ i < span.stop.index := by
  obtain ⟨hline, _, hnewline⟩ := hi
  have hile := span.source.lineStart_le i
  rw [stopColumn]
  split
  case isTrue h =>
    rw [Source.lineStart_eq (h.symm.trans hline.symm)]
    omega
  case isFalse h =>
    have hlt : span.source.lineOf i < span.source.lineOf span.lastIndex := by omega
    have hbefore : i < span.lastIndex := Source.lt_of_lineOf_lt hlt
    refine iff_of_true ?_ ?_
    case refine_1 =>
      cases hc : span.source.charAt? i
      case none =>
        have := Source.lineOf_le_of_charAt?_eq_none hc span.lastIndex
        omega
      case some c =>
        subst hline
        exact Source.sub_lineStart_lt_length_lineText hc fun hc' => h (hnewline (hc' ▸ hc))
    case refine_2 =>
      have hstart : ¬ span.lastIndex = span.start.index := fun heq => by
        rw [heq] at hlast h
        exact h (le_antisymm hlast hfirst)
      rw [lastIndex] at hbefore hstart
      omega

theorem getElem?_lineText_ne_tab (hi : i ∈ span.shownOn line) :
    (span.source.lineText line)[i - span.source.lineStart i]? ≠ some '\t' := by
  obtain ⟨rfl, htab, _⟩ := hi
  intro h
  have hlt := (List.getElem?_eq_some_iff.mp h).1
  rw [Source.getElem?_lineText hlt,
    Nat.add_sub_cancel' ((span.source.lineStart_le i).trans (min_le_left ..))] at h
  exact htab h

theorem mem_covered_iff (hfirst : span.source.lineOf span.start.index ≤ line)
    (hlast : line ≤ span.source.lineOf span.lastIndex) (hi : i ∈ span.shownOn line) :
    i ∈ span.covered ↔
      untabbed (span.source.lineText line) (span.firstColumn line) ≤ span.source.echo i ∧
      span.source.echo i < untabbed (span.source.lineText line) (span.stopColumn line) := by
  have htab := getElem?_lineText_ne_tab hi
  rw [Source.echo_eq_untabbed, hi.1, untabbed_le_iff htab, untabbed_lt_iff htab,
    firstColumn_le_iff hfirst hi.1, lt_stopColumn_iff hfirst hlast hi]
  rfl

-- The columns of a touched line that come before the one where the span stops are on that line.
theorem lineOf_add_of_lt_stopColumn (hlast : line ≤ span.source.lineOf span.lastIndex)
    (hj : span.source.lineOf j = line) (h : column < span.stopColumn line) :
    span.source.lineOf (span.source.lineStart j + column) = line := by
  subst hj
  rw [stopColumn] at h
  split at h
  case isTrue hline =>
    have hle : span.source.lineStart j + column ≤ span.lastIndex := by
      rw [← Source.lineStart_eq hline] at h
      rw [lastIndex]
      omega
    refine le_antisymm ((span.source.lineOf_mono hle).trans (le_of_eq hline.symm)) ?_
    rw [← span.source.lineOf_lineStart j]
    exact span.source.lineOf_mono (Nat.le_add_right ..)
  case isFalse => exact Source.lineOf_lineStart_add (Nat.le_of_lt h)

theorem exists_mem_covered (hfirst : span.source.lineOf span.start.index ≤ line)
    (hlast : line ≤ span.source.lineOf span.lastIndex)
    (hle : untabbed (span.source.lineText line) (span.firstColumn line) ≤ e)
    (hlt : e < untabbed (span.source.lineText line) (span.stopColumn line)) :
    ∃ i ∈ span.shownOn line ∩ span.covered, span.source.echo i = e := by
  obtain ⟨column, hcfirst, hcstop, htab, hcolumn⟩ := exists_untabbed_eq hle hlt
  obtain ⟨j, hj⟩ := exists_lineOf_eq_of_le hlast
  have hi := lineOf_add_of_lt_stopColumn hlast hj hcstop
  have hstart : span.source.lineStart (span.source.lineStart j + column)
      = span.source.lineStart j := Source.lineStart_eq (hi.trans hj.symm)
  -- A character that stands there is the one of the line's text.
  have hchar : column < (span.source.lineText line).length →
      (span.source.lineText line)[column]?
        = span.source.charAt? (span.source.lineStart j + column) := fun h => by
    subst hj
    exact Source.getElem?_lineText h
  have hshown : span.source.lineStart j + column ∈ span.shownOn line := by
    refine ⟨hi, fun hc => ?_, fun hc => ?_⟩
    case refine_1 =>
      have hwidth := Source.sub_lineStart_lt_length_lineText hc (by decide)
      rw [hi, hstart, Nat.add_sub_cancel_left] at hwidth
      exact htab ((hchar hwidth).trans hc)
    case refine_2 =>
      by_contra hne
      rw [stopColumn, if_neg hne] at hcstop
      have hmem := List.mem_of_getElem? ((hchar hcstop).trans hc)
      exact span.source.newline_not_mem_lineText j (hj ▸ hmem)
  have hecho : span.source.echo (span.source.lineStart j + column) = e := by
    rw [Source.echo_eq_untabbed, hi, hstart, Nat.add_sub_cancel_left, hcolumn]
  refine ⟨_, ⟨hshown, (mem_covered_iff hfirst hlast hshown).mpr ?_⟩, hecho⟩
  rw [hecho]
  exact ⟨hle, hlt⟩

-- A span begins on a touched line at the first index of the line that is not before its start.
theorem isLeast_firstColumn (hfirst : span.source.lineOf span.start.index ≤ line)
    (hj : span.source.lineOf j = line) :
    IsLeast {i | span.source.lineOf i = line ∧ span.start.index ≤ i}
      (span.source.lineStart j + span.firstColumn line) := by
  have hi : span.source.lineOf (span.source.lineStart j + span.firstColumn line) = line := by
    rw [firstColumn]
    split
    case isTrue h =>
      rw [Source.lineStart_eq (hj.trans h), Nat.add_sub_cancel'
        ((span.source.lineStart_le _).trans (min_le_left ..)), h]
    case isFalse => rw [Nat.add_zero, Source.lineOf_lineStart, hj]
  refine ⟨⟨hi, (firstColumn_le_iff hfirst hi).mp ?_⟩, fun i ⟨hline, hle⟩ => ?_⟩
  case refine_1 => rw [Source.lineStart_eq (hi.trans hj.symm), Nat.add_sub_cancel_left]
  case refine_2 =>
    have hcolumn := (firstColumn_le_iff hfirst hline).mpr hle
    have hstart := (span.source.lineStart_le i).trans (min_le_left ..)
    rw [Source.lineStart_eq (hline.trans hj.symm)] at hcolumn hstart
    omega

end Span

-- The two rows that are printed for a line of a span: the line without its tabs, and below it one
-- stretch of carets under all that is covered.
structure Underlines (span : Span) (line : Nat) (shown carets : List Char) : Prop where
  shown_eq : shown = (span.source.lineText line).filter (· ≠ '\t')
  stretch  : ∃ indent width, carets = List.replicate indent ' ' ++ List.replicate width '^'
  -- A character of the line is found again in its column, and what lies behind the line's last
  -- character has the columns from there on.
  column   : ∀ i ∈ span.shownOn line, ∀ c, span.source.charAt? i = some c → c ≠ '\n' →
    shown[span.source.echo i]? = some c
  behind   : ∀ i ∈ span.shownOn line, (∀ c ∈ span.source.charAt? i, c = '\n') →
    span.source.echo i = shown.length + (i - span.source.length)
  -- If anything on the line is covered, there is a caret under it and nowhere else.
  covered  : (span.shownOn line ∩ span.covered).Nonempty →
    (∀ i ∈ span.shownOn line, carets[span.source.echo i]? = some '^' ↔ i ∈ span.covered) ∧
    ∀ column, carets[column]? = some '^' →
      ∃ i ∈ span.shownOn line ∩ span.covered, span.source.echo i = column
  -- If nothing is, there is one caret where the span begins on the line.
  single   : ¬ (span.shownOn line ∩ span.covered).Nonempty →
    ∃ i, IsLeast {i | span.source.lineOf i = line ∧ span.start.index ≤ i} i ∧
      carets = List.replicate (span.source.echo i) ' ' ++ ['^']

theorem getElem?_stretch {indent width column : Nat} :
    (List.replicate indent ' ' ++ List.replicate width '^')[column]? = some '^' ↔
      indent ≤ column ∧ column < indent + width := by
  rw [List.getElem?_append, List.length_replicate]
  split
  case isTrue h => simp [List.getElem?_replicate]; omega
  case isFalse h => simp [List.getElem?_replicate]; omega

theorem underlines_underlineAt {span : Span} {line : Nat}
    (hfirst : span.source.lineOf span.start.index ≤ line)
    (hlast : line ≤ span.source.lineOf span.lastIndex) :
    Underlines span line (underlineAt span line).shown
      (List.replicate (underlineAt span line).indent ' '
        ++ List.replicate (underlineAt span line).carets '^') where
  shown_eq := rfl
  stretch  := ⟨_, _, rfl⟩
  column i hi c hc hne := by
    have hwidth := Source.sub_lineStart_lt_length_lineText hc hne
    have hget := Source.getElem?_lineText hwidth
    rw [Nat.add_sub_cancel' ((span.source.lineStart_le i).trans (min_le_left ..)), hc] at hget
    have htab : c ≠ '\t' := fun h => hi.2.1 (h ▸ hc)
    rw [Source.echo_eq_untabbed, ← hi.1]
    exact getElem?_filter_untabbed hget htab
  behind i hi hc := by
    have hwidth := Source.length_lineText_of_charAt? hc
    have hle := span.source.lineStart_le i
    rw [Source.echo_eq_untabbed, untabbed_of_length_le (by omega), hi.1] at *
    change _ = ((span.source.lineText line).filter (· ≠ '\t')).length + _
    omega
  covered := fun ⟨i, hi, hcovered⟩ => by
    have hcarets : (underlineAt span line).indent + (underlineAt span line).carets
        = untabbed (span.source.lineText line) (span.stopColumn line) := by
      have := (Span.mem_covered_iff hfirst hlast hi).mp hcovered
      simp only [underlineAt]
      omega
    refine ⟨fun j hj => ?_, fun column hcolumn => ?_⟩
    case refine_1 =>
      rw [getElem?_stretch, hcarets]
      exact (Span.mem_covered_iff hfirst hlast hj).symm
    case refine_2 =>
      rw [getElem?_stretch, hcarets] at hcolumn
      exact Span.exists_mem_covered hfirst hlast hcolumn.1 hcolumn.2
  single hnone := by
    have hle : ¬ untabbed (span.source.lineText line) (span.firstColumn line)
        < untabbed (span.source.lineText line) (span.stopColumn line) := fun hlt =>
      have ⟨i, hi, _⟩ := Span.exists_mem_covered hfirst hlast (le_refl _) hlt
      hnone ⟨i, hi⟩
    have hone : (underlineAt span line).carets = 1 := by
      simp only [underlineAt]
      omega
    obtain ⟨j, hj⟩ := Span.exists_lineOf_eq_of_le hlast
    have hleast := Span.isLeast_firstColumn hfirst hj
    refine ⟨_, hleast, ?_⟩
    rw [hone, Source.echo_eq_untabbed, hleast.1.1, Source.lineStart_eq (hleast.1.1.trans hj.symm),
      Nat.add_sub_cancel_left]
    rfl

-- The carets under a source text:
-- 1. No subtraction on the way to them goes below zero: a line starts no later than the index it is
--    looked up for, and no column has more tabs before it than columns.
-- 2. Two rows are printed for each line from the one of the span's start to the one of its last
--    index.
-- 3. The rows are the line without its tabs, and carets under just what is covered.
theorem underlines_cover (span : Span) :
    (∀ i, span.source.lineStart i ≤ i) ∧
    (∀ line column, ((span.source.lineText line).take column).count '\t' ≤ column) ∧
    span.source.lineOf span.start.index ≤ span.source.lineOf span.lastIndex ∧
    ∃ rows : List (List Char × List Char),
      (underlines span).flatMap Underline.text
        = rows.flatMap (fun row => row.1 ++ '\n' :: row.2 ++ ['\n']) ∧
      List.Forall₂ (fun line row => Underlines span line row.1 row.2)
        (List.range' (span.source.lineOf span.start.index)
          (span.source.lineOf span.lastIndex + 1 - span.source.lineOf span.start.index)) rows := by
  refine ⟨fun i => (span.source.lineStart_le i).trans (min_le_left ..),
    fun line column => count_take_le _ column, span.lineOf_start_le_lineOf_lastIndex,
    (underlines span).map fun u =>
      (u.shown, List.replicate u.indent ' ' ++ List.replicate u.carets '^'), ?_, ?_⟩
  case refine_1 =>
    rw [List.flatMap_map]
    refine List.flatMap_congr fun u _ => ?_
    simp [Underline.text]
  case refine_2 =>
    rw [underlines, List.map_map, List.forall₂_map_right_iff, Span.touchedLines]
    refine List.forall₂_same.mpr fun line hline => ?_
    rw [List.mem_range'_1] at hline
    exact underlines_underlineAt hline.1 (by omega)

-- The tab has no column, and the newline is not shown on a line that is not the last.
example :
    let s : Source := ⟨"n", "a\tb\ncd".toList⟩
    underlines ⟨⟨s, 2, 0, 2⟩, ⟨s, 5, 1, 1⟩⟩ = [⟨['a', 'b'], 1, 1⟩, ⟨['c', 'd'], 0, 1⟩] := by
  decide

end Reckoner
