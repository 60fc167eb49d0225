import Mathlib
import Reckoner.Source

namespace Reckoner

section Splitting

variable {α : Type} [DecidableEq α] {a : α} {l front rest : List α}

theorem length_splitOn : (l.splitOn a).length = l.count a + 1 := by
  induction l
  case nil => rfl
  case cons b l ih =>
    rw [List.splitOn_cons_eq_if_modifyHead, List.count_cons]
    split <;> simp [ih]

theorem head?_splitOn : (l.splitOn a).head? = some (l.takeWhile (· ≠ a)) := by
  induction l
  case nil => rfl
  case cons b l ih =>
    rw [List.splitOn_cons_eq_if_modifyHead, List.takeWhile_cons]
    split
    case isTrue h => simp [eq_of_beq h]
    case isFalse h => simp_all

theorem getElem?_splitOn_append (h : ∀ b ∈ front.getLast?, b = a) :
    ((front ++ rest).splitOn a)[front.count a]? = some (rest.takeWhile (· ≠ a)) := by
  obtain rfl | ⟨init, b, rfl⟩ := front.eq_nil_or_concat'
  case inl => rw [List.count_nil, List.nil_append, ← List.head?_eq_getElem?, head?_splitOn]
  case inr =>
    obtain rfl : b = a := h b (by simp)
    rw [List.append_assoc, List.singleton_append, List.splitOn_append_cons_self,
      List.count_append, List.count_singleton_self, ← length_splitOn,
      List.getElem?_append_right (le_refl _), Nat.sub_self, ← List.head?_eq_getElem?, head?_splitOn]

end Splitting

namespace Source

variable {s : Source} {i j column line : Nat} {front own : List Char}

def before (s : Source) (index : Nat) : List Char :=
  (s.text.take index).drop (s.lineStart index)

theorem lineStart_of_take (h : s.text.take i = front ++ own) (hown : '\n' ∉ own)
    (hfront : ∀ c ∈ front.getLast?, c = '\n') : s.lineStart i = front.length := by
  have hall : ∀ c ∈ own.reverse, decide (c ≠ '\n') = true := fun c hc =>
    decide_eq_true fun heq => hown (heq ▸ List.mem_reverse.mp hc)
  have hnone : front.reverse.takeWhile (· ≠ '\n') = [] := by
    cases hlast : front.reverse
    case nil => rfl
    case cons c rest =>
      have hc : c = '\n' := hfront c (by rw [← List.head?_reverse, hlast]; rfl)
      rw [hc]
      rfl
  simp only [lineStart, h]
  rw [List.reverse_append, List.takeWhile_append_of_pos hall, hnone]
  simp

theorem exists_front (s : Source) (i : Nat) : ∃ front own, s.text.take i = front ++ own ∧
    '\n' ∉ own ∧ ∀ c ∈ front.getLast?, c = '\n' := by
  refine ⟨((s.text.take i).reverse.dropWhile (· ≠ '\n')).reverse,
    ((s.text.take i).reverse.takeWhile (· ≠ '\n')).reverse, ?_, ?_, fun c hc => ?_⟩
  case refine_1 =>
    rw [← List.reverse_append, List.takeWhile_append_dropWhile, List.reverse_reverse]
  case refine_2 =>
    intro hmem
    simpa using List.mem_takeWhile_imp (List.mem_reverse.mp hmem)
  case refine_3 =>
    rw [List.getLast?_reverse] at hc
    have := List.head?_dropWhile_not (· ≠ '\n') (s.text.take i).reverse
    rw [hc] at this
    simpa using this

theorem take_lineStart_append_before (s : Source) (i : Nat) :
    s.text.take (s.lineStart i) ++ s.before i = s.text.take i := by
  have hle : s.lineStart i ≤ i := (s.lineStart_le i).trans (min_le_left ..)
  rw [before, ← min_eq_left hle, ← List.take_take, min_eq_left hle, List.take_append_drop]

theorem length_before (s : Source) (i : Nat) :
    (s.before i).length = min i s.length - s.lineStart i := by
  simp [before, Source.length]

theorem take_eq_front_append (s : Source) (i : Nat) : '\n' ∉ s.before i ∧
    ∀ c ∈ (s.text.take (s.lineStart i)).getLast?, c = '\n' := by
  obtain ⟨front, own, htake, hown, hfront⟩ := s.exists_front i
  have hstart := lineStart_of_take htake hown hfront
  have hbefore : s.before i = own := by
    rw [before, htake, hstart, List.drop_left]
  have hpre : s.text.take (s.lineStart i) = front := by
    have h := s.take_lineStart_append_before i
    rw [htake, hbefore] at h
    exact List.append_cancel_right h
  rw [hbefore, hpre]
  exact ⟨hown, hfront⟩

theorem newline_not_mem_before (s : Source) (i : Nat) : '\n' ∉ s.before i :=
  (s.take_eq_front_append i).1

theorem lineOf_lineStart (s : Source) (i : Nat) : s.lineOf (s.lineStart i) = s.lineOf i := by
  rw [lineOf, lineOf, ← s.take_lineStart_append_before i, List.count_append,
    List.count_eq_zero_of_not_mem (s.newline_not_mem_before i), Nat.add_zero]

theorem lineText_lineOf (s : Source) (i : Nat) :
    s.lineText (s.lineOf i) = s.before i ++ (s.text.drop i).takeWhile (· ≠ '\n') := by
  obtain ⟨hown, hfront⟩ := s.take_eq_front_append i
  have hwhole : s.text = s.text.take (s.lineStart i) ++ (s.before i ++ s.text.drop i) := by
    rw [← List.append_assoc, s.take_lineStart_append_before i, List.take_append_drop]
  have hpiece := @getElem?_splitOn_append Char _ '\n' _ (s.before i ++ s.text.drop i) hfront
  rw [← hwhole, List.takeWhile_append_of_pos fun c hc => by
    simpa using fun h : c = '\n' => hown (h ▸ hc)] at hpiece
  rw [lineText, lines, ← s.lineOf_lineStart i, lineOf, hpiece]
  rfl

theorem lineOf_mono (s : Source) : Monotone s.lineOf := fun _ _ h =>
  (List.take_sublist_take_left h).count_le _

theorem lt_of_lineOf_lt (h : s.lineOf i < s.lineOf j) : i < j :=
  s.lineOf_mono.reflect_lt h

theorem lineOf_le_of_charAt?_eq_none (h : s.charAt? i = none) (j : Nat) :
    s.lineOf j ≤ s.lineOf i := by
  rw [lineOf, lineOf, List.take_of_length_le (List.getElem?_eq_none_iff.mp h)]
  exact (List.take_sublist j s.text).count_le _

theorem lineOf_succ_le (s : Source) (i : Nat) : s.lineOf (i + 1) ≤ s.lineOf i + 1 := by
  rw [lineOf, lineOf, List.take_add_one, List.count_append]
  have hone : s.text[i]?.toList.count '\n' ≤ s.text[i]?.toList.length := List.count_le_length
  have hlength : s.text[i]?.toList.length ≤ 1 := by cases s.text[i]? <;> simp
  omega

theorem exists_lineOf_eq (s : Source) (h : line ≤ s.lineOf j) : ∃ i ≤ j, s.lineOf i = line := by
  induction j
  case zero => exact ⟨0, le_refl _, by simp_all [lineOf]⟩
  case succ j ih =>
    by_cases hj : line ≤ s.lineOf j
    case pos =>
      obtain ⟨i, hi, rfl⟩ := ih hj
      exact ⟨i, by omega, rfl⟩
    case neg =>
      have := s.lineOf_succ_le j
      exact ⟨j + 1, le_refl _, by omega⟩

theorem lineStart_eq_of_le (h : i ≤ j) (hline : s.lineOf i = s.lineOf j) :
    s.lineStart i = s.lineStart j := by
  obtain ⟨hown, hfront⟩ := s.take_eq_front_append i
  have htake : s.text.take j
      = s.text.take (s.lineStart i) ++ (s.before i ++ (s.text.take j).drop i) := by
    rw [← List.append_assoc, s.take_lineStart_append_before i, ← min_eq_left h, ← List.take_take,
      min_eq_left h, List.take_append_drop]
  have hnone : '\n' ∉ s.before i ++ (s.text.take j).drop i := by
    have hcount := congrArg (List.count '\n') htake
    rw [List.count_append] at hcount
    change s.lineOf j = s.lineOf (s.lineStart i) + _ at hcount
    rw [s.lineOf_lineStart i] at hcount
    exact List.count_eq_zero.mp (by omega)
  have hle := s.lineStart_le i
  rw [lineStart_of_take htake hnone hfront, List.length_take, Source.length] at *
  omega

theorem lineStart_eq (hline : s.lineOf i = s.lineOf j) : s.lineStart i = s.lineStart j := by
  obtain h | h := le_total i j
  case inl => exact lineStart_eq_of_le h hline
  case inr => exact (lineStart_eq_of_le h hline.symm).symm

theorem lineStart_lineStart (s : Source) (i : Nat) :
    s.lineStart (s.lineStart i) = s.lineStart i :=
  lineStart_eq (s.lineOf_lineStart i)

theorem lineText_eq_takeWhile (s : Source) (i : Nat) :
    s.lineText (s.lineOf i) = (s.text.drop (s.lineStart i)).takeWhile (· ≠ '\n') := by
  have hempty : s.before (s.lineStart i) = [] := by
    have hlength := s.length_before (s.lineStart i)
    rw [s.lineStart_lineStart] at hlength
    exact List.length_eq_zero_iff.mp (by omega)
  rw [← s.lineOf_lineStart i, lineText_lineOf, hempty, List.nil_append]

theorem newline_not_mem_lineText (s : Source) (i : Nat) : '\n' ∉ s.lineText (s.lineOf i) := by
  intro hmem
  rw [lineText_eq_takeWhile] at hmem
  simpa using List.mem_takeWhile_imp hmem

-- As many indexes as the line is wide, and the one behind them, are on it.
theorem lineOf_lineStart_add (h : column ≤ (s.lineText (s.lineOf i)).length) :
    s.lineOf (s.lineStart i + column) = s.lineOf i := by
  have hprefix : (s.text.drop (s.lineStart i)).take column
      = (s.lineText (s.lineOf i)).take column := by
    obtain ⟨rest, hrest⟩ := List.takeWhile_prefix (l := s.text.drop (s.lineStart i)) (· ≠ '\n')
    rw [← lineText_eq_takeWhile] at hrest
    rw [← hrest, List.take_append_of_le_length h]
  have hnone : '\n' ∉ (s.lineText (s.lineOf i)).take column := fun hmem =>
    s.newline_not_mem_lineText i (List.mem_of_mem_take hmem)
  rw [lineOf, List.take_add, List.count_append, hprefix, List.count_eq_zero_of_not_mem hnone]
  exact s.lineOf_lineStart i

theorem getElem?_lineText (h : column < (s.lineText (s.lineOf i)).length) :
    (s.lineText (s.lineOf i))[column]? = s.charAt? (s.lineStart i + column) := by
  obtain ⟨rest, hrest⟩ := List.takeWhile_prefix (l := s.text.drop (s.lineStart i)) (· ≠ '\n')
  rw [← lineText_eq_takeWhile] at hrest
  rw [charAt?, ← List.getElem?_drop, ← hrest, List.getElem?_append_left h]

theorem length_lineText_lineOf (s : Source) (i : Nat) :
    (s.lineText (s.lineOf i)).length
      = (min i s.length - s.lineStart i) + ((s.text.drop i).takeWhile (· ≠ '\n')).length := by
  rw [lineText_lineOf, List.length_append, length_before]

-- A character other than a newline stands within the width of its line.
theorem sub_lineStart_lt_length_lineText {c : Char} (hc : s.charAt? i = some c) (hne : c ≠ '\n') :
    i - s.lineStart i < (s.lineText (s.lineOf i)).length := by
  obtain ⟨hlt, rfl⟩ := List.getElem?_eq_some_iff.mp hc
  have hlen : s.length = s.text.length := rfl
  rw [length_lineText_lineOf, List.drop_eq_getElem_cons hlt,
    List.takeWhile_cons_of_pos (by simpa using hne), List.length_cons]
  omega

theorem length_lineText_of_charAt? (h : ∀ c ∈ s.charAt? i, c = '\n') :
    (s.lineText (s.lineOf i)).length = min i s.length - s.lineStart i := by
  have hnil : (s.text.drop i).takeWhile (· ≠ '\n') = [] := by
    cases hdrop : s.text.drop i
    case nil => rfl
    case cons c rest =>
      have hc : c = '\n' := h c (by rw [charAt?, ← List.head?_drop, hdrop]; rfl)
      rw [hc]
      rfl
  rw [length_lineText_lineOf, hnil, List.length_nil, Nat.add_zero]

-- A character other than a newline is found again in its line, as far from the start as it is in
-- the text.
theorem getElem?_lineText_of_charAt? {c : Char} (hc : s.charAt? i = some c) (hne : c ≠ '\n') :
    (s.lineText (s.lineOf i))[i - s.lineStart i]? = some c := by
  rw [getElem?_lineText (sub_lineStart_lt_length_lineText hc hne),
    Nat.add_sub_cancel' ((s.lineStart_le i).trans (min_le_left ..)), hc]

theorem charAt?_ne_newline (hstart : s.lineStart i ≤ j) (hj : j < min i s.length) :
    s.charAt? j ≠ some '\n' := by
  have hget : (s.before i)[j - s.lineStart i]? = s.charAt? j := by
    rw [before, List.getElem?_drop, Nat.add_sub_cancel' hstart,
      List.getElem?_take_of_lt (Nat.lt_of_lt_of_le hj (min_le_left ..)), charAt?]
  intro hc
  exact s.newline_not_mem_before i (List.mem_of_getElem? (hget.trans hc))

theorem charAt?_lineStart_pred (s : Source) (i : Nat) :
    s.lineStart i = 0 ∨ s.charAt? (s.lineStart i - 1) = some '\n' := by
  obtain ⟨_, hfront⟩ := s.take_eq_front_append i
  by_cases hzero : s.lineStart i = 0
  case pos => exact .inl hzero
  case neg =>
    have hlt : s.lineStart i - 1 < s.text.length := by
      have := s.lineStart_le i
      rw [Source.length] at this
      omega
    have hlast : (s.text.take (s.lineStart i)).getLast? = s.charAt? (s.lineStart i - 1) := by
      rw [List.getLast?_take, if_neg hzero, charAt?, List.getElem?_eq_getElem hlt, Option.some_or]
    rw [hlast, charAt?, List.getElem?_eq_getElem hlt] at hfront
    refine .inr ?_
    rw [charAt?, List.getElem?_eq_getElem hlt, hfront _ rfl]

theorem length_lines (s : Source) : s.lines.length = s.lineOf s.length + 1 := by
  rw [lines, length_splitOn, lineOf, Source.length, List.take_length]

theorem map_lineText_range (s : Source) : (List.range s.lines.length).map s.lineText = s.lines := by
  refine List.ext_getElem (by simp) fun line _ hline => ?_
  simp [lineText, List.getElem?_eq_getElem hline]

end Source

-- The number, the start and the text of a line tell of one way to cut a text into lines. For every
-- index, past the end of the text too:
-- 1. its line starts no later than it, with no newline from there up to the index
-- 2. and at the start of the text or behind a newline
-- 3. the text of its line is what stands from there up to the next newline or the end of the text
-- 4. a character has on its line the column that tells how far it is from the start of the line,
--    and a newline the one behind the last column
-- The lines up to that of the end of the text, joined by newlines, are the text, and all behind
-- them are empty.
theorem lines_partition_text (s : Source) :
    (∀ i,
      let start := s.lineStart i
      let text := s.lineText (s.lineOf i)
      start ≤ min i s.length ∧
      (∀ j, start ≤ j → j < min i s.length → s.charAt? j ≠ some '\n') ∧
      (start = 0 ∨ s.charAt? (start - 1) = some '\n') ∧
      text = (s.text.drop start).takeWhile (· ≠ '\n') ∧
      (∀ c, s.charAt? i = some c → c ≠ '\n' → text[i - start]? = some c) ∧
      (s.charAt? i = some '\n' → i - start = text.length)) ∧
    List.intercalate ['\n'] ((List.range (s.lineOf s.length + 1)).map s.lineText) = s.text ∧
    ∀ line, s.lineOf s.length < line → s.lineText line = [] := by
  refine ⟨fun i => ⟨s.lineStart_le i, fun j => Source.charAt?_ne_newline,
    s.charAt?_lineStart_pred i, s.lineText_eq_takeWhile i,
    fun c => Source.getElem?_lineText_of_charAt?, fun hc => ?width⟩, ?joined,
    fun line hline => ?behind⟩
  case width =>
    have hlt : i < s.length := (List.getElem?_eq_some_iff.mp hc).1
    have hwidth := Source.length_lineText_of_charAt? (s := s) (i := i) (by simp [hc])
    rw [hwidth, min_eq_left (Nat.le_of_lt hlt)]
  case joined =>
    rw [← s.length_lines, s.map_lineText_range, Source.lines, List.intercalate_splitOn]
  case behind =>
    have hnone : s.lines[line]? = none :=
      List.getElem?_eq_none (s.length_lines ▸ Nat.succ_le_of_lt hline)
    rw [Source.lineText, hnone, Option.getD_none]

-- A text that begins with an empty line and ends with two of them.
theorem lines_partition_text_blank :
    let s : Source := ⟨"n", ['\n', 'a', '\t', 'b', '\n', '\n']⟩
    (s.charAt? 3 = some 'b' ∧ (s.lineText (s.lineOf 3))[3 - s.lineStart 3]? = some 'b') ∧
    (s.charAt? 4 = some '\n' ∧ 4 - s.lineStart 4 = (s.lineText (s.lineOf 4)).length) ∧
    (s.lineStart 9 = 6 ∧ s.charAt? 5 = some '\n') ∧
    (s.lineStart 4 ≤ 2 ∧ s.charAt? 2 ≠ some '\n') ∧
    (s.lineOf s.length < 4 ∧ s.lineText 4 = []) := by
  intro s
  obtain ⟨hlines, _, hbehind⟩ := lines_partition_text s
  obtain ⟨_, _, _, _, hcolumn, _⟩ := hlines 3
  obtain ⟨_, hnone, _, _, _, hwidth⟩ := hlines 4
  obtain ⟨_, _, hstart, _⟩ := hlines 9
  have hsix : s.lineStart 9 = 6 := by decide
  refine ⟨⟨rfl, hcolumn 'b' rfl (by decide)⟩, ⟨rfl, hwidth rfl⟩, ⟨hsix, ?_⟩,
    ⟨by decide, hnone 2 (by decide) (by decide)⟩, by decide, hbehind 4 (by decide)⟩
  rw [hsix] at hstart
  exact hstart.resolve_left (by decide)

end Reckoner
