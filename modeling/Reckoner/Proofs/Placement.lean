import Reckoner.Proofs.Spelling

namespace Reckoner

namespace Position

@[simp]
theorem after_index (s : Source) (n : Nat) : (after s n).index = n := by
  simp [after, start]

@[simp]
theorem after_source (s : Source) (n : Nat) : (after s n).source = s := by
  simp [after, start]

-- Every newline that is stepped onto opens a line. The first character never is.
theorem after_line (s : Source) (n : Nat) :
    (after s n).line = (s.text.tail.take n).count '\n' := by
  induction n
  case zero => rfl
  case succ n ih =>
    have hnext : s.text.tail[n]? = s.charAt? (n + 1) := by simp [Source.charAt?]
    rw [List.take_add_one, List.count_append, ← ih, hnext]
    change (after s n).advance.line = _
    rw [advance, after_source, after_index]
    split
    case isTrue h => simp [h]
    case isFalse h =>
      cases hc : s.charAt? (n + 1) <;> simp_all

-- Where no newline stands before, only one that is stepped onto last opens a line.
theorem after_line_of_append {s : Source} {front rest : List Char} {n : Nat}
    (hs : s.text = front ++ rest) (hfront : '\n' ∉ front) (hn : n ≤ front.length) :
    (after s n).line = if 0 < n ∧ n = front.length ∧ rest.head? = some '\n' then 1 else 0 := by
  rw [after_line, hs]
  cases front
  case nil => simp [Nat.le_zero.mp hn]
  case cons c front =>
    have hnone : (front.take n).count '\n' = 0 :=
      List.count_eq_zero.mpr fun h => hfront (.tail _ (List.mem_of_mem_take h))
    rw [List.cons_append, List.tail_cons, List.take_append, List.count_append, hnone, Nat.zero_add]
    by_cases hlast : n = front.length + 1
    case neg =>
      rw [List.length_cons] at hn
      simp [hlast, Nat.sub_eq_zero_of_le (show n ≤ front.length by omega)]
    case pos =>
      subst hlast
      cases rest <;> simp [List.count_singleton]

end Position

namespace Span

-- A stretch of the text of a source, told by walking there from its start.
structure Lies (s : Source) (span : Span) : Prop where
  start : span.start = .after s span.start.index
  stop  : span.stop = .after s span.stop.index
  lt    : span.start.index < span.stop.index
  le    : span.stop.index ≤ s.length

theorem lies_after {s : Source} {m n : Nat} (hlt : m < n) (hle : n ≤ s.length) :
    Lies s ⟨.after s m, .after s n⟩ where
  start := by simp
  stop  := by simp
  lt    := by simpa using hlt
  le    := by simpa using hle

-- One span ends where the other begins, or before.
def Precedes (a b : Span) : Prop :=
  a.stop.index ≤ b.start.index

end Span

namespace Lexical

section Cutting

variable {s : Source} {l text rest : List Char} {ps : List Piece}

theorem IsLexeme.newline_not_mem (h : IsLexeme l) : '\n' ∉ l := by
  have hsymbols : ∀ x ∈ symbols, '\n' ∉ x.1 := by decide
  intro hmem
  rcases isLexeme_iff.mp h with ⟨_, hs⟩ | hn | hw
  · exact hsymbols _ hs hmem
  · exact absurd (hn.mem hmem) (by decide)
  · exact absurd (hw.mem hmem) (by decide)

theorem Cuts.newline_not_mem (h : Cuts text ps rest) : '\n' ∉ ps.flatMap Piece.text := by
  induction h
  case done | stuck => simp
  case blank hc _ ih => rcases hc with rfl | rfl <;> simpa [Piece.text] using ih
  case lexeme hl _ ih =>
    rw [List.flatMap_cons, List.mem_append]
    exact not_or.mpr ⟨hl.lexeme.newline_not_mem, ih⟩

-- The span of a lexeme of a cut.
def spanOf (s : Source) (x : Nat × List Char) : Span :=
  ⟨.after s x.1, .after s (x.1 + x.2.length)⟩

-- The lexemes of a cut follow each other, from where it begins up to where it ends.

theorem Cuts.lexeme_range (h : Cuts text ps rest) (i : Nat) : ∀ x ∈ lexemes i ps,
    i ≤ x.1 ∧ x.2 ≠ [] ∧ x.1 + x.2.length ≤ i + (ps.flatMap Piece.text).length := by
  induction h generalizing i
  case done | stuck => simp [lexemes]
  case blank ih =>
    intro x hx
    obtain ⟨hstart, hne, hstop⟩ := ih (i + 1) x hx
    rw [List.flatMap_cons, List.length_append, Piece.text, List.length_singleton]
    exact ⟨by omega, hne, by omega⟩
  case lexeme l _ _ _ hl _ ih =>
    rw [lexemes, List.flatMap_cons, List.length_append, Piece.text]
    refine List.forall_mem_cons.mpr ⟨?_, fun x hx => ?_⟩
    · exact ⟨Nat.le_refl _, hl.lexeme.ne_nil, Nat.add_le_add_left (Nat.le_add_right ..) _⟩
    · obtain ⟨hstart, hne, hstop⟩ := ih (i + l.length) x hx
      exact ⟨by omega, hne, by omega⟩

theorem Cuts.lexemes_pairwise (h : Cuts text ps rest) (i : Nat) :
    (lexemes i ps).Pairwise fun x y => x.1 + x.2.length ≤ y.1 := by
  induction h generalizing i
  case done | stuck => exact .nil
  case blank ih => exact ih (i + 1)
  case lexeme h ih => exact .cons (fun x hx => (h.lexeme_range _ x hx).left) (ih _)

theorem lies_spanOf {x : Nat × List Char} (hne : x.2 ≠ []) (hstop : x.1 + x.2.length ≤ s.length) :
    (spanOf s x).Lies s :=
  Span.lies_after (Nat.lt_add_of_pos_right (List.length_pos_iff.mpr hne)) hstop

end Cutting

section Tokens

variable {s : Source} {ts : List Token} {ls : List (Nat × List Char)}

theorem spans_of_isToken (h : List.Forall₂ (IsToken s) ls ts) :
    ts.map (·.span) = ls.map (spanOf s) := by
  induction h
  case nil => rfl
  case cons ht _ ih => rw [List.map_cons, List.map_cons, ih, ht.span, spanOf]

theorem outcome_of_source {ps : List Piece} {rest : List Char} (h : Cuts s.text ps rest) :
    Outcome s (lexemes 0 ps) (ps.flatMap Piece.text).length rest (tokenize s) := by
  have houtcome := @outcome_of_cuts s s.text rest [] ps h rfl
  rwa [List.length_nil, Nat.zero_add] at houtcome

-- The tokens of a text, and the one behind them that ends it.
theorem placed_of_tokenize (h : tokenize s = .ok ts) :
    ∃ w, ts = w ++ [.stopAt (.after s s.length)] ∧ (∀ t ∈ w, t.span.Lies s) ∧
      w.Pairwise (fun t u => t.span.Precedes u.span) ∧ '\n' ∉ s.text := by
  obtain ⟨ps, rest, hcuts⟩ := exists_cut s.text
  have houtcome := outcome_of_source hcuts
  rw [h] at houtcome
  generalize hls : lexemes 0 ps = ls at houtcome
  cases houtcome
  case tokens w hw =>
    have htext := hcuts.concat
    rw [List.append_nil] at htext
    have hspans := spans_of_isToken hw
    refine ⟨w, rfl, ?_, ?_, htext ▸ hcuts.newline_not_mem⟩
    case refine_1 =>
      suffices ∀ span ∈ w.map (·.span), span.Lies s by simpa using this
      rw [hspans, ← hls]
      simp only [List.forall_mem_map]
      intro x hx
      obtain ⟨_, hne, hstop⟩ := hcuts.lexeme_range _ x hx
      refine lies_spanOf hne ?_
      rwa [htext, Nat.zero_add] at hstop
    case refine_2 =>
      suffices (w.map (·.span)).Pairwise Span.Precedes by rwa [List.pairwise_map] at this
      rw [hspans, ← hls, List.pairwise_map]
      simpa [Span.Precedes, spanOf] using hcuts.lexemes_pairwise 0

end Tokens

end Lexical

end Reckoner
