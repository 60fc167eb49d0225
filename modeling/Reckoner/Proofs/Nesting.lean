import Reckoner.Proofs.Placement
import Reckoner.Proofs.RoundTrip

namespace Reckoner

namespace Grammar

-- The token that a span starts with, and the one that it ends with.

def leading? (w : List Token) : Option Token :=
  w.find? (·.kind ∉ [.openParen, .keyword .var])

def trailing? (w : List Token) : Option Token :=
  w.reverse.find? (·.kind ≠ .closeParen)

-- A rule makes a tree of a part of a word.
def MadeIn (x : Exponents) (w : List Token) (e : Expr) : Prop :=
  ∃ r before part behind, w = before ++ part ++ behind ∧ Derives x r part e

theorem MadeIn.extend {x : Exponents} {w : List Token} {e : Expr} (h : MadeIn x w e)
    (u v : List Token) : MadeIn x (u ++ w ++ v) e := by
  obtain ⟨r, before, part, behind, rfl, hd⟩ := h
  exact ⟨r, u ++ before, part, behind ++ v, by simp, hd⟩

namespace Derives

variable {x : Exponents} {r : Rule} {w : List Token} {e : Expr}

theorem exists_leading (h : Derives x r w e) : ∃ t ∈ leading? w, e.span.start = t.span.start := by
  induction h
  case assignment name _ _ _ hv hn _ _ _ => exact ⟨name, by simp [leading?, hv, hn], rfl⟩
  case not t _ _ ht _ _ => exact ⟨t, by simp [leading?, ht], rfl⟩
  case sign t _ _ ht _ _ =>
    refine ⟨t, ?_, rfl⟩
    rcases ht with ht | ht <;> simp [leading?, ht]
  case number t ht =>
    refine ⟨t, ?_, rfl⟩
    rcases ht with ht | ht <;> simp [leading?, ht]
  case name t ht => exact ⟨t, by simp [leading?, ht], rfl⟩
  case parens ho _ _ ih =>
    obtain ⟨t, ht, hspan⟩ := ih
    exact ⟨t, by simp_all [leading?, List.find?_append], hspan⟩
  case join ihl _ =>
    obtain ⟨t, ht, hspan⟩ := ihl
    exact ⟨t, by simp_all [leading?, List.find?_append], hspan⟩
  all_goals assumption

theorem exists_trailing (h : Derives x r w e) : ∃ t ∈ trailing? w, e.span.stop = t.span.stop := by
  induction h
  case number t ht =>
    refine ⟨t, ?_, rfl⟩
    rcases ht with ht | ht <;> simp [trailing?, ht]
  case name t ht => exact ⟨t, by simp [trailing?, ht], rfl⟩
  case logical | relational | power | operand => assumption
  case assignment ih | not ih | sign ih | parens ih | join ih =>
    obtain ⟨t, ht, hspan⟩ := ih
    exact ⟨t, by simp_all [trailing?, List.find?_append], hspan⟩

theorem madeIn (h : Derives x r w e) : MadeIn x w e :=
  ⟨r, [], w, [], by simp, h⟩

-- All nodes of a tree are made of the tokens that the tree was made of.
theorem madeIn_of_mem_subtrees (h : Derives x r w e) : ∀ node ∈ e.subtrees, MadeIn x w node := by
  induction h
  case number ht => simpa [Expr.subtrees] using (number ht).madeIn
  case name ht => simpa [Expr.subtrees] using (name ht).madeIn
  case assignment var name eq w e hv hn ha hd ih =>
    rw [Expr.subtrees, List.forall_mem_cons]
    refine ⟨(assignment hv hn ha hd).madeIn, fun node hnode => ?_⟩
    simpa using (ih node hnode).extend [var, name, eq] []
  case not t w e ht hd ih =>
    rw [Expr.subtrees, List.forall_mem_cons]
    refine ⟨(not ht hd).madeIn, fun node hnode => ?_⟩
    simpa using (ih node hnode).extend [t] []
  case sign t w e ht hd ih =>
    rw [Expr.subtrees, List.forall_mem_cons]
    refine ⟨(sign ht hd).madeIn, fun node hnode => ?_⟩
    simpa using (ih node hnode).extend [t] []
  case parens o c w e ho hc hd ih =>
    exact fun node hnode => (ih node hnode).extend [o] [c]
  case join t u v l r ht hl hr ihl ihr =>
    rw [Expr.subtrees, List.forall_mem_cons, List.forall_mem_append]
    refine ⟨(join ht hl hr).madeIn, fun node hnode => ?_, fun node hnode => ?_⟩
    · exact (ihl node hnode).extend [] (t :: v)
    · simpa using (ihr node hnode).extend (u ++ [t]) []
  all_goals assumption

end Derives

end Grammar

-- One span lies within another one.
def Span.Within (a b : Span) : Prop :=
  b.start.index ≤ a.start.index ∧ a.stop.index ≤ b.stop.index

namespace Expr

-- The tokens of a tree stand in a text from left to right.
structure Laid (s : Source) (e : Expr) : Prop where
  lies  : ∀ t ∈ e.tokens, t.span.Lies s
  order : e.tokens.Pairwise fun t u => t.span.Precedes u.span

section Tokens

variable {e node : Expr}

theorem exists_first (e : Expr) : ∃ t rest, e.tokens = t :: rest ∧ e.span.start = t.span.start := by
  induction e
  case binary left operator right ih _ =>
    obtain ⟨t, rest, htokens, hspan⟩ := ih
    exact ⟨t, _, by rw [tokens, htokens, List.cons_append], hspan⟩
  all_goals exact ⟨_, _, rfl, rfl⟩

theorem exists_last (e : Expr) :
    ∃ front t, e.tokens = front ++ [t] ∧ e.span.stop = t.span.stop := by
  induction e
  case number t | var t => exact ⟨[], t, rfl, rfl⟩
  case binary left operator right _ ih =>
    obtain ⟨front, t, htokens, hspan⟩ := ih
    exact ⟨left.tokens ++ operator :: front, t, by simp [tokens, htokens], hspan⟩
  case unary t _ ih | assign t _ ih =>
    obtain ⟨front, last, htokens, hspan⟩ := ih
    exact ⟨t :: front, last, by simp [tokens, htokens], hspan⟩

theorem tokens_sublist (h : node ∈ e.subtrees) : node.tokens.Sublist e.tokens := by
  induction e <;> rw [subtrees] at h
  case number | var =>
    obtain rfl := List.mem_singleton.mp h
    exact List.Sublist.refl _
  case unary ih | assign ih =>
    obtain rfl | h := List.mem_cons.mp h
    · exact List.Sublist.refl _
    · exact (ih h).cons _
  case binary ihl ihr =>
    obtain rfl | h := List.mem_cons.mp h
    · exact List.Sublist.refl _
    rcases List.mem_append.mp h with h | h
    · exact (ihl h).trans (List.sublist_append_left ..)
    · exact ((ihr h).cons _).trans (List.sublist_append_right ..)

end Tokens

section Laid

variable {s : Source} {e node a b left right : Expr} {operator t : Token}
  {span : Span}

theorem mem_subtrees_self (e : Expr) : e ∈ e.subtrees := by
  cases e <;> exact List.mem_cons_self ..

theorem Laid.of_mem_subtrees (h : e.Laid s) (hnode : node ∈ e.subtrees) : node.Laid s where
  lies  := fun t ht => h.lies t ((tokens_sublist hnode).subset ht)
  order := h.order.sublist (tokens_sublist hnode)

-- What comes after all tokens of a tree, or before them, does so of its span.

theorem precedes_of_tokens (h : ∀ t ∈ e.tokens, t.span.Precedes span) : e.span.Precedes span := by
  obtain ⟨front, t, htokens, hspan⟩ := exists_last e
  rw [Span.Precedes, hspan]
  exact h t (by simp [htokens])

theorem tokens_precede (h : ∀ t ∈ e.tokens, span.Precedes t.span) : span.Precedes e.span := by
  obtain ⟨t, rest, htokens, hspan⟩ := exists_first e
  rw [Span.Precedes, hspan]
  exact h t (by simp [htokens])

theorem Laid.covers (h : e.Laid s) (ht : t ∈ e.tokens) : t.span.Within e.span := by
  constructor
  case left =>
    obtain ⟨first, rest, htokens, hspan⟩ := exists_first e
    rw [hspan]
    obtain ⟨horder, _⟩ := List.pairwise_cons.mp (htokens ▸ h.order)
    rcases List.mem_cons.mp (htokens ▸ ht) with rfl | ht
    · exact Nat.le_refl _
    · have hlies := h.lies first (by simp [htokens])
      exact Nat.le_trans (Nat.le_of_lt hlies.lt) (horder t ht)
  case right =>
    obtain ⟨front, last, htokens, hspan⟩ := exists_last e
    rw [hspan]
    obtain ⟨_, _, horder⟩ := List.pairwise_append.mp (htokens ▸ h.order)
    rcases List.mem_append.mp (htokens ▸ ht) with ht | ht
    · have hlies := h.lies last (by simp [htokens])
      exact Nat.le_trans (horder t ht last (by simp)) (Nat.le_of_lt hlies.lt)
    · obtain rfl := List.mem_singleton.mp ht
      exact Nat.le_refl _

theorem Laid.within (h : e.Laid s) (hnode : node ∈ e.subtrees) : node.span.Within e.span := by
  have hsubset := (tokens_sublist hnode).subset
  obtain ⟨first, _, hfirst, hstart⟩ := exists_first node
  obtain ⟨_, last, hlast, hstop⟩ := exists_last node
  have hfirst := h.covers (hsubset (by simp [hfirst] : first ∈ node.tokens))
  have hlast := h.covers (hsubset (by simp [hlast] : last ∈ node.tokens))
  exact ⟨hstart ▸ hfirst.left, hstop ▸ hlast.right⟩

theorem Laid.span_lies (h : e.Laid s) : e.span.Lies s := by
  obtain ⟨first, _, hfirst, hstart⟩ := exists_first e
  obtain ⟨_, last, hlast, hstop⟩ := exists_last e
  have hfirst : first ∈ e.tokens := by simp [hfirst]
  have hlast : last ∈ e.tokens := by simp [hlast]
  have hcovered := (h.covers hlast).left
  exact {
    start := hstart ▸ (h.lies first hfirst).start
    stop  := hstop ▸ (h.lies last hlast).stop
    lt    := Nat.lt_of_le_of_lt hcovered (hstop ▸ (h.lies last hlast).lt)
    le    := hstop ▸ (h.lies last hlast).le
  }

theorem Laid.binary_order (h : (binary left operator right).Laid s) :
    left.span.Precedes operator.span ∧ operator.span.Precedes right.span := by
  obtain ⟨_, hright, hleft⟩ := List.pairwise_append.mp h.order
  obtain ⟨hright, _⟩ := List.pairwise_cons.mp hright
  exact ⟨precedes_of_tokens fun t ht => hleft t ht operator (by simp), tokens_precede hright⟩

-- Two nodes lie within each other, or one of them comes first.
theorem Laid.nested (h : e.Laid s) (ha : a ∈ e.subtrees) (hb : b ∈ e.subtrees) :
    a.span.Within b.span ∨ b.span.Within a.span ∨
      a.span.Precedes b.span ∨ b.span.Precedes a.span := by
  induction e
  case number | var =>
    obtain rfl := List.mem_singleton.mp ha
    exact .inr (.inl (h.within hb))
  case unary operand ih | assign operand ih =>
    have hoperand : operand.Laid s :=
      h.of_mem_subtrees (List.mem_cons_of_mem _ (mem_subtrees_self operand))
    rcases List.mem_cons.mp ha with rfl | ha'
    · exact .inr (.inl (h.within hb))
    rcases List.mem_cons.mp hb with rfl | hb'
    · exact .inl (h.within ha)
    exact ih hoperand ha' hb'
  case binary left operator right ihl ihr =>
    have hleft : left.Laid s :=
      h.of_mem_subtrees (List.mem_cons_of_mem _ (List.mem_append_left _ (mem_subtrees_self left)))
    have hright : right.Laid s :=
      h.of_mem_subtrees (List.mem_cons_of_mem _ (List.mem_append_right _ (mem_subtrees_self right)))
    have hapart : ∀ a ∈ left.subtrees, ∀ b ∈ right.subtrees, a.span.Precedes b.span := by
      obtain ⟨_, _, horder⟩ := List.pairwise_append.mp h.order
      intro a ha b hb
      refine precedes_of_tokens fun t ht => tokens_precede fun u hu => ?_
      exact horder t ((tokens_sublist ha).subset ht) u (.tail _ ((tokens_sublist hb).subset hu))
    rcases List.mem_cons.mp ha with rfl | ha'
    · exact .inr (.inl (h.within hb))
    rcases List.mem_cons.mp hb with rfl | hb'
    · exact .inl (h.within ha)
    rcases List.mem_append.mp ha' with ha' | ha' <;> rcases List.mem_append.mp hb' with hb' | hb'
    · exact ihl hleft ha' hb'
    · exact .inr (.inr (.inl (hapart a ha' b hb')))
    · exact .inr (.inr (.inr (hapart b hb' a ha')))
    · exact ihr hright ha' hb'

end Laid

end Expr

open Grammar

section Parsing

variable {s : Source} {ts : List Token} {e : Expr}

theorem laid_of_derives {x : Exponents} {r : Rule} {w : List Token}
    (hlies : ∀ t ∈ w, t.span.Lies s)
    (horder : w.Pairwise fun t u => t.span.Precedes u.span) (h : Derives x r w e) : e.Laid s := by
  have hsublist : e.tokens.Sublist w := h.tokens_eq ▸ List.filter_sublist
  exact ⟨fun t ht => hlies t (hsublist.subset ht), horder.sublist hsublist⟩

-- A tree that was read from a text is derived from its tokens, and laid out like them.
theorem derives_of_parse (htokens : tokenize s = .ok ts) (hparse : parse ts = .ok e) :
    ∃ w, ts = w ++ [.stopAt (.after s s.length)] ∧ Derives .one .expression w e ∧ e.Laid s := by
  obtain ⟨w, hw, hlies, horder, _⟩ := Lexical.placed_of_tokenize htokens
  obtain ⟨w', _, hw', _, hiff⟩ := parse_tokenized htokens
  obtain ⟨rfl, _⟩ := List.append_inj' (hw.symm.trans hw') rfl
  have hderives := (hiff e).mp hparse
  exact ⟨w, hw, hderives, laid_of_derives hlies horder hderives⟩

end Parsing

-- The spans in a tree that was read from a text:
-- 1. all nodes are made by a rule from consecutive tokens
-- 2. and a tree that a rule makes of tokens starts with the first of them that is no opening
--    parenthesis and no keyword of an assignment, and ends with the last one that is no closing
--    parenthesis
-- 3. so the span of a node is not empty, lies in the text, and holds the spans of all nodes within
-- 4. the parts of a node follow each other in the order in which they were written
-- 5. and two nodes lie within each other or apart
theorem spans_run_and_nest {s : Source} {ts : List Token} {e : Expr}
    (htokens : tokenize s = .ok ts) (hparse : parse ts = .ok e) :
    (∀ node ∈ e.subtrees, ∃ r before part behind,
      ts = before ++ part ++ behind ∧ Derives .one r part node) ∧
    (∀ r part node, Derives .one r part node →
      (∃ t ∈ leading? part, node.span.start = t.span.start) ∧
      ∃ t ∈ trailing? part, node.span.stop = t.span.stop) ∧
    (∀ node ∈ e.subtrees, node.span.Lies s ∧
      ∀ inner ∈ node.subtrees, inner.span.Within node.span) ∧
    (∀ left operator right, .binary left operator right ∈ e.subtrees →
      left.span.Precedes operator.span ∧ operator.span.Lies s ∧
        operator.span.Precedes right.span) ∧
    (∀ operator operand, .unary operator operand ∈ e.subtrees →
      operator.span.Precedes operand.span) ∧
    (∀ name value, .assign name value ∈ e.subtrees → name.span.Precedes value.span) ∧
    (∀ a ∈ e.subtrees, ∀ b ∈ e.subtrees,
      a.span.Within b.span ∨ b.span.Within a.span ∨
        a.span.Precedes b.span ∨ b.span.Precedes a.span) := by
  obtain ⟨w, rfl, hderives, hlaid⟩ := derives_of_parse htokens hparse
  refine ⟨fun node hnode => ?_, fun r part node h => ⟨h.exists_leading, h.exists_trailing⟩,
    fun node hnode => ?_, fun left operator right hnode => ?_, fun operator operand hnode => ?_,
    fun name value hnode => ?_, fun a ha b hb => hlaid.nested ha hb⟩
  case refine_1 =>
    exact (hderives.madeIn_of_mem_subtrees node hnode).extend [] [.stopAt (.after s s.length)]
  case refine_2 =>
    have hnode := hlaid.of_mem_subtrees hnode
    exact ⟨hnode.span_lies, fun inner hinner => hnode.within hinner⟩
  case refine_3 =>
    have hnode := hlaid.of_mem_subtrees hnode
    obtain ⟨hleft, hright⟩ := hnode.binary_order
    exact ⟨hleft, hnode.lies operator (by simp [Expr.tokens]), hright⟩
  case refine_4 =>
    have hnode := hlaid.of_mem_subtrees hnode
    exact Expr.tokens_precede (List.pairwise_cons.mp hnode.order).left
  case refine_5 =>
    have hnode := hlaid.of_mem_subtrees hnode
    exact Expr.tokens_precede (List.pairwise_cons.mp hnode.order).left

-- In `(VAR a = -(1 + 2)) * 3` no span has a parenthesis at its end or the keyword at its start, and
-- the assignment stands before the product's right operand.
theorem spans_run_and_nest_product :
    let s := Source.ofString "a" "(VAR a = -(1 + 2)) * 3"
    ∃ ts e, tokenize s = .ok ts ∧ parse ts = .ok e ∧
      e.subtrees.map (·.span.range)
        = [(5, 22), (5, 16), (9, 16), (11, 16), (11, 12), (15, 16), (21, 22)] ∧
      (∀ node ∈ e.subtrees, node.span.Lies s) ∧
      ∀ a ∈ e.subtrees, ∀ b ∈ e.subtrees,
        a.span.Within b.span ∨ b.span.Within a.span ∨
          a.span.Precedes b.span ∨ b.span.Precedes a.span := by
  intro s
  have hread : ((tokenize s).bind parse).toOption.map (·.subtrees.map (·.span.range))
      = some [(5, 22), (5, 16), (9, 16), (11, 16), (11, 12), (15, 16), (21, 22)] := by
    decide +kernel
  cases htokens : tokenize s <;> rw [htokens] at hread
  case error => cases hread
  case ok ts =>
    cases hparse : parse ts <;> simp only [Except.bind, hparse] at hread
    case error => cases hread
    case ok e =>
      obtain ⟨_, _, hwithin, _, _, _, hnested⟩ := spans_run_and_nest htokens hparse
      have hlies : ∀ node ∈ e.subtrees, node.span.Lies s := fun node hnode =>
        (hwithin node hnode).left
      exact ⟨ts, e, rfl, hparse, Option.some.inj hread, hlies, hnested⟩

end Reckoner
