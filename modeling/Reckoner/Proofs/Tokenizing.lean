import Reckoner.Proofs.Lexical

namespace Reckoner

namespace Lexical

inductive Piece where
  | blank (c : Char)
  | lexeme (l : List Char)

def Piece.text : Piece → List Char
  | blank c => [c]
  | lexeme l => l

-- A text is cut from its front, where a lexeme is taken only if no blank stands there. What remains
-- in the end is nothing, or it begins with no lexeme.
inductive Cuts : List Char → List Piece → List Char → Prop
  | done : Cuts [] [] []
  | blank {c text ps rest} : c = ' ' ∨ c = '\t' → Cuts text ps rest →
    Cuts (c :: text) (.blank c :: ps) rest
  | lexeme {l text ps rest} : Longest l (l ++ text) → Cuts text ps rest →
    Cuts (l ++ text) (.lexeme l :: ps) rest
  | stuck {c text} : c ≠ ' ' → c ≠ '\t' → NoLexeme (c :: text) → Cuts (c :: text) [] (c :: text)

-- The lexemes of a cut, each with the index of its first character.
def lexemes (i : Nat) : List Piece → List (Nat × List Char)
  | [] => []
  | .blank _ :: ps => lexemes (i + 1) ps
  | .lexeme l :: ps => (i, l) :: lexemes (i + l.length) ps

-- Where a lexeme stands in a source is where its token does, and its characters alone decide the
-- rest of the token.
structure IsToken (s : Source) (x : Nat × List Char) (t : Token) : Prop where
  spells  : Spells x.2 (.ok (t.kind, t.payload))
  alone   : ∀ m, Spells x.2 m → m = .ok (t.kind, t.payload)
  keyword : ∀ k, t.kind = .keyword k ↔ x.2 = k.word.toList
  float   : t.kind = .float ↔ '.' ∈ x.2
  span    : t.span = ⟨.after s x.1, .after s (x.1 + x.2.length)⟩
  range   : t.span.start.index = x.1 ∧ t.span.stop.index = x.1 + x.2.length
  text    : t.span.text = x.2

def HasMeaning (x : Nat × List Char) : Prop :=
  ∃ m, Spells x.2 (.ok m)

-- What comes of the lexemes of a cut, and of the text that remains after index `p`:
-- 1. All lexemes become tokens, and the text ends.
-- 2. An integer is too large.
-- 3. An exclamation mark stands alone.
-- 4. A character begins no lexeme.
inductive Outcome (s : Source) (ls : List (Nat × List Char)) (p : Nat) :
    List Char → Except Diagnostic (List Token) → Prop
  | tokens {ts} : List.Forall₂ (IsToken s) ls ts →
    Outcome s ls p [] (.ok (ts ++ [⟨.stop, none, ⟨.after s s.length, .after s (s.length + 1)⟩⟩]))
  | outOfRange {before i l behind rest} : ls = before ++ (i, l) :: behind →
    (∀ x ∈ before, HasMeaning x) → l ≠ [] → Digits l → Int64.maxValue.toInt < value l →
    Outcome s ls p rest (.error ⟨.invalidSyntax,
      "Integer literal " ++ String.ofList l ++ " is out of range",
      ⟨.after s i, .after s (i + l.length)⟩, []⟩)
  | bang {rest} : (∀ x ∈ ls, HasMeaning x) →
    Outcome s ls p ('!' :: rest) (.error ⟨.expectedCharacter, "'=' (after '!')",
      ⟨.after s p, .after s (p + 1)⟩, []⟩)
  | illegal {c rest} : (∀ x ∈ ls, HasMeaning x) → c ≠ '!' →
    Outcome s ls p (c :: rest) (.error ⟨.illegalCharacter, "'" ++ String.singleton c ++ "'",
      ⟨.after s p, .after s (p + 1)⟩, []⟩)

section Scanning

variable {l text rest : List Char} {c : Char} {p : Position} {fault : Lexeme.Fault}
  {m : Except Lexeme.Fault Meaning}

theorem isGap_iff : Scan.isGap c ↔ c = ' ' ∨ c = '\t' := by
  simp [Scan.isGap]

theorem IsLexeme.ne_nil (h : IsLexeme l) : l ≠ [] := by
  rcases isLexeme_iff.mp h with ⟨_, hs⟩ | hn | hw
  · have ⟨_, _, hl⟩ := symbol_head? hs
    exact fun h => absurd (h ▸ hl) (by simp)
  · have ⟨_, _, hl⟩ := hn.head?
    exact fun h => absurd (h ▸ hl) (by simp)
  · have ⟨_, _, hl⟩ := hw.head?
    exact fun h => absurd (h ▸ hl) (by simp)

theorem noLexeme_of_gap (h : Scan.isGap c) : NoLexeme (c :: text) := by
  intro l hl hfront
  rcases isGap_iff.mp h with rfl | rfl
  all_goals
    rcases hl.sort hfront with ⟨hm, _⟩ | ⟨hd | ⟨hd, _⟩, _⟩ | ⟨ha, _⟩
    · exact absurd hm (by decide)
    · exact absurd hd (by decide)
    · exact absurd hd (by decide)
    · exact absurd ha (by decide)

theorem front_of_longest (h : Longest (c :: l) (c :: (l ++ text))) (hm : Spells (c :: l) m) :
    Lexeme.front c (l ++ text) = ⟨l.length, m⟩ := by
  rcases front_found c (l ++ text) with ⟨l', hlength, hlongest, hspells⟩ | ⟨hnone, _⟩
  case inr => exact absurd h.front (hnone _ h.lexeme)
  case inl =>
    cases hlongest.unique h
    have htail := Nat.succ.inj hlength
    rw [hm.unique hspells, htail]

-- What scanning does at the front of a text: at a blank, at a lexeme with a meaning, at a lexeme
-- without one, and where there is no lexeme.

theorem scanFrom_gap (h : Scan.isGap c) :
    Scan.scanFrom p (c :: text) = Scan.scanFrom p.advance text := by
  rw [Scan.scanFrom, if_pos h]

theorem scanFrom_lexeme {kind : Token.Kind} {payload : Option Token.Payload}
    (h : Longest l (l ++ text)) (hm : Spells l (.ok (kind, payload))) :
    Scan.scanFrom p (l ++ text)
      = .cons ⟨kind, payload, .covering p l.length⟩ (Scan.scanFrom (p.forward l.length) text) := by
  have ⟨c, l, hl⟩ := List.exists_cons_of_ne_nil h.lexeme.ne_nil
  subst hl
  have hgap : ¬Scan.isGap c := fun hc => noLexeme_of_gap hc _ h.lexeme h.front
  rw [List.cons_append, Scan.scanFrom, if_neg hgap, front_of_longest h hm]
  simp [Span.covering]

theorem scanFrom_fault (h : Longest l (l ++ text)) (hm : Spells l (.error fault)) :
    Scan.scanFrom p (l ++ text) = .fail (.covering p l.length) fault := by
  have ⟨c, l, hl⟩ := List.exists_cons_of_ne_nil h.lexeme.ne_nil
  subst hl
  have hgap : ¬Scan.isGap c := fun hc => noLexeme_of_gap hc _ h.lexeme h.front
  rw [List.cons_append, Scan.scanFrom, if_neg hgap, front_of_longest h hm]
  simp

theorem scanFrom_stray (hgap : ¬Scan.isGap c) (h : NoLexeme (c :: text)) :
    Scan.scanFrom p (c :: text) = .fail (.covering p 1) (stray c) := by
  rcases front_found c text with ⟨_, _, hlongest, _⟩ | ⟨_, hfront⟩
  case inl => exact absurd hlongest.front (h _ hlongest.lexeme)
  case inr => rw [Scan.scanFrom, if_neg hgap, hfront]

end Scanning

section Cutting

variable {l text rest rest' : List Char} {ps ps' : List Piece} {c : Char}

theorem exists_longest (h : ¬NoLexeme (c :: text)) :
    ∃ l more, c :: text = l ++ more ∧ Longest l (c :: text) := by
  rcases front_found c text with ⟨l, _, hlongest, _⟩ | ⟨hnone, _⟩
  · have ⟨more, htext⟩ := hlongest.front
    exact ⟨l, more, htext.symm, hlongest⟩
  · contradiction

theorem exists_cut (text : List Char) : ∃ ps rest, Cuts text ps rest := by
  match text with
  | [] => exact ⟨_, _, .done⟩
  | c :: text =>
    by_cases hgap : Scan.isGap c
    case pos =>
      have ⟨ps, rest, h⟩ := exists_cut text
      exact ⟨_, _, .blank (isGap_iff.mp hgap) h⟩
    case neg =>
      by_cases hnone : NoLexeme (c :: text)
      case pos =>
        have ⟨hspace, htab⟩ := not_or.mp (isGap_iff.not.mp hgap)
        exact ⟨_, _, .stuck hspace htab hnone⟩
      case neg =>
        have ⟨l, more, htext, hlongest⟩ := exists_longest hnone
        have hpos := List.length_pos_iff.mpr hlongest.lexeme.ne_nil
        have hlength := congrArg List.length htext
        have ⟨ps, rest, h⟩ := exists_cut more
        rw [htext] at hlongest ⊢
        exact ⟨_, _, .lexeme hlongest h⟩
termination_by text.length
decreasing_by
  · simp
  · simp at hlength ⊢; omega

-- What stands at the front of a text decides its first piece.

theorem Cuts.of_blank (h : Cuts (c :: text) ps rest) (hc : c = ' ' ∨ c = '\t') :
    ∃ ps', ps = .blank c :: ps' ∧ Cuts text ps' rest := by
  have hnone : NoLexeme (c :: text) := noLexeme_of_gap (isGap_iff.mpr hc)
  generalize htext : c :: text = whole at h
  cases h
  case done => contradiction
  case blank _ h =>
    cases htext
    exact ⟨_, rfl, h⟩
  case lexeme hlongest _ => exact absurd (htext ▸ hlongest.front) (hnone _ hlongest.lexeme)
  case stuck hspace htab _ =>
    cases htext
    exact absurd hc (not_or.mpr ⟨hspace, htab⟩)

theorem Cuts.of_longest (h : Cuts (l ++ text) ps rest) (hl : Longest l (l ++ text)) :
    ∃ ps', ps = .lexeme l :: ps' ∧ Cuts text ps' rest := by
  generalize htext : l ++ text = whole at h hl
  cases h
  case done => exact absurd (List.append_eq_nil_iff.mp htext).left hl.lexeme.ne_nil
  case blank hc _ => exact absurd hl.front (noLexeme_of_gap (isGap_iff.mpr hc) _ hl.lexeme)
  case lexeme hlongest h =>
    cases hl.unique hlongest
    cases List.append_cancel_left htext
    exact ⟨_, rfl, h⟩
  case stuck hnone => exact absurd hl.front (hnone _ hl.lexeme)

theorem Cuts.of_stuck (h : Cuts (c :: text) ps rest) (hc : ¬(c = ' ' ∨ c = '\t'))
    (hnone : NoLexeme (c :: text)) : ps = [] ∧ rest = c :: text := by
  generalize htext : c :: text = whole at h hnone
  cases h
  case done => contradiction
  case blank hblank _ =>
    cases htext
    contradiction
  case lexeme hlongest _ => exact absurd hlongest.front (hnone _ hlongest.lexeme)
  case stuck => exact ⟨rfl, rfl⟩

theorem Cuts.unique (h : Cuts text ps rest) (h' : Cuts text ps' rest') :
    ps' = ps ∧ rest' = rest := by
  induction h generalizing ps'
  case done =>
    generalize htext : ([] : List Char) = text at h'
    cases h'
    case done => exact ⟨rfl, rfl⟩
    case lexeme hlongest _ =>
      exact absurd (List.append_eq_nil_iff.mp htext.symm).left hlongest.lexeme.ne_nil
    all_goals contradiction
  case blank hc _ ih =>
    have ⟨_, hps, h'⟩ := h'.of_blank hc
    have ⟨heq, hrest⟩ := ih h'
    exact ⟨by rw [hps, heq], hrest⟩
  case lexeme hlongest _ ih =>
    have ⟨_, hps, h'⟩ := h'.of_longest hlongest
    have ⟨heq, hrest⟩ := ih h'
    exact ⟨by rw [hps, heq], hrest⟩
  case stuck hspace htab hnone => exact h'.of_stuck (not_or.mpr ⟨hspace, htab⟩) hnone

theorem Cuts.concat (h : Cuts text ps rest) : ps.flatMap Piece.text ++ rest = text := by
  induction h
  case done => rfl
  case blank _ ih => simp [Piece.text, ih]
  case lexeme _ ih => simp [Piece.text, ih]
  case stuck => rfl

end Cutting

section Outcome

variable {s : Source} {l text rest before : List Char} {ps : List Piece} {kind : Token.Kind}
  {payload : Option Token.Payload} {fault : Lexeme.Fault}

theorem Spells.keyword_iff (h : Spells l (.ok (kind, payload))) (k : Keyword) :
    kind = .keyword k ↔ l = k.word.toList := by
  constructor
  case mp =>
    intro hk
    subst hk
    cases h
    case symbol h =>
      have hnot : ∀ x ∈ symbols, ∀ k ∈ Keyword.all, x.2 ≠ .keyword k := by decide
      exact absurd rfl (hnot _ h k (by cases k <;> decide))
    case keyword => rfl
  case mpr =>
    intro hl
    subst hl
    have heq := (Spells.keyword k).unique h
    simp at heq
    exact heq.left.symm

theorem Spells.float_iff (h : Spells l (.ok (kind, payload))) : kind = .float ↔ '.' ∈ l := by
  have hsymbols : ∀ x ∈ symbols, x.2 ≠ .float ∧ '.' ∉ x.1 := by decide
  cases h
  case symbol h => simp [hsymbols _ h]
  case integer hd _ => simp; exact fun h => absurd (hd _ h) (by decide)
  case float => simp
  case keyword k => cases k <;> simp [Keyword.word]
  case name c rest hc hrest _ =>
    simp
    refine ⟨fun h => absurd (h ▸ hc) (by decide), fun h => absurd (hrest _ h) (by decide)⟩

theorem Spells.error_inv (h : Spells l (.error fault)) :
    l ≠ [] ∧ Digits l ∧ Int64.maxValue.toInt < value l ∧ fault = .outOfRange l := by
  cases h
  case outOfRange hne hd hlt => exact ⟨hne, hd, hlt, rfl⟩

theorem after_advance (s : Source) (i : Nat) :
    (Position.after s i).advance = .after s (i + 1) :=
  rfl

theorem after_forward (s : Source) (i n : Nat) :
    (Position.after s i).forward n = .after s (i + n) := by
  induction n
  case zero => rfl
  case succ n ih => exact congrArg Position.advance ih

theorem isToken_covering (h : Spells l (.ok (kind, payload))) (hs : s.text = before ++ l ++ rest) :
    IsToken s (before.length, l)
      ⟨kind, payload, .covering (.after s before.length) l.length⟩ where
  spells  := h
  alone   := fun _ h' => h'.unique h
  keyword := h.keyword_iff
  float   := h.float_iff
  span    := by simp [Span.covering, after_forward]
  range   := by simp [Span.covering, Position.after, Position.start]
  text    := by
    simp [Span.text, Span.source, Span.length, Span.covering, Position.after, Position.start, hs]

theorem complete_cons (t : Token) (x : Scan) : (x.cons t).complete = x.complete.map (t :: ·) := by
  simp only [Scan.complete, Scan.cons]
  cases x.ending <;> rfl

theorem complete_fail (span : Span) (fault : Lexeme.Fault) :
    (Scan.fail span fault).complete = .error ⟨fault.kind, fault.details, span, []⟩ :=
  rfl

-- A token in front of the others keeps what comes of these.
theorem Outcome.cons {ls : List (Nat × List Char)} {p : Nat} {x : Nat × List Char} {t : Token}
    {y : Except Diagnostic (List Token)} (ht : IsToken s x t) (h : Outcome s ls p rest y) :
    Outcome s (x :: ls) p rest (y.map (t :: ·)) := by
  have hx : HasMeaning x := ⟨_, ht.spells⟩
  cases h
  case tokens hts => exact .tokens (.cons ht hts)
  case outOfRange before _ _ _ hls hbefore hne hd hlt =>
    have hls : x :: ls = (x :: before) ++ _ := congrArg (x :: ·) hls
    exact .outOfRange hls (List.forall_mem_cons.mpr ⟨hx, hbefore⟩) hne hd hlt
  case bang hls => exact .bang (List.forall_mem_cons.mpr ⟨hx, hls⟩)
  case illegal hls hc => exact .illegal (List.forall_mem_cons.mpr ⟨hx, hls⟩) hc

theorem outcome_of_cuts (h : Cuts text ps rest) (hs : s.text = before ++ text) :
    Outcome s (lexemes before.length ps) (before.length + (ps.flatMap Piece.text).length) rest
      (Scan.scanFrom (.after s before.length) text).complete := by
  induction h generalizing before
  case done =>
    have hlength : before.length = s.length := by simp [Source.length, hs]
    rw [hlength, Scan.scanFrom]
    exact .tokens .nil
  case blank c _ _ _ hc _ ih =>
    have h := @ih (before ++ [c]) (by simp [hs])
    rw [scanFrom_gap (isGap_iff.mpr hc), after_advance]
    simpa [lexemes, Piece.text, Nat.add_assoc, Nat.add_comm 1] using h
  case lexeme l _ _ _ hlongest _ ih =>
    have ⟨m, hm⟩ := hlongest.lexeme
    cases m
    case error fault =>
      have ⟨hne, hd, hlt, hfault⟩ := hm.error_inv
      rw [scanFrom_fault hlongest hm, complete_fail, hfault, Span.covering, after_forward]
      exact .outOfRange (List.nil_append _).symm (by simp) hne hd hlt
    case ok m =>
      have h := @ih (before ++ l) (by simp [hs])
      have ht := isToken_covering hm (hs.trans (List.append_assoc ..).symm)
      rw [scanFrom_lexeme hlongest hm, complete_cons, after_forward]
      simpa [lexemes, Piece.text, Nat.add_assoc] using h.cons ht
  case stuck c _ hspace htab hnone =>
    have hgap : ¬Scan.isGap c := isGap_iff.not.mpr (not_or.mpr ⟨hspace, htab⟩)
    rw [scanFrom_stray hgap hnone, complete_fail, Span.covering, after_forward]
    by_cases hc : c = '!'
    case pos =>
      subst hc
      exact .bang (by simp [lexemes])
    case neg =>
      rw [stray, if_neg hc]
      exact .illegal (by simp [lexemes]) hc

theorem exists_outcome (s : Source) : ∃ ls p rest, Outcome s ls p rest (tokenize s) := by
  obtain ⟨ps, rest, hcuts⟩ := exists_cut s.text
  exact ⟨_, _, _, @outcome_of_cuts s s.text rest [] ps hcuts rfl⟩

end Outcome

end Lexical

open Lexical

-- A text is cut into blanks and longest lexemes in one way only:
-- 1. the pieces and what remains make up the text
-- 2. the tokens are the lexemes where they stand, and the end of the text
-- 3. scanning fails at the first integer that is too large, or else where the cut ends early
theorem tokenize_takes_longest_lexemes (s : Source) :
    ∃ ps rest, (∀ ps' rest', Cuts s.text ps' rest' ↔ ps' = ps ∧ rest' = rest) ∧
      ps.flatMap Piece.text ++ rest = s.text ∧
      Outcome s (lexemes 0 ps) (ps.flatMap Piece.text).length rest (tokenize s) := by
  have ⟨ps, rest, h⟩ := exists_cut s.text
  refine ⟨ps, rest, fun ps' rest' => ⟨h.unique, ?_⟩, h.concat, ?_⟩
  case refine_1 =>
    intro ⟨hps, hrest⟩
    rwa [hps, hrest]
  case refine_2 =>
    have houtcome := @outcome_of_cuts s s.text rest [] ps h rfl
    rwa [List.length_nil, Nat.zero_add] at houtcome

end Reckoner
