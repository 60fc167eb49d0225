import Reckoner.Proofs.Spelling

namespace Reckoner

-- Spans of which the second one stands further on.
structure Span.Moved (steps : Nat) (a b : Span) : Prop where
  start : b.start.index = a.start.index + steps
  stop  : b.stop.index = a.stop.index + steps

structure Token.Moved (steps : Nat) (t t' : Token) : Prop where
  kind    : t'.kind = t.kind
  payload : t'.payload = t.payload
  span    : t.span.Moved steps t'.span

structure Diagnostic.Moved (steps : Nat) (d d' : Diagnostic) : Prop where
  kind      : d'.kind = d.kind
  details   : d'.details = d.details
  span      : d.span.Moved steps d'.span
  traceback : d'.traceback = d.traceback

namespace Position

theorem forward_forward (p : Position) (m n : Nat) :
    (p.forward m).forward n = p.forward (m + n) := by
  induction n
  case zero => rfl
  case succ n ih => exact congrArg advance ih

theorem advance_forward (p : Position) (n : Nat) : p.advance.forward n = p.forward (n + 1) := by
  rw [Nat.add_comm]
  exact forward_forward p 1 n

end Position

namespace Lexical

section Front

variable {c blank : Char} {text rest more : List Char}

-- A lexeme ends before a blank, so what stands behind this makes no difference.

theorem takeWhile_append_blank {p : Char → Bool} (h : ¬p blank) :
    (text ++ blank :: more).takeWhile p = text.takeWhile p := by
  rw [List.takeWhile_append]
  split
  case isTrue hall =>
    rw [List.takeWhile_cons_of_neg h, List.append_nil]
    exact ((List.takeWhile_prefix p).eq_of_length hall).symm
  case isFalse => rfl

theorem dropWhile_append_blank {p : Char → Bool} (h : ¬p blank) :
    (text ++ blank :: more).dropWhile p = text.dropWhile p ++ blank :: more := by
  rw [List.dropWhile_append]
  split
  case isTrue hnone =>
    rw [List.isEmpty_iff.mp hnone, List.dropWhile_cons_of_neg h, List.nil_append]
  case isFalse => rfl

theorem not_isDigit_of_isGap (h : Scan.isGap blank) : ¬blank.isDigit := by
  rcases isGap_iff.mp h with rfl | rfl <;> decide

theorem not_isAlphanumeric_of_isGap (h : Scan.isGap blank) : ¬Text.isAlphanumeric blank := by
  rcases isGap_iff.mp h with rfl | rfl <;> decide

theorem startsWithDigit_append_blank (h : Scan.isGap blank) :
    Lexeme.startsWithDigit (rest ++ blank :: more) = Lexeme.startsWithDigit rest := by
  cases rest
  case nil => simpa [Lexeme.startsWithDigit] using not_isDigit_of_isGap h
  case cons => rfl

theorem bang_append_blank (h : Scan.isGap blank) :
    Lexeme.bang (rest ++ blank :: more) = Lexeme.bang rest := by
  cases rest
  case nil => rcases isGap_iff.mp h with rfl | rfl <;> rfl
  case cons d rest => by_cases hd : d = '=' <;> simp [Lexeme.bang, hd]

theorem orWithEquals_append_blank (h : Scan.isGap blank) (plain withEquals : Token.Kind) :
    Lexeme.orWithEquals (rest ++ blank :: more) plain withEquals
      = Lexeme.orWithEquals rest plain withEquals := by
  cases rest
  case nil => rcases isGap_iff.mp h with rfl | rfl <;> rfl
  case cons d rest => by_cases hd : d = '=' <;> simp [Lexeme.orWithEquals, hd]

theorem number_append_blank (h : Scan.isGap blank) :
    Lexeme.number (text ++ blank :: more) = Lexeme.number text := by
  have hdigit := not_isDigit_of_isGap h
  simp only [Lexeme.number, takeWhile_append_blank hdigit, dropWhile_append_blank hdigit]
  cases text.dropWhile Char.isDigit
  case nil => rcases isGap_iff.mp h with rfl | rfl <;> rfl
  case cons d after => by_cases hd : d = '.' <;> simp [hd, takeWhile_append_blank hdigit]

theorem word_append_blank (h : Scan.isGap blank) :
    Lexeme.word (text ++ blank :: more) = Lexeme.word text := by
  simp only [Lexeme.word, takeWhile_append_blank (not_isAlphanumeric_of_isGap h)]

theorem front_append_blank (h : Scan.isGap blank) :
    Lexeme.front c (rest ++ blank :: more) = Lexeme.front c rest := by
  simp only [Lexeme.front, ← List.cons_append, bang_append_blank h, orWithEquals_append_blank h,
    startsWithDigit_append_blank h, number_append_blank h, word_append_blank h]

theorem tail_front_le (c : Char) (rest : List Char) : (Lexeme.front c rest).tail ≤ rest.length := by
  rcases front_found c rest with ⟨l, hlength, hlongest, _⟩ | ⟨_, hfront⟩
  case inl =>
    have hle := hlongest.front.length_le
    rw [hlength, List.length_cons] at hle
    exact Nat.le_of_succ_le_succ hle
  case inr => exact hfront ▸ Nat.zero_le _

end Front

end Lexical

namespace Scan

open Lexical

-- What scanning finds in one text and, unless it fails there, in another one behind it.
def followedBy (s next : Scan) : Scan :=
  match s.ending with
  | .error _ => s
  | .ok _ => ⟨s.tokens ++ next.tokens, next.ending⟩

section Followed

variable {blank : Char} {text more : List Char} {p : Position}

theorem cons_followedBy (t : Token) (s next : Scan) :
    (s.cons t).followedBy next = (s.followedBy next).cons t := by
  cases h : s.ending <;> simp [followedBy, cons, h]

theorem scanFrom_append_blank (h : isGap blank) : scanFrom p (text ++ blank :: more) =
    (scanFrom p text).followedBy (scanFrom (p.forward (text.length + 1)) more) := by
  fun_induction scanFrom p text
  case case1 p => exact scanFrom_gap h
  case case2 p c rest hc ih =>
    rw [List.cons_append, scanFrom_gap hc, ih, Position.advance_forward]
    rfl
  case case3 p c rest hc lexeme span fault hfault =>
    have hfront : Lexeme.front c (rest ++ blank :: more) = lexeme := front_append_blank h
    rw [List.cons_append, scanFrom, if_neg hc]
    simp only [hfront, hfault]
    rfl
  case case4 p c rest hc lexeme span kind payload hmeaning ih =>
    have hfront : Lexeme.front c (rest ++ blank :: more) = lexeme := front_append_blank h
    have hle : lexeme.tail ≤ rest.length := tail_front_le c rest
    have hstop : span.stop.forward ((rest.drop lexeme.tail).length + 1)
        = p.forward ((c :: rest).length + 1) := by
      change (p.forward (lexeme.tail + 1)).forward _ = _
      rw [Position.forward_forward, List.length_drop, List.length_cons]
      congr 1
      omega
    rw [List.cons_append, scanFrom, if_neg hc]
    simp only [hfront, hmeaning]
    rw [List.drop_append_of_le_length hle, ih, cons_followedBy, hstop]

end Followed

inductive EndsMoved (steps : Nat) : Except Diagnostic Token → Except Diagnostic Token → Prop
  | stop {t t'}    : t.Moved steps t' → EndsMoved steps (.ok t) (.ok t')
  | failure {d d'} : d.Moved steps d' → EndsMoved steps (.error d) (.error d')

-- The same scan of a text that stands further on.
structure Moved (steps : Nat) (s s' : Scan) : Prop where
  tokens : List.Forall₂ (Token.Moved steps) s.tokens s'.tokens
  ending : EndsMoved steps s.ending s'.ending

section Moved

variable {steps : Nat} {text : List Char} {p q : Position} {s s' : Scan} {d : Diagnostic}
  {ts : List Token}

theorem covering_moved (h : q.index = p.index + steps) (n : Nat) :
    (Span.covering p n).Moved steps (Span.covering q n) where
  start := h
  stop  := by simp only [Span.covering, Position.forward_index, h]; omega

theorem scanFrom_moved (h : q.index = p.index + steps) :
    (scanFrom p text).Moved steps (scanFrom q text) := by
  fun_induction scanFrom p text generalizing q
  case case1 p =>
    rw [scanFrom]
    exact ⟨.nil, .stop ⟨rfl, rfl, covering_moved h 1⟩⟩
  case case2 p c rest hc ih =>
    rw [scanFrom_gap hc]
    exact ih (by simp only [Position.advance_index, h]; omega)
  case case3 p c rest hc lexeme span fault hfault =>
    rw [scanFrom, if_neg hc]
    simp only [lexeme] at hfault
    simp only [hfault]
    exact ⟨.nil, .failure ⟨rfl, rfl, covering_moved h _, rfl⟩⟩
  case case4 p c rest hc lexeme span kind payload hmeaning ih =>
    have hspan := covering_moved h (lexeme.tail + 1)
    have hrest := ih hspan.stop
    rw [scanFrom, if_neg hc]
    simp only [lexeme] at hmeaning
    simp only [hmeaning]
    exact ⟨.cons ⟨rfl, rfl, hspan⟩ hrest.tokens, hrest.ending⟩

theorem complete_eq_error_iff : s.complete = .error d ↔ s.ending = .error d := by
  rw [complete]
  cases s.ending <;> simp [Except.map]

theorem complete_eq_ok_iff :
    s.complete = .ok ts ↔ ∃ stop, s.ending = .ok stop ∧ ts = s.tokens ++ [stop] := by
  rw [complete]
  cases s.ending <;> simp [Except.map, eq_comm]

end Moved

end Scan

open Lexical

theorem Token.meaning_eq_of_moved {steps : Nat} {t t' : Token} (h : t.Moved steps t') :
    t'.meaning = t.meaning :=
  Prod.ext h.kind h.payload

theorem map_meaning_of_moved {steps : Nat} {ts ts' : List Token}
    (h : List.Forall₂ (Token.Moved steps) ts ts') :
    ts'.map Token.meaning = ts.map Token.meaning := by
  induction h
  case nil => rfl
  case cons ht _ ih => rw [List.map_cons, List.map_cons, Token.meaning_eq_of_moved ht, ih]

section Joined

variable {blank : Char} {a b : List Char} {name name₁ name₂ : String} {d : Diagnostic}
  {ts us : List Token}

-- The scan of a joined text is made of the scans of the two, of which the second has moved.
theorem exists_scans (h : Scan.isGap blank) : ∃ s₁ s₂,
    tokenize ⟨name, a ++ blank :: b⟩ = (s₁.followedBy s₂).complete ∧
      (Scan.ofSource ⟨name₁, a⟩).Moved 0 s₁ ∧
      (Scan.ofSource ⟨name₂, b⟩).Moved (a.length + 1) s₂ := by
  refine ⟨_, _, congrArg Scan.complete (Scan.scanFrom_append_blank h), ?_, ?_⟩
  · exact Scan.scanFrom_moved rfl
  · exact Scan.scanFrom_moved (by simp [Position.start])

theorem tokenize_joined_of_left (h : Scan.isGap blank) (ha : tokenize ⟨name₁, a⟩ = .error d) :
    ∃ d', tokenize ⟨name, a ++ blank :: b⟩ = .error d' ∧ d.Moved 0 d' := by
  obtain ⟨s₁, s₂, hjoined, ⟨_, h₁⟩, _⟩ := @exists_scans blank a b name name₁ name h
  rw [Scan.complete_eq_error_iff.mp ha] at h₁
  generalize hending : s₁.ending = ending at h₁
  cases h₁
  case failure d' hd =>
    refine ⟨d', ?_, hd⟩
    rw [hjoined, Scan.complete_eq_error_iff]
    simp only [Scan.followedBy, hending]

theorem tokenize_joined_of_right (h : Scan.isGap blank) (ha : tokenize ⟨name₁, a⟩ = .ok ts)
    (hb : tokenize ⟨name₂, b⟩ = .error d) :
    ∃ d', tokenize ⟨name, a ++ blank :: b⟩ = .error d' ∧ d.Moved (a.length + 1) d' := by
  obtain ⟨s₁, s₂, hjoined, ⟨_, h₁⟩, _, h₂⟩ := @exists_scans blank a b name name₁ name₂ h
  obtain ⟨stop, hstop, _⟩ := Scan.complete_eq_ok_iff.mp ha
  rw [hstop] at h₁
  rw [Scan.complete_eq_error_iff.mp hb] at h₂
  generalize hending₁ : s₁.ending = ending₁ at h₁
  generalize hending₂ : s₂.ending = ending₂ at h₂
  cases h₁
  cases h₂
  case failure d' hd =>
    refine ⟨d', ?_, hd⟩
    rw [hjoined, Scan.complete_eq_error_iff]
    simp only [Scan.followedBy, hending₁, hending₂]

theorem tokenize_joined (h : Scan.isGap blank) (ha : tokenize ⟨name₁, a⟩ = .ok ts)
    (hb : tokenize ⟨name₂, b⟩ = .ok us) :
    ∃ w stop ts' us', ts = w ++ [stop] ∧ stop.kind = .stop ∧
      tokenize ⟨name, a ++ blank :: b⟩ = .ok (ts' ++ us') ∧
      List.Forall₂ (Token.Moved 0) w ts' ∧ List.Forall₂ (Token.Moved (a.length + 1)) us us' := by
  obtain ⟨s₁, s₂, hjoined, ⟨htokens₁, h₁⟩, htokens₂, h₂⟩ :=
    @exists_scans blank a b name name₁ name₂ h
  obtain ⟨stop₁, hstop₁, hts⟩ := Scan.complete_eq_ok_iff.mp ha
  obtain ⟨stop₂, hstop₂, hus⟩ := Scan.complete_eq_ok_iff.mp hb
  rw [hstop₁] at h₁
  rw [hstop₂] at h₂
  generalize hending₁ : s₁.ending = ending₁ at h₁
  generalize hending₂ : s₂.ending = ending₂ at h₂
  cases h₁
  cases h₂
  case stop stop₂' hmoved =>
    obtain ⟨body, stop, hbody, hkind, _⟩ := spelled_of_tokenize ha
    have hstop := (List.append_inj' (hts.symm.trans hbody) rfl).right
    have hkind : stop₁.kind = .stop := (List.cons.inj hstop).left ▸ hkind
    refine ⟨_, stop₁, s₁.tokens, s₂.tokens ++ [stop₂'], hts, hkind, ?_, htokens₁, ?_⟩
    case refine_1 =>
      rw [hjoined, Scan.complete_eq_ok_iff]
      simp only [Scan.followedBy, hending₁, hending₂]
      exact ⟨stop₂', rfl, (List.append_assoc ..).symm⟩
    case refine_2 =>
      rw [hus]
      exact List.rel_append htokens₂ (.cons hmoved .nil)

end Joined

section Rejoined

variable {blank : Char} {name : String} {s : Source} {l : List Char} {m : Meaning} {t t' : Token}
  {w ts ts' : List Token} {tail : List (List Char)}

-- The tokens of a text are spelled by what stands there, and the one that ends it by nothing.
theorem spells_text_of_tokenize (h : tokenize s = .ok ts) :
    ∃ w stop, ts = w ++ [stop] ∧ stop.meaning = (.stop, none) ∧ stop.span.text = [] ∧
      ∀ t ∈ w, Spells t.span.text (.ok t.meaning) := by
  obtain ⟨_, _, _, houtcome⟩ := exists_outcome s
  rw [h] at houtcome
  cases houtcome
  case tokens w hw =>
    refine ⟨w, _, rfl, rfl, ?_, ?_⟩
    case refine_1 =>
      simp [Span.text, Span.source, Position.after, Position.start, Source.length]
    case refine_2 =>
      intro t ht
      obtain ⟨i, hi, rfl⟩ := List.mem_iff_getElem.mp ht
      have htoken := hw.get (by rwa [hw.length_eq]) hi
      exact htoken.text ▸ htoken.spells

theorem tokenize_lone (h : Spells l (.ok m)) :
    ∃ ts, tokenize ⟨name, l⟩ = .ok ts ∧ ts.map Token.meaning = [m, (.stop, none)] := by
  obtain ⟨ts, stop, htokens, _, hts⟩ := @tokenize_of_lexes _ ⟨name, l⟩ (lexes_alone h)
  obtain ⟨_, _, hsplit, hstop, _⟩ := spells_text_of_tokenize htokens
  obtain ⟨rfl, rfl⟩ := List.append_inj' hsplit rfl |>.imp_right List.singleton_inj.mp
  exact ⟨_, htokens, by rw [List.map_append, hts, List.map_singleton, hstop]; rfl⟩

-- Lexemes with a blank between any two of them, and perhaps one behind the last.
theorem tokenize_rejoined (h : Scan.isGap blank)
    (hw : ∀ t ∈ w, Spells t.span.text (.ok t.meaning)) (htail : tail = [] ∨ tail = [[]]) :
    ∃ ts, tokenize ⟨name, [blank].intercalate (w.map (·.span.text) ++ tail)⟩ = .ok ts ∧
      ts.map Token.meaning = w.map Token.meaning ++ [(.stop, none)] := by
  induction w
  case nil =>
    have hnone : [blank].intercalate tail = [] := by rcases htail with rfl | rfl <;> rfl
    refine ⟨[.stopAt (.start ⟨name, []⟩)], ?_, rfl⟩
    rw [List.map_nil, List.nil_append, hnone, tokenize, Scan.ofSource, Scan.scanFrom]
    rfl
  case cons t w ih =>
    obtain ⟨ht, hw⟩ := List.forall_mem_cons.mp hw
    obtain ⟨us, hus, hrest⟩ := ih hw
    obtain ⟨ts, hts, hfirst⟩ := @tokenize_lone name _ _ ht
    rw [List.map_cons, List.cons_append]
    cases htexts : w.map (·.span.text) ++ tail
    case nil =>
      obtain ⟨hnone, _⟩ := List.append_eq_nil_iff.mp htexts
      rw [List.map_eq_nil_iff.mp hnone]
      exact ⟨ts, by simpa using hts, hfirst⟩
    case cons text texts =>
      rw [htexts] at hus
      obtain ⟨v, stop, ts', us', rfl, _, hjoined, hts', hus'⟩ := tokenize_joined h hts hus
      rw [List.map_append] at hfirst
      change _ = [t.meaning] ++ [(.stop, none)] at hfirst
      obtain ⟨hv, _⟩ := List.append_inj' hfirst rfl
      refine ⟨ts' ++ us', hjoined, ?_⟩
      rw [List.map_append, map_meaning_of_moved hts', map_meaning_of_moved hus', hv, hrest]
      rfl

theorem same_of_meaning (h : t'.meaning = t.meaning)
    (hnumber : ∀ x, t.payload = some (.float x) → x.eq x) : t'.same t := by
  obtain ⟨hkind, hpayload⟩ := Prod.ext_iff.mp h
  change t'.kind = t.kind at hkind
  change t'.payload = t.payload at hpayload
  rw [Token.same, hkind, hpayload]
  rcases hp : t.payload with _ | (_ | x | _) <;> simp [Token.Payload.same]
  exact hnumber x hp

-- No float that is written as digits is one that differs from itself.
theorem eq_self_of_spells {kind : Token.Kind} {x : Binary64}
    (h : Spells l (.ok (kind, some (.float x)))) : x.eq x := by
  cases h
  case float whole fraction _ _ _ =>
    rw [Decimal.toBinary64, Binary64.ofQuotient, Binary64.ofUnits, Binary64.ofRank]
    split <;> simp [Binary64.eq, Binary64.compareBy, Binary64.place?]

theorem forall₂_same (h : ts'.map Token.meaning = ts.map Token.meaning)
    (hts : ∀ t ∈ ts, ∀ x, t.payload = some (.float x) → x.eq x) :
    List.Forall₂ (fun t t' => t'.same t) ts ts' := by
  induction ts generalizing ts'
  case nil =>
    rw [List.map_eq_nil_iff.mp h]
    exact .nil
  case cons t ts ih =>
    obtain ⟨ht, hts⟩ := List.forall_mem_cons.mp hts
    obtain ⟨t', ts', rfl, hmeaning, hrest⟩ := List.map_eq_cons_iff.mp h
    exact .cons (same_of_meaning hmeaning ht) (ih hrest hts)

end Rejoined

-- A text that is put together from two with a blank between them:
-- 1. scanning fails if it does for the first one, and at the same place
-- 2. and else if it does for the second one, and as much further on as this one stands
-- 3. and else it finds the tokens of the first one, without the one that ends it, and then those of
--    the second one as much further on
-- 4. Hence what the tokens of any text are spelled with, joined by single blanks, is scanned as the
--    same tokens, and it does not matter if the token that ends the text counts as one of them.
theorem tokenize_joined_by_blank {blank : Char} (hblank : blank = ' ' ∨ blank = '\t') :
    (∀ name name₁ name₂ a b,
      let joined := tokenize ⟨name, a ++ blank :: b⟩
      (∀ d, tokenize ⟨name₁, a⟩ = .error d → ∃ d', joined = .error d' ∧ d.Moved 0 d') ∧
      (∀ ts d, tokenize ⟨name₁, a⟩ = .ok ts → tokenize ⟨name₂, b⟩ = .error d →
        ∃ d', joined = .error d' ∧ d.Moved (a.length + 1) d') ∧
      ∀ ts us, tokenize ⟨name₁, a⟩ = .ok ts → tokenize ⟨name₂, b⟩ = .ok us →
        ∃ w stop ts' us', ts = w ++ [stop] ∧ stop.kind = .stop ∧ joined = .ok (ts' ++ us') ∧
          List.Forall₂ (Token.Moved 0) w ts' ∧
          List.Forall₂ (Token.Moved (a.length + 1)) us us') ∧
    ∀ s ts name, tokenize s = .ok ts → ∀ spelled ∈ [ts, ts.dropLast],
      ∃ ts', tokenize ⟨name, [blank].intercalate (spelled.map (·.span.text))⟩ = .ok ts' ∧
        ts'.map Token.meaning = ts.map Token.meaning ∧
        List.Forall₂ (fun t t' => t'.same t) ts ts' := by
  have hgap : Scan.isGap blank := isGap_iff.mpr hblank
  constructor
  case left =>
    exact fun name name₁ name₂ a b => ⟨fun d => tokenize_joined_of_left hgap,
      fun ts d => tokenize_joined_of_right hgap, fun ts us => tokenize_joined hgap⟩
  case right =>
    intro s ts name htokens spelled hspelled
    obtain ⟨w, stop, rfl, hstop, htext, hw⟩ := spells_text_of_tokenize htokens
    have htail : ∃ tail, (tail = [] ∨ tail = [[]]) ∧
        spelled.map (·.span.text) = w.map (·.span.text) ++ tail := by
      rw [List.dropLast_concat, List.mem_pair] at hspelled
      rcases hspelled with rfl | rfl
      · exact ⟨[[]], .inr rfl, by simp [htext]⟩
      · exact ⟨[], .inl rfl, by simp⟩
    obtain ⟨tail, htail, htexts⟩ := htail
    obtain ⟨ts', hts', hmeanings⟩ := @tokenize_rejoined blank name _ _ hgap hw htail
    have hmeanings : ts'.map Token.meaning = (w ++ [stop]).map Token.meaning := by
      rw [hmeanings, List.map_append, List.map_singleton, hstop]
    refine ⟨ts', htexts ▸ hts', hmeanings, forall₂_same hmeanings fun t ht x hx => ?_⟩
    rcases List.mem_append.mp ht with ht | ht
    case inl =>
      have hspells := hw t ht
      rw [Token.meaning, hx] at hspells
      exact eq_self_of_spells hspells
    case inr =>
      have hnone : t.payload = none := List.mem_singleton.mp ht ▸ congrArg Prod.snd hstop
      rw [hnone] at hx
      cases hx

-- An equals sign behind a blank does not become part of the sign before it, and a text that fails
-- fails in front of anything.
theorem tokenize_joined_by_blank_equals :
    (∃ ts us, tokenize ⟨"n", "x <".toList⟩ = .ok ts ∧ tokenize ⟨"n", "= 2".toList⟩ = .ok us ∧
      ∃ ts' us', tokenize ⟨"n", "x <\t= 2".toList⟩ = .ok (ts' ++ us') ∧
        us'.map (·.kind) = [.assign, .int, .stop] ∧
        List.Forall₂ (Token.Moved 4) us us') ∧
    ∃ d d', tokenize ⟨"n", "1 !".toList⟩ = .error d ∧
      tokenize ⟨"n", "1 !\t= 2".toList⟩ = .error d' ∧ d.Moved 0 d' := by
  obtain ⟨hjoined, _⟩ := @tokenize_joined_by_blank '\t' (.inr rfl)
  constructor
  case left =>
    obtain ⟨_, _, hboth⟩ := hjoined "n" "n" "n" "x <".toList "= 2".toList
    have hx : (tokenize ⟨"n", "x <".toList⟩).isOk := by decide +kernel
    have htwo : (tokenize ⟨"n", "= 2".toList⟩).map (·.map (·.kind))
        = .ok [.assign, .int, .stop] := by
      decide +kernel
    cases hts : tokenize ⟨"n", "x <".toList⟩ <;> rw [hts] at hx
    case error => cases hx
    case ok ts =>
      cases hus : tokenize ⟨"n", "= 2".toList⟩ <;> rw [hus] at htwo
      case error => cases htwo
      case ok us =>
        obtain ⟨_, _, ts', us', _, _, hjoined, _, hmoved⟩ := hboth ts us hts hus
        have hkinds := congrArg (List.map Prod.fst) (map_meaning_of_moved hmoved)
        rw [List.map_map, List.map_map] at hkinds
        exact ⟨ts, us, rfl, rfl, ts', us', hjoined, hkinds.trans (Except.ok.inj htwo), hmoved⟩
  case right =>
    obtain ⟨hleft, _⟩ := hjoined "n" "n" "n" "1 !".toList "= 2".toList
    have hone : ¬(tokenize ⟨"n", "1 !".toList⟩).isOk := by decide +kernel
    cases hd : tokenize ⟨"n", "1 !".toList⟩ <;> rw [hd] at hone
    case ok => exact absurd rfl hone
    case error d =>
      obtain ⟨d', hjoined, hmoved⟩ := hleft d hd
      exact ⟨d, d', rfl, hjoined, hmoved⟩

end Reckoner
