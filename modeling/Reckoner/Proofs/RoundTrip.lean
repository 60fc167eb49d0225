import Reckoner.Proofs.Parsing
import Reckoner.Proofs.Spelling

namespace Reckoner

open Grammar Lexical

theorem Token.kind_eq {t t' : Token} (h : t'.meaning = t.meaning) : t'.kind = t.kind :=
  congrArg Prod.fst h

namespace Expr

-- Trees that differ in nothing but where their tokens stand.
inductive Alike : Expr → Expr → Prop
  | number {t t' : Token} : t'.meaning = t.meaning → Alike (.number t) (.number t')
  | binary {l l' r r' : Expr} {t t' : Token} :
    Alike l l' → t'.meaning = t.meaning → Alike r r' → Alike (.binary l t r) (.binary l' t' r')
  | unary {t t' : Token} {e e' : Expr} :
    t'.meaning = t.meaning → Alike e e' → Alike (.unary t e) (.unary t' e')
  | var {t t' : Token} : t'.meaning = t.meaning → Alike (.var t) (.var t')
  | assign {t t' : Token} {e e' : Expr} :
    t'.meaning = t.meaning → Alike e e' → Alike (.assign t e) (.assign t' e')

-- The tokens of the numbers in a tree.
def literals : Expr → List Token
  | number token => [token]
  | binary left _ right => left.literals ++ right.literals
  | unary _ operand => operand.literals
  | var _ => []
  | assign _ value => value.literals

def prefixes : List Token.Kind :=
  [.plus, .minus, .keyword .not]

-- A tree whose tokens are lexemes of the kinds that its nodes ask for.
inductive WellSpelled : Expr → Prop
  | number {t : Token} : Spelled t → t.kind = .int ∨ t.kind = .float → WellSpelled (.number t)
  | binary {l r : Expr} {t : Token} {level : Parse.Level} :
    WellSpelled l → Spelled t → t.kind ∈ operators level → WellSpelled r →
    WellSpelled (.binary l t r)
  | unary {t : Token} {e : Expr} :
    Spelled t → t.kind ∈ prefixes → WellSpelled e → WellSpelled (.unary t e)
  | var {t : Token} : Spelled t → t.kind = .identifier → WellSpelled (.var t)
  | assign {t : Token} {e : Expr} :
    Spelled t → t.kind = .identifier → WellSpelled e → WellSpelled (.assign t e)

def enclosed (ms : List Meaning) : List Meaning :=
  (.openParen, none) :: (ms ++ [(.closeParen, none)])

-- What the text of a tree is scanned as. A number is scanned as itself exactly if it is plain.
inductive Shown : Expr → List Meaning → Prop
  | number {t : Token} {ms} : ms ≠ [] → (∀ m ∈ ms, m.1 ∉ silent) →
    (ms = [t.meaning] ↔ ∀ x, t.payload = some (.float x) → Plain x) → Shown (.number t) ms
  | binary {l r : Expr} {t : Token} {u v} : t.kind ∉ silent → Shown l u → Shown r v →
    Shown (.binary l t r) (enclosed (u ++ t.meaning :: v))
  | unary {t : Token} {e : Expr} {w} : t.kind ∉ silent → Shown e w →
    Shown (.unary t e) (enclosed (t.meaning :: w))
  | var {t : Token} : t.kind ∉ silent → Shown (.var t) [t.meaning]
  | assign {t : Token} {e : Expr} {w} : t.kind ∉ silent → Shown e w →
    Shown (.assign t e)
      (enclosed ((.keyword .var, none) :: t.meaning :: (.assign, none) :: w))

theorem Alike.tokens_eq {e e' : Expr} (h : Alike e e') :
    e'.tokens.map Token.meaning = e.tokens.map Token.meaning := by
  induction h
  case number ht => simp [tokens, ht]
  case binary ht _ ihl ihr => simp [tokens, ht, ihl, ihr]
  case unary ht _ ih => simp [tokens, ht, ih]
  case var ht => simp [tokens, ht]
  case assign ht _ ih => simp [tokens, ht, ih]

theorem wellSpelled_of_derives {x : Exponents} {r : Rule} {w : List Token} {e : Expr}
    (h : Derives x r w e) (hw : ∀ t ∈ w, Spelled t) : WellSpelled e := by
  induction h
  case assignment hn _ _ ih =>
    exact .assign (hw _ (by simp)) hn (ih fun t ht => hw t (by simp [ht]))
  case not ht _ ih =>
    exact .unary (hw _ (by simp)) (by simp [ht, prefixes]) (ih fun t ht => hw t (by simp [ht]))
  case sign t _ _ ht _ ih =>
    have hkind : t.kind ∈ prefixes := by rcases ht with ht | ht <;> simp [ht, prefixes]
    exact .unary (hw _ (by simp)) hkind (ih fun t ht => hw t (by simp [ht]))
  case number ht => exact .number (hw _ (by simp)) ht
  case name ht => exact .var (hw _ (by simp)) ht
  case parens ih => exact ih fun t ht => hw t (by simp [ht])
  case join ht _ _ ihl ihr =>
    exact .binary (ihl fun t ht => hw t (by simp [ht])) (hw _ (by simp)) ht
      (ihr fun t ht => hw t (by simp [ht]))
  case logical ih => exact ih hw
  case relational ih => exact ih hw
  case power ih => exact ih hw
  case operand ih => exact ih hw

section Scanning

variable {text rest : List Char} {ms : List Meaning} {t : Token} {e : Expr}

theorem spells_symbol (h : Spelled t) (hkind : t.kind ∉ [.int, .float, .identifier]) :
    Spells t.kind.symbol.toList (.ok t.meaning) := by
  have hsymbols : ∀ x ∈ symbols, x.2.symbol.toList = x.1 := by decide
  have ⟨l, h⟩ := h
  suffices l = t.kind.symbol.toList by rwa [← this]
  rw [Token.meaning] at h
  generalize t.kind = kind, t.payload = payload at h hkind ⊢
  cases h
  case symbol h => exact (hsymbols _ h).symm
  case keyword => rfl
  all_goals simp at hkind

theorem spells_nameText (h : Spelled t) (hkind : t.kind = .identifier) :
    Spells (nameText t).toList (.ok t.meaning) := by
  have ⟨l, h⟩ := h
  suffices l = (nameText t).toList by rwa [← this]
  rw [Token.meaning, hkind] at h
  generalize hpayload : t.payload = payload at h
  cases h
  case symbol h => exact absurd h (by simp [symbols])
  case name => simp [nameText, Token.name?, hpayload]

theorem lexes_enclosed (h : Lexes (')' :: rest) text ms) :
    Lexes rest ('(' :: text) (enclosed ms) := by
  have hopen : (['('], Token.Kind.openParen) ∈ symbols := by decide
  have hclose : ([')'], Token.Kind.closeParen) ∈ symbols := by decide
  have hlongest : Longest [')'] ([')'] ++ rest) := longest_symbol hclose (.inr (by decide))
  have hend : Lexes rest (')' :: rest) _ := .lexeme (.symbol hclose) hlongest .nil
  exact .lexeme (.symbol hopen) (longest_symbol hopen (.inr (by decide))) (h.append hend)

theorem delimited_space : Delimited (' ' :: rest) := by
  simp [Delimited]

theorem delimited_close : Delimited (')' :: rest) := by
  simp [Delimited]

theorem lexes_then_space {l : List Char} {m : Meaning} (h : Spells l (.ok m))
    (hrest : Lexes rest text ms) : Lexes rest (l ++ ' ' :: text) (m :: ms) :=
  .lexeme h (longest_of_delimited ⟨_, h⟩ delimited_space) (.blank hrest)

-- Nothing stands between a sign and its operand, for no longer lexeme begins with a sign.
theorem lexes_unary (ht : Spelled t) (hkind : t.kind ∈ prefixes) (hrest : Lexes rest text ms) :
    Lexes rest ((prefixText t.kind).toList ++ text) (t.meaning :: ms) := by
  have hoperator : ∀ k ∈ prefixes, k ∉ [.int, .float, .identifier] := by decide
  have hcases : ∀ k ∈ prefixes, prefixText k = k.symbol ++ " " ∨ prefixText k = k.symbol ∧
      (k.symbol.toList, k) ∈ symbols ∧ k.symbol.toList ++ ['='] ∉ symbols.map Prod.fst := by
    decide
  have hspells := spells_symbol ht (hoperator _ hkind)
  rcases hcases _ hkind with hwritten | ⟨hwritten, hsymbol, hfree⟩ <;> rw [hwritten]
  · simpa using lexes_then_space hspells hrest
  · exact .lexeme hspells (longest_symbol hsymbol (.inr hfree)) hrest

-- A tree is scanned as its tokens, whatever it is followed by that ends its last lexeme.
theorem exists_shown (h : WellSpelled e) (hrest : Delimited rest) :
    ∃ ms, Shown e ms ∧ Lexes rest (e.text.toList ++ rest) ms := by
  induction h generalizing rest
  case number t ht hkind =>
    obtain ⟨ms, hlexes, hne, hms, hplain⟩ := lexes_number ht hkind hrest
    have hsilent : ∀ k ∈ [.int, .float, .identifier, .minus], k ∉ silent := by decide
    exact ⟨ms, .number hne (fun m hm => hsilent _ (hms m hm)) hplain, hlexes⟩
  case var t ht hkind =>
    exact ⟨_, .var (by simp [hkind, silent]), lexes_of_spells (spells_nameText ht hkind) hrest⟩
  case binary l r t level _ ht hkind _ ihl ihr =>
    have hoperand : ∀ k ∈ operators level, k ∉ [.int, .float, .identifier] := by
      cases level <;> decide
    obtain ⟨v, hv, hright⟩ := @ihr (')' :: rest) delimited_close
    have hoperator := lexes_then_space (spells_symbol ht (hoperand _ hkind)) hright
    obtain ⟨u, hu, hleft⟩ :=
      @ihl (' ' :: (t.kind.symbol.toList ++ ' ' :: (r.text.toList ++ ')' :: rest))) delimited_space
    have h := lexes_enclosed (hleft.append (.blank hoperator))
    refine ⟨_, .binary (operators_not_silent hkind) hu hv, ?_⟩
    simpa [Expr.text] using h
  case unary t e ht hkind _ ih =>
    have hsilent : ∀ k ∈ prefixes, k ∉ silent := by decide
    obtain ⟨w, hw, hoperand⟩ := @ih (')' :: rest) delimited_close
    have h := lexes_enclosed (lexes_unary ht hkind hoperand)
    refine ⟨_, .unary (hsilent _ hkind) hw, ?_⟩
    simpa [Expr.text] using h
  case assign t e ht hkind _ ih =>
    obtain ⟨w, hw, hvalue⟩ := @ih (')' :: rest) delimited_close
    have hequals := lexes_then_space (.symbol (by decide : (['='], .assign) ∈ symbols)) hvalue
    have hname := lexes_then_space (spells_nameText ht hkind) hequals
    have h := lexes_enclosed (lexes_then_space (.keyword .var) hname)
    refine ⟨_, .assign (by simp [hkind, silent]) hw, ?_⟩
    simpa [Expr.text, Keyword.word] using h

end Scanning

section Counting

variable {e : Expr} {ms : List Meaning}

-- The meanings of the tokens that a tree holds.
def audible (ms : List Meaning) : List Meaning :=
  ms.filter (·.1 ∉ silent)

@[simp]
theorem audible_enclosed (ms : List Meaning) : audible (enclosed ms) = audible ms := by
  simp [audible, enclosed, silent]

@[simp]
theorem audible_append (ms ns : List Meaning) : audible (ms ++ ns) = audible ms ++ audible ns :=
  List.filter_append ..

theorem audible_cons {t : Token} (h : t.kind ∉ silent) (ms : List Meaning) :
    audible (t.meaning :: ms) = t.meaning :: audible ms :=
  List.filter_cons_of_pos (decide_eq_true h)

theorem audible_eq_self (h : ∀ m ∈ ms, m.1 ∉ silent) : audible ms = ms :=
  List.filter_eq_self.mpr (by simpa using h)

theorem audible_assignment (t : Token) (ms : List Meaning) :
    audible ((.keyword .var, none) :: t.meaning :: (.assign, none) :: ms)
      = audible (t.meaning :: ms) := by
  simp [audible, silent, List.filter_cons]

-- No number is scanned as nothing, so the text of a tree has at least as many tokens as the tree.
theorem Shown.length_le (h : Shown e ms) : e.tokens.length ≤ (audible ms).length := by
  induction h
  case number hne hms _ =>
    rw [audible_eq_self hms]
    exact List.length_pos_iff.mpr hne
  case binary ht _ _ ihl ihr =>
    simp [tokens, audible_cons ht]
    omega
  case unary ht _ ih => simpa [tokens, audible_cons ht] using ih
  case var ht => simp [tokens, audible_cons ht]
  case assign ht _ ih => simpa [tokens, audible_assignment, audible_cons ht] using ih

-- A text that has no other tokens than its tree has plain floats only.
theorem Shown.plain (h : Shown e ms) (htokens : audible ms = e.tokens.map Token.meaning) :
    ∀ t ∈ e.literals, ∀ x, t.payload = some (.float x) → Plain x := by
  induction h
  case number hms hplain =>
    rw [audible_eq_self hms] at htokens
    simpa [literals] using hplain.mp htokens
  case binary l r t u v ht hl hr ihl ihr =>
    rw [audible_enclosed, audible_append, audible_cons ht, tokens, List.map_append,
      List.map_cons] at htokens
    -- Neither part is shorter than its tree, and together they are as long as the two trees.
    have hlength : (audible u).length = (l.tokens.map Token.meaning).length := by
      have hlengths := congrArg List.length htokens
      have := hl.length_le
      have := hr.length_le
      simp only [List.length_append, List.length_cons, List.length_map] at hlengths ⊢
      omega
    obtain ⟨hleft, hright⟩ := List.append_inj htokens hlength
    have hright := (List.cons.inj hright).right
    exact List.forall_mem_append.mpr ⟨ihl hleft, ihr hright⟩
  case unary ht _ ih =>
    rw [audible_enclosed, audible_cons ht, tokens, List.map_cons] at htokens
    exact ih (List.cons.inj htokens).right
  case var => simp [literals]
  case assign ht _ ih =>
    rw [audible_enclosed, audible_assignment, audible_cons ht, tokens, List.map_cons] at htokens
    exact ih (List.cons.inj htokens).right

end Counting

section Deriving

variable {e : Expr} {w : List Token} {ms : List Meaning}

theorem exists_enclosed (h : w.map Token.meaning = enclosed ms) :
    ∃ o v c, w = o :: v ++ [c] ∧ o.kind = .openParen ∧ c.kind = .closeParen ∧
      v.map Token.meaning = ms := by
  have ⟨o, w', hw, ho, hw'⟩ := List.map_eq_cons_iff.mp h
  have ⟨v, c, hw'', hv, hc⟩ := List.map_eq_append_iff.mp hw'
  have ⟨c, hc'', hc⟩ := List.map_eq_singleton_iff.mp hc
  exact ⟨o, v, c, by rw [hw, hw'', hc'']; rfl, congrArg Prod.fst ho, congrArg Prod.fst hc, hv⟩

theorem derives_unary {t : Token} (ht : t.kind ∈ prefixes) (h : Derives .one .atom w e) :
    Derives .one .expression (t :: w) (.unary t e) := by
  simp only [prefixes, List.mem_cons, List.not_mem_nil, or_false, ← or_assoc] at ht
  rcases ht with hsign | hnot
  · exact .of_factor (.sign hsign h.of_atom)
  · exact .of_comparison (.not hnot h.of_atom)

-- A written tree is an atom, so it can be the operand of whatever it was written for.
theorem Shown.derives (h : Shown e ms) (hspelled : WellSpelled e)
    (hplain : ∀ t ∈ e.literals, ∀ x, t.payload = some (.float x) → Plain x)
    (hw : w.map Token.meaning = ms) : ∃ e', Derives .one .atom w e' ∧ Alike e e' := by
  induction hspelled generalizing w ms <;> cases h
  case number.number t ht hkind _ _ hms =>
    rw [hms.mpr (hplain t (by simp [literals]))] at hw
    have ⟨t', hw', ht'⟩ := List.map_eq_singleton_iff.mp hw
    rw [hw']
    exact ⟨_, .number (by rwa [Token.kind_eq ht']), .number ht'⟩
  case var.var t ht hkind _ =>
    have ⟨t', hw', ht'⟩ := List.map_eq_singleton_iff.mp hw
    rw [hw']
    exact ⟨_, .name ((Token.kind_eq ht').trans hkind), .var ht'⟩
  case binary.binary l r t level _ ht hkind _ ihl ihr u v hu _ hv =>
    have ⟨o, w', c, hw', ho, hc, hinner⟩ := exists_enclosed hw
    have ⟨wl, wr, hwl, hl, hr⟩ := List.map_eq_append_iff.mp hinner
    have ⟨t', wr', hwr', ht', hr⟩ := List.map_eq_cons_iff.mp hr
    have ⟨hplainl, hplainr⟩ := List.forall_mem_append.mp hplain
    have ⟨l', hleft, hlalike⟩ := ihl hu hplainl hl
    have ⟨r', hright, hralike⟩ := ihr hv hplainr hr
    have hjoin := Derives.join (Token.kind_eq ht' ▸ hkind) hleft.of_atom hright.of_atom
    rw [hw', hwl, hwr']
    exact ⟨_, .parens ho hc hjoin.of_chain, .binary hlalike ht' hralike⟩
  case unary.unary t e ht hkind _ ih v _ hv =>
    have ⟨o, w', c, hw', ho, hc, hinner⟩ := exists_enclosed hw
    have ⟨t', v', hv', ht', hoperand⟩ := List.map_eq_cons_iff.mp hinner
    have ⟨e', hoperand, halike⟩ := ih hv hplain hoperand
    have hunary := derives_unary (Token.kind_eq ht' ▸ hkind) hoperand
    rw [hw', hv']
    exact ⟨_, .parens ho hc hunary, .unary ht' halike⟩
  case assign.assign t e ht hkind _ ih v _ hv =>
    have ⟨o, w', c, hw', ho, hc, hinner⟩ := exists_enclosed hw
    have ⟨word, v₁, hv₁, hword, hinner⟩ := List.map_eq_cons_iff.mp hinner
    have ⟨t', v₂, hv₂, ht', hinner⟩ := List.map_eq_cons_iff.mp hinner
    have ⟨equals, v₃, hv₃, hequals, hinner⟩ := List.map_eq_cons_iff.mp hinner
    have ⟨e', hvalue, halike⟩ := ih hv hplain hinner
    have hassign := Derives.assignment (congrArg Prod.fst hword) ((Token.kind_eq ht').trans hkind)
      (congrArg Prod.fst hequals) hvalue.of_atom
    rw [hw', hv₁, hv₂, hv₃]
    exact ⟨_, .parens ho hc hassign, .assign ht' halike⟩

end Deriving

end Expr

theorem Lexical.Spelled.ne_stop {t : Token} (h : Spelled t) : t.kind ≠ .stop := by
  have hsymbols : ∀ x ∈ symbols, x.2 ≠ .stop := by decide
  have ⟨l, h⟩ := h
  rw [Token.meaning] at h
  generalize t.kind = kind, t.payload = payload at h ⊢
  cases h
  case symbol h => exact hsymbols _ h
  all_goals simp

-- Parsing the tokens of a text is deriving all of them but the last.
theorem parse_tokenized {s : Source} {ts : List Token} (h : tokenize s = .ok ts) :
    ∃ w stop, ts = w ++ [stop] ∧ (∀ t ∈ w, Spelled t) ∧
      ∀ e, parse ts = .ok e ↔ Derives .one .expression w e := by
  have ⟨w, stop, hts, hstop, hw⟩ := spelled_of_tokenize h
  have hbody : Parse.body w = w := Parse.body_eq_self fun t ht => (hw t ht).ne_stop
  refine ⟨w, stop, hts, hw, fun e => ?_⟩
  rw [hts, parse_eq_ok_iff, Parse.body_append_stop hstop, hbody]

theorem parse_of_lexes {s : Source} {ms : List Meaning} (h : Lexes [] s.text ms) :
    ∃ w stop, tokenize s = .ok (w ++ [stop]) ∧ w.map Token.meaning = ms ∧
      ∀ e, parse (w ++ [stop]) = .ok e ↔ Derives .one .expression w e := by
  obtain ⟨w, stop, htokens, _, hw⟩ := tokenize_of_lexes h
  obtain ⟨w', stop', hts, _, hiff⟩ := parse_tokenized htokens
  obtain rfl : w = w' := (List.append_inj' hts rfl).left
  exact ⟨w, stop, htokens, hw, hiff⟩

-- The text of a tree is scanned, and parsing what was scanned is deriving it.
theorem parse_text {e : Expr} (h : e.WellSpelled) (name : String) :
    ∃ ts w, tokenize (.ofString name e.text) = .ok ts ∧ e.Shown (w.map Token.meaning) ∧
      ∀ e', parse ts = .ok e' ↔ Derives .one .expression w e' := by
  obtain ⟨ms, hshown, hlexes⟩ := @Expr.exists_shown [] e h (by simp [Delimited])
  rw [List.append_nil] at hlexes
  obtain ⟨w, _, htokens, hw, hiff⟩ := @parse_of_lexes (.ofString name e.text) ms hlexes
  exact ⟨_, w, htokens, hw ▸ hshown, hiff⟩

-- The text of a tree that was read from some text reads back as the same tree, but for where the
-- tokens stand, exactly if it writes every float without a power of ten.
theorem text_reads_back_iff {s : Source} {ts : List Token} {e : Expr} (name : String)
    (htokens : tokenize s = .ok ts) (hparse : parse ts = .ok e) :
    (∃ ts' e', tokenize (.ofString name e.text) = .ok ts' ∧ parse ts' = .ok e' ∧ e.Alike e') ↔
      ∀ t ∈ e.literals, ∀ x, t.payload = some (.float x) → Plain x := by
  have ⟨_, _, _, hspelled, hiff⟩ := parse_tokenized htokens
  have hspelled := Expr.wellSpelled_of_derives ((hiff e).mp hparse) hspelled
  have ⟨ts₁, w, htext, hshown, hiff⟩ := parse_text hspelled name
  constructor
  case mp =>
    intro ⟨ts', e', htokens', hparse', halike⟩
    have hts : ts₁ = ts' := Except.ok.inj (htext.symm.trans htokens')
    have hderives := (hiff e').mp (hts ▸ hparse')
    -- The tree holds all tokens of its text that are not silent, so these are no more than it had.
    refine hshown.plain ?_
    rw [← halike.tokens_eq, hderives.tokens_eq, Expr.audible, List.filter_map]
    rfl
  case mpr =>
    intro hplain
    have ⟨e', hderives, halike⟩ := hshown.derives hspelled hplain rfl
    exact ⟨ts₁, e', htext, (hiff e').mpr hderives.of_atom, halike⟩

theorem text_reads_back_iff_least :
    let s := Source.ofString "a" "-.0001"
    let minus : Token := ⟨.minus, none, .covering (.after s 0) 1⟩
    let least : Token :=
      ⟨.float, some (.float (Decimal.toBinary64 false ⟨1, -4⟩)), .covering (.after s 1) 5⟩
    let tree := Expr.unary minus (.number least)
    tokenize s = .ok [minus, least, .stopAt (.after s 6)] ∧
      parse [minus, least, .stopAt (.after s 6)] = .ok tree ∧ tree.text = "(-0.0001)" ∧
      ∃ ts e, tokenize (.ofString "b" "(-0.0001)") = .ok ts ∧ parse ts = .ok e ∧ tree.Alike e := by
  intro s minus least tree
  have hok : ∀ {α} {r : Except Diagnostic α} {a : α}, r.toOption = some a → r = .ok a := by
    intro α r a h
    cases r <;> simp_all [Except.toOption]
  have htokens : tokenize s = .ok [minus, least, .stopAt (.after s 6)] := hok (by decide +kernel)
  have hparse : parse [minus, least, .stopAt (.after s 6)] = .ok tree := hok (by decide +kernel)
  have htext : tree.text = "(-0.0001)" := by decide +kernel
  have hplain : Plain (Decimal.toBinary64 false ⟨1, -4⟩) := by
    unfold Plain
    decide +kernel
  have hiff := text_reads_back_iff "b" htokens hparse
  rw [htext] at hiff
  refine ⟨htokens, hparse, htext, hiff.mpr ?_⟩
  simp [tree, least, Expr.literals, hplain]

end Reckoner
