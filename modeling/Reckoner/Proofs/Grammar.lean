import Mathlib
import Reckoner.Expr.Parse

namespace Reckoner

-- The tokens that the nodes of a tree hold, from left to right.
def Expr.tokens : Expr → List Token
  | number token => [token]
  | binary left operator right => left.tokens ++ operator :: right.tokens
  | unary operator operand => operator :: operand.tokens
  | var name => [name]
  | assign name value => name :: value.tokens

namespace Grammar

open Parse (Level)

inductive Rule where
  | expression
  | comparison
  | chain (level : Level)
  | factor
  | atom

-- How many exponents an atom can take.
inductive Exponents where
  | one
  | many

def operators : Level → List Token.Kind
  | .logical => [.keyword .and, .keyword .or]
  | .relational => [.equal, .notEqual, .less, .greater, .lessEqual, .greaterEqual]
  | .additive => [.plus, .minus]
  | .multiplicative => [.star, .slash]
  | .power => [.caret]

-- What stands between the operators of a level.
def operand : Level → Rule
  | .logical => .comparison
  | .relational => .chain .additive
  | .additive => .chain .multiplicative
  | .multiplicative => .factor
  | .power => .atom

-- What stands after an operator of a level.
def right : Level → Rule
  | .power => .factor
  | level => operand level

-- What stands before an operator of a level: all that was joined so far, unless only one exponent
-- is allowed.
def left : Exponents → Level → Rule
  | .one, .power => .atom
  | _, level => .chain level

-- The kinds of tokens that leave no trace in a tree.
def silent : List Token.Kind :=
  [.keyword .var, .assign, .openParen, .closeParen]

-- The kinds of tokens that the words of a rule begin with.
def first : Rule → List Token.Kind
  | .atom | .chain .power => [.int, .float, .identifier, .openParen]
  | .factor | .chain .multiplicative | .chain .additive | .chain .relational =>
    [.int, .float, .identifier, .plus, .minus, .openParen]
  | .comparison | .chain .logical =>
    [.int, .float, .identifier, .plus, .minus, .openParen, .keyword .not]
  | .expression =>
    [.keyword .var, .int, .float, .identifier, .plus, .minus, .openParen, .keyword .not]

-- The words that a rule derives, and the trees that they stand for.
inductive Derives (x : Exponents) : Rule → List Token → Expr → Prop
  | assignment {var name eq : Token} {w e} :
    var.kind = .keyword .var → name.kind = .identifier → eq.kind = .assign →
    Derives x .expression w e → Derives x .expression (var :: name :: eq :: w) (.assign name e)
  | logical {w e} : Derives x (.chain .logical) w e → Derives x .expression w e
  | not {t : Token} {w e} :
    t.kind = .keyword .not → Derives x .comparison w e → Derives x .comparison (t :: w) (.unary t e)
  | relational {w e} : Derives x (.chain .relational) w e → Derives x .comparison w e
  | sign {t : Token} {w e} :
    t.kind = .plus ∨ t.kind = .minus → Derives x .factor w e →
    Derives x .factor (t :: w) (.unary t e)
  | power {w e} : Derives x (.chain .power) w e → Derives x .factor w e
  | number {t : Token} : t.kind = .int ∨ t.kind = .float → Derives x .atom [t] (.number t)
  | name {t : Token} : t.kind = .identifier → Derives x .atom [t] (.var t)
  | parens {o c : Token} {w e} :
    o.kind = .openParen → c.kind = .closeParen →
    Derives x .expression w e → Derives x .atom (o :: w ++ [c]) e
  | operand {level w e} : Derives x (operand level) w e → Derives x (.chain level) w e
  | join {level} {t : Token} {u v l r} :
    t.kind ∈ operators level → Derives x (left x level) u l → Derives x (right level) v r →
    Derives x (.chain level) (u ++ t :: v) (.binary l t r)

theorem joins_iff {level : Level} {kind : Token.Kind} :
    level.joins kind ↔ kind ∈ operators level := by
  cases level <;> cases kind <;> try simp [Level.joins, operators]
  all_goals case keyword k => cases k <;> simp

-- An operator belongs to one level only.
theorem operators_disjoint {kind : Token.Kind} {level other : Level}
    (h : kind ∈ operators level) (h' : kind ∈ operators other) : level = other := by
  cases level <;> cases other <;> simp [operators] at h h' ⊢
  all_goals grind

theorem operators_not_silent {kind : Token.Kind} {level : Level} (h : kind ∈ operators level) :
    kind ∉ silent := by
  have hall : ∀ k ∈ operators level, k ∉ silent := by cases level <;> decide
  exact hall kind h

namespace Derives

variable {x : Exponents} {r : Rule} {w v : List Token} {e : Expr} {t : Token}

theorem exists_first (h : Derives x r w e) : ∃ t v, w = t :: v ∧ t.kind ∈ first r := by
  induction h
  case assignment hv _ _ _ _ => exact ⟨_, _, rfl, by simp [first, hv]⟩
  case not ht _ _            => exact ⟨_, _, rfl, by simp [first, ht]⟩
  case sign ht _ _           => exact ⟨_, _, rfl, by rcases ht with ht | ht <;> simp [first, ht]⟩
  case number ht             => exact ⟨_, _, rfl, by rcases ht with ht | ht <;> simp [first, ht]⟩
  case name ht               => exact ⟨_, _, rfl, by simp [first, ht]⟩
  case parens ho _ _ _       => exact ⟨_, _, rfl, by simp [first, ho]⟩
  case logical ih =>
    have ⟨t, v, hw, ht⟩ := ih
    have hsub : ∀ k ∈ first (.chain .logical), k ∈ first .expression := by decide
    exact ⟨t, v, hw, hsub _ ht⟩
  case relational ih =>
    have ⟨t, v, hw, ht⟩ := ih
    have hsub : ∀ k ∈ first (.chain .relational), k ∈ first .comparison := by decide
    exact ⟨t, v, hw, hsub _ ht⟩
  case power ih =>
    have ⟨t, v, hw, ht⟩ := ih
    have hsub : ∀ k ∈ first (.chain .power), k ∈ first .factor := by decide
    exact ⟨t, v, hw, hsub _ ht⟩
  case operand level _ _ _ ih =>
    have ⟨t, v, hw, ht⟩ := ih
    have hsub : ∀ k ∈ first (Grammar.operand level), k ∈ first (.chain level) := by
      cases level <;> decide
    exact ⟨t, v, hw, hsub _ ht⟩
  case join level _ _ _ _ _ _ _ _ ih _ =>
    have ⟨t, v, hw, ht⟩ := ih
    have hsub : ∀ k ∈ first (left x level), k ∈ first (.chain level) := by
      cases level <;> cases x <;> decide
    exact ⟨t, _, by simp [hw]; rfl, hsub _ ht⟩

-- A tree holds all tokens of its word that are not silent, in their order.
theorem tokens_eq (h : Derives x r w e) : e.tokens = w.filter (·.kind ∉ silent) := by
  induction h
  case assignment hv hn ha _ ih => simp [Expr.tokens, hv, hn, ha, silent, ih]
  case not ht _ ih => simp [Expr.tokens, ht, silent, ih]
  case sign ht _ ih => rcases ht with ht | ht <;> simp [Expr.tokens, ht, silent, ih]
  case number ht => rcases ht with ht | ht <;> simp [Expr.tokens, ht, silent]
  case name ht => simp [Expr.tokens, ht, silent]
  case parens ho hc _ ih => simp [ho, hc, silent, ih]
  case join ht _ _ ihl ihr => simp [Expr.tokens, ihl, ihr, operators_not_silent ht]
  all_goals assumption

-- What a rule derives is derived by the rules that bind more loosely too.

theorem of_atom (h : Derives x .atom w e) : Derives x r w e := by
  have hfactor : Derives x .factor w e := .power (.operand h)
  have hterm : Derives x (.chain .multiplicative) w e := .operand hfactor
  have hcomparison : Derives x .comparison w e := .relational (.operand (.operand hterm))
  cases r
  case expression => exact .logical (.operand hcomparison)
  case comparison => exact hcomparison
  case factor => exact hfactor
  case atom => exact h
  case chain level =>
    cases level
    case logical => exact .operand hcomparison
    case relational => exact .operand (.operand hterm)
    case additive => exact .operand hterm
    case multiplicative => exact hterm
    case power => exact .operand h

theorem of_comparison (h : Derives x .comparison w e) : Derives x .expression w e :=
  .logical (.operand h)

theorem of_factor (h : Derives x .factor w e) : Derives x .expression w e :=
  of_comparison (.relational (.operand (.operand (.operand h))))

theorem of_chain {level : Level} (h : Derives x (.chain level) w e) :
    Derives x .expression w e := by
  cases level
  case logical => exact .logical h
  case relational => exact of_comparison (.relational h)
  case additive => exact of_comparison (.relational (.operand h))
  case multiplicative => exact of_comparison (.relational (.operand (.operand h)))
  case power => exact of_factor (.power h)

theorem left_of_operand {level : Level} (h : Derives .one (Grammar.operand level) w e) :
    Derives .one (left .one level) w e := by
  cases level
  case power => exact h
  all_goals exact .operand h

theorem toMany (h : Derives .one r w e) : Derives .many r w e := by
  induction h
  case assignment hv hn ha _ ih => exact .assignment hv hn ha ih
  case logical ih               => exact .logical ih
  case not ht _ ih              => exact .not ht ih
  case relational ih            => exact .relational ih
  case sign ht _ ih             => exact .sign ht ih
  case power ih                 => exact .power ih
  case number ht                => exact .number ht
  case name ht                  => exact .name ht
  case parens ho hc _ ih        => exact .parens ho hc ih
  case operand ih               => exact .operand ih
  case join level t u v l r ht _ _ ihl ihr =>
    cases level
    case power => exact .join ht (.operand ihl) ihr
    all_goals exact .join ht ihl ihr

-- A power and a factor stay what they are if an exponent is put behind them: it becomes part of
-- their last exponent, or the first one if they have none.
theorem raise (h : Derives .one r w e) (hr : r = .factor ∨ r = .chain .power)
    (ht : t.kind = .caret) (hv : ∃ f, Derives .one .factor v f) :
    ∃ e', Derives .one r (w ++ t :: v) e' := by
  induction h <;> simp at hr
  case sign hs _ ih =>
    obtain ⟨_, h⟩ := ih (.inl rfl)
    exact ⟨_, .sign hs h⟩
  case power ih =>
    obtain ⟨_, h⟩ := ih (.inr rfl)
    exact ⟨_, .power h⟩
  case operand h _ =>
    subst hr
    obtain ⟨_, hv⟩ := hv
    exact ⟨_, .join (by simp [operators, ht]) h hv⟩
  case join hs h _ _ ih =>
    subst hr
    obtain ⟨_, hv⟩ := ih (.inl rfl)
    rw [List.append_assoc, List.cons_append]
    exact ⟨_, .join hs h hv⟩

theorem toOne (h : Derives .many r w e) : ∃ e', Derives .one r w e' := by
  induction h
  case assignment hv hn ha _ ih =>
    obtain ⟨_, h⟩ := ih
    exact ⟨_, .assignment hv hn ha h⟩
  case logical ih =>
    obtain ⟨_, h⟩ := ih
    exact ⟨_, .logical h⟩
  case not ht _ ih =>
    obtain ⟨_, h⟩ := ih
    exact ⟨_, .not ht h⟩
  case relational ih =>
    obtain ⟨_, h⟩ := ih
    exact ⟨_, .relational h⟩
  case sign ht _ ih =>
    obtain ⟨_, h⟩ := ih
    exact ⟨_, .sign ht h⟩
  case power ih =>
    obtain ⟨_, h⟩ := ih
    exact ⟨_, .power h⟩
  case number ht => exact ⟨_, .number ht⟩
  case name ht => exact ⟨_, .name ht⟩
  case parens ho hc _ ih =>
    obtain ⟨_, h⟩ := ih
    exact ⟨_, .parens ho hc h⟩
  case operand ih =>
    obtain ⟨_, h⟩ := ih
    exact ⟨_, .operand h⟩
  case join level t u v l r ht _ _ ihl ihr =>
    obtain ⟨_, hl⟩ := ihl
    cases level
    case power => exact hl.raise (.inr rfl) (by simpa [operators] using ht) ihr
    all_goals
      obtain ⟨_, hr⟩ := ihr
      exact ⟨_, .join ht hl hr⟩

end Derives

-- Whether exponents can be repeated makes no difference to what is accepted.
theorem derives_one_iff_many {r : Rule} {w : List Token} :
    (∃ e, Derives .one r w e) ↔ (∃ e, Derives .many r w e) where
  mp  := fun ⟨_, h⟩ => ⟨_, h.toMany⟩
  mpr := fun ⟨_, h⟩ => h.toOne

end Grammar

end Reckoner
