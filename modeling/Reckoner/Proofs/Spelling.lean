import Reckoner.Proofs.Rounding
import Reckoner.Proofs.Tokenizing
import Reckoner.Expr.Display

namespace Reckoner

-- What a token is, wherever it stands.
def Token.meaning (t : Token) : Lexical.Meaning :=
  (t.kind, t.payload)

theorem Decimal.den_of_nonneg {d : Decimal} (h : 0 ≤ d.exponent) : d.den = 1 := by
  have hzero : (-d.exponent).toNat = 0 := by omega
  simp [den, hzero]

namespace Lexical

open Text (isAlphabetic isAlphanumeric)

def Spelled (t : Token) : Prop :=
  ∃ l, Spells l (.ok t.meaning)

-- The text up to `rest` is lexemes of the given meanings, with blanks among them.
inductive Lexes (rest : List Char) : List Char → List Meaning → Prop
  | nil : Lexes rest rest []
  | blank {text ms} : Lexes rest text ms → Lexes rest (' ' :: text) ms
  | lexeme {l text m ms} : Spells l (.ok m) → Longest l (l ++ text) → Lexes rest text ms →
    Lexes rest (l ++ text) (m :: ms)

-- What stands behind an expression in a written tree.
def Delimited (rest : List Char) : Prop :=
  ∀ c ∈ rest.head?, c = ' ' ∨ c = ')'

section Lexes

variable {text rest rest' : List Char} {ms ms' : List Meaning}

theorem Lexes.append (h : Lexes rest text ms) (h' : Lexes rest' rest ms') :
    Lexes rest' text (ms ++ ms') := by
  induction h
  case nil => exact h'
  case blank ih => exact .blank ih
  case lexeme hm hl _ ih => exact .lexeme hm hl ih

theorem scanFrom_of_lexes (h : Lexes rest text ms) (p : Position) :
    ∃ q ts, ts.map Token.meaning = ms ∧ Scan.scanFrom p text
      = ⟨ts ++ (Scan.scanFrom q rest).tokens, (Scan.scanFrom q rest).ending⟩ := by
  induction h generalizing p
  case nil => exact ⟨p, [], rfl, rfl⟩
  case blank ih =>
    have ⟨q, ts, hts, hscan⟩ := ih p.advance
    exact ⟨q, ts, hts, by rw [scanFrom_gap rfl, hscan]⟩
  case lexeme l _ m _ hm hl _ ih =>
    have ⟨q, ts, hts, hscan⟩ := ih (p.forward l.length)
    refine ⟨q, ⟨m.1, m.2, .covering p l.length⟩ :: ts, by simp [Token.meaning, hts], ?_⟩
    rw [scanFrom_lexeme hl hm, hscan]
    rfl

theorem tokenize_of_lexes {s : Source} (h : Lexes [] s.text ms) :
    ∃ ts stop, tokenize s = .ok (ts ++ [stop]) ∧ stop.kind = .stop ∧ ts.map Token.meaning = ms := by
  have ⟨q, ts, hts, hscan⟩ := scanFrom_of_lexes h (.start s)
  refine ⟨ts, .stopAt q, ?_, rfl, hts⟩
  rw [tokenize, Scan.ofSource, hscan, Scan.scanFrom, List.append_nil]
  rfl

theorem spelled_of_isToken {s : Source} {ls : List (Nat × List Char)} {ts : List Token}
    (h : List.Forall₂ (IsToken s) ls ts) : ∀ t ∈ ts, Spelled t := by
  induction h
  case nil => simp
  case cons ht _ ih => exact List.forall_mem_cons.mpr ⟨⟨_, ht.spells⟩, ih⟩

theorem spelled_of_tokenize {s : Source} {ts : List Token} (h : tokenize s = .ok ts) :
    ∃ body stop, ts = body ++ [stop] ∧ stop.kind = .stop ∧ ∀ t ∈ body, Spelled t := by
  obtain ⟨_, _, _, houtcome⟩ := exists_outcome s
  rw [h] at houtcome
  cases houtcome
  case tokens body hbody => exact ⟨body, _, rfl, rfl, spelled_of_isToken hbody⟩

end Lexes

section Breaks

variable {l l' rest : List Char} {c : Char} {m : Meaning}

theorem longest_of_break (h : IsLexeme l)
    (hbreak : ∀ c ∈ rest.head?, ∀ l', IsLexeme l' → ¬l ++ [c] <+: l') : Longest l (l ++ rest) := by
  refine ⟨h, List.prefix_append .., fun l' h' hl' => ?_⟩
  by_contra hlt
  have ⟨more, hmore⟩ := List.prefix_of_prefix_length_le (List.prefix_append l rest) hl' (by omega)
  subst hmore
  have ⟨_, hrest⟩ := (List.prefix_append_right_inj l).mp hl'
  -- A longer lexeme would take in the first character of the rest.
  cases more
  case nil => simp at hlt
  case cons c more => exact hbreak c (by simp [← hrest]) _ h' ⟨more, by simp⟩

-- What is put behind a number or a word leaves it one.

theorem IsNumber.extended (h : IsNumber l) (h' : IsLexeme l') (hl : l <+: l') : IsNumber l' := by
  have ⟨c, hc, hhead⟩ := h.head?
  have ⟨tail, htail⟩ := List.head?_eq_some_iff.mp hhead
  have ⟨more, hmore⟩ := hl
  rw [← hmore, htail] at h' ⊢
  exact h'.number_of_digit (List.prefix_refl _) hc

theorem IsWord.extended (h : IsWord l) (h' : IsLexeme l') (hl : l <+: l') : IsWord l' := by
  have ⟨c, hc, hhead⟩ := h.head?
  have ⟨tail, htail⟩ := List.head?_eq_some_iff.mp hhead
  have ⟨more, hmore⟩ := hl
  rw [← hmore, htail] at h' ⊢
  exact h'.word_of_alphabetic (List.prefix_refl _) hc

theorem IsNumber.mem (h : IsNumber l) (hc : c ∈ l) : c.isDigit ∨ c = '.' := by
  cases h
  case integer hd => exact .inl (hd c hc)
  case float hw hf =>
    rcases List.mem_append.mp hc with hc | hc
    · exact .inl (hw c hc)
    · exact (List.mem_cons.mp hc).symm.imp_left (hf c)

theorem IsWord.mem (h : IsWord l) (hc : c ∈ l) : isAlphanumeric c := by
  have ⟨d, rest, hl, hd, hrest⟩ := h
  rcases List.mem_cons.mp (hl ▸ hc) with rfl | hc
  · simp [isAlphanumeric, hd]
  · exact hrest c hc

theorem IsNumber.longest (h : IsNumber l) (hrest : ∀ c ∈ rest.head?, ¬(c.isDigit ∨ c = '.')) :
    Longest l (l ++ rest) := by
  refine longest_of_break (isLexeme_iff.mpr <| .inr <| .inl h) fun c hc l' h' hl => ?_
  have hnumber := h.extended h' ((List.prefix_append ..).trans hl)
  exact hrest c hc (hnumber.mem (hl.subset (by simp)))

theorem IsWord.longest (h : IsWord l) (hrest : ∀ c ∈ rest.head?, ¬isAlphanumeric c) :
    Longest l (l ++ rest) := by
  refine longest_of_break (isLexeme_iff.mpr <| .inr <| .inr h) fun c hc l' h' hl => ?_
  have hword := h.extended h' ((List.prefix_append ..).trans hl)
  exact hrest c hc (hword.mem (hl.subset (by simp)))

theorem Spells.isNumber {kind : Token.Kind} {payload : Option Token.Payload}
    (h : Spells l (.ok (kind, payload))) (hkind : kind ∈ [.int, .float]) : IsNumber l := by
  have hsymbols : ∀ x ∈ symbols, x.2 ∉ [.int, .float] := by decide
  cases h
  case symbol h => exact absurd hkind (hsymbols _ h)
  case integer hne hd _ => exact .integer hne hd
  case float hne hw hf => exact .float hne hw hf
  all_goals simp at hkind

-- A symbol is not taken for the beginning of a longer one if no equals sign follows, or if it would
-- not become one with an equals sign.
theorem longest_symbol {kind : Token.Kind} (h : (l, kind) ∈ symbols)
    (hrest : rest.head? ≠ some '=' ∨ l ++ ['='] ∉ symbols.map Prod.fst) :
    Longest l (l ++ rest) := by
  refine longest_of_break (isLexeme_iff.mpr (.inl ⟨kind, h⟩)) fun d hd l' h' hl => ?_
  have ⟨c, hmark, hshape⟩ := symbol_shape h
  have ⟨more, hmore⟩ := hl
  subst hmore
  rcases hshape with ⟨rfl, _⟩ | ⟨rfl, _⟩
  all_goals
    have ⟨kind', hs'⟩ := h'.isSymbol_of_mark (List.prefix_refl _) hmark
    have hl' := h'.symbol_of_mark (List.prefix_refl _) hmark
    simp only [List.cons_append, List.nil_append, List.cons.injEq, reduceCtorEq, and_false,
      false_and, false_or, true_and] at hl'
  have ⟨⟨hequals, hmore⟩, _⟩ := hl'
  subst hequals hmore
  rcases hrest with hrest | hrest
  · exact hrest hd
  · exact hrest (List.mem_map.mpr ⟨_, hs', rfl⟩)

-- The end of a text, a blank and a closing parenthesis all end a lexeme.
theorem longest_of_delimited (h : IsLexeme l) (hrest : Delimited rest) : Longest l (l ++ rest) := by
  rcases isLexeme_iff.mp h with ⟨_, hs⟩ | hn | hw
  case inl => exact longest_symbol hs <| .inl fun hequals => absurd (hrest _ hequals) (by decide)
  case inr.inl =>
    refine hn.longest fun c hc => ?_
    rcases hrest c hc with rfl | rfl <;> decide
  case inr.inr =>
    refine hw.longest fun c hc => ?_
    rcases hrest c hc with rfl | rfl <;> decide

theorem lexes_of_spells (h : Spells l (.ok m)) (hrest : Delimited rest) :
    Lexes rest (l ++ rest) [m] :=
  .lexeme h (longest_of_delimited ⟨_, h⟩ hrest) .nil

theorem lexes_alone (h : Spells l (.ok m)) : Lexes [] l [m] := by
  have hlexes := lexes_of_spells h (by simp [Delimited] : Delimited [])
  rwa [List.append_nil] at hlexes

-- A minus sign stays a lexeme of its own whatever follows it.

theorem spells_minus : Spells ['-'] (.ok (.minus, none)) :=
  .symbol (by decide)

theorem longest_minus (text : List Char) : Longest ['-'] ('-' :: text) :=
  longest_symbol (by decide : (['-'], Token.Kind.minus) ∈ symbols) (.inr (by decide))

theorem Lexes.minus {text : List Char} {ms : List Meaning} (h : Lexes rest text ms) :
    Lexes rest ('-' :: text) ((.minus, none) :: ms) :=
  .lexeme spells_minus (longest_minus text) h

end Breaks

section Numerals

variable {digits rest : List Char}

theorem digits_toDigits (n : Nat) : Digits (Nat.toDigits 10 n) :=
  fun _ => Nat.isDigit_of_mem_toDigits (by decide) (by decide)

theorem digits_zeros (n : Nat) : Digits (List.replicate n '0') :=
  fun _ hc => List.eq_of_mem_replicate hc ▸ rfl

theorem Digits.append {digits' : List Char} (h : Digits digits) (h' : Digits digits') :
    Digits (digits ++ digits') :=
  fun c hc => (List.mem_append.mp hc).elim (h c) (h' c)

theorem value_toDigits (n : Nat) : value (Nat.toDigits 10 n) = n :=
  Nat.ofDigitChars_ten_toDigits

theorem toString_toList_of_nonneg {n : Int} (h : 0 ≤ n) :
    (toString n).toList = Nat.toDigits 10 n.toNat := by
  rw [Int.toString_eq_repr, Int.repr_eq_if, if_pos h, Nat.toList_repr]

theorem toString_toList_of_neg {n : Int} (h : n < 0) :
    (toString n).toList = '-' :: Nat.toDigits 10 (-n).toNat := by
  rw [Int.toString_eq_repr, Int.repr_eq_if, if_neg (by omega), String.toList_append,
    Nat.toList_repr]
  rfl

theorem spells_int {n : Int64} (h : 0 ≤ n.toInt) :
    Spells (toString n.toInt).toList (.ok (.int, some (.int n))) := by
  rw [toString_toList_of_nonneg h]
  refine .integer Nat.toDigits_ne_nil (digits_toDigits _) ?_
  rw [value_toDigits, Int.toNat_of_nonneg h]

theorem spells_toDigits {n : Nat} (h : n < 2 ^ 63) :
    Spells (Nat.toDigits 10 n) (.ok (.int, some (.int (.ofNat n)))) := by
  refine .integer Nat.toDigits_ne_nil (digits_toDigits n) ?_
  rw [value_toDigits, Int64.toInt_ofNat_of_lt h]

theorem value_replicate_append (n : Nat) (digits : List Char) :
    value (List.replicate n '0' ++ digits) = value digits := by
  simp [value, Nat.ofDigitChars_append]

-- A decimal point before the last digits makes them the digits of a fraction.
theorem spells_pointed (hd : Digits digits) (places : Nat) :
    Spells (Decimal.pointed digits places) (.ok (.float, some (.float
      (Decimal.toBinary64 false ⟨value digits, -places⟩)))) := by
  rw [← value_replicate_append (places + 1 - digits.length) digits]
  have hpadded := (digits_zeros (places + 1 - digits.length)).append hd
  have hlength : places < (List.replicate (places + 1 - digits.length) '0' ++ digits).length := by
    simp only [List.length_append, List.length_replicate]
    omega
  rw [Decimal.pointed]
  generalize List.replicate (places + 1 - digits.length) '0' ++ digits = padded at *
  have hfraction : (padded.drop (padded.length - places)).length = places := by
    rw [List.length_drop]
    omega
  have hwhole : padded.take (padded.length - places) ≠ [] := by
    rw [← List.length_pos_iff, List.length_take]
    omega
  have hw : Digits (padded.take (padded.length - places)) :=
    fun c hc => hpadded c (List.mem_of_mem_take hc)
  have hf : Digits (padded.drop (padded.length - places)) :=
    fun c hc => hpadded c (List.mem_of_mem_drop hc)
  have h := Spells.float (.inl hwhole) hw hf
  rwa [List.take_append_drop, hfraction] at h

theorem toBinary64_point_zero (n : Nat) :
    Decimal.toBinary64 false ⟨n * 10, -1⟩ = .ofQuotient false n 1 := by
  have hnum : Decimal.num ⟨n * 10, -1⟩ = n * 10 := by simp [Decimal.num]
  have hden : Decimal.den ⟨n * 10, -1⟩ = 1 * 10 := by simp [Decimal.den]
  rw [Decimal.toBinary64, hnum, hden, Binary64.ofQuotient, Binary64.ofUnits, ← Nat.mul_assoc,
    Binary64.nearestRank_scale _ _ _ (by decide)]
  rfl

-- Digits before a point and a zero are a whole number.
theorem spells_point_zero (hd : Digits digits) (hne : digits ≠ []) :
    Spells (digits ++ ['.', '0'])
      (.ok (.float, some (.float (.ofQuotient false (value digits) 1)))) := by
  have h : Spells (digits ++ '.' :: ['0']) _ := .float (.inl hne) hd (by simp [Digits])
  have hvalue : value (digits ++ ['0']) = value digits * 10 := by
    simp [value, Nat.ofDigitChars_append, Nat.ofDigitChars_cons, Nat.mul_comm]
  rw [hvalue] at h
  change Spells _ (.ok (.float, some (.float (Decimal.toBinary64 false ⟨_, -1⟩)))) at h
  rwa [toBinary64_point_zero] at h

-- A decimal that is written with a decimal point reads back.
theorem spells_positional (d : Decimal) :
    Spells (if d.exponent < 0 then d.positional else d.positional ++ ['.', '0'])
      (.ok (.float, some (.float (d.toBinary64 false)))) := by
  have hd := digits_toDigits d.digits
  rw [Decimal.positional]
  split
  case isTrue hlt =>
    have h := spells_pointed hd (-d.exponent).toNat
    have hexponent : -((-d.exponent).toNat : Int) = d.exponent := by omega
    rwa [value_toDigits, hexponent] at h
  case isFalse hge =>
    have hdigits := hd.append (digits_zeros d.exponent.toNat)
    have hne : Nat.toDigits 10 d.digits ++ List.replicate d.exponent.toNat '0' ≠ [] := by
      simp [Nat.toDigits_ne_nil]
    have hvalue : value (Nat.toDigits 10 d.digits ++ List.replicate d.exponent.toNat '0')
        = d.num := by
      simp [value, Nat.ofDigitChars_append, Decimal.num, Nat.mul_comm]
    have h := spells_point_zero hdigits hne
    rwa [hvalue, ← Decimal.den_of_nonneg (Int.not_lt.mp hge)] at h

theorem isAlphanumeric_of_isDigit {c : Char} (h : c.isDigit) : isAlphanumeric c := by
  have ⟨hge, hle⟩ : 0x30 ≤ c.toNat ∧ c.toNat ≤ 0x39 := by
    simpa [Char.isDigit, UInt32.le_iff_toNat_le] using h
  simp [isAlphanumeric, Text.inRanges, Text.numericRanges, Nat.not_lt.mpr hge, hle]

-- No keyword begins with the letter that stands before a power of ten.
theorem spells_exponent (hd : Digits digits) :
    Spells ('e' :: digits) (.ok (.identifier, some (.name (String.ofList ('e' :: digits))))) := by
  refine .name (by decide) (fun d h => isAlphanumeric_of_isDigit (hd d h)) fun k hk => ?_
  have hfirst : k.word.toList.head? ≠ some 'e' := by cases k <;> decide
  exact hfirst (by rw [hk]; rfl)

theorem exists_spells_mantissa (digits : List Char) (n : Nat) (h : digits = Nat.toDigits 10 n) :
    ∃ kind payload, kind ∈ [Token.Kind.int, Token.Kind.float] ∧
      Spells (if digits.length = 1 then digits else Decimal.pointed digits (digits.length - 1))
        (.ok (kind, payload)) := by
  subst h
  split
  case isTrue hone =>
    have hlt : n < 10 ^ 1 :=
      (Nat.length_toDigits_le_iff (by decide) (by decide)).mp (Nat.le_of_eq hone)
    exact ⟨_, _, by decide, spells_toDigits (by omega)⟩
  case isFalse => exact ⟨_, _, by decide, spells_pointed (digits_toDigits n) _⟩

theorem lexes_exponent {n : Int} (h : -2 ^ 63 < n) (hrest : Delimited rest) :
    ∃ m ms, Lexes rest ('e' :: (toString n).toList ++ rest) (m :: ms) ∧
      ∀ x ∈ m :: ms, x.1 ∈ [.int, .identifier, .minus] := by
  by_cases hn : 0 ≤ n
  case pos =>
    rw [toString_toList_of_nonneg hn]
    exact ⟨_, [], lexes_of_spells (spells_exponent (digits_toDigits _)) hrest, by simp⟩
  case neg =>
    have hdigits := lexes_of_spells (spells_toDigits (by omega : (-n).toNat < 2 ^ 63)) hrest
    have hword : IsWord ['e'] := ⟨'e', [], rfl, by decide, by simp⟩
    have hlongest : Longest ['e'] (['e'] ++ '-' :: (Nat.toDigits 10 (-n).toNat ++ rest)) :=
      hword.longest fun c hc => by cases hc; decide
    have hexponent := Lexes.lexeme (spells_exponent (by simp [Digits])) hlongest hdigits.minus
    rw [toString_toList_of_neg (by omega)]
    exact ⟨_, _, hexponent, by simp⟩

-- A number with a power of ten is at least two lexemes.
theorem lexes_scientific {d : Decimal} (h : -1074 ≤ d.exponent) (hrest : Delimited rest) :
    ∃ m m' ms, Lexes rest (d.scientific ++ rest) (m :: m' :: ms) ∧
      ∀ x ∈ m :: m' :: ms, x.1 ∈ [.int, .float, .identifier, .minus] := by
  have ⟨kind, payload, hkind, hm⟩ := exists_spells_mantissa _ d.digits rfl
  have hexponent : -2 ^ 63 < d.exponent + ((Nat.toDigits 10 d.digits).length - 1 : Nat) := by omega
  have ⟨m, ms, hlexes, hms⟩ := lexes_exponent hexponent hrest
  have h := Lexes.lexeme hm ((hm.isNumber hkind).longest (by simp)) hlexes
  refine ⟨(kind, payload), m, ms, ?_, List.forall_mem_cons.mpr ⟨?_, fun x hx => ?_⟩⟩
  · simpa [Decimal.scientific] using h
  · exact (by decide : ∀ k ∈ [.int, .float], k ∈ _) kind hkind
  · exact (by decide : ∀ k ∈ [.int, .identifier, .minus], k ∈ _) x.1 (hms x hx)

end Numerals

section Floats

variable {rest : List Char} {t : Token}

theorem exponent_of_closest? {rank : Nat} {lower upper d : Decimal} {lowerIsNearer : Bool}
    (h : Decimal.closest? rank lower upper lowerIsNearer = some d)
    (hexponent : lower.exponent = upper.exponent) : d.exponent = lower.exponent := by
  unfold Decimal.closest? at h
  split at h <;> simp at h
  case h_1 => split at h <;> simp [← h, hexponent]
  all_goals simp [← h, hexponent]

theorem topExponent_ge (rank : Nat) : -323 ≤ Decimal.topExponent rank := by
  unfold Decimal.topExponent Binary64.smallestPlaces
  omega

theorem shortest_exponent_ge (rank : Nat) : -1074 ≤ (Decimal.shortest rank).exponent := by
  unfold Decimal.shortest
  split
  case isTrue => decide
  case isFalse =>
    cases h : (List.range 20).findSome? fun (i : Nat) =>
        Decimal.onGrid? rank (Decimal.topExponent rank - i)
    case none =>
      change -1074 ≤ -(Binary64.smallestPlaces : Int)
      rw [Binary64.smallestPlaces]
      decide
    case some d =>
      obtain ⟨i, hi, hd⟩ := List.exists_of_findSome?_eq_some h
      have hexponent : d.exponent = Decimal.topExponent rank - i := exponent_of_closest? hd rfl
      have htop := topExponent_ge rank
      have hlt := List.mem_range.mp hi
      simp [hexponent]
      omega

-- The floats that are written without a power of ten.
def Plain (x : Binary64) : Prop :=
  x.isZero ∨
    (Decimal.toBinary64 false ⟨1, -4⟩).lessEq x ∧ x.less (Decimal.toBinary64 false ⟨1, 16⟩)

theorem isPositional_iff {rank : Nat} : Expr.isPositional rank ↔
    rank = 0 ∨ Expr.leastPositional ≤ rank ∧ rank < Expr.leastTooLarge := by
  simp [Expr.isPositional]

theorem leastTooLarge_le : Expr.leastTooLarge ≤ Binary64.rankCount := by
  decide +kernel

theorem rankCount_pos : 0 < Binary64.rankCount := by
  decide

theorem plain_ofRank_iff (rank : Nat) :
    Plain (.ofRank false rank) ↔ Expr.isPositional rank := by
  have hleast : Decimal.toBinary64 false ⟨1, -4⟩ = .ofRank false Expr.leastPositional := by
    simp [Decimal.toBinary64, Binary64.ofQuotient, Binary64.ofUnits, Expr.leastPositional,
      Decimal.num, Decimal.den]
  have hlarge : Decimal.toBinary64 false ⟨1, 16⟩ = .ofRank false Expr.leastTooLarge := by
    simp [Decimal.toBinary64, Binary64.ofQuotient, Binary64.ofUnits, Expr.leastTooLarge,
      Decimal.num, Decimal.den]
  have hcount := leastTooLarge_le
  have hpos := rankCount_pos
  have hzero : Binary64.zero.place? = some 0 := rfl
  rw [Plain, hleast, hlarge, isPositional_iff]
  simp only [Binary64.isZero, Binary64.eq, Binary64.lessEq, Binary64.less, Binary64.compareBy,
    Binary64.place?_ofRank, Bool.false_eq_true, if_false, hzero, beq_iff_eq, decide_eq_true_eq]
  omega

theorem floatText_toList (rank : Fin Binary64.rankCount) :
    (Expr.floatText (.finite false rank)).toList =
      let decimal := Decimal.shortest rank
      if Expr.isPositional rank then
        if decimal.exponent < 0 then decimal.positional else decimal.positional ++ ['.', '0']
      else decimal.scientific := by
  simp [Expr.floatText, Binary64.textWith]

theorem spells_infinity : Spells ['i', 'n', 'f'] (.ok (.identifier, some (.name "inf"))) :=
  .name (by decide) (List.all_eq_true.mp (by decide)) fun k => by cases k <;> decide

-- The text of a float is scanned as the float if it is plain, and else as a name or as more than
-- one token.
theorem lexes_float {x : Binary64} {rank : Nat} (hx : x = .ofRank false rank)
    (hrest : Delimited rest) :
    ∃ ms, Lexes rest ((Expr.floatText x).toList ++ rest) ms ∧ ms ≠ [] ∧
      (∀ m ∈ ms, m.1 ∈ [.int, .float, .identifier, .minus]) ∧
      (ms = [(.float, some (.float x))] ↔ Plain x) := by
  have hplain := plain_ofRank_iff rank
  rw [← hx] at hplain
  rw [hplain]
  unfold Binary64.ofRank at hx
  split at hx
  case isFalse hrank =>
    have hpositional : ¬Expr.isPositional rank := by
      have hcount := leastTooLarge_le
      have hpos := rankCount_pos
      rw [isPositional_iff]
      omega
    subst hx
    exact ⟨_, lexes_of_spells spells_infinity hrest, by simp, by simp, by simp [hpositional]⟩
  case isTrue hrank =>
    subst hx
    rw [floatText_toList]
    by_cases hpositional : Expr.isPositional rank
    case pos =>
      have h := spells_positional (Decimal.shortest rank)
      rw [Decimal.toBinary64_shortest false ⟨rank, hrank⟩] at h
      simp only [if_pos hpositional]
      exact ⟨_, lexes_of_spells h hrest, by simp, by simp, by simp [hpositional]⟩
    case neg =>
      have ⟨m, m', ms, hlexes, hms⟩ := lexes_scientific (shortest_exponent_ge rank) hrest
      simp only [if_neg hpositional]
      exact ⟨_, hlexes, by simp, hms, by simp [hpositional]⟩

-- The numbers of a text have no sign.

theorem Spells.int_inv {l : List Char} {payload : Option Token.Payload}
    (h : Spells l (.ok (.int, payload))) : ∃ n : Int64, payload = some (.int n) ∧ 0 ≤ n.toInt := by
  cases h
  case symbol h => exact absurd h (by simp [symbols])
  case integer hn => exact ⟨_, rfl, by omega⟩

theorem Spells.float_inv {l : List Char} {payload : Option Token.Payload}
    (h : Spells l (.ok (.float, payload))) :
    ∃ x rank, payload = some (.float x) ∧ x = .ofRank false rank := by
  cases h
  case symbol h => exact absurd h (by simp [symbols])
  case float => exact ⟨_, _, rfl, rfl⟩

theorem lexes_number (h : Spelled t) (hkind : t.kind = .int ∨ t.kind = .float)
    (hrest : Delimited rest) :
    ∃ ms, Lexes rest ((Expr.numberText t).toList ++ rest) ms ∧ ms ≠ [] ∧
      (∀ m ∈ ms, m.1 ∈ [.int, .float, .identifier, .minus]) ∧
      (ms = [t.meaning] ↔ ∀ x, t.payload = some (.float x) → Plain x) := by
  have ⟨l, h⟩ := h
  rcases hkind with hkind | hkind
  case inl =>
    rw [Token.meaning, hkind] at h
    have ⟨n, hpayload, hn⟩ := h.int_inv
    have hlexes := lexes_of_spells (spells_int hn) hrest
    rw [Expr.numberText, Token.meaning, hkind, hpayload]
    exact ⟨_, hlexes, by simp, by simp, by simp⟩
  case inr =>
    rw [Token.meaning, hkind] at h
    have ⟨x, rank, hpayload, hx⟩ := h.float_inv
    have ⟨ms, hlexes, hne, hms, hplain⟩ := lexes_float hx hrest
    rw [Expr.numberText, Token.meaning, hkind, hpayload]
    exact ⟨ms, hlexes, hne, hms, by simp [hplain]⟩

end Floats

end Lexical

end Reckoner
