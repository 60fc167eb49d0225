import Mathlib
import Reckoner.Token.Scan

namespace Reckoner

namespace Lexical

open Text (isAlphabetic isAlphanumeric)

def symbols : List (List Char × Token.Kind) :=
  [(['+'], .plus), (['-'], .minus), (['*'], .star), (['/'], .slash), (['^'], .caret),
   (['('], .openParen), ([')'], .closeParen), (['='], .assign), (['=', '='], .equal),
   (['!', '='], .notEqual), (['<'], .less), (['<', '='], .lessEqual), (['>'], .greater),
   (['>', '='], .greaterEqual)]

def Digits (l : List Char) : Prop :=
  ∀ c ∈ l, c.isDigit

-- The number that digits spell.
def value (digits : List Char) : Nat :=
  Nat.ofDigitChars 10 digits 0

-- What a token is, wherever it stands.
abbrev Meaning := Token.Kind × Option Token.Payload

-- The lexemes and their meanings. The only lexemes without one are the integers that do not fit 64
-- bits.
inductive Spells : List Char → Except Lexeme.Fault Meaning → Prop
  | symbol {l kind} : (l, kind) ∈ symbols → Spells l (.ok (kind, none))
  | integer {l} {n : Int64} :
    l ≠ [] → Digits l → n.toInt = value l → Spells l (.ok (.int, some (.int n)))
  | outOfRange {l} :
    l ≠ [] → Digits l → Int64.maxValue.toInt < value l → Spells l (.error (.outOfRange l))
  | float {whole fraction} :
    whole ≠ [] ∨ fraction ≠ [] → Digits whole → Digits fraction →
    Spells (whole ++ '.' :: fraction) (.ok (.float, some (.float
      (Decimal.toBinary64 false ⟨value (whole ++ fraction), -fraction.length⟩))))
  | keyword (k : Keyword) : Spells k.word.toList (.ok (.keyword k, none))
  | name {c rest} :
    isAlphabetic c → (∀ d ∈ rest, isAlphanumeric d) → (∀ k : Keyword, k.word.toList ≠ c :: rest) →
    Spells (c :: rest) (.ok (.identifier, some (.name (String.ofList (c :: rest)))))

def IsLexeme (l : List Char) : Prop :=
  ∃ m, Spells l m

inductive IsNumber : List Char → Prop
  | integer {l} : l ≠ [] → Digits l → IsNumber l
  | float {whole fraction} :
    whole ≠ [] ∨ fraction ≠ [] → Digits whole → Digits fraction →
    IsNumber (whole ++ '.' :: fraction)

def IsWord (l : List Char) : Prop :=
  ∃ c rest, l = c :: rest ∧ isAlphabetic c ∧ ∀ d ∈ rest, isAlphanumeric d

-- The longest lexeme at the front of a text.
structure Longest (l text : List Char) : Prop where
  lexeme  : IsLexeme l
  front   : l <+: text
  longest : ∀ l', IsLexeme l' → l' <+: text → l'.length ≤ l.length

section Characters

variable {c : Char}

theorem inRanges_ge {r : Nat × Nat} {rs : List (Nat × Nat)} (h : Text.inRanges (r :: rs) c) :
    r.1 ≤ c.toNat := by
  by_contra hlt
  simp [Text.inRanges, Nat.lt_of_not_le hlt] at h

theorem isAlphabetic_ge (h : isAlphabetic c) : 0x41 ≤ c.toNat :=
  inRanges_ge h

theorem isDigit_lt (h : c.isDigit) : c.toNat < 0x41 := by
  simp [Char.isDigit, UInt32.le_iff_toNat_le] at h
  exact Nat.lt_of_le_of_lt h.right (by decide)

theorem not_isAlphabetic_of_isDigit (h : c.isDigit) : ¬isAlphabetic c :=
  fun ha => Nat.not_lt.mpr (isAlphabetic_ge ha) (isDigit_lt h)

-- The characters that symbols begin with.
def marks : List Char :=
  ['+', '-', '*', '/', '^', '(', ')', '=', '!', '<', '>']

theorem mark_not_other (h : c ∈ marks) : ¬c.isDigit ∧ c ≠ '.' ∧ ¬isAlphabetic c := by
  have hall : marks.all fun c => ¬c.isDigit ∧ c ≠ '.' ∧ ¬isAlphabetic c := by decide
  exact of_decide_eq_true (List.all_eq_true.mp hall c h)

end Characters

section Shapes

variable {l rest : List Char} {c : Char} {m : Except Lexeme.Fault Meaning} {kind : Token.Kind}

theorem symbol_shape (h : (l, kind) ∈ symbols) :
    ∃ c ∈ marks, l = [c] ∧ c ≠ '!' ∨ l = [c, '='] ∧ c ∈ ['=', '!', '<', '>'] := by
  have hall : ∀ x ∈ symbols, marks.any fun c =>
      x.1 = [c] ∧ c ≠ '!' ∨ x.1 = [c, '='] ∧ c ∈ ['=', '!', '<', '>'] := by decide
  have ⟨c, hc, hshape⟩ := List.any_eq_true.mp (hall _ h)
  exact ⟨c, hc, of_decide_eq_true hshape⟩

theorem keyword_isWord (k : Keyword) : IsWord k.word.toList := by
  cases k
  case var => exact ⟨'V', ['A', 'R'], rfl, by decide, List.all_eq_true.mp (by decide)⟩
  case and => exact ⟨'A', ['N', 'D'], rfl, by decide, List.all_eq_true.mp (by decide)⟩
  case or => exact ⟨'O', ['R'], rfl, by decide, List.all_eq_true.mp (by decide)⟩
  case not => exact ⟨'N', ['O', 'T'], rfl, by decide, List.all_eq_true.mp (by decide)⟩

theorem spells_integer (hne : l ≠ []) (hd : Digits l) : Spells l (Lexeme.integer l) := by
  rw [Lexeme.integer]
  split
  case isTrue hle =>
    have hlt : value l < 2 ^ 63 := by
      have hmax : Int64.maxValue.toInt = 2 ^ 63 - 1 := by decide
      change (value l : Int) ≤ _ at hle
      omega
    exact .integer hne hd (Int64.toInt_ofNat_of_lt hlt)
  case isFalse hle => exact .outOfRange hne hd (Int.lt_of_not_ge hle)

-- What a word means as a token.
def wordMeaning (l : List Char) : Meaning :=
  match Keyword.ofWord? (String.ofList l) with
  | some k => (.keyword k, none)
  | none => (.identifier, some (.name (String.ofList l)))

theorem spells_word (h : IsWord l) : Spells l (.ok (wordMeaning l)) := by
  rw [wordMeaning]
  split
  case h_1 k hk =>
    have hl : l = k.word.toList := by simp [Keyword.ofWord?_eq_some_iff.mp hk]
    rw [hl]
    exact .keyword k
  case h_2 hk =>
    have ⟨c, rest, hl, hc, hrest⟩ := h
    subst hl
    refine .name hc hrest fun k hw => ?_
    have : Keyword.ofWord? (String.ofList (c :: rest)) = some k :=
      Keyword.ofWord?_eq_some_iff.mpr (by simp [← hw])
    exact absurd (this.symm.trans hk) (by simp)

theorem integer_eq_ok {n : Int64} (h : n.toInt = value l) :
    Lexeme.integer l = .ok (.int, some (.int n)) := by
  have hlt : n.toInt < 2 ^ 63 := n.toInt_lt
  have hmax : Int64.maxValue.toInt = 2 ^ 63 - 1 := by decide
  have hle : (Nat.ofDigitChars 10 l 0 : Int) ≤ Int64.maxValue.toInt := by
    change (value l : Int) ≤ _
    omega
  have hn : Int64.ofNat (value l) = n :=
    Int64.toInt_inj.mp <| (Int64.toInt_ofNat_of_lt (by omega)).trans h.symm
  simp only [Lexeme.integer, if_pos hle]
  exact hn ▸ rfl

-- Symbols, integers, floats and words, each with its meaning.
theorem spells_iff : Spells l m ↔
    (∃ kind, (l, kind) ∈ symbols ∧ m = .ok (kind, none)) ∨
    (l ≠ [] ∧ Digits l ∧ m = Lexeme.integer l) ∨
    (∃ whole fraction, l = whole ++ '.' :: fraction ∧ (whole ≠ [] ∨ fraction ≠ []) ∧
      Digits whole ∧ Digits fraction ∧ m = .ok (.float, some (.float
        (Decimal.toBinary64 false ⟨value (whole ++ fraction), -fraction.length⟩)))) ∨
    (IsWord l ∧ m = .ok (wordMeaning l)) := by
  constructor
  case mp =>
    intro h
    cases h
    case symbol h => exact .inl ⟨_, h, rfl⟩
    case integer hne hd hn => exact .inr <| .inl ⟨hne, hd, (integer_eq_ok hn).symm⟩
    case outOfRange hne hd hlt =>
      exact .inr <| .inl ⟨hne, hd, (if_neg (Int.not_le.mpr hlt)).symm⟩
    case float hne hw hf => exact .inr <| .inr <| .inl ⟨_, _, rfl, hne, hw, hf, rfl⟩
    case keyword k =>
      have hk : Keyword.ofWord? (String.ofList k.word.toList) = some k :=
        Keyword.ofWord?_eq_some_iff.mpr (by simp)
      exact .inr <| .inr <| .inr ⟨keyword_isWord k, by rw [wordMeaning, hk]⟩
    case name c rest hc hrest hne =>
      have hk : Keyword.ofWord? (String.ofList (c :: rest)) = none := by
        refine Option.eq_none_iff_forall_ne_some.mpr fun k hk => hne k ?_
        simp [Keyword.ofWord?_eq_some_iff.mp hk]
      exact .inr <| .inr <| .inr ⟨⟨_, _, rfl, hc, hrest⟩, by rw [wordMeaning, hk]⟩
  case mpr =>
    rintro (⟨_, h, rfl⟩ | ⟨hne, hd, rfl⟩ | ⟨_, _, rfl, hne, hw, hf, rfl⟩ | ⟨h, rfl⟩)
    · exact .symbol h
    · exact spells_integer hne hd
    · exact .float hne hw hf
    · exact spells_word h

theorem isLexeme_iff : IsLexeme l ↔ (∃ kind, (l, kind) ∈ symbols) ∨ IsNumber l ∨ IsWord l := by
  constructor
  case mp =>
    intro ⟨m, h⟩
    rcases spells_iff.mp h with ⟨_, h, _⟩ | ⟨hne, hd, _⟩ | ⟨_, _, rfl, hne, hw, hf, _⟩ | ⟨h, _⟩
    · exact .inl ⟨_, h⟩
    · exact .inr <| .inl <| .integer hne hd
    · exact .inr <| .inl <| .float hne hw hf
    · exact .inr <| .inr h
  case mpr =>
    rintro (⟨_, h⟩ | (⟨hne, hd⟩ | ⟨hne, hw, hf⟩) | h)
    · exact ⟨_, .symbol h⟩
    · exact ⟨_, spells_integer hne hd⟩
    · exact ⟨_, .float hne hw hf⟩
    · exact ⟨_, spells_word h⟩

-- The first character of a text tells which sort of lexeme can stand at its front.
theorem IsLexeme.sort (h : IsLexeme l) (hl : l <+: c :: rest) :
    c ∈ marks ∧ (∃ kind, (l, kind) ∈ symbols) ∨
    (c.isDigit ∨ c = '.' ∧ Lexeme.startsWithDigit rest) ∧ IsNumber l ∨
    isAlphabetic c ∧ IsWord l := by
  have ⟨tail, heq⟩ := hl
  rcases isLexeme_iff.mp h with ⟨kind, hs⟩ | hn | hw
  case inl =>
    have ⟨c', hc', hshape⟩ := symbol_shape hs
    have hc : c' = c := by rcases hshape with ⟨rfl, _⟩ | ⟨rfl, _⟩ <;> exact (List.cons.inj heq).left
    exact .inl ⟨hc ▸ hc', kind, hs⟩
  case inr.inr =>
    have ⟨c', _, hcons, ha, _⟩ := hw
    subst hcons
    exact .inr <| .inr ⟨(List.cons.inj heq).left ▸ ha, hw⟩
  case inr.inl =>
    refine .inr <| .inl ⟨?_, hn⟩
    cases hn
    case integer hne hd =>
      cases l <;> simp at hne heq
      exact .inl (heq.left ▸ hd _ (List.mem_cons_self ..))
    case float whole fraction hne hw hf =>
      cases whole <;> simp at heq
      case cons => exact .inl (heq.left ▸ hw _ (List.mem_cons_self ..))
      case nil =>
        cases fraction <;> simp at hne
        case cons d fraction =>
          refine .inr ⟨heq.left.symm, ?_⟩
          simpa [← heq.right, Lexeme.startsWithDigit] using hf d (List.mem_cons_self ..)

theorem IsLexeme.isSymbol_of_mark (h : IsLexeme l) (hl : l <+: c :: rest) (hc : c ∈ marks) :
    ∃ kind, (l, kind) ∈ symbols := by
  have ⟨hdigit, hdot, halpha⟩ := mark_not_other hc
  rcases h.sort hl with ⟨_, hs⟩ | ⟨hd | ⟨hd, _⟩, _⟩ | ⟨ha, _⟩
  case inl => exact hs
  all_goals contradiction

theorem IsLexeme.symbol_of_mark (h : IsLexeme l) (hl : l <+: c :: rest) (hc : c ∈ marks) :
    l = [c] ∧ c ≠ '!' ∨ l = [c, '='] ∧ c ∈ ['=', '!', '<', '>'] ∧ rest.head? = some '=' := by
  have ⟨_, hs⟩ := h.isSymbol_of_mark hl hc
  have ⟨tail, hl⟩ := hl
  have ⟨c', _, hshape⟩ := symbol_shape hs
  rcases hshape with ⟨rfl, hbang⟩ | ⟨rfl, htwo⟩ <;> simp at hl
  · exact .inl ⟨by simp [hl], hl.left ▸ hbang⟩
  · exact .inr ⟨by simp [hl], hl.left ▸ htwo, by simp [← hl.right]⟩

theorem IsLexeme.word_of_alphabetic (h : IsLexeme l) (hl : l <+: c :: rest) (hc : isAlphabetic c) :
    IsWord l := by
  rcases h.sort hl with ⟨hm, _⟩ | ⟨hd | ⟨hd, _⟩, _⟩ | ⟨_, hw⟩
  · exact absurd hc (mark_not_other hm).right.right
  · exact absurd hc (not_isAlphabetic_of_isDigit hd)
  · exact absurd (hd ▸ hc) (by decide)
  · exact hw

theorem IsLexeme.number_of_digit (h : IsLexeme l) (hl : l <+: c :: rest)
    (hc : c.isDigit ∨ c = '.') : IsNumber l := by
  rcases h.sort hl with ⟨hm, _⟩ | ⟨_, hn⟩ | ⟨ha, _⟩
  · have ⟨hdigit, hdot, _⟩ := mark_not_other hm
    exact absurd hc (not_or.mpr ⟨hdigit, hdot⟩)
  · exact hn
  · rcases hc with hd | rfl
    · exact absurd ha (not_isAlphabetic_of_isDigit hd)
    · exact absurd ha (by decide)

end Shapes

-- What was read off the front of a text is the longest lexeme there, with its meaning.
def Found (text : List Char) (x : Lexeme) : Prop :=
  ∃ l, l.length = x.tail + 1 ∧ Longest l text ∧ Spells l x.meaning

section Found

variable {l text rest whole fraction : List Char} {c : Char} {kind : Token.Kind}

theorem found_of_spells {x : Lexeme} (hm : Spells l x.meaning) (hlength : l.length = x.tail + 1)
    (hfront : l <+: text) (h : ∀ l', IsLexeme l' → l' <+: text → l'.length ≤ l.length) :
    Found text x :=
  ⟨l, hlength, ⟨⟨_, hm⟩, hfront, h⟩, hm⟩

theorem found_symbol (hs : ([c], kind) ∈ symbols) (hc : c ∈ marks)
    (hrest : c ∈ ['=', '!', '<', '>'] → rest.head? ≠ some '=') :
    Found (c :: rest) (Lexeme.symbol kind) := by
  refine found_of_spells (.symbol hs) rfl (by simp) fun l h hl => ?_
  rcases h.symbol_of_mark hl hc with ⟨rfl, _⟩ | ⟨rfl, htwo, hequals⟩
  · simp
  · exact absurd hequals (hrest htwo)

theorem found_withEquals (hs : ([c, '='], kind) ∈ symbols) (hc : c ∈ marks) :
    Found (c :: '=' :: rest) ⟨1, .ok (kind, none)⟩ := by
  refine found_of_spells (.symbol hs) rfl (by simp) fun l h hl => ?_
  rcases h.symbol_of_mark hl hc with ⟨rfl, _⟩ | ⟨rfl, _, _⟩ <;> simp

theorem found_orWithEquals {plain withEquals : Token.Kind} (hc : c ∈ marks)
    (hplain : ([c], plain) ∈ symbols) (hwith : ([c, '='], withEquals) ∈ symbols) :
    Found (c :: rest) (Lexeme.orWithEquals rest plain withEquals) := by
  unfold Lexeme.orWithEquals
  split
  case h_1 => exact found_withEquals hwith hc
  case h_2 hne =>
    refine found_symbol hplain hc fun _ hequals => ?_
    have ⟨more, hrest⟩ := List.head?_eq_some_iff.mp hequals
    exact hne more hrest

theorem length_le_takeWhile {p : Char → Bool} (h : ∀ c ∈ l, p c) (hl : l <+: text) :
    l.length ≤ (text.takeWhile p).length := by
  have ⟨tail, htext⟩ := hl
  rw [← htext, List.takeWhile_append_of_pos h]
  simp

theorem takeWhile_float (hw : Digits whole) :
    (whole ++ '.' :: rest).takeWhile Char.isDigit = whole := by
  rw [List.takeWhile_append_of_pos hw, List.takeWhile_cons_of_neg (by decide), List.append_nil]

theorem dropWhile_float (hw : Digits whole) :
    (whole ++ '.' :: rest).dropWhile Char.isDigit = '.' :: rest := by
  rw [List.dropWhile_append_of_pos hw, List.dropWhile_cons_of_neg (by decide)]

theorem digits_takeWhile (text : List Char) : Digits (text.takeWhile Char.isDigit) :=
  List.all_eq_true.mp List.all_takeWhile

-- A number at the front of a text takes no digits but the first ones of the text, and no decimal
-- point but the one behind these.

theorem found_float {more : List Char} (htext : c :: rest = whole ++ '.' :: more)
    (hc : c.isDigit ∨ c = '.') (hw : Digits whole)
    (hne : whole ≠ [] ∨ more.takeWhile Char.isDigit ≠ []) :
    Found (c :: rest) (Lexeme.number (c :: rest)) := by
  have hfront : whole ++ '.' :: more.takeWhile Char.isDigit <+: c :: rest := by
    rw [htext]
    exact (List.prefix_append_right_inj whole).mpr <|
      (List.prefix_cons_inj '.').mpr (List.takeWhile_prefix _)
  have hnumber : Lexeme.number (c :: rest)
      = ⟨whole.length + (more.takeWhile Char.isDigit).length, .ok (.float, some (.float
        (Decimal.toBinary64 false ⟨value (whole ++ more.takeWhile Char.isDigit),
          -(more.takeWhile Char.isDigit).length⟩)))⟩ := by
    simp only [Lexeme.number, htext, takeWhile_float hw, dropWhile_float hw]
    rfl
  rw [hnumber]
  refine found_of_spells (.float hne hw (digits_takeWhile more)) ?_ hfront fun l h hl => ?_
  · simp [Nat.add_assoc]
  simp only [List.length_append, List.length_cons]
  cases h.number_of_digit hl hc
  case integer _ hd =>
    have hle := length_le_takeWhile hd hl
    rw [htext, takeWhile_float hw] at hle
    omega
  case float whole' fraction _ hw' hf =>
    have ⟨tail, heq⟩ := hl
    simp only [htext, List.append_assoc, List.cons_append] at heq
    have hwhole := congrArg (List.takeWhile Char.isDigit) heq
    rw [takeWhile_float hw, takeWhile_float hw'] at hwhole
    have hmore := congrArg (List.dropWhile Char.isDigit) heq
    rw [dropWhile_float hw, dropWhile_float hw'] at hmore
    have hle := length_le_takeWhile hf ⟨tail, (List.cons.inj hmore).right⟩
    simp only [hwhole, List.length_append, List.length_cons]
    omega

theorem found_integer (hc : c.isDigit)
    (hdot : ∀ more, (c :: rest).dropWhile Char.isDigit ≠ '.' :: more) :
    Found (c :: rest) (Lexeme.number (c :: rest)) := by
  have hne : (c :: rest).takeWhile Char.isDigit ≠ [] := by simp [List.takeWhile_cons_of_pos hc]
  have hnumber : Lexeme.number (c :: rest) = ⟨((c :: rest).takeWhile Char.isDigit).length - 1,
      Lexeme.integer ((c :: rest).takeWhile Char.isDigit)⟩ := by
    unfold Lexeme.number
    split
    case h_1 more h => exact absurd h (hdot more)
    case h_2 => rfl
  have hlength := Nat.sub_add_cancel (List.length_pos_iff.mpr hne)
  rw [hnumber]
  refine found_of_spells (spells_integer hne (digits_takeWhile _)) hlength.symm
    (List.takeWhile_prefix _) fun l h hl => ?_
  cases h.number_of_digit hl (.inl hc)
  case integer _ hd => exact length_le_takeWhile hd hl
  case float whole fraction _ hw _ =>
    have ⟨tail, heq⟩ := hl
    rw [List.append_assoc, List.cons_append] at heq
    exact absurd (heq ▸ dropWhile_float hw) (hdot _)

theorem found_number (hc : c.isDigit ∨ c = '.' ∧ Lexeme.startsWithDigit rest) :
    Found (c :: rest) (Lexeme.number (c :: rest)) := by
  have htext : _ = c :: rest := List.takeWhile_append_dropWhile (p := Char.isDigit)
  by_cases hdot : ∃ more, (c :: rest).dropWhile Char.isDigit = '.' :: more
  case neg =>
    rcases hc with hc | ⟨rfl, _⟩
    · exact found_integer hc (not_exists.mp hdot)
    · exact absurd ⟨rest, List.dropWhile_cons_of_neg (by decide)⟩ hdot
  case pos =>
    have ⟨more, hdot⟩ := hdot
    rw [hdot] at htext
    refine found_float htext.symm (hc.imp id (·.left)) (digits_takeWhile _) ?_
    rcases hc with hc | ⟨rfl, hrest⟩
    · exact .inl (by simp [List.takeWhile_cons_of_pos hc])
    · rw [List.dropWhile_cons_of_neg (by decide), List.cons.injEq] at hdot
      cases rest <;> simp [Lexeme.startsWithDigit] at hrest
      exact .inr (by simp [← hdot.right, List.takeWhile_cons_of_pos hrest])

theorem found_word (hc : isAlphabetic c) : Found (c :: rest) (Lexeme.word (c :: rest)) := by
  have halnum : isAlphanumeric c := by simp [isAlphanumeric, hc]
  have hword : IsWord ((c :: rest).takeWhile isAlphanumeric) := by
    rw [List.takeWhile_cons_of_pos halnum]
    exact ⟨c, _, rfl, hc, List.all_eq_true.mp List.all_takeWhile⟩
  have hlength : ((c :: rest).takeWhile isAlphanumeric).length
      = (Lexeme.word (c :: rest)).tail + 1 := by
    simp [Lexeme.word, List.takeWhile_cons_of_pos halnum]
  refine found_of_spells (spells_word hword) hlength (List.takeWhile_prefix _) fun l h hl => ?_
  have ⟨c', rest', hl', hc', hrest'⟩ := h.word_of_alphabetic hl hc
  refine length_le_takeWhile (fun d hd => ?_) hl
  rcases List.mem_cons.mp (hl' ▸ hd) with rfl | hd
  · simp [isAlphanumeric, hc']
  · exact hrest' d hd

-- What a character means that begins no lexeme.
def stray (c : Char) : Lexeme.Fault :=
  if c = '!' then .loneBang else .illegal c

def NoLexeme (text : List Char) : Prop :=
  ∀ l, IsLexeme l → ¬l <+: text

theorem bang_found (rest : List Char) :
    Found ('!' :: rest) (Lexeme.bang rest) ∨
    NoLexeme ('!' :: rest) ∧ Lexeme.bang rest = ⟨0, .error (stray '!')⟩ := by
  unfold Lexeme.bang
  split
  case h_1 => exact .inl (found_withEquals (by decide) (by decide))
  case h_2 hne =>
    refine .inr ⟨fun l h hl => ?_, rfl⟩
    rcases h.symbol_of_mark hl (by decide) with ⟨_, hbang⟩ | ⟨_, _, hequals⟩
    · exact hbang rfl
    · have ⟨more, hrest⟩ := List.head?_eq_some_iff.mp hequals
      exact hne more hrest

-- The front of a text is the longest lexeme there, and it is a stray character only if no lexeme
-- stands there at all.
theorem front_found (c : Char) (rest : List Char) :
    Found (c :: rest) (Lexeme.front c rest) ∨
    NoLexeme (c :: rest) ∧ Lexeme.front c rest = ⟨0, .error (stray c)⟩ := by
  unfold Lexeme.front
  split
  case h_8 => exact bang_found rest
  case h_9 => exact .inl (found_orWithEquals (by decide) (by decide) (by decide))
  case h_10 => exact .inl (found_orWithEquals (by decide) (by decide) (by decide))
  case h_11 => exact .inl (found_orWithEquals (by decide) (by decide) (by decide))
  case h_12 =>
    have hmark : c ∉ marks := by
      simp only [marks, List.mem_cons, List.not_mem_nil, or_false, not_or]
      and_intros <;> assumption
    split
    case isTrue hd => exact .inl (found_number (by simpa using hd))
    case isFalse hd =>
      split
      case isTrue ha => exact .inl (found_word ha)
      case isFalse ha =>
        have hbang : c ≠ '!' := fun h => hmark (h ▸ by decide)
        refine .inr ⟨fun l h hl => ?_, by rw [stray, if_neg hbang]⟩
        rcases h.sort hl with ⟨hm, _⟩ | ⟨hn, _⟩ | ⟨hw, _⟩
        · exact hmark hm
        · exact hd (by simpa using hn)
        · exact ha hw
  all_goals exact .inl (found_symbol (by decide) (by decide) fun h => absurd h (by decide))

end Found

section Unique

variable {l l' text : List Char} {m m' : Except Lexeme.Fault Meaning}

theorem Longest.unique (h : Longest l text) (h' : Longest l' text) : l = l' :=
  (List.prefix_of_prefix_length_le h.front h'.front (h'.longest l h.lexeme h.front)).eq_of_length <|
    Nat.le_antisymm (h'.longest l h.lexeme h.front) (h.longest l' h'.lexeme h'.front)

theorem symbol_head? {kind : Token.Kind} (h : (l, kind) ∈ symbols) : ∃ c ∈ marks, l.head? = c := by
  have ⟨c, hc, hl⟩ := symbol_shape h
  rcases hl with ⟨rfl, _⟩ | ⟨rfl, _⟩ <;> exact ⟨c, hc, rfl⟩

theorem IsNumber.head? (h : IsNumber l) : ∃ c, (c.isDigit ∨ c = '.') ∧ l.head? = c := by
  cases h
  case integer hne hd =>
    have ⟨c, rest, hl⟩ := List.exists_cons_of_ne_nil hne
    exact ⟨c, .inl (hd c (by simp [hl])), by simp [hl]⟩
  case float whole fraction hne hw _ =>
    cases whole
    case nil => exact ⟨'.', .inr rfl, rfl⟩
    case cons d digits => exact ⟨d, .inl (hw d (List.mem_cons_self ..)), rfl⟩

theorem IsWord.head? (h : IsWord l) : ∃ c, isAlphabetic c ∧ l.head? = c :=
  have ⟨c, _, hl, hc, _⟩ := h
  ⟨c, hc, by simp [hl]⟩

-- No lexeme is of two sorts.

theorem IsNumber.not_symbol {kind : Token.Kind} (h : IsNumber l) : (l, kind) ∉ symbols := by
  intro hs
  have ⟨c, hc, hl⟩ := h.head?
  have ⟨c', hc', hl'⟩ := symbol_head? hs
  have ⟨hdigit, hdot, _⟩ := mark_not_other hc'
  rw [hl, Option.some.injEq] at hl'
  exact absurd (hl' ▸ hc) (not_or.mpr ⟨hdigit, hdot⟩)

theorem IsWord.not_symbol {kind : Token.Kind} (h : IsWord l) : (l, kind) ∉ symbols := by
  intro hs
  have ⟨c, hc, hl⟩ := h.head?
  have ⟨c', hc', hl'⟩ := symbol_head? hs
  rw [hl, Option.some.injEq] at hl'
  exact absurd (hl' ▸ hc) (mark_not_other hc').right.right

theorem IsWord.not_number (h : IsWord l) : ¬IsNumber l := by
  intro hn
  have ⟨c, hc, hl⟩ := h.head?
  have ⟨c', hc', hl'⟩ := hn.head?
  rw [hl, Option.some.injEq] at hl'
  subst hl'
  rcases hc' with hd | rfl
  · exact not_isAlphabetic_of_isDigit hd hc
  · exact absurd hc (by decide)

-- A lexeme has one meaning, whichever sort it is of.

theorem Spells.eq_symbol {kind : Token.Kind} (h : Spells l m) (hs : (l, kind) ∈ symbols) :
    m = .ok (kind, none) := by
  have hsymbols : ∀ x ∈ symbols, ∀ y ∈ symbols, x.1 = y.1 → x.2 = y.2 := by decide
  rcases spells_iff.mp h with
    ⟨kind', hs', rfl⟩ | ⟨hne, hd, _⟩ | ⟨_, _, rfl, hne, hw, hf, _⟩ | ⟨hw, _⟩
  · have hkind : kind' = kind := hsymbols _ hs' _ hs rfl
    rw [hkind]
  · exact absurd hs (IsNumber.integer hne hd).not_symbol
  · exact absurd hs (IsNumber.float hne hw hf).not_symbol
  · exact absurd hs hw.not_symbol

theorem Spells.eq_integer (h : Spells l m) (hne : l ≠ []) (hd : Digits l) :
    m = Lexeme.integer l := by
  have hn : IsNumber l := .integer hne hd
  rcases spells_iff.mp h with ⟨_, hs, _⟩ | ⟨_, _, hm⟩ | ⟨_, _, rfl, _⟩ | ⟨hw, _⟩
  · exact absurd hs hn.not_symbol
  · exact hm
  · exact absurd (hd '.' (by simp)) (by decide)
  · exact absurd hn hw.not_number

theorem Spells.eq_float {whole fraction : List Char} (h : Spells (whole ++ '.' :: fraction) m)
    (hne : whole ≠ [] ∨ fraction ≠ []) (hw : Digits whole) (hf : Digits fraction) :
    m = .ok (.float, some (.float
      (Decimal.toBinary64 false ⟨value (whole ++ fraction), -fraction.length⟩))) := by
  have hn : IsNumber (whole ++ '.' :: fraction) := .float hne hw hf
  rcases spells_iff.mp h with
    ⟨_, hs, _⟩ | ⟨_, hd, _⟩ | ⟨whole', fraction', hl, _, hw', _, rfl⟩ | ⟨h, _⟩
  · exact absurd hs hn.not_symbol
  · exact absurd (hd '.' (by simp)) (by decide)
  · have hwhole := congrArg (List.takeWhile Char.isDigit) hl
    have hmore := congrArg (List.dropWhile Char.isDigit) hl
    rw [takeWhile_float hw, takeWhile_float hw'] at hwhole
    rw [dropWhile_float hw, dropWhile_float hw'] at hmore
    rw [hwhole, (List.cons.inj hmore).right]
  · exact absurd hn h.not_number

theorem Spells.eq_word (h : Spells l m) (hw : IsWord l) : m = .ok (wordMeaning l) := by
  rcases spells_iff.mp h with ⟨_, hs, _⟩ | ⟨hne, hd, _⟩ | ⟨_, _, rfl, hne, hd, hf, _⟩ | ⟨_, hm⟩
  · exact absurd hs hw.not_symbol
  · exact absurd (.integer hne hd) hw.not_number
  · exact absurd (.float hne hd hf) hw.not_number
  · exact hm

theorem Spells.unique (h : Spells l m) (h' : Spells l m') : m = m' := by
  rcases spells_iff.mp h with
    ⟨_, hs, rfl⟩ | ⟨hne, hd, rfl⟩ | ⟨_, _, rfl, hne, hw, hf, rfl⟩ | ⟨hw, rfl⟩
  · exact (h'.eq_symbol hs).symm
  · exact (h'.eq_integer hne hd).symm
  · exact (h'.eq_float hne hw hf).symm
  · exact (h'.eq_word hw).symm

end Unique

end Lexical

end Reckoner
