import Reckoner.Session
import Reckoner.Proofs.Effects
import Reckoner.Proofs.Machine
import Reckoner.Proofs.RoundTrip
import Reckoner.Proofs.Viable

namespace Reckoner

open Grammar Lexical

-- What a line can call a variable.
def IsName (s : String) : Prop :=
  IsWord s.toList ∧ ∀ k : Keyword, k.word ≠ s

-- What evaluation needs of a node: a number of the kind that its token has, a name, or an operator
-- that it knows.
def Expr.Evaluable : Expr → Prop
  | number token =>
    token.kind = .int ∧ (∃ n, token.payload = some (.int n)) ∨
    token.kind = .float ∧ ∃ x, token.payload = some (.float x)
  | binary _ operator _ => ∃ op, BinaryOperator.ofKind? operator.kind = some op
  | unary operator _ => ∃ op, UnaryOperator.ofKind? operator.kind = some op
  | var name | assign name _ => ∃ s, name.payload = some (.name s) ∧ IsName s

theorem IsName.ne_empty {s : String} (h : IsName s) : s ≠ "" := by
  obtain ⟨⟨_, _, hs, _⟩, _⟩ := h
  rintro rfl
  exact absurd hs (by simp)

def logicalKeywords : List Keyword :=
  [.and, .or, .not]

-- The faults of trees that are evaluable all over.
def Eval.Fault.Usual : Eval.Fault → Prop
  | notNumber _ | unknownOperator _ => False
  | undefined name => IsName name
  | operation .divisionByZero => True
  | operation (.notBoolean k _) => k ∈ logicalKeywords

-- What nothing but the messages of the other faults contains.
def unusualTexts : List (List Char) :=
  [" operator".toList, " not a number".toList]

def UsualText (text : List Char) : Prop :=
  ∀ x ∈ unusualTexts, ¬x <:+: text

instance (text : List Char) : Decidable (UsualText text) :=
  inferInstanceAs (Decidable (∀ x ∈ unusualTexts, ¬x <:+: text))

-- What can be reported of a line.
structure Diagnostic.Usual (d : Diagnostic) : Prop where
  details : UsualText d.details.toList
  operand : d.kind = .illegalOperation →
    ∃ k ∈ logicalKeywords, d.details = "'" ++ k.word ++ "' expects a boolean operand"

section Reading

variable {e : Expr} {t : Token}

theorem Lexical.Spells.name_inv {l : List Char} {payload : Option Token.Payload}
    (h : Spells l (.ok (.identifier, payload))) : ∃ s, payload = some (.name s) ∧ IsName s := by
  cases h
  case symbol h => exact absurd h (by simp [symbols])
  case name c rest hc hrest hne =>
    refine ⟨_, rfl, ⟨c, rest, by simp, hc, hrest⟩, fun k hk => hne k ?_⟩
    simp [hk]

theorem exists_name (h : Spelled t) (hkind : t.kind = .identifier) :
    ∃ s, t.payload = some (.name s) ∧ IsName s := by
  obtain ⟨l, h⟩ := h
  rw [Token.meaning, hkind] at h
  exact h.name_inv

-- Whatever the grammar joins operands with, or lets stand before one, evaluation knows.

theorem exists_binaryOperator {level : Parse.Level} {kind : Token.Kind}
    (h : kind ∈ operators level) : ∃ op, BinaryOperator.ofKind? kind = some op := by
  have hall : ∀ k ∈ operators level, (BinaryOperator.ofKind? k).isSome := by
    cases level <;> decide
  exact Option.isSome_iff_exists.mp (hall kind h)

theorem exists_unaryOperator {kind : Token.Kind} (h : kind ∈ Expr.prefixes) :
    ∃ op, UnaryOperator.ofKind? kind = some op := by
  have hall : ∀ k ∈ Expr.prefixes, (UnaryOperator.ofKind? k).isSome := by decide
  exact Option.isSome_iff_exists.mp (hall kind h)

theorem evaluable_number (h : Spelled t) (hkind : t.kind = .int ∨ t.kind = .float) :
    (Expr.number t).Evaluable := by
  obtain ⟨l, h⟩ := h
  rcases hkind with hint | hfloat
  case inl =>
    rw [Token.meaning, hint] at h
    obtain ⟨n, hn, _⟩ := h.int_inv
    exact .inl ⟨hint, n, hn⟩
  case inr =>
    rw [Token.meaning, hfloat] at h
    obtain ⟨x, _, hx, _⟩ := h.float_inv
    exact .inr ⟨hfloat, x, hx⟩

theorem evaluable_of_wellSpelled (h : e.WellSpelled) : ∀ node ∈ e.subtrees, node.Evaluable := by
  induction h <;> rw [Expr.subtrees, List.forall_mem_cons]
  case number ht hkind => exact ⟨evaluable_number ht hkind, by simp⟩
  case binary hkind _ ihl ihr =>
    exact ⟨exists_binaryOperator hkind, List.forall_mem_append.mpr ⟨ihl, ihr⟩⟩
  case unary hkind _ ih => exact ⟨exists_unaryOperator hkind, ih⟩
  case var ht hkind => exact ⟨exists_name ht hkind, by simp⟩
  case assign ht hkind _ ih => exact ⟨exists_name ht hkind, ih⟩

theorem evaluable_of_parseLine {s : Session} {line : List Char} (h : s.parseLine line = .ok e) :
    ∀ node ∈ e.subtrees, node.Evaluable := by
  rw [Session.parseLine] at h
  cases htokens : tokenize (s.source line) <;> rw [htokens] at h
  case error => cases h
  case ok ts =>
    obtain ⟨w, _, _, hspelled, hiff⟩ := parse_tokenized htokens
    exact evaluable_of_wellSpelled (Expr.wellSpelled_of_derives ((hiff e).mp h) hspelled)

theorem isName_of_evaluable (h : ∀ node ∈ e.subtrees, node.Evaluable) :
    ∀ name ∈ e.names, IsName name := by
  have hname : ∀ {t : Token}, (∃ s, t.payload = some (.name s) ∧ IsName s) →
      ∀ name ∈ [Eval.nameOf t], IsName name := by
    rintro t ⟨s, ht, hs⟩
    simpa [Eval.nameOf, Token.name?, ht] using hs
  induction e <;> rw [Expr.subtrees, List.forall_mem_cons] at h <;> rw [Expr.names]
  case number => simp
  case var => exact hname h.left
  case unary ih => exact ih h.right
  case binary ihl ihr =>
    obtain ⟨hl, hr⟩ := List.forall_mem_append.mp h.right
    exact List.forall_mem_append.mpr ⟨ihl hl, ihr hr⟩
  case assign ih => exact List.forall_mem_append.mpr ⟨ih h.right, hname h.left⟩

end Reading

section Faults

open Machine

variable {scope : ScopeId} {e node : Expr} {s : State} {f : Eval.Failure} {store : Store}

theorem mem_subtrees_of_mem_postorder (h : node ∈ e.postorder) : node ∈ e.subtrees := by
  induction e <;> rw [Expr.subtrees] <;> simp [Expr.postorder] at h ⊢
  all_goals grind

theorem exists_blamed (h : (e.eval scope store).result = .error f) :
    ∃ node ∈ e.subtrees, ∃ s, Blames scope node s f := by
  have hagrees := @agrees_postorder scope e [] store
  simp only [Agrees, h] at hagrees
  obtain ⟨_, hrun⟩ := hagrees
  obtain ⟨done, node, rest, htree, _, hstep⟩ := exists_failing hrun
  have hnode : node ∈ e.postorder := by simp [htree]
  exact ⟨node, mem_subtrees_of_mem_postorder hnode, _, step_fails_iff.mp hstep⟩

theorem usual_of_blames (h : Blames scope node s f) (hnode : node.Evaluable) : f.fault.Usual := by
  cases h
  case notNumber hint hfloat =>
    obtain ⟨_, n, hn⟩ | ⟨_, x, hx⟩ := hnode
    · exact absurd hn (hint n)
    · exact absurd hx (hfloat x)
  case undefined =>
    obtain ⟨s, ht, hs⟩ := hnode
    simpa [Eval.Fault.Usual, Eval.nameOf, Token.name?, ht] using hs
  case unknownPrefix hop | unknownOperator hop =>
    obtain ⟨op, hop'⟩ := hnode
    exact absurd (hop.symm.trans hop') (by simp)
  case notOperand => simp [Eval.Fault.Usual, logicalKeywords]
  case divisor => trivial
  case leftOperand hk _ | rightOperand hk _ _ =>
    rcases hk with rfl | rfl <;> simp [Eval.Fault.Usual, logicalKeywords]

end Faults

section Texts

variable {c : Char} {u v x : List Char}

theorem not_infix_append (hu : c ∉ u) (hv : ¬c :: x <:+: v) : ¬c :: x <:+: u ++ v := by
  induction u
  case nil => exact hv
  case cons d u ih =>
    obtain ⟨hd, hu⟩ := not_or.mp (List.mem_cons.not.mp hu)
    rw [List.cons_append, List.infix_cons_iff, List.cons_prefix_cons]
    exact not_or.mpr ⟨fun h => hd h.left, ih hu⟩

-- These texts begin with a blank and a letter, so they are looked for behind the blanks only.

theorem usualText_append (hu : ' ' ∉ u) (hv : UsualText v) : UsualText (u ++ v) := by
  have hblank : ∀ x ∈ unusualTexts, ∃ y, x = ' ' :: y := by simp [unusualTexts]
  intro x hx
  obtain ⟨y, rfl⟩ := hblank x hx
  exact not_infix_append hu (hv _ hx)

theorem usualText_blank (hc : c ≠ 'o' ∧ c ≠ 'n') (hv : UsualText (c :: v)) :
    UsualText (' ' :: c :: v) := by
  have hshape : ∀ x ∈ unusualTexts, ∃ d y, x = ' ' :: d :: y ∧ c ≠ d := by
    simp [unusualTexts, hc]
  intro x hx
  obtain ⟨d, y, rfl, hd⟩ := hshape x hx
  rw [List.infix_cons_iff, List.cons_prefix_cons, List.cons_prefix_cons]
  exact not_or.mpr ⟨fun h => hd h.right.left.symm, hv _ hx⟩

theorem Lexical.Digits.blankless (h : Digits u) : ' ' ∉ u :=
  fun hmem => absurd (h _ hmem) (by decide)

theorem Lexical.IsWord.blankless (h : IsWord u) : ' ' ∉ u := by
  obtain ⟨c, rest, rfl, hc, hrest⟩ := h
  rintro (_ | ⟨_, hmem⟩)
  · exact absurd hc (by decide)
  · exact absurd (hrest _ hmem) (by decide)

theorem message_undefined {name : String} (h : IsName name) :
    UsualText (Eval.Fault.undefined name).message.toList := by
  have hfixed : UsualText "' is not defined".toList := by decide
  have hname := usualText_append h.left.blankless hfixed
  have hquote : ' ' ∉ "'".toList := by decide
  change UsualText ("'" ++ name ++ "' is not defined").toList
  rw [String.toList_append, String.toList_append, List.append_assoc]
  exact usualText_append hquote hname

theorem Eval.Fault.Usual.message {fault : Eval.Fault} (h : fault.Usual) :
    UsualText fault.message.toList := by
  cases fault
  case notNumber | unknownOperator => exact h.elim
  case undefined => exact message_undefined h
  case operation fault =>
    cases fault
    case divisionByZero => decide
    case notBoolean k side =>
      have hall : ∀ k ∈ logicalKeywords,
          UsualText ("'" ++ k.word ++ "' expects a boolean operand").toList := by decide
      exact hall k h

theorem details_outOfRange (hne : u ≠ []) (h : Digits u) :
    UsualText (Lexeme.Fault.outOfRange u).details.toList := by
  have hfixed : UsualText " is out of range".toList := by decide
  have hdigits := usualText_append h.blankless hfixed
  obtain ⟨d, u, rfl⟩ := List.exists_cons_of_ne_nil hne
  have hd : d ≠ 'o' ∧ d ≠ 'n' := by
    constructor <;> rintro rfl <;> exact absurd (h _ (List.mem_cons_self ..)) (by decide)
  have hliteral := usualText_append (u := ['l', 'i', 't', 'e', 'r', 'a', 'l']) (by decide)
    (usualText_blank hd hdigits)
  have hinteger := usualText_append (u := ['I', 'n', 't', 'e', 'g', 'e', 'r']) (by decide)
    (usualText_blank (by decide) hliteral)
  change UsualText
    ("Integer literal " ++ String.ofList (d :: u) ++ " is out of range").toList
  rw [String.toList_append, String.toList_append, List.append_assoc, String.toList_ofList,
    String.toList_ofList]
  exact hinteger

theorem details_illegal (c : Char) :
    UsualText (Lexeme.Fault.illegal c).details.toList := by
  have hlong : ∀ x ∈ unusualTexts, 3 < x.length := by decide
  have hshort : (Lexeme.Fault.illegal c).details.toList.length = 3 := by
    change ("'" ++ String.singleton c ++ "'").toList.length = 3
    rw [String.toList_append, String.toList_append, String.toList_singleton]
    rfl
  intro x hx hinfix
  exact absurd (hlong x hx) (Nat.not_lt.mpr (hshort ▸ hinfix.length_le))

theorem message_expected (x : Parse.Expected) : UsualText x.message.toList := by
  cases x <;> decide +kernel

end Texts

section Diagnostics

variable {d : Diagnostic} {s : Session} {line : List Char} {store : Store}

theorem usual_of_tokenize {s : Source} (h : tokenize s = .error d) : d.Usual := by
  obtain ⟨_, _, _, houtcome⟩ := exists_outcome s
  rw [h] at houtcome
  cases houtcome
  case outOfRange hne hd _ => exact ⟨details_outOfRange hne hd, nofun⟩
  case bang =>
    have hfixed : UsualText "'=' (after '!')".toList := by decide
    exact ⟨hfixed, nofun⟩
  case illegal c _ _ _ => exact ⟨details_illegal c, nofun⟩

theorem usual_of_parse {ts : List Token} (h : parse ts = .error d) : d.Usual := by
  obtain ⟨_, _, _, x, _, _, _, _, rfl⟩ := Parse.exists_rejected h
  exact ⟨message_expected x, nofun⟩

theorem Eval.Fault.Usual.diagnostic {f : Eval.Failure} (h : f.fault.Usual) (frame : Frame) :
    (f.diagnostic frame).Usual where
  details := h.message
  operand := by
    obtain ⟨fault, span⟩ := f
    rcases fault with _ | _ | _ | (_ | ⟨k, side⟩)
    case operation.notBoolean => exact fun _ => ⟨k, h, rfl⟩
    case notNumber | unknownOperator => exact h.elim
    all_goals exact nofun

theorem usual_of_run (h : (s.run line store).1 = .error d) : d.Usual := by
  rw [Session.run] at h
  cases hparse : s.parseLine line <;> rw [hparse] at h
  case error d' =>
    obtain rfl : d = d' := (Except.error.inj h).symm
    rw [Session.parseLine] at hparse
    cases htokens : tokenize (s.source line) <;> rw [htokens] at hparse
    case error d' =>
      obtain rfl : d' = d := Except.error.inj hparse
      exact usual_of_tokenize htokens
    case ok ts => exact usual_of_parse hparse
  case ok e =>
    simp only [Frame.evaluate_eq, Eval.Outcome.reported] at h
    cases hresult : (e.eval s.frame.scope store).result <;> rw [hresult] at h
    case ok => cases h
    case error f =>
      obtain rfl : f.diagnostic s.frame = d := Except.error.inj h
      obtain ⟨node, hnode, _, hblames⟩ := exists_blamed hresult
      exact (usual_of_blames hblames (evaluable_of_parseLine hparse node hnode)).diagnostic _

end Diagnostics

-- A line has no way into what evaluation keeps for trees that make no sense, whatever is bound:
-- 1. all nodes of the tree that it is read as are evaluable
-- 2. no failure is reported in the words that are kept for trees that are not, and what is reported
--    as an illegal operation is that a logical operator was given something else than a truth value
-- 3. evaluation neither reads nor binds the empty name
-- 4. so all scopes keep its bindings, and these make no difference
theorem run_takes_evaluable_trees (s : Session) (line : List Char) (store : Store) :
    (∀ e, s.parseLine line = .ok e → ∀ node ∈ e.subtrees, node.Evaluable) ∧
    (∀ d, (s.run line store).1 = .error d →
      ¬"Unknown operator".toList <:+: d.details.toList ∧
      ¬"is not a number".toList <:+: d.details.toList ∧
      (d.kind = .illegalOperation →
        ∃ k ∈ logicalKeywords, d.details = "'" ++ k.word ++ "' expects a boolean operand")) ∧
    (∀ e, s.parseLine line = .ok e →
      ∀ event ∈ (s.frame.carryOut e store).2.events, event.name ≠ "") ∧
    (∀ i, (s.run line store).2.find? i "" = store.find? i "" ∧
      ∀ v, (s.run line (store.bind i "" v)).1 = (s.run line store).1) := by
  have hnames : ∀ e, s.parseLine line = .ok e → "" ∉ e.names := fun e he hmem =>
    (isName_of_evaluable (evaluable_of_parseLine he) _ hmem).ne_empty rfl
  refine ⟨fun e he => evaluable_of_parseLine he, fun d hd => ?_, fun e he event hevent => ?_,
    fun i => ?_⟩
  case refine_1 =>
    have h := usual_of_run hd
    have hoperator : " operator".toList <:+: "Unknown operator".toList := by decide
    have hnumber : " not a number".toList <:+: "is not a number".toList := by decide
    exact ⟨fun hinfix => h.details _ (by simp [unusualTexts]) (hoperator.trans hinfix),
      fun hinfix => h.details _ (by simp [unusualTexts]) (hnumber.trans hinfix), h.operand⟩
  case refine_2 =>
    intro hempty
    rw [Frame.events_carryOut] at hevent
    exact hnames e he (hempty ▸ Expr.name_mem_of_event hevent)
  case refine_3 =>
    simp only [Session.run]
    cases hparse : s.parseLine line
    case error => exact ⟨rfl, fun _ => rfl⟩
    case ok e =>
      have hname := hnames e hparse
      simp only [Frame.evaluate_eq, Eval.Outcome.reported]
      refine ⟨Expr.find?_eval_of_not_mem hname i, fun v => ?_⟩
      rw [Expr.result_eval_bind_of_not_mem hname]

-- In `(VAR a = 2.5) AND TRUE` all nodes are evaluable, but a number is no truth value.
theorem run_takes_evaluable_trees_float :
    let s : Session := ⟨"f", 0⟩
    let line := "(VAR a = 2.5) AND TRUE".toList
    let store : Store := ⟨[.builtins]⟩
    (∃ e, s.parseLine line = .ok e ∧ e.subtrees.length = 4 ∧
      ∀ node ∈ e.subtrees, node.Evaluable) ∧
    ∃ d, (s.run line store).1 = .error d ∧ d.kind = .illegalOperation ∧
      ∃ k ∈ logicalKeywords, d.details = "'" ++ k.word ++ "' expects a boolean operand" := by
  intro s line store
  obtain ⟨hevaluable, hreported, _⟩ := run_takes_evaluable_trees s line store
  have hparse : (s.parseLine line).toOption.map (·.subtrees.length) = some 4 := by decide +kernel
  have hkind : ((s.run line store).1.mapError Diagnostic.kind).map (fun _ => ())
      = .error .illegalOperation := by decide +kernel
  constructor
  case left =>
    cases he : s.parseLine line <;> rw [he] at hparse
    case error => cases hparse
    case ok e => exact ⟨e, rfl, Option.some.inj hparse, hevaluable e he⟩
  case right =>
    cases hd : (s.run line store).1 <;> rw [hd] at hkind
    case ok => cases hkind
    case error d =>
      have hkind : d.kind = .illegalOperation := Except.error.inj hkind
      obtain ⟨_, _, hoperand⟩ := hreported d hd
      exact ⟨d, rfl, hkind, hoperand hkind⟩

end Reckoner
