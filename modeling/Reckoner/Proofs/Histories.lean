import Reckoner.Proofs.Assigning
import Reckoner.Proofs.Evaluable

namespace Reckoner

open Relation (ReflTransGen)
open Grammar Lexical

namespace Session

-- What running a line assigns.
def assignments (s : Session) (line : List Char) (store : Store) : List (String × Value) :=
  match s.parseLine line with
  | .error _ => []
  | .ok e => s.frame.assignments e store

-- Runs lines one after the other.
def runAll (s : Session) : List (List Char) → Store → List (Except Diagnostic Value) × Store
  | [], store => ([], store)
  | line :: lines, store =>
    let (result, store) := s.run line store
    let (results, store) := s.runAll lines store
    (result :: results, store)

-- Runs lines in a new session of which there is no other.
def runAlone (name : String) (lines : List (List Char)) :
    List (Except Diagnostic Value) × Store :=
  let (s, store) := start name .empty
  s.runAll lines store

-- A text fails for asking for something that is not bound.
def Undefined (s : Session) (store : Store) (x : String) : Prop :=
  ∃ d, (s.run x.toList store).1 = .error d ∧ d.kind = .undefinedVariable

variable {s s' : Session} {line : List Char} {lines : List (List Char)} {store store' : Store}

theorem runAll_concat : s.runAll (lines ++ [line]) store =
    let (results, store) := s.runAll lines store
    let (result, store) := s.run line store
    (results ++ [result], store) := by
  induction lines generalizing store
  case nil => rfl
  case cons first lines ih => simp only [List.cons_append, runAll, ih]

theorem runAlone_concat {name : String} : runAlone name (lines ++ [line]) =
    let (results, store) := runAlone name lines
    let (result, store) := run ⟨name, 0⟩ line store
    (results ++ [result], store) :=
  runAll_concat

theorem store_run :
    (s.run line store).2 = Machine.write s.scope (s.assignments line store) store := by
  rw [run, assignments]
  cases s.parseLine line
  case error => rfl
  case ok e =>
    dsimp only
    rw [Frame.store_evaluate, Frame.assignments_eq]
    exact Expr.store_eval

-- Sessions of one name cannot be told apart but by what is bound in them.
theorem run_alike (hname : s'.name = s.name)
    (hstores : ∀ names, Effects.Matches names s.scope s'.scope store store') :
    (s'.run line store').1 = (s.run line store).1 ∧
      s'.assignments line store' = s.assignments line store := by
  have hparse : s'.parseLine line = s.parseLine line := by
    rw [parseLine, parseLine, source, source, hname]
  rw [run, run, assignments, assignments, hparse]
  cases s.parseLine line
  case error => exact ⟨rfl, rfl⟩
  case ok e =>
    have hsame := Effects.same_eval (fun _ => id) (hstores e.reads)
    dsimp only
    rw [Frame.evaluate_eq, Frame.evaluate_eq, Frame.assignments_eq, Frame.assignments_eq]
    refine ⟨?_, congrArg (List.filterMap _) hsame.events⟩
    rw [frame, frame, Eval.Outcome.reported_program _ s'.scope s.scope]
    exact congrArg (Except.mapError _) hsame.result

-- A line that is nothing but a name asks for its value.
theorem parseLine_name {x : String} (h : IsName x) :
    ∃ t, s.parseLine x.toList = .ok (.var t) ∧ Eval.nameOf t = x := by
  obtain ⟨⟨c, rest, hx, hc, hrest⟩, hkeyword⟩ := h
  have hspells : Spells x.toList (.ok (.identifier, some (.name x))) := by
    have hne : ∀ k : Keyword, k.word.toList ≠ c :: rest := fun k hk =>
      hkeyword k (String.toList_inj.mp (hk.trans hx.symm))
    simpa [← hx] using Spells.name hc hrest hne
  obtain ⟨w, _, htokens, hw, hiff⟩ := @parse_of_lexes (s.source x.toList) _ (lexes_alone hspells)
  obtain ⟨t, rfl, ht⟩ := List.map_eq_singleton_iff.mp hw
  obtain ⟨hkind, hpayload⟩ := Prod.ext_iff.mp ht
  refine ⟨t, ?_, ?_⟩
  case refine_1 =>
    rw [parseLine, htokens]
    exact (hiff _).mpr (Derives.of_atom (.name hkind))
  case refine_2 =>
    change t.payload = _ at hpayload
    rw [Eval.nameOf, Token.name?, hpayload]
    rfl

theorem isName_of_assignment {b : String × Value} (h : b ∈ s.assignments line store) :
    IsName b.1 := by
  rw [assignments] at h
  cases hparse : s.parseLine line <;> rw [hparse] at h
  case error => cases h
  case ok e =>
    have hnames := isName_of_evaluable (evaluable_of_parseLine hparse)
    dsimp only at h
    rw [Frame.assignments_eq] at h
    exact hnames _ (Expr.targets_subset_names (Expr.target_of_assignment h))

theorem undefined_iff {x : String} (h : IsName x) :
    s.Undefined store x ↔ store.find? s.scope x = none := by
  obtain ⟨t, hparse, rfl⟩ := @parseLine_name s x h
  have hscope : s.frame.scope = s.scope := rfl
  rw [Undefined, run, hparse]
  simp only [Frame.evaluate_eq, Eval.Outcome.reported, Expr.eval, Eval.lookup, hscope]
  cases store.find? s.scope (Eval.nameOf t)
  case none => exact iff_of_true ⟨_, rfl, rfl⟩ rfl
  case some v =>
    refine iff_of_false ?_ (Option.some_ne_none v)
    rintro ⟨_, hd, _⟩
    cases hd

end Session

-- A line that was run in a session, what came of it and what it assigned.
structure Entry where
  session     : Session
  line        : List Char
  result      : Except Diagnostic Value
  assignments : List (String × Value)

-- Sessions that were started over one store, and the lines that were run in them so far.
structure History where
  sessions : List Session
  store    : Store
  entries  : List Entry

namespace History

def empty : History :=
  ⟨[], .empty, []⟩

def start (h : History) (name : String) : History :=
  let (session, store) := Session.start name h.store
  ⟨h.sessions ++ [session], store, h.entries⟩

def run (h : History) (session : Session) (line : List Char) : History :=
  let (result, store) := session.run line h.store
  ⟨h.sessions, store, h.entries ++ [⟨session, line, result, session.assignments line h.store⟩]⟩

-- A history goes on with a new session, or with a line in any of the sessions.
inductive Step : History → History → Prop
  | start {h name} : Step h (h.start name)
  | run {h session line} : session ∈ h.sessions → Step h (h.run session line)

-- The lines of one session.
def of (h : History) (session : Session) : List Entry :=
  h.entries.filter (·.session = session)

-- All that was assigned in one session.
def assignments (h : History) (session : Session) : List (String × Value) :=
  (h.of session).flatMap (·.assignments)

-- What holds of one session: its scope has the builtins and on top of them what was assigned in it,
-- and both its results and its scope are as if there were no other session.
structure Keeps (h : History) (session : Session) : Prop where
  table : h.store.scopes[session.scope]? = some (Scope.builtins.bindAll (h.assignments session))
  alone : ∃ store, Session.runAlone session.name ((h.of session).map (·.line))
      = ((h.of session).map (·.result), store) ∧
    store.scopes[0]? = some (Scope.builtins.bindAll (h.assignments session))

structure Sound (h : History) : Prop where
  scopes  : h.sessions.map (·.scope) = List.range h.store.scopes.length
  entries : ∀ entry ∈ h.entries, entry.session ∈ h.sessions
  names   : ∀ entry ∈ h.entries, ∀ b ∈ entry.assignments, IsName b.1
  keeps   : ∀ session ∈ h.sessions, h.Keeps session

section Sound

variable {h h' : History} {session other : Session} {name : String} {line : List Char}

theorem of_run : (h.run session line).of other = if session = other then h.of other ++
    [⟨session, line, (session.run line h.store).1, session.assignments line h.store⟩]
    else h.of other := by
  simp only [of, run, List.filter_append, List.filter_singleton]
  split <;> simp_all

theorem Sound.scope_inj (hsound : h.Sound) (hs : session ∈ h.sessions) (ho : other ∈ h.sessions)
    (hscope : session.scope = other.scope) : session = other := by
  have hnodup : (h.sessions.map (·.scope)).Nodup := hsound.scopes ▸ List.nodup_range
  exact List.inj_on_of_nodup_map hnodup hs ho hscope

theorem Sound.scope_lt (hsound : h.Sound) (hs : session ∈ h.sessions) :
    session.scope < h.store.scopes.length := by
  have hmem := List.mem_map_of_mem (f := (·.scope)) hs
  rwa [hsound.scopes, List.mem_range] at hmem

theorem Keeps.run_self (hkeeps : h.Keeps session) : (h.run session line).Keeps session := by
  obtain ⟨htable, store, halone, hscope⟩ := hkeeps
  have hstores : ∀ names, Effects.Matches names session.scope 0 h.store store := fun _ =>
    Effects.matches_of_scope htable hscope Scope.parent_bindAll
  obtain ⟨hresult, hassignments⟩ :=
    @Session.run_alike session ⟨session.name, 0⟩ line _ _ rfl hstores
  have htable' : (h.run session line).assignments session
      = h.assignments session ++ session.assignments line h.store := by
    simp [assignments, of_run]
  constructor
  case table =>
    change (session.run line h.store).2.scopes[session.scope]? = _
    rw [htable', Session.store_run, Machine.scope_write, htable, Scope.bindAll_append]
    simp
  case alone =>
    refine ⟨(Session.run ⟨session.name, 0⟩ line store).2, ?_, ?_⟩
    case refine_1 =>
      rw [of_run, if_pos rfl, List.map_append, List.map_singleton, Session.runAlone_concat, halone]
      simp [hresult]
    case refine_2 =>
      rw [htable', Session.store_run, Machine.scope_write, hscope, Scope.bindAll_append,
        hassignments]
      simp

theorem Keeps.run_other (hkeeps : h.Keeps other) (hne : session ≠ other)
    (hscope : session.scope ≠ other.scope) : (h.run session line).Keeps other := by
  have hof : (h.run session line).of other = h.of other := by rw [of_run, if_neg hne]
  constructor
  case table =>
    change ((session.run line h.store).2).scopes[other.scope]? = _
    rw [assignments, hof, Session.store_run, Machine.scope_write, hkeeps.table]
    simp [hscope, assignments]
  case alone =>
    rw [assignments, hof]
    exact hkeeps.alone

theorem Sound.run (hsound : h.Sound) (hs : session ∈ h.sessions) : (h.run session line).Sound where
  scopes  := by
    change h.sessions.map _ = List.range ((session.run line h.store).2.scopes.length)
    rw [Session.store_run, Machine.length_write, hsound.scopes]
  entries := List.forall_mem_append.mpr ⟨hsound.entries, List.forall_mem_singleton.mpr hs⟩
  names   := List.forall_mem_append.mpr
    ⟨hsound.names, List.forall_mem_singleton.mpr fun _ => Session.isName_of_assignment⟩
  keeps   := fun other hother => by
    by_cases heq : session = other
    case pos => exact heq ▸ (hsound.keeps session hs).run_self
    case neg =>
      exact (hsound.keeps other hother).run_other heq fun hscope =>
        heq (hsound.scope_inj hs hother hscope)

-- A new session has a scope of its own, and no lines yet.

theorem Sound.keeps_new (hsound : h.Sound) :
    (h.start name).Keeps ⟨name, h.store.scopes.length⟩ := by
  have hnone : (h.start name).of ⟨name, h.store.scopes.length⟩ = [] := by
    refine List.filter_eq_nil_iff.mpr fun entry hentry hsession => ?_
    have hlt := hsound.scope_lt (hsound.entries entry hentry)
    rw [of_decide_eq_true hsession] at hlt
    exact Nat.lt_irrefl _ hlt
  constructor
  case table =>
    rw [assignments, hnone]
    exact List.getElem?_concat_length
  case alone =>
    rw [assignments, hnone]
    exact ⟨⟨[.builtins]⟩, rfl, rfl⟩

theorem Keeps.start (hkeeps : h.Keeps other) (hlt : other.scope < h.store.scopes.length) :
    (h.start name).Keeps other where
  table := (List.getElem?_append_left hlt).trans hkeeps.table
  alone := hkeeps.alone

theorem Sound.start (hsound : h.Sound) : (h.start name).Sound where
  scopes  := by
    change (h.sessions ++ [(⟨name, h.store.scopes.length⟩ : Session)]).map (·.scope) =
      List.range (h.store.scopes ++ [Scope.builtins]).length
    rw [List.map_append, hsound.scopes, List.length_append, List.length_singleton, List.range_succ]
    rfl
  entries := fun entry hentry => List.mem_append_left _ (hsound.entries entry hentry)
  names   := hsound.names
  keeps   := List.forall_mem_append.mpr
    ⟨fun other hother => (hsound.keeps other hother).start (hsound.scope_lt hother),
      List.forall_mem_singleton.mpr hsound.keeps_new⟩

theorem Sound.step (hsound : h.Sound) (hstep : Step h h') : h'.Sound := by
  cases hstep
  case start => exact hsound.start
  case run hs => exact hsound.run hs

theorem sound_of_steps (hsteps : ReflTransGen Step .empty h) : h.Sound := by
  induction hsteps
  case refl => exact ⟨rfl, nofun, nofun, nofun⟩
  case tail hstep ih => exact ih.step hstep

end Sound

section Later

variable {h h' : History} {session : Session} {name : String} {x : String}

theorem Step.extends (hstep : Step h h') : h.sessions ⊆ h'.sessions ∧ h.entries <+: h'.entries := by
  cases hstep
  case start => exact ⟨List.subset_append_left _ _, List.prefix_refl _⟩
  case run => exact ⟨List.Subset.refl _, List.prefix_append _ _⟩

theorem extends_of_steps (hsteps : ReflTransGen Step h h') :
    h.sessions ⊆ h'.sessions ∧ h.entries <+: h'.entries := by
  induction hsteps
  case refl => exact ⟨List.Subset.refl _, List.prefix_refl _⟩
  case tail hstep ih =>
    obtain ⟨hsessions, hentries⟩ := hstep.extends
    exact ⟨fun _ hs => hsessions (ih.left hs), ih.right.trans hentries⟩

theorem assignments_subset (hentries : h.entries <+: h'.entries) :
    h.assignments session ⊆ h'.assignments session := by
  intro b hb
  obtain ⟨entry, hentry, hb⟩ := List.mem_flatMap.mp hb
  exact List.mem_flatMap.mpr ⟨entry, (hentries.filter _).subset hentry, hb⟩

theorem Sound.find?_eq (hsound : h.Sound) (hs : session ∈ h.sessions) :
    h.store.find? session.scope name =
      (Scope.valueOf? name (h.assignments session).reverse).or (Scope.builtins.find? name) := by
  rw [Store.find?_eq (hsound.keeps session hs).table, Scope.find?_bindAll, Scope.parent_bindAll]
  exact Option.or_none

theorem Sound.find?_eq_none_iff (hsound : h.Sound) (hs : session ∈ h.sessions) :
    h.store.find? session.scope name = none ↔
      name ∉ (h.assignments session).map Prod.fst ∧ Scope.builtins.find? name = none := by
  rw [hsound.find?_eq hs, Option.or_eq_none_iff, Scope.valueOf?_eq_none_iff, List.map_reverse,
    List.mem_reverse]

theorem Sound.isName_of_assignment (hsound : h.Sound)
    (hx : x ∈ (h.assignments session).map Prod.fst) : IsName x := by
  obtain ⟨b, hb, rfl⟩ := List.mem_map.mp hx
  obtain ⟨entry, hentry, hb⟩ := List.mem_flatMap.mp hb
  exact hsound.names entry (List.mem_of_mem_filter hentry) b hb

end Later

end History

theorem isName_of_builtin {x : String} (h : Scope.builtins.find? x ≠ none) : IsName x := by
  have hbuiltin : x ∈ Scope.builtins.bindings.map Prod.fst :=
    not_not.mp fun hmem => h (Scope.valueOf?_eq_none_iff.mpr hmem)
  have hkeyword : ∀ word ∈ ["NULL", "TRUE", "FALSE"], ∀ k : Keyword, k.word ≠ word := by
    intro word hword k
    cases k <;> revert word <;> decide
  refine ⟨?_, hkeyword x hbuiltin⟩
  rcases List.mem_cons.mp hbuiltin with rfl | hbuiltin
  · exact ⟨'N', ['U', 'L', 'L'], rfl, by decide, List.all_eq_true.mp (by decide)⟩
  rcases List.mem_cons.mp hbuiltin with rfl | hbuiltin
  · exact ⟨'T', ['R', 'U', 'E'], rfl, by decide, List.all_eq_true.mp (by decide)⟩
  obtain rfl := List.mem_singleton.mp hbuiltin
  exact ⟨'F', ['A', 'L', 'S', 'E'], rfl, by decide, List.all_eq_true.mp (by decide)⟩

-- However lines are run in however many sessions, in each of them:
-- 1. the results and what is bound at the end are those of its lines run alone
-- 2. what is bound are the builtins and over them all assignments that were carried out, in order
-- 3. so a lookup finds what was assigned last, and a builtin if nothing was
-- 4. a line that cannot be parsed changes nothing
-- 5. what is bound stays bound
-- 6. a text that asks for something undefined is no builtin and was never assigned to
-- 7. and a name that is no builtin and was never assigned to is undefined
theorem sessions_run_apart {h : History} (hsteps : ReflTransGen History.Step .empty h)
    {session : Session} (hs : session ∈ h.sessions) :
    (∃ store, Session.runAlone session.name ((h.of session).map (·.line))
        = ((h.of session).map (·.result), store) ∧
      store.scopes[0]? = h.store.scopes[session.scope]?) ∧
    h.store.scopes[session.scope]? = some (Scope.builtins.bindAll (h.assignments session)) ∧
    (∀ name, h.store.find? session.scope name =
      (Scope.valueOf? name (h.assignments session).reverse).or (Scope.builtins.find? name)) ∧
    (∀ line d, session.parseLine line = .error d →
      session.run line h.store = (.error d, h.store)) ∧
    (∀ later, ReflTransGen History.Step h later → session ∈ later.sessions ∧
      ∀ name, h.store.find? session.scope name ≠ none →
        later.store.find? session.scope name ≠ none) ∧
    (∀ x, session.Undefined h.store x →
      x ∉ (h.assignments session).map Prod.fst ∧ Scope.builtins.find? x = none) ∧
    ∀ x, IsName x → x ∉ (h.assignments session).map Prod.fst → Scope.builtins.find? x = none →
      session.Undefined h.store x := by
  have hsound := History.sound_of_steps hsteps
  obtain ⟨htable, store, halone, hscope⟩ := hsound.keeps session hs
  refine ⟨⟨store, halone, hscope.trans htable.symm⟩, htable, fun name => hsound.find?_eq hs,
    fun line d hparse => ?_, fun later hlater => ?_, fun x hx => ?_, fun x hx hassigned hnone => ?_⟩
  case refine_1 => rw [Session.run, hparse]
  case refine_2 =>
    obtain ⟨hsessions, hentries⟩ := History.extends_of_steps hlater
    have hlater := History.sound_of_steps (hsteps.trans hlater)
    refine ⟨hsessions hs, fun name hbound hnone => hbound ?_⟩
    obtain ⟨hassigned, hnone⟩ := (hlater.find?_eq_none_iff (hsessions hs)).mp hnone
    have hsubset := List.map_subset Prod.fst (@History.assignments_subset h later session hentries)
    exact (hsound.find?_eq_none_iff hs).mpr ⟨fun hmem => hassigned (hsubset hmem), hnone⟩
  case refine_3 =>
    -- Whatever is no name was never assigned to, whatever running it comes to.
    by_cases hname : IsName x
    case pos =>
      exact (hsound.find?_eq_none_iff hs).mp ((Session.undefined_iff hname).mp hx)
    case neg =>
      exact ⟨fun hmem => hname (hsound.isName_of_assignment hmem),
        not_not.mp fun hbuiltin => hname (isName_of_builtin hbuiltin)⟩
  case refine_4 =>
    have hfind := (hsound.find?_eq_none_iff hs).mpr ⟨hassigned, hnone⟩
    exact (Session.undefined_iff hx).mpr hfind

-- An assignment in a line that fails is kept, and another session knows nothing of it.
theorem sessions_run_apart_division :
    let a : Session := ⟨"a", 0⟩
    let b : Session := ⟨"b", 1⟩
    let h := (((History.empty.start "a").start "b").run a "VAR x = 1".toList).run a
      "(VAR x = 2) / 0".toList
    ReflTransGen History.Step .empty h ∧
      (∃ store, Session.runAlone "a" ["VAR x = 1".toList, "(VAR x = 2) / 0".toList]
        = ((h.of a).map (·.result), store)) ∧
      h.assignments a = [("x", .int 1), ("x", .int 2)] ∧
      h.store.find? 0 "x" = some (.int 2) ∧ b.Undefined h.store "x" := by
  intro a b h
  have hsteps : ReflTransGen History.Step .empty h :=
    .tail (.tail (.tail (.tail .refl .start) .start) (.run (by decide))) (.run (by decide))
  have hassignments : h.assignments a = [("x", .int 1), ("x", .int 2)] := by decide +kernel
  have ha : a ∈ h.sessions := by decide
  have hb : b ∈ h.sessions := by decide
  obtain ⟨⟨store, halone, _⟩, _, hfind, _⟩ := sessions_run_apart hsteps ha
  obtain ⟨_, _, _, _, _, _, hundefined⟩ := sessions_run_apart hsteps hb
  have hlast : h.store.find? 0 "x" = some (.int 2) := by
    rw [hfind "x", hassignments]
    decide
  have hname : IsName "x" := ⟨⟨'x', [], rfl, by decide, nofun⟩, fun k => by cases k <;> decide⟩
  have hnone : h.assignments b = [] := by decide +kernel
  exact ⟨hsteps, ⟨store, halone⟩, hassignments, hlast,
    hundefined "x" hname (by rw [hnone]; decide) (by decide)⟩

end Reckoner
