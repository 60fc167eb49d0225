import Reckoner.Console.Program
import Reckoner.Proofs.Histories
import Reckoner.Proofs.Locating
import Reckoner.Proofs.Naming

namespace Reckoner

namespace Console

-- What is written besides the journal.
def plain (writes : List Write) : List Write :=
  writes.filter fun
    | .log _ => false
    | _      => true

-- What comes of each of some lines that are run one after the other.
def runs (c : Console) : List (List Char) → List Ran
  | []           => []
  | line :: rest => let ran := c.runLine line; ran :: ran.console.runs rest

-- The answers to some lines of input, up to the one that ends the conversation.
def answers (c : Console) : List Input → List (Option Console × List Write)
  | []           => []
  | line :: rest =>
    let answer := c.answer line
    answer :: match answer.1 with
      | some after => after.answers rest
      | none       => []

-- Writes that only differ in the name of a source, which a failure shows in one place.
inductive Write.Alike (name name' : String) : Write → Write → Prop
  | out {text} : Alike name name' (.out text) (.out text)
  | err {front back} :
    Alike name name' (.err (front ++ name ++ back)) (.err (front ++ name' ++ back))

structure Ran.Alike (name name' : String) (ran ran' : Ran) : Prop where
  writes    : List.Forall₂ (Write.Alike name name') (plain ran.writes) (plain ran'.writes)
  succeeded : ran'.succeeded = ran.succeeded
  store     : ran'.console.store = ran.console.store

-- Consoles that only differ in their journals and in what their sources are called.
structure Alike (c c' : Console) : Prop where
  options : c'.options = c.options
  scope   : c'.session.scope = c.session.scope
  store   : c'.store = c.store

section Plain

variable {writes writes' : List Write} {filter : Journal.Filter} {entries : List Journal.Entry}

theorem plain_append : plain (writes ++ writes') = plain writes ++ plain writes' :=
  List.filter_append ..

theorem plain_flatMap {α : Type} {l : List α} {f : α → List Write} :
    plain (l.flatMap f) = l.flatMap fun a => plain (f a) :=
  List.filter_flatMap ..

theorem plain_logged : plain (logged filter entries) = [] := by
  refine List.filter_eq_nil_iff.mpr fun write hwrite => ?_
  obtain ⟨entry, _, rfl⟩ := List.mem_map.mp hwrite
  exact Bool.false_ne_true

end Plain

section Line

variable {c c' : Console} {line : List Char} {d : Diagnostic} {e : Expr} {name name' : String}
  {options : Options}

-- A line has the result and leaves the store that its session says.

theorem evaluate_eq : (c.evaluate e).succeeded = (c.session.frame.evaluate e c.store).1.isOk ∧
    (c.evaluate e).console = { c with store := (c.session.frame.evaluate e c.store).2 } := by
  rw [evaluate, Frame.evaluate]
  obtain ⟨_ | _, state⟩ := c.session.frame.carryOut e c.store <;> exact ⟨rfl, rfl⟩

theorem runLine_eq : (c.runLine line).succeeded = (c.session.run line c.store).1.isOk ∧
    (c.runLine line).console = { c with store := (c.session.run line c.store).2 } := by
  rw [Session.run, Session.parseLine, tokenize, runLine]
  cases (Scan.ofSource (c.session.source line)).complete
  case error => exact ⟨rfl, rfl⟩
  case ok ts =>
    simp only [Except.bind]
    cases parse ts
    case error => exact ⟨rfl, rfl⟩
    case ok e => exact evaluate_eq

theorem failure_alike (hfancy : options.fancy = false)
    (h : d.kind.isRuntime → ∃ call, d.traceback = [call]) : Write.Alike name name'
      (failure options (d.named name)) (failure options (d.named name')) := by
  obtain ⟨front, back, hrender⟩ := Diagnostic.render_named h
  simp only [failure, hfancy, Bool.false_eq_true, if_false, hrender]
  exact .err

-- What is written of a line besides the journal.

theorem plain_evaluate : plain (c.evaluate e).writes =
    match (c.session.frame.evaluate e c.store).1 with
    | .ok v    => [.out (v.text ++ "\n")]
    | .error d => [failure c.options d] := by
  rw [evaluate, Frame.evaluate]
  obtain ⟨_ | _, state⟩ := c.session.frame.carryOut e c.store <;>
    simp only [plain_append, plain_logged] <;> rfl

theorem plain_runLine : plain (c.runLine line).writes =
    match tokenize (c.session.source line) with
    | .error d => [failure c.options d]
    | .ok ts   => (if c.options.showTokens then [shownTokens ts] else []) ++
      match parse ts with
      | .error d => [failure c.options d]
      | .ok e    => (if c.options.showTree then [.out (e.text ++ "\n")] else []) ++
        plain (c.evaluate e).writes := by
  rw [tokenize, runLine]
  cases (Scan.ofSource (c.session.source line)).complete
  case error => simp only [plain_append, plain_logged]; rfl
  case ok ts =>
    dsimp only
    cases parse ts <;> simp only [plain_append, plain_logged, List.nil_append]
    case error => split <;> rfl
    case ok e => split <;> split <;> rfl

theorem exists_call_of_evaluate {scope : ScopeId} {store : Store}
    (h : ((Frame.program scope).evaluate e store).1 = .error d) : ∃ call, d.traceback = [call] := by
  rw [(Frame.eq_blame_of_evaluate _ _ _ h).right, Frame.blame, Frame.program,
    Frame.traceback_outermost]
  exact ⟨_, rfl⟩

theorem evaluate_alike (h : c.Alike c') (hfancy : c.options.fancy = false) :
    List.Forall₂ (Write.Alike c.session.name c'.session.name)
      (plain (c.evaluate (e.named c.session.name)).writes)
      (plain (c'.evaluate (e.named c'.session.name)).writes) := by
  simp only [plain_evaluate, h.scope, h.store, h.options, Session.frame, Frame.evaluate_named]
  cases hresult : ((Frame.program c.session.scope).evaluate e c.store).1
  case error d => exact .cons (failure_alike hfancy fun _ => exists_call_of_evaluate hresult) .nil
  case ok v => exact .cons .out .nil

theorem failure_alike_of_unread {s : Source} (hfancy : options.fancy = false) (h : d.Unread s) :
    Write.Alike name name' (failure options (d.named name)) (failure options (d.named name')) :=
  failure_alike hfancy fun hkind => absurd hkind (h.kind ▸ Bool.false_ne_true)

theorem shown_alike {wanted : Bool} {text : String} :
    List.Forall₂ (Write.Alike name name') (if wanted then [.out text] else [])
      (if wanted then [.out text] else []) := by
  cases wanted
  case false => exact .nil
  case true => exact .cons .out .nil

theorem shownTokens_named {ts : List Token} :
    shownTokens (ts.map (Token.named name)) = shownTokens ts := by
  rw [shownTokens, List.map_map]
  rfl

theorem runLine_alike (h : c.Alike c') (hfancy : c.options.fancy = false) :
    Ran.Alike c.session.name c'.session.name (c.runLine line) (c'.runLine line) := by
  have hnamed : c'.session = c.session.named c'.session.name := by
    rw [Session.named, ← h.scope]
  have hrun : (c'.session.run line c'.store) = _ :=
    (congrArg₂ (Session.run · line ·) hnamed h.store).trans Session.run_named
  constructor
  case succeeded =>
    rw [runLine_eq.1, runLine_eq.1, hrun]
    cases (c.session.run line c.store).1 <;> rfl
  case store =>
    rw [runLine_eq.2, runLine_eq.2, hrun]
  case writes =>
    -- Both lines are that of a source without a name.
    have hsource : ∀ s : Session, s.source line = (Source.mk "" line).named s.name := fun _ => rfl
    rw [plain_runLine, plain_runLine, hsource, hsource, h.options]
    cases htokens : tokenize ⟨"", line⟩
    case error d =>
      rw [tokenize_named_error htokens, tokenize_named_error htokens]
      exact .cons (failure_alike_of_unread hfancy (unread_of_tokenize htokens).2) .nil
    case ok ts =>
      rw [tokenize_named_ok htokens, tokenize_named_ok htokens]
      simp only [shownTokens_named]
      refine List.rel_append shown_alike ?_
      cases hparse : parse ts
      case error d =>
        have hstop := exists_stop_of_tokenize htokens
        rw [parse_named_error hstop hparse, parse_named_error hstop hparse]
        exact .cons (failure_alike_of_unread hfancy (unread_of_parse htokens hparse).2) .nil
      case ok e =>
        rw [parse_named_ok hparse, parse_named_ok hparse]
        simp only [Expr.text_named]
        exact List.rel_append shown_alike (evaluate_alike h hfancy)

end Line

section Lines

variable {c c' : Console} {line : List Char} {lines : List (List Char)}

theorem runs_alike (h : c.Alike c') (hfancy : c.options.fancy = false) :
    List.Forall₂ (Ran.Alike c.session.name c'.session.name) (c.runs lines) (c'.runs lines) := by
  induction lines generalizing c c'
  case nil => exact .nil
  case cons line rest ih =>
    have hline := @runLine_alike c c' line h hfancy
    have hnext : (c.runLine line).console.Alike (c'.runLine line).console := by
      refine ⟨?_, ?_, hline.store⟩ <;> rw [runLine_eq.2, runLine_eq.2]
      · exact h.options
      · exact h.scope
    have hrest := ih hnext (by rw [runLine_eq.2]; exact hfancy)
    rw [runLine_eq.2, runLine_eq.2] at hrest
    exact .cons hline (by simpa only [runLine_eq.2] using hrest)

-- The lines that are run succeed as they do in the session alone.
theorem succeeded_runs :
    (c.runs lines).map (·.succeeded) = (c.session.runAll lines c.store).1.map Except.isOk := by
  induction lines generalizing c
  case nil => rfl
  case cons line rest ih =>
    rw [runs, List.map_cons, ih, runLine_eq.1, runLine_eq.2]
    rfl

theorem runScript_eq : c.runScript lines =
    (((c.runs lines).take ((c.runs lines).findIdx (!·.succeeded) + 1)).flatMap (·.writes),
      (c.runs lines).all (·.succeeded)) := by
  induction lines generalizing c
  case nil => rfl
  case cons line rest ih =>
    rw [runScript, runs, List.findIdx_cons, List.take_succ_cons, List.all_cons]
    cases hsucceeded : (c.runLine line).succeeded
    case false => simp
    case true => simp [ih]

theorem plain_runLine_ne_nil : plain (c.runLine line).writes ≠ [] := by
  rw [plain_runLine]
  split
  case h_1 => exact List.cons_ne_nil _ _
  case h_2 =>
    refine List.append_ne_nil_of_right_ne_nil _ ?_
    split
    case h_1 => exact List.cons_ne_nil _ _
    case h_2 =>
      refine List.append_ne_nil_of_right_ne_nil _ ?_
      rw [plain_evaluate]
      split <;> exact List.cons_ne_nil _ _

end Lines

section Conversing

variable {c : Console} {line text : List Char} {lines : List (List Char)}

theorem answer_blank (h : (Text.trim line).isEmpty) : c.answer (some line) = (some c, []) := by
  simp only [answer, h, if_true]

theorem answer_line (h : ¬(Text.trim line).isEmpty)
    (hquit : Text.trim line ≠ "exit".toList ∧ Text.trim line ≠ "quit".toList) :
    c.answer (some line)
      = (some (c.runLine (Text.trim line)).console, (c.runLine (Text.trim line)).writes) := by
  simp only [answer, if_neg h, if_neg (not_or.mpr hquit)]

-- A conversation that is not ended answers all lines of input, and runs those that are not blank.
theorem converse_eq (hquit : ∀ line ∈ lines.map Text.trim,
      line ≠ "exit".toList ∧ line ≠ "quit".toList) :
    c.converse (lines.map some)
      = (c.answers (lines.map some)).flatMap (prompt :: ·.2) ++ [prompt, .out "\n"] ∧
    (c.answers (lines.map some)).length = lines.length ∧
    (c.answers (lines.map some)).filter (!·.2.isEmpty)
      = (c.runs ((lines.map Text.trim).filter (!·.isEmpty))).map
        fun ran => (some ran.console, ran.writes) := by
  induction lines generalizing c
  case nil => exact ⟨rfl, rfl, rfl⟩
  case cons line rest ih =>
    rw [List.map_cons] at hquit
    obtain ⟨hline, hrest⟩ := List.forall_mem_cons.mp hquit
    by_cases hblank : (Text.trim line).isEmpty
    case pos =>
      obtain ⟨hconverse, hlength, hfilter⟩ := @ih c hrest
      simp only [List.map_cons, converse, turn, answers, answer_blank hblank]
      refine ⟨?_, ?_, ?_⟩
      · rw [hconverse]; rfl
      · rw [List.length_cons, hlength, List.length_cons]
      · rw [List.filter_cons_of_neg (by simp), List.filter_cons_of_neg (by simpa using hblank),
          hfilter]
    case neg =>
      obtain ⟨hconverse, hlength, hfilter⟩ := @ih (c.runLine (Text.trim line)).console hrest
      have hwrites : (c.runLine (Text.trim line)).writes ≠ [] := fun h =>
        plain_runLine_ne_nil (congrArg plain h)
      simp only [List.map_cons, converse, turn, answers, answer_line hblank hline]
      refine ⟨?_, ?_, ?_⟩
      · rw [hconverse]; simp
      · rw [List.length_cons, hlength, List.length_cons]
      · rw [List.filter_cons_of_pos (by simpa using hwrites),
          List.filter_cons_of_pos (by simpa using hblank), hfilter]
        rfl

-- What is cut off behind the last newline of a text is blank.
theorem scriptLines_eq : scriptLines text
    = ((Program.inputLines text).map Text.trim).filter (!·.isEmpty) := by
  rw [scriptLines, Program.inputLines]
  split
  case isTrue h =>
    nth_rewrite 1 [← List.dropLast_append_getLast? [] h]
    rw [List.map_append, List.filter_append]
    exact List.append_nil _
  case isFalse => rfl

end Conversing

end Console

namespace Program

open Console

variable {arguments : List String} {directives : Option String} {input content : ByteArray}
  {open? : String → File} {given : Arguments.Given} {name : String} {text : List Char}

theorem decode_toUTF8 (s : String) : decode s.toUTF8 = some s.toList :=
  congrArg (Option.map String.toList) (dif_pos s.isValidUTF8)

-- A run on a script writes what comes of its lines, up to the first that fails in its session.
theorem run_script (hgiven : Arguments.ofList arguments = .ok given)
    (htask : taskOf given = .script name) (hopen : open? name = .bytes content)
    (htext : decode content = some text) :
    let exit := run arguments directives input open?
    let c := Console.start (optionsOf given) (filterOf given.verbosity directives) name
    let results := (Session.runAlone name (scriptLines text)).1
    plain exit.writes = ((c.runs (scriptLines text)).take (results.findIdx (!·.isOk) + 1)).flatMap
      (plain ·.writes) ∧ exit.code = if results.all (·.isOk) then 0 else 1 := by
  intro exit c results
  have hexit : exit = ⟨logged c.filter [startEntry c.options]
        ++ (logged c.filter [scriptEntry name] ++ (c.runScript (scriptLines text)).1),
      if (c.runScript (scriptLines text)).2 then 0 else 1⟩ := by
    simp only [exit, run, hgiven, htask, hopen, runScript, htext]
    rfl
  have hsucceeded : (c.runs (scriptLines text)).map (·.succeeded) = results.map (·.isOk) :=
    succeeded_runs
  rw [hexit, runScript_eq]
  constructor
  case left =>
    have hfirst := congrArg (List.findIdx (!·)) hsucceeded
    rw [List.findIdx_map, List.findIdx_map] at hfirst
    rw [plain_append, plain_append, plain_logged, plain_logged, List.nil_append, List.nil_append,
      plain_flatMap]
    exact congrArg (fun m => ((c.runs (scriptLines text)).take (m + 1)).flatMap _) hfirst
  case right =>
    have hall := congrArg (List.all · id) hsucceeded
    rw [List.all_map, List.all_map] at hall
    exact congrArg (fun b : Bool => if b then (0 : UInt8) else 1) hall

-- A run on input with no line that ends the conversation answers it all, and runs what a script
-- would run.
theorem run_conversation (hgiven : Arguments.ofList arguments = .ok given)
    (htask : taskOf given = .conversation) (htext : decode content = some text)
    (hquit : ∀ line ∈ scriptLines text, line ≠ "exit".toList ∧ line ≠ "quit".toList) :
    let exit := run arguments directives content open?
    let c := conversation (optionsOf given) (filterOf given.verbosity directives)
    let answers := c.answers (inputs content)
    plain exit.writes
        = greeting :: answers.flatMap (prompt :: plain ·.2) ++ [prompt, .out "\n"] ∧
      answers.length = (inputs content).length ∧
      answers.filter (!·.2.isEmpty)
        = (c.runs (scriptLines text)).map (fun ran => (some ran.console, ran.writes)) ∧
      exit.code = 0 := by
  intro exit c answers
  have hinputs : inputs content = (inputLines text).map some := by rw [inputs, htext]
  have hquit' : ∀ line ∈ (inputLines text).map Text.trim,
      line ≠ "exit".toList ∧ line ≠ "quit".toList := by
    intro line hline
    cases line
    case nil => exact ⟨by decide, by decide⟩
    case cons =>
      rw [scriptLines_eq] at hquit
      exact hquit _ (List.mem_filter.mpr ⟨hline, rfl⟩)
  obtain ⟨hconverse, hlength, hfilter⟩ := @converse_eq c (inputLines text) hquit'
  have hexit : exit = ⟨logged c.filter [startEntry c.options]
      ++ greeting :: c.converse (inputs content), 0⟩ := by
    simp only [exit, run, hgiven, htask]
    rfl
  refine ⟨?_, ?_, ?_, by rw [hexit]⟩ <;> simp only [answers, hinputs]
  case refine_1 =>
    rw [hexit, hinputs, plain_append, plain_logged, hconverse]
    change greeting :: plain (_ ++ _) = _
    rw [plain_append, plain_flatMap]
    rfl
  case refine_2 => rw [hlength, List.length_map]
  case refine_3 => rw [hfilter, scriptLines_eq]

end Program

open Console Program

-- One run on a script and one on the same text as input, with the same switches and not in colour,
-- where no line ends the conversation:
-- 1. the script is run up to the first line that fails in its session, and the exit code tells
--    whether there is one
-- 2. the conversation goes on to the end of the input: it answers every line, runs all that are not
--    blank, and exits without a failure
-- 3. what is written of a line is the same but for the name of the source, and so are the result
--    and the store after it
-- 4. with any switches a line comes to what its session says, and changes nothing but the store
theorem script_agrees_with_conversation {arguments arguments' : List String}
    {directives directives' : Option String} {input content : ByteArray}
    {open? open?' : String → File} {given given' : Arguments.Given} {name : String}
    {text : List Char} (hgiven : Arguments.ofList arguments = .ok given)
    (htask : taskOf given = .script name) (hopen : open? name = .bytes content)
    (hgiven' : Arguments.ofList arguments' = .ok given') (htask' : taskOf given' = .conversation)
    (hoptions : optionsOf given' = optionsOf given) (hfancy : (optionsOf given).fancy = false)
    (htext : decode content = some text)
    (hquit : ∀ line ∈ scriptLines text, line ≠ "exit".toList ∧ line ≠ "quit".toList) :
    let lines := scriptLines text
    let results := (Session.runAlone name lines).1
    let script := Console.start (optionsOf given) (filterOf given.verbosity directives) name
    let talk := conversation (optionsOf given') (filterOf given'.verbosity directives')
    let answers := talk.answers (inputs content)
    (plain (run arguments directives input open?).writes
        = ((script.runs lines).take (results.findIdx (!·.isOk) + 1)).flatMap (plain ·.writes) ∧
      (run arguments directives input open?).code = if results.all (·.isOk) then 0 else 1) ∧
    (plain (run arguments' directives' content open?').writes
        = greeting :: answers.flatMap (prompt :: plain ·.2) ++ [prompt, .out "\n"] ∧
      answers.length = (inputs content).length ∧
      answers.filter (!·.2.isEmpty)
        = (talk.runs lines).map (fun ran => (some ran.console, ran.writes)) ∧
      (run arguments' directives' content open?').code = 0) ∧
    List.Forall₂ (Ran.Alike name "<stdin>") (script.runs lines) (talk.runs lines) ∧
    ∀ (c : Console) (line : List Char),
      (c.runLine line).succeeded = (c.session.run line c.store).1.isOk ∧
      (c.runLine line).console = { c with store := (c.session.run line c.store).2 } := by
  intro lines results script talk answers
  have halike : script.Alike talk := ⟨hoptions, rfl, rfl⟩
  exact ⟨run_script hgiven htask hopen htext, run_conversation hgiven' htask' htext hquit,
    runs_alike halike hfancy, fun _ _ => runLine_eq⟩

-- The second of three lines fails. The script ends with it, and the conversation does not.
theorem script_agrees_with_conversation_division :
    let content := "VAR x = 1\r\n\n  (VAR x = 2) / 0\nx".toUTF8
    let open? (_ : String) : File := .bytes content
    plain (run ["--ast", "sums"] none .empty open?).writes =
      [.out "(VAR x = 1)\n", .out "1\n", .out "((VAR x = 2) / 0)\n",
        .err ("Traceback (most recent call last):\n  File sums, line 1, in <program>\n"
          ++ "Runtime Error: Division by zero\n\n(VAR x = 2) / 0\n              ^\n")] ∧
      (run ["--ast", "sums"] none .empty open?).code = 1 ∧
      (run ["--ast"] none content fun _ => .missing).code = 0 := by
  intro content open?
  have h := @script_agrees_with_conversation ["--ast", "sums"] ["--ast"] none none .empty content
    open? (fun _ => .missing) ⟨[.ast], 0, some "sums"⟩ ⟨[.ast], 0, none⟩ "sums" _ rfl rfl rfl rfl
    rfl rfl rfl (decode_toUTF8 _) (by decide +kernel)
  obtain ⟨⟨hwrites, hcode⟩, ⟨_, _, _, hcode'⟩, _⟩ := h
  exact ⟨hwrites.trans (by decide +kernel), hcode.trans (by decide +kernel), hcode'⟩

end Reckoner
