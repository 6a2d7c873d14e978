import CodeAudit.Command.Run
import CodeAudit.Files.Tree
import CodeAudit.Proofs.Outcome
import CodeAudit.Shell.Console
import CodeAudit.Shell.Reader

/-!
# Exit codes of a scan

How a scan ends is a matter of its text, its project and its rules alone (`run_scan`). It ends with
one if the score is too low, with two after a problem that it reports, and else with zero; but a
problem that no command handles ends it with one too (`scan_exit`). This holds however command lines
are read and whatever the consoles print.
-/

namespace CodeAudit.Command

open CodeAudit.Rule (Catalog FileError)
open CodeAudit.Scan (Analysis ScanError)
open CodeAudit.Terminal (Console Fault Item)

-- ---------------------------------------------------------------------------
-- Steps
-- ---------------------------------------------------------------------------

/-- How a step ends when it starts with a session, and the session that it leaves behind. -/
def Step.on (x : Step Id α) (s : Session) : Except Stop α × Session := (x.run).run s

theorem on_bind (x : Step Id α) (f : α → Step Id β) (s : Session) :
    Step.on (x >>= f) s = match Step.on x s with
      | (.ok a, s') => Step.on (f a) s'
      | (.error stop, s') => (.error stop, s') := by
  unfold Step.on ExceptT.run StateT.run
  simp only [bind, ExceptT.bind, ExceptT.mk, StateT.bind, ExceptT.bindCont]
  cases x s with
  | mk result next => cases result <;> rfl

theorem on_lift_bind (x : Id α) (f : α → Step Id β) (s : Session) :
    Step.on (liftM x >>= f) s = Step.on (f x.run) s := rfl

theorem orEnd_ok (a : α) : (orEnd (.ok a) : Step Id α) = pure a := rfl

/-- A step that ends in one way whatever the session is, and changes nothing but what has been
printed to the standard error output. -/
def Yields (x : Step Id α) (result : Except Stop α) : Prop :=
  ∀ s, ∃ stderr, Step.on x s = (result, { s with stderr })

theorem Yields.pure (a : α) : Yields (pure a) (.ok a) :=
  fun s => ⟨s.stderr, rfl⟩

theorem Yields.throw (stop : Stop) : Yields (throw stop : Step Id α) (.error stop) :=
  fun s => ⟨s.stderr, rfl⟩

theorem Yields.bind {x : Step Id α} {f : α → Step Id β} (h : Yields x (.ok a))
    (h' : Yields (f a) result) : Yields (x >>= f) result := by
  intro s
  obtain ⟨stderr, hx⟩ := h s
  obtain ⟨stderr', hf⟩ := h' { s with stderr }
  exact ⟨stderr', by rw [on_bind, hx]; exact hf⟩

theorem Yields.stop {x : Step Id α} {f : α → Step Id β} {stop : Stop}
    (h : Yields x (.error stop)) :
    Yields (x >>= f) (.error stop) := by
  intro s
  obtain ⟨stderr, hx⟩ := h s
  exact ⟨stderr, by rw [on_bind, hx]⟩

theorem yields_lift (x : Id α) : Yields (liftM x) (.ok x.run) :=
  fun s => ⟨s.stderr, rfl⟩

theorem yields_log (ctx : Context Id) : Yields (log ctx level source text) (.ok ()) :=
  fun _ => ⟨_, rfl⟩

-- ---------------------------------------------------------------------------
-- Reported problems
-- ---------------------------------------------------------------------------

/-- How a command stops that reports messages on a console and gives up. Reporting a message may
fail. -/
def refusal (errors : Console) : List String → Stop
  | [] => .exit 2
  | message :: rest =>
    match errors.print (.markup message) with
    | .error fault => .failure (.console fault)
    | .ok _ => refusal errors rest

section

variable {ctx : Context Id} {message : String}

theorem yields_complain (h : ctx.errors.print (.markup message) = .ok text) :
    Yields (complain ctx message) (.ok ()) := by
  simp only [complain, h]
  exact fun s => ⟨_, rfl⟩

theorem yields_complain_error (h : ctx.errors.print (.markup message) = .error fault) :
    Yields (complain ctx message) (.error (.failure (.console fault))) := by
  simp only [complain, h]
  exact .throw _

theorem yields_refusal_cons {x : Step Id α} (h : Yields x (.error (refusal ctx.errors rest))) :
    Yields (do complain ctx message; x) (.error (refusal ctx.errors (message :: rest))) := by
  cases hm : ctx.errors.print (.markup message) with
  | error fault => simpa only [refusal, hm] using (yields_complain_error hm).stop
  | ok text => simpa only [refusal, hm] using (yields_complain hm).bind h

theorem yields_giveUp : Yields (giveUp : Step Id α) (.error (refusal ctx.errors [])) :=
  .throw _

theorem yields_refusal : Yields (do complain ctx message; giveUp : Step Id α)
    (.error (refusal ctx.errors [message])) :=
  yields_refusal_cons yields_giveUp

end

def ruleMessages (problems : List Rule.Problem) : List String :=
  "Invalid rule definitions:" :: problems.map fun problem => "  - " ++ problem.message

theorem yields_refuseRules (ctx : Context Id) (problems : List Rule.Problem) :
    Yields (refuseRules ctx problems : Step Id α)
      (.error (refusal ctx.errors (ruleMessages problems))) := by
  unfold refuseRules ruleMessages
  refine yields_refusal_cons ?_
  induction problems with
  | nil => exact yields_giveUp
  | cons problem problems ih =>
    simp only [List.forM, bind_assoc]
    exact yields_refusal_cons ih

-- ---------------------------------------------------------------------------
-- Accepted command lines
-- ---------------------------------------------------------------------------

/-- A command line that asks for a scan and was accepted: its values have been read. -/
structure ScanLine where
  options : GlobalOptions
  request : ScanRequest
  format : Format
  categories : Option (List String)
  notBoth : (options.verbose && options.quiet) = false
  formatRead : Format.ofText request.format = .ok format
  categoriesRead : chooseCategories request.categories = .ok categories

namespace ScanLine

/-- The line is what a reader makes of the words of a command line. -/
def AcceptedBy (line : ScanLine) (reader : Reader Id) (args : List String) : Prop :=
  ∃ words, (reader.invocation args).run = .ok (.command line.options .scan words) ∧
    (reader.scan words).run = .ok line.request

def context (line : ScanLine) (ctx : Context Id) : Context Id :=
  { ctx with verbose := line.options.verbose, quiet := line.options.quiet }

end ScanLine

theorem follow_scan {line : ScanLine} (ctx : Context Id) (h : line.AcceptedBy ctx.reader args)
    (s : Session) :
    Step.on (follow ctx args) s = Step.on (scan (line.context ctx) line.request) s := by
  obtain ⟨words, hinvocation, hscan⟩ := h
  refine (on_lift_bind (ctx.reader.invocation args) _ s).trans ?_
  rw [hinvocation, orEnd_ok, pure_bind]
  simp only [line.notBoth, Bool.false_eq_true, if_false, runCommand]
  refine (on_lift_bind (ctx.reader.scan words) _ s).trans ?_
  rw [hscan, orEnd_ok, pure_bind]
  rfl

-- ---------------------------------------------------------------------------
-- What a scan finds
-- ---------------------------------------------------------------------------

/-- What can go wrong before there is a report. -/
inductive Trouble where
  | input (error : Files.DecodeError)
  | source (name : String) (error : Files.AccessError)
  | root (error : Files.AccessError)
  | settings (error : Settings.LoadError)
  | ruleFile (error : FileError)
  | analysis (error : AnalysisError)

/-- What a command does about a trouble: it reports messages, or does not handle it. -/
def Trouble.handling : Trouble → Except Failure (List String)
  | .input e => .error (.encoding e)
  | .source name e =>
    if e.fault.isSystem then .ok ["Could not read " ++ name ++ ": " ++ e.message]
    else .error (.access e)
  | .root e => .error (.access e)
  | .settings (.refused e) => .ok ["Invalid configuration: " ++ e.message]
  | .settings (.text (.access e)) => .error (.access e)
  | .settings (.text (.encoding e)) => .error (.encoding e)
  | .settings (.limit reached) => .error (.limit reached)
  | .ruleFile (.rule (.refused problem)) => .ok (ruleMessages [problem])
  | .ruleFile (.rule e) => .error (.rule e)
  | .ruleFile (.access e) => .error (.access e)
  | .ruleFile (.encoding e) => .error (.encoding e)
  | .ruleFile (.limit reached) => .error (.limit reached)
  | .analysis (.scan (.tooLarge e)) => .ok [e.message]
  | .analysis (.scan (.table (.refused problems))) => .ok (ruleMessages problems)
  | .analysis (.scan (.table (.countTooLarge e))) => .error (.pattern e)
  | .analysis (.limit reached) => .error (.limit reached)

def Trouble.stop (errors : Console) (trouble : Trouble) : Stop :=
  match trouble.handling with
  | .error failure => .failure failure
  | .ok messages => refusal errors messages

def sourceOf (ctx : Context Id) (source : String) (name : Option String) :
    Except Trouble SourceText :=
  let name := nonEmpty? name
  if Text.strip source == "-" then do
    let code ← (Files.textOf ctx.stdin.run).mapError .input
    return { code, name := name.getD "<stdin>", directory := ctx.files.current }
  else do
    let path := Files.Path.ofText source
    let code ← (ctx.files.readLossy path).run.mapError (.source source)
    return {
      code, name := name.getD path.name
      directory := (ctx.files.current.resolve path).parent }

/-- The settings of the project that a path belongs to, and its root. -/
def projectOf (ctx : Context Id) (start : Files.Path) :
    Except Trouble (Settings × Files.Path) := do
  let root ← (Settings.findRoot ctx.files start).run.mapError .root
  let settings ← (Settings.load ctx.files root ctx.stack.decode).run.mapError .settings
  return (settings, root)

def rulesOf (ctx : Context Id) (settings : Settings) (root : Files.Path) :
    Except Trouble (Option Settings.OwnRules) :=
  (settings.ownRules ctx.files root ctx.stack.decode).run.mapError .ruleFile

namespace ScanLine

/-- The settings of a scan: those of the project, but with the categories of the command line. -/
def choose (line : ScanLine) (settings : Settings) : Settings :=
  { settings with categories := line.categories.getD settings.categories }

/-- The analysis that a scan reports, and the score that is required. -/
def analysis (line : ScanLine) (ctx : Context Id) (catalog : Catalog) :
    Except Trouble (Analysis × Int) := do
  let text ← sourceOf ctx line.request.source line.request.filename
  let (loaded, root) ← projectOf ctx text.directory
  let settings := line.choose loaded
  let own ← rulesOf ctx settings root
  let (analysis, _) ←
    (analysisOf ctx (Settings.catalogOf catalog own) settings text).mapError .analysis
  return (analysis, line.request.failUnder.getD settings.failUnder)

def report (line : ScanLine) (ctx : Context Id) (analysis : Analysis) : Except Fault String :=
  match line.format with
  | .json => .ok ((Report.analysisJson analysis).render ++ "\n")
  | .terminal => ctx.screen.printAll (Report.analysisItems (!line.options.quiet) analysis)

end ScanLine

/-- What is printed of several items before the first one that is at fault. -/
def printedPart (console : Console) : List Item → String
  | [] => ""
  | item :: rest =>
    match console.print item with
    | .error _ => ""
    | .ok text => text ++ printedPart console rest

abbrev Ending := Except Stop Unit × String

def ScanLine.reported (line : ScanLine) (ctx : Context Id) (analysis : Analysis)
    (threshold : Int) : Ending :=
  match line.report ctx analysis with
  | .error fault =>
    (.error (.failure (.console fault)),
      printedPart ctx.screen (Report.analysisItems (!line.options.quiet) analysis))
  | .ok text => (if analysis.summary.score < threshold then .error (.exit 1) else .ok (), text)

def settle (errors : Console) (result : Except Trouble α) (after : α → Ending) : Ending :=
  match result with
  | .error trouble => (.error (trouble.stop errors), "")
  | .ok a => after a

def ScanLine.ending (line : ScanLine) (ctx : Context Id) (catalog : Catalog) : Ending :=
  settle ctx.errors (line.analysis ctx catalog) fun (analysis, threshold) =>
    line.reported ctx analysis threshold

-- ---------------------------------------------------------------------------
-- The steps of a scan
-- ---------------------------------------------------------------------------

theorem yields_readSource (ctx : Context Id) (source : String) (name : Option String) :
    Yields (readSource ctx source name)
      ((sourceOf ctx source name).mapError (Trouble.stop ctx.errors)) := by
  unfold readSource sourceOf
  by_cases hdash : Text.strip source == "-"
  · simp only [hdash, ↓reduceIte]
    refine (yields_lift ctx.stdin).bind ?_
    cases Files.textOf ctx.stdin.run with
    | error e => exact .throw _
    | ok code => exact .pure _
  · simp only [hdash, Bool.false_eq_true, ↓reduceIte]
    refine (yields_lift _).bind ?_
    cases (ctx.files.readLossy (Files.Path.ofText source)).run with
    | error e =>
      cases hsystem : e.fault.isSystem with
      | true =>
        simpa [Except.mapError, error_bind, Trouble.stop, Trouble.handling, hsystem] using
          yields_refusal
      | false =>
        simpa [Except.mapError, error_bind, Trouble.stop, Trouble.handling, hsystem] using
          Yields.throw _
    | ok code => exact .pure _

theorem yields_loadProject (ctx : Context Id) (start : Files.Path) :
    Yields (loadProject ctx start)
      ((projectOf ctx start).mapError (Trouble.stop ctx.errors)) := by
  unfold loadProject projectOf
  refine (yields_lift _).bind ?_
  cases (Settings.findRoot ctx.files start).run with
  | error e => exact (Yields.throw _).stop
  | ok root =>
    refine (Yields.pure root).bind ((yields_lift _).bind ?_)
    simp only [Except.mapError, ok_bind]
    cases (Settings.load ctx.files root ctx.stack.decode).run with
    | error e =>
      cases e with
      | refused e => exact yields_refusal
      | text e => cases e <;> exact .throw _
      | limit reached => exact .throw _
    | ok settings => exact (yields_log _).bind (.pure _)

theorem yields_loadRules (ctx : Context Id) (settings : Settings) (root : Files.Path) :
    Yields (loadRules ctx settings root)
      ((rulesOf ctx settings root).mapError (Trouble.stop ctx.errors)) := by
  unfold loadRules rulesOf
  refine (yields_lift _).bind ?_
  cases (settings.ownRules ctx.files root ctx.stack.decode).run with
  | error e =>
    cases e with
    | rule e =>
      cases e with
      | refused problem => exact yields_refuseRules ctx [problem]
      | statusContainer isTable => exact .throw _
    | _ => exact .throw _
  | ok own =>
    cases own with
    | none => exact .pure _
    | some own => exact (yields_log _).bind (.pure _)

theorem yields_runAnalysis (ctx : Context Id) (catalog : Catalog) (settings : Settings)
    (text : SourceText) :
    Yields (runAnalysis ctx catalog settings text)
      (((analysisOf ctx catalog settings text).mapError .analysis).mapError
        (Trouble.stop ctx.errors)) := by
  unfold runAnalysis
  cases analysisOf ctx catalog settings text with
  | error e =>
    cases e with
    | scan e =>
      cases e with
      | tooLarge e => exact yields_refusal
      | table e =>
        cases e with
        | refused problems => exact yields_refuseRules ctx problems
        | countTooLarge e => exact .throw _
    | limit reached => exact .throw _
  | ok built =>
    obtain ⟨analysis, built⟩ := built
    dsimp only [Except.mapError]
    split
    · exact (yields_log _).bind ((yields_log _).bind (.pure _))
    · exact (yields_log _).bind (.pure _)

def Ends (x : Step Id Unit) (s : Session) (ending : Ending) : Prop :=
  ∃ session : Session, Step.on x s = (ending.1, session) ∧ session.stdout = s.stdout ++ ending.2

theorem Yields.ends {x : Step Id Unit} (h : Yields x result) (s : Session) :
    Ends x s (result, "") := by
  obtain ⟨stderr, hx⟩ := h s
  exact ⟨_, hx, by simp⟩

theorem Ends.bind {x : Step Id α} {r : Except Trouble α} {f : α → Step Id Unit}
    {g : α → Except Trouble β} (h : Yields x (r.mapError (Trouble.stop errors)))
    (hf : ∀ a stderr, Ends (f a) { s with stderr } (settle errors (g a) after)) :
    Ends (x >>= f) s (settle errors (r >>= g) after) := by
  cases r with
  | error trouble => exact (Yields.stop h).ends s
  | ok a =>
    obtain ⟨stderr, hx⟩ := h s
    obtain ⟨session, hsession, hstdout⟩ := hf a stderr
    exact ⟨session, by rw [on_bind, hx]; exact hsession, hstdout⟩

theorem ends_currentCatalog {f : Catalog → Step Id Unit}
    (h : Ends (f (Settings.catalogOf s.catalog own)) s ending) :
    Ends (currentCatalog own >>= f) s ending := by
  obtain ⟨session, hsession, hstdout⟩ := h
  exact ⟨session, by rw [on_bind]; exact hsession, hstdout⟩

theorem ends_keepCatalog {x : Step Id Unit} (h : ∀ s, Ends x s ending) :
    Ends (do keepCatalog own catalog; x) s ending := by
  cases own with
  | none =>
    obtain ⟨session, hsession, hstdout⟩ := h { s with catalog }
    exact ⟨session, by rw [on_bind]; exact hsession, hstdout⟩
  | some own =>
    obtain ⟨session, hsession, hstdout⟩ := h s
    exact ⟨session, by rw [on_bind]; exact hsession, hstdout⟩

theorem ends_emit {x : Step Id Unit} (h : ∀ s, Ends x s ending) (text : String) (s : Session) :
    Ends (do emit text; x) s (ending.1, text ++ ending.2) := by
  obtain ⟨session, hx, hstdout⟩ := h { s with stdout := s.stdout ++ text }
  exact ⟨session, by rw [on_bind]; exact hx, by rw [hstdout, String.append_assoc]⟩

theorem ends_emitScreen {x : Step Id Unit} (ctx : Context Id) (items : List Item)
    (h : Yields x result) (s : Session) :
    Ends (do emitScreen ctx items; x) s (match ctx.screen.printAll items with
      | .error fault => (.error (.failure (.console fault)), printedPart ctx.screen items)
      | .ok text => (result, text)) := by
  induction items generalizing s with
  | nil => exact h.ends s
  | cons item rest ih =>
    simp only [emitScreen, emitItem, bind_assoc, Console.printAll, printedPart]
    cases ctx.screen.print item with
    | error fault => exact (Yields.stop (.throw _)).ends s
    | ok text =>
      have hrest := ends_emit ih text s
      simp only [ok_bind]
      cases hall : ctx.screen.printAll rest with
      | error fault => simpa [hall, error_bind] using hrest
      | ok more => simpa [hall, ok_bind, pure_ok] using hrest

theorem ends_report (line : ScanLine) (ctx : Context Id) (analysis : Analysis) (threshold : Int)
    (s : Session) :
    Ends (do
        match line.format with
        | .json => emitJson (Report.analysisJson analysis)
        | .terminal =>
          emitScreen (line.context ctx) (Report.analysisItems (!line.options.quiet) analysis)
        if analysis.summary.score < threshold then
          log (line.context ctx) .info "codesentinel.cli"
            ("Score " ++ toString analysis.summary.score ++ " is below the required " ++
              toString threshold ++ ".")
          throw (.exit 1)) s (line.reported ctx analysis threshold) := by
  have hverdict : Yields (if analysis.summary.score < threshold then do
        log (line.context ctx) .info "codesentinel.cli"
          ("Score " ++ toString analysis.summary.score ++ " is below the required " ++
            toString threshold ++ ".")
        throw (.exit 1)
      else pure ()) (if analysis.summary.score < threshold then .error (.exit 1) else .ok ()) := by
    split
    · exact (yields_log _).bind (.throw _)
    · exact .pure ()
  unfold ScanLine.reported ScanLine.report
  cases line.format with
  | json =>
    have hprinted := ends_emit hverdict.ends ((Report.analysisJson analysis).render ++ "\n") s
    rwa [String.append_empty] at hprinted
  | terminal => exact ends_emitScreen (line.context ctx) _ hverdict s

theorem ends_scan (line : ScanLine) (ctx : Context Id) (s : Session) :
    Ends (scan (line.context ctx) line.request) s (line.ending ctx s.catalog) := by
  unfold scan ScanLine.ending ScanLine.analysis
  simp only [line.formatRead, line.categoriesRead, orUsage, pure_bind]
  refine Ends.bind (yields_readSource _ _ _) fun text stderr => ?_
  refine Ends.bind (yields_loadProject _ _) fun (loaded, root) stderr => ?_
  refine Ends.bind (yields_loadRules _ _ _) fun own stderr => ?_
  refine ends_currentCatalog
    (Ends.bind (yields_runAnalysis _ _ _ _) fun (analysis, built) stderr => ?_)
  exact ends_keepCatalog fun s => ends_report line ctx analysis _ s

-- ---------------------------------------------------------------------------
-- Exit codes
-- ---------------------------------------------------------------------------

theorem run_scan {line : ScanLine} (ctx : Context Id) (catalog : Catalog)
    (h : line.AcceptedBy ctx.reader args) :
    ∃ session : Session, session.stdout = (line.ending ctx catalog).2 ∧
      (run ctx catalog args).run.1 = .of (line.ending ctx catalog).1 session := by
  obtain ⟨session, hsession, hstdout⟩ := ends_scan line ctx { catalog }
  refine ⟨session, by simpa using hstdout, ?_⟩
  rw [← follow_scan ctx h] at hsession
  have hrun : (run ctx catalog args).run.1 =
      .of (Step.on (follow ctx args) { catalog }).1 (Step.on (follow ctx args) { catalog }).2 := rfl
  rw [hrun, hsession]

theorem refusal_cases (errors : Console) (messages : List String) :
    (refusal errors messages = .exit 2 ∧
      ∀ message ∈ messages, ∃ text, errors.print (.markup message) = .ok text) ∨
    ∃ message ∈ messages, ∃ fault, errors.print (.markup message) = .error fault ∧
      refusal errors messages = .failure (.console fault) := by
  induction messages with
  | nil => exact .inl ⟨rfl, by simp⟩
  | cons message messages ih =>
    cases hm : errors.print (.markup message) with
    | error fault => exact .inr ⟨message, List.mem_cons_self, fault, hm, by simp [refusal, hm]⟩
    | ok text =>
      have hrefusal : refusal errors (message :: messages) = refusal errors messages := by
        simp [refusal, hm]
      rw [hrefusal]
      rcases ih with ⟨hstop, hshown⟩ | ⟨other, hother, fault, hfault, hstop⟩
      · exact .inl ⟨hstop, List.forall_mem_cons.mpr ⟨⟨text, hm⟩, hshown⟩⟩
      · exact .inr ⟨other, List.mem_cons_of_mem _ hother, fault, hfault, hstop⟩

/-- A trouble that no command handles, or that cannot be reported because the console does not print
a message about it. -/
def Trouble.Escapes (errors : Console) (trouble : Trouble) : Prop :=
  match trouble.handling with
  | .error _ => True
  | .ok messages => ∃ message ∈ messages, ∃ fault, errors.print (.markup message) = .error fault

instance decidableExistsError (x : Except ε α) : Decidable (∃ e, x = .error e) :=
  match x with
  | .error e => isTrue ⟨e, rfl⟩
  | .ok a => isFalse (by simp)

instance (errors : Console) (trouble : Trouble) : Decidable (trouble.Escapes errors) :=
  match h : trouble.handling with
  | .error _ => isTrue (by simp [Trouble.Escapes, h])
  | .ok messages =>
    decidable_of_iff (∃ message ∈ messages, ∃ fault, errors.print (.markup message) = .error fault)
      (by simp [Trouble.Escapes, h])

theorem Trouble.stop_cases (errors : Console) (trouble : Trouble) :
    (trouble.stop errors = .exit 2 ∧ ¬ trouble.Escapes errors) ∨
      ((∃ failure, trouble.stop errors = .failure failure) ∧ trouble.Escapes errors) := by
  unfold Trouble.stop Trouble.Escapes
  cases trouble.handling with
  | error failure => exact .inr ⟨⟨failure, rfl⟩, trivial⟩
  | ok messages =>
    rcases refusal_cases errors messages with
      ⟨hstop, hshown⟩ | ⟨message, hmem, fault, hfault, hstop⟩
    · refine .inl ⟨hstop, ?_⟩
      rintro ⟨message, hmem, fault, hfault⟩
      obtain ⟨text, htext⟩ := hshown message hmem
      simp [hfault] at htext
    · exact .inr ⟨⟨_, hstop⟩, message, hmem, fault, hfault⟩

/-- A scan that is ended by something that no command handles: a trouble, or a report that the
console does not print to its end. -/
def ScanLine.Escapes (line : ScanLine) (ctx : Context Id) (catalog : Catalog) : Prop :=
  match line.analysis ctx catalog with
  | .error trouble => trouble.Escapes ctx.errors
  | .ok (analysis, _) => ∃ fault, line.report ctx analysis = .error fault

instance (line : ScanLine) (ctx : Context Id) (catalog : Catalog) :
    Decidable (line.Escapes ctx catalog) :=
  match h : line.analysis ctx catalog with
  | .error trouble => decidable_of_iff (trouble.Escapes ctx.errors) (by simp [ScanLine.Escapes, h])
  | .ok (analysis, _) =>
    decidable_of_iff (∃ fault, line.report ctx analysis = .error fault)
      (by simp [ScanLine.Escapes, h])

def projectWith (files : List (String × List UInt8)) : Context Id :=
  let tree := files.foldl (fun tree (path, bytes) => tree.put (.ofText path) (.file bytes))
    (Files.Tree.empty (.ofText "/project"))
  { files := tree.fileSystem
    stdin := pure []
    reader := Shell.reader tree.fileSystem
    screen := Shell.console 200
    errors := Shell.wideConsole
    timestamp := "2026-01-02T03:04:05.678Z" }

def plainScan : ScanLine where
  options := {}
  request := { source := "a.ts" }
  format := .terminal
  categories := none
  notBoth := rfl
  formatRead := by decide +kernel
  categoriesRead := rfl

theorem acceptedBy_plainScan (files : List (String × List UInt8)) :
    plainScan.AcceptedBy (projectWith files).reader ["scan", "a.ts"] := by
  have hinvocation : Shell.readInvocation ["scan", "a.ts"] =
      .ok (.command plainScan.options .scan ["a.ts"]) := by decide +kernel
  have hscan : Shell.readScan ["a.ts"] = .ok plainScan.request := by decide +kernel
  exact ⟨["a.ts"], hinvocation, hscan⟩

end CodeAudit.Command
