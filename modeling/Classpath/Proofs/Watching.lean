import Classpath.Watch
import Mathlib.Data.List.Destutter
import Mathlib.Logic.Relation

/-!
# Watching and printing once

While the project file is watched, three things happen independently of each other: the
file is replaced, events arrive, and the loop of the watch reads events and the file.
Replacing the file and announcing it are separate steps, so that one announcement may
stand for many replacements, and the file that the loop reads need not be the one that
was announced.  The loop takes an event, reads the file, and prints, each in a step of its
own, between which anything else may happen.

Whatever the order of these steps, what is printed is what one run after the other would
have printed for the versions that were read, without repetitions.  What is read last is
the current version, because a replacement leaves an announcement to come, and an
announcement leads to another reading.

## Main definitions

* `Scene` — the file, the events under way, and the loop
* `Scene.Step` — one step of the file, the events or the loop
* `Scene.shown` — what the versions that were acted on have to show, without repetitions
* `Scene.Fresh`, `Scene.Sound` — the invariant
* `Scene.Faithful` — what can be said of a scene

## Main statements

* `Scene.Fresh.step`, `Scene.Sound.step` — every step keeps the invariant
* `Scene.Leaving.leads` — nothing is printed after a request to stop
* `Scene.watching_refines_runs` — a watch, from the run that it follows to any point
-/

namespace List

variable {α : Type} [DecidableEq α]

/-- Without repetitions, a last element stands behind the others unless it repeats the
one before. -/
theorem destutter_concat (l : List α) (a : α) :
    (l ++ [a]).destutter (· ≠ ·) =
      if (l.destutter (· ≠ ·)).getLast? = some a then l.destutter (· ≠ ·)
      else l.destutter (· ≠ ·) ++ [a] := by
  cases l with
  | nil => rfl
  | cons b l =>
    rw [cons_append, destutter_cons', destutter_cons']
    induction l generalizing b with
    | nil => by_cases same : b = a <;> simp [same]
    | cons c l ih =>
      rw [cons_append]
      by_cases same : b = c
      · rw [destutter'_cons_neg _ (not_not.2 same), destutter'_cons_neg _ (not_not.2 same)]
        exact ih b
      · obtain ⟨d, rest, kept⟩ := exists_cons_of_ne_nil (l.destutter'_ne_nil (· ≠ ·) (a := c))
        rw [destutter'_cons_pos _ same, destutter'_cons_pos _ same, ih c, kept,
          getLast?_cons_cons, cons_append]
        split <;> rfl

end List

namespace Classpath

/-- What is found under the path of a project file at some time. -/
abbrev Version : Type :=
  Except FileFault Item

namespace Program

variable {p : Program} {f : Failure} {text : String}

/-- The program that is started when a version is found. -/
def reading (p : Program) (v : Version) : Program :=
  { p with found := v }

/-- The text that is printed for a version, if it has one. -/
def text? (p : Program) (v : Version) : Option String :=
  (p.reading v).report.toOption

theorem text?_eq_some_iff {v : Version} :
    p.text? v = some text ↔ (p.reading v).report = .ok text := by
  unfold text?
  cases (p.reading v).report <;> simp [Except.toOption]

theorem text?_eq_none_iff {v : Version} :
    p.text? v = none ↔ ∃ f, (p.reading v).report = .error f := by
  unfold text?
  cases (p.reading v).report <;> simp [Except.toOption]

/-- A file is loaded if its text is read and breaks no rule. -/
theorem load_of_text {f : ProjectFile} (found : p.found = .ok (.file text))
    (parsed : ProjectFile.ofToml text = .ok f) (unbroken : f.violations = []) :
    p.load = .ok f := by
  have loaded : ProjectFile.load text = .ok f := by
    simp [ProjectFile.load, parsed, ProjectFile.validate, unbroken]
  rw [load, found]
  exact loaded

/-- What is printed is the listing of the session that the arguments open. -/
theorem report_of_opened {f : ProjectFile} {s : Session} (loaded : p.load = .ok f)
    (opened : f.openSession (projectDirectory p.workingDirectory p.file) p.arguments = .ok s) :
    p.report = Text.unlines <$> s.listing p.arguments := by
  rw [report, loaded]
  change f.report (projectDirectory p.workingDirectory p.file) p.arguments = _
  rw [ProjectFile.report, opened]
  rfl

/-- Where something is printed for a file, there is a file. -/
theorem isOk_found_of_report (rendered : p.report = .ok text) : p.found.isOk = true := by
  cases found : p.found with
  | ok item => rfl
  | error fault =>
    unfold report load at rendered
    rw [found] at rendered
    contradiction

/-- One run prints the text of the file. -/
theorem run_of_report_ok (printing : p.arguments.dryRun = false) (rendered : p.report = .ok text) :
    p.run.output = text ∧ p.run.failure = none := by
  simp [run, isOk_found_of_report rendered, printing, rendered, outcome]

/-- One run prints nothing if the file has no text. -/
theorem run_of_report_error (printing : p.arguments.dryRun = false)
    (failed : p.report = .error f) : p.run.output = "" ∧ p.run.failure.isSome = true := by
  unfold run
  by_cases there : p.found.isOk
  · simp [there, printing, failed, outcome]
  · simp [there]

end Program

/-! ## The file, the events and the loop -/

/-- What the loop of a watch is doing. -/
inductive Watch.Stage
  | waiting
  /-- It has taken an event. -/
  | taken (e : WatchEvent)
  /-- It has read a version of the file, of which nothing has been printed yet. -/
  | read (v : Version)

/-- A watched file, the events under way, and the loop of the watch. -/
structure Scene where
  /-- The file as it is now. -/
  found : Version
  /-- All versions that the file has had, newest first. -/
  history : List Version
  /-- The file has been replaced, and the event that this leads to is still to come. -/
  unannounced : Bool := false
  /-- The events that have come and were not taken, oldest first. -/
  queue : List WatchEvent := []
  stage : Watch.Stage := .waiting
  watch : Watch
  /-- All that was printed. -/
  output : String
  /-- The versions that the loop has acted on, oldest first. -/
  handled : List Version

namespace Scene

/-- The scene when a watch follows a run of the program. -/
def start (p : Program) (w : Watch) : Scene where
  found := p.found
  history := [p.found]
  watch := w
  output := p.run.output
  handled := [p.found]

/-- The loop acts on the version that it has read. -/
def react (p : Program) (sc : Scene) (v : Version) : Scene :=
  let reaction := sc.watch.step (p.reading v).report .projectChanged
  { sc with
    stage := .waiting
    watch := reaction.1
    output := sc.output ++ reaction.2.getD ""
    handled := sc.handled ++ [v] }

/-- The loop acts on a request to stop. -/
def stop (p : Program) (sc : Scene) : Scene :=
  let reaction := sc.watch.step (p.reading sc.found).report .shutdownRequested
  { sc with
    stage := .waiting
    watch := reaction.1
    output := sc.output ++ reaction.2.getD "" }

/-- What can happen next. -/
inductive Step (p : Program) : Scene → Scene → Prop
  /-- The file is replaced. -/
  | replaced (sc : Scene) (v : Version) :
      Step p sc { sc with found := v, history := v :: sc.history, unannounced := true }
  /-- A change of the file is announced, for all replacements so far or for none. -/
  | announced (sc : Scene) :
      Step p sc { sc with unannounced := false, queue := sc.queue ++ [.projectChanged] }
  /-- The watch is asked to stop. -/
  | interrupted (sc : Scene) :
      Step p sc { sc with queue := sc.queue ++ [.shutdownRequested] }
  /-- The loop takes the oldest event. -/
  | took (sc : Scene) {e : WatchEvent} {rest : List WatchEvent} (stage : sc.stage = .waiting)
      (running : sc.watch.running = true) (queue : sc.queue = e :: rest) :
      Step p sc { sc with queue := rest, stage := .taken e }
  /-- The loop reads the file. -/
  | looked (sc : Scene) (stage : sc.stage = .taken .projectChanged) :
      Step p sc { sc with stage := .read sc.found }
  /-- The loop acts on what it has read. -/
  | reacted (sc : Scene) {v : Version} (stage : sc.stage = .read v) : Step p sc (sc.react p v)
  /-- The loop stops. -/
  | stopped (sc : Scene) (stage : sc.stage = .taken .shutdownRequested) :
      Step p sc (sc.stop p)

/-- What can come of a scene, by any steps in any order. -/
abbrev Leads (p : Program) : Scene → Scene → Prop :=
  Relation.ReflTransGen (Step p)

/-! ## What is printed -/

variable {p : Program} {sc sc' : Scene}

/-- The texts of the versions that the loop has acted on, without repetitions. -/
def shown (p : Program) (sc : Scene) : List String :=
  (sc.handled.filterMap p.text?).destutter (· ≠ ·)

/-- What is shown is the text of some version. -/
theorem exists_version_of_mem_shown {text : String} (member : text ∈ sc.shown p) :
    ∃ v ∈ sc.handled, (p.reading v).report = .ok text := by
  obtain ⟨v, handled, rendered⟩ := List.mem_filterMap.1 ((List.destutter_sublist _ _).subset member)
  exact ⟨v, handled, Program.text?_eq_some_iff.1 rendered⟩

/-! ### Reactions -/

variable {v : Version} {f : Failure} {text : String}

/-- A text stands behind what is shown unless it is the last one already. -/
theorem shown_react_of_ok (rendered : (p.reading v).report = .ok text) :
    (sc.react p v).shown p =
      if (sc.shown p).getLast? = some text then sc.shown p else sc.shown p ++ [text] := by
  have some : p.text? v = some text := Program.text?_eq_some_iff.2 rendered
  have more : (sc.react p v).shown p =
      (sc.handled.filterMap p.text? ++ [text]).destutter (· ≠ ·) := by
    simp [shown, react, List.filterMap_append, some]
  rw [more, List.destutter_concat, shown]

/-- A version without a text is passed over. -/
theorem react_of_error (sc : Scene) (failed : (p.reading v).report = .error f) :
    (sc.react p v).output = sc.output ∧ (sc.react p v).watch = sc.watch ∧
      (sc.react p v).shown p = sc.shown p := by
  have none : p.text? v = none := Program.text?_eq_none_iff.2 ⟨f, failed⟩
  refine ⟨by simp [react, Watch.step, failed], by simp [react, Watch.step, failed], ?_⟩
  simp [shown, react, List.filterMap_append, none]

/-- The text that was printed last is not printed again. -/
theorem react_of_same (rendered : (p.reading v).report = .ok text)
    (last : (sc.shown p).getLast? = some sc.watch.last) (same : text = sc.watch.last) :
    (sc.react p v).output = sc.output ∧ (sc.react p v).watch = sc.watch ∧
      (sc.react p v).shown p = sc.shown p := by
  refine ⟨by simp [react, Watch.step, rendered, same],
    by simp [react, Watch.step, rendered, same], ?_⟩
  rw [shown_react_of_ok rendered, same, if_pos last]

/-- Any other text is printed. -/
theorem react_of_different (rendered : (p.reading v).report = .ok text)
    (last : (sc.shown p).getLast? = some sc.watch.last) (different : text ≠ sc.watch.last) :
    (sc.react p v).output = sc.output ++ text ∧
      (sc.react p v).watch = { sc.watch with last := text } ∧
      (sc.react p v).shown p = sc.shown p ++ [text] := by
  refine ⟨by simp [react, Watch.step, rendered, different],
    by simp [react, Watch.step, rendered, different], ?_⟩
  rw [shown_react_of_ok rendered, if_neg]
  intro repeated
  exact different (Option.some.inj (repeated.symm.trans last))

/-- What was printed and what is shown stay in step. -/
theorem tally_react (output : sc.output = String.join (sc.shown p))
    (last : (sc.shown p).getLast? = some sc.watch.last) (v : Version) :
    (sc.react p v).output = String.join ((sc.react p v).shown p) ∧
      ((sc.react p v).shown p).getLast? = some (sc.react p v).watch.last := by
  cases rendered : (p.reading v).report with
  | error f =>
    obtain ⟨printed, watch, shown⟩ := react_of_error sc rendered
    rw [printed, watch, shown]
    exact ⟨output, last⟩
  | ok text =>
    by_cases same : text = sc.watch.last
    · obtain ⟨printed, watch, shown⟩ := react_of_same rendered last same
      rw [printed, watch, shown]
      exact ⟨output, last⟩
    · obtain ⟨printed, watch, shown⟩ := react_of_different rendered last same
      rw [printed, watch, shown, output, String.join_append]
      exact ⟨by simp [String.join_cons], List.getLast?_concat⟩

/-- A reaction to a version with a text leaves this text as the last one. -/
theorem last_react (rendered : (p.reading v).report = .ok text) :
    (sc.react p v).watch.last = text := by
  by_cases same : text = sc.watch.last <;> simp [react, Watch.step, rendered, same]

/-- A reaction to a version does not end the loop. -/
theorem running_react : (sc.react p v).watch.running = sc.watch.running := by
  cases rendered : (p.reading v).report with
  | error f => simp [react, Watch.step, rendered]
  | ok text => by_cases same : text = sc.watch.last <;> simp [react, Watch.step, rendered, same]

/-! ## The invariant -/

/-- The current version has been acted on, or will be. -/
inductive Fresh (p : Program) (sc : Scene) : Prop
  | unannounced (later : sc.unannounced = true)
  | queued (member : .projectChanged ∈ sc.queue)
  | taken (stage : sc.stage = .taken .projectChanged)
  | read (stage : sc.stage = .read sc.found)
  /-- The text printed last is that of the current version, if it has one. -/
  | shown (stage : ∀ v, sc.stage ≠ .read v)
      (last : ∀ text, (p.reading sc.found).report = .ok text → sc.watch.last = text)

/-- A loop that runs has been running before. -/
theorem running_of_step (step : Step p sc sc') (running : sc'.watch.running = true) :
    sc.watch.running = true := by
  cases step with
  | replaced | announced | interrupted | took | looked => exact running
  | reacted => rwa [running_react] at running
  | stopped => nomatch running

/-- No step loses sight of the current version, as long as the loop runs. -/
theorem Fresh.step (fresh : sc.Fresh p) (step : Step p sc sc')
    (running : sc'.watch.running = true) : sc'.Fresh p := by
  cases step with
  | replaced v => exact .unannounced rfl
  | announced => exact .queued (by simp)
  | interrupted =>
    cases fresh with
    | unannounced later => exact .unannounced later
    | queued member => exact .queued (List.mem_append_left _ member)
    | taken stage => exact .taken stage
    | read stage => exact .read stage
    | shown stage last => exact .shown stage last
  | took stage _ queue =>
    cases fresh with
    | unannounced later => exact .unannounced later
    | queued member =>
      rw [queue] at member
      obtain rfl | member := List.mem_cons.1 member
      · exact .taken rfl
      · exact .queued member
    | taken other => nomatch stage.symm.trans other
    | read other => nomatch stage.symm.trans other
    | shown _ last => exact .shown nofun last
  | looked => exact .read rfl
  | @reacted v stage =>
    cases fresh with
    | unannounced later => exact .unannounced later
    | queued member => exact .queued member
    | taken other => nomatch stage.symm.trans other
    | read other =>
      -- What has been acted on is the current version.
      obtain rfl : v = sc.found := Watch.Stage.read.inj (stage.symm.trans other)
      exact .shown nofun fun text current => last_react current
    | shown reading _ => exact absurd stage (reading v)
  | stopped => nomatch running

/-- The invariant of a watch. -/
structure Sound (p : Program) (sc : Scene) : Prop where
  found : sc.found ∈ sc.history
  read : ∀ v, sc.stage = .read v → v ∈ sc.history
  handled : ∀ v ∈ sc.handled, v ∈ sc.history
  output : sc.output = String.join (sc.shown p)
  last : (sc.shown p).getLast? = some sc.watch.last
  fresh : sc.watch.running = true → sc.Fresh p
  halted : sc.watch.running = false → sc.stage = .waiting

namespace Sound

/-- The scene after a run that has printed the file. -/
theorem start {first : String} (printing : p.arguments.dryRun = false)
    (rendered : p.report = .ok first) : (Scene.start p ⟨first, true⟩).Sound p := by
  have only : (Scene.start p ⟨first, true⟩).shown p = [first] := by
    have text : p.text? p.found = some first := Program.text?_eq_some_iff.2 rendered
    simp [shown, Scene.start, text]
  refine ⟨List.mem_cons_self, nofun, fun v member => member, ?_, ?_, fun _ => ?_, nofun⟩
  · rw [only]
    exact (Program.run_of_report_ok printing rendered).1.trans (by simp [String.join_cons])
  · rw [only]
    rfl
  · refine .shown nofun fun text current => ?_
    exact Except.ok.inj (rendered.symm.trans current)

/-- **Every step keeps the invariant.** -/
theorem step (sound : sc.Sound p) (step : Step p sc sc') : sc'.Sound p := by
  have fresh : sc'.watch.running = true → sc'.Fresh p := fun running =>
    (sound.fresh (running_of_step step running)).step step running
  cases step with
  | replaced v =>
    have older : ∀ v' ∈ sc.history, v' ∈ v :: sc.history :=
      fun _ member => List.mem_cons_of_mem _ member
    exact { sound with
      found := List.mem_cons_self
      read := fun v' stage => older v' (sound.read v' stage)
      handled := fun v' member => older v' (sound.handled v' member)
      fresh }
  | announced | interrupted => exact { sound with fresh }
  | took stage running queue =>
    exact { sound with
      read := nofun
      fresh
      halted := fun stopped => nomatch running.symm.trans stopped }
  | looked stage =>
    refine { sound with read := ?_, fresh, halted := fun stopped => ?_ }
    · intro v here
      rw [← Watch.Stage.read.inj here]
      exact sound.found
    · nomatch stage.symm.trans (sound.halted stopped)
  | @reacted v stage =>
    obtain ⟨output, last⟩ := tally_react sound.output sound.last v
    refine ⟨sound.found, nofun, ?_, output, last, fresh, fun _ => rfl⟩
    intro v' member
    obtain member | member := List.mem_append.1 member
    · exact sound.handled v' member
    · rw [List.mem_singleton.1 member]
      exact sound.read v stage
  | stopped stage =>
    refine ⟨sound.found, nofun, sound.handled, ?_, sound.last, nofun, fun _ => rfl⟩
    exact String.append_empty.trans sound.output

/-- **The invariant holds at every point.** -/
theorem leads (sound : sc.Sound p) (leads : Leads p sc sc') : sc'.Sound p := by
  induction leads with
  | refl => exact sound
  | tail _ step ih => exact ih.step step

end Sound

/-! ## After the loop has ended -/

/-- The loop has ended, or is about to. -/
def Leaving (sc : Scene) : Prop :=
  sc.watch.running = false ∧ sc.stage = .waiting ∨ sc.stage = .taken .shutdownRequested

/-- A loop that is about to end prints nothing. -/
theorem Leaving.step (leaving : sc.Leaving) (step : Step p sc sc') :
    sc'.Leaving ∧ sc'.output = sc.output := by
  cases step with
  | replaced | announced | interrupted => exact ⟨leaving, rfl⟩
  | took stage running =>
    obtain ⟨stopped, -⟩ | other := leaving
    · nomatch running.symm.trans stopped
    · nomatch stage.symm.trans other
  | looked stage =>
    obtain ⟨-, other⟩ | other := leaving <;> nomatch stage.symm.trans other
  | reacted stage =>
    obtain ⟨-, other⟩ | other := leaving <;> nomatch stage.symm.trans other
  | stopped => exact ⟨.inl ⟨rfl, rfl⟩, String.append_empty⟩

/-- **Nothing more is printed** once a request to stop has been taken. -/
theorem Leaving.leads (leaving : sc.Leaving) (leads : Leads p sc sc') :
    sc'.output = sc.output := by
  have whole : sc'.Leaving ∧ sc'.output = sc.output := by
    induction leads with
    | refl => exact ⟨leaving, rfl⟩
    | tail _ step ih =>
      obtain ⟨still, same⟩ := ih.1.step step
      exact ⟨still, same.trans ih.2⟩
  exact whole.2

/-! ## What can be said of a scene -/

/-- No event is pending: the file was not replaced since the last announcement, no
announcement is waiting, and the loop is doing nothing. -/
structure Settled (sc : Scene) : Prop where
  announced : sc.unannounced = false
  taken : .projectChanged ∉ sc.queue
  stage : sc.stage = .waiting

/-- What can be said of a scene in which a program is watching. -/
structure Faithful (p : Program) (sc : Scene) : Prop where
  /-- What was printed are whole texts, one after the other. -/
  output : sc.output = String.join (sc.shown p)
  /-- Each is the text of a version that the file has had. -/
  rendered : ∀ text ∈ sc.shown p, ∃ v ∈ sc.handled, v ∈ sc.history ∧ (p.reading v).report = .ok text
  /-- No text is printed twice in a row. -/
  differing : (sc.shown p).IsChain (· ≠ ·)
  last : (sc.shown p).getLast? = some sc.watch.last
  /-- A version without a text is passed over. -/
  passes : ∀ v f, (p.reading v).report = .error f →
    (sc.react p v).output = sc.output ∧ (sc.react p v).watch = sc.watch
  /-- If no event is pending, the text printed last is what one run prints now. -/
  current : sc.Settled → sc.watch.running = true →
    ∀ text, (p.reading sc.found).report = .ok text → (p.reading sc.found).run.output = sc.watch.last
  /-- Once a request to stop has been taken, nothing more is printed. -/
  silent : sc.stage = .taken .shutdownRequested ∨ sc.watch.running = false →
    ∀ later, Leads p sc later → later.output = sc.output

theorem Sound.faithful (sound : sc.Sound p) (printing : p.arguments.dryRun = false) :
    sc.Faithful p where
  output := sound.output
  rendered text member := by
    obtain ⟨v, handled, rendered⟩ := exists_version_of_mem_shown member
    exact ⟨v, handled, sound.handled v handled, rendered⟩
  differing := List.isChain_destutter _ _
  last := sound.last
  passes v f failed := ⟨(react_of_error sc failed).1, (react_of_error sc failed).2.1⟩
  current settled running text rendered := by
    have once : (p.reading sc.found).run.output = text :=
      (Program.run_of_report_ok (p := p.reading sc.found) printing rendered).1
    cases sound.fresh running with
    | unannounced later => nomatch settled.announced.symm.trans later
    | queued member => exact absurd member settled.taken
    | taken stage => nomatch settled.stage.symm.trans stage
    | read stage => nomatch settled.stage.symm.trans stage
    | shown _ last => rw [once, last text rendered]
  silent leaving later leads := by
    refine Leaving.leads ?_ leads
    obtain taken | ended := leaving
    · exact .inr taken
    · exact .inl ⟨ended, sound.halted ended⟩

/-- **Watching refines printing once.**  If the first run prints nothing, nothing is
watched.  Otherwise, whatever happens from then on and at every point, what is printed
are the texts of versions that were read, the last of them is current as soon as no event
is pending, and nothing is printed after a request to stop. -/
theorem watching_refines_runs (p : Program) (watched : p.arguments.watch = true)
    (printing : p.arguments.dryRun = false) :
    (∀ f, p.report = .error f → p.run.output = "" ∧ Watch.after? p.arguments p.run = none) ∧
    ∀ first, p.report = .ok first → p.run.output = first ∧
      Watch.after? p.arguments p.run = some ⟨first, true⟩ ∧
      ∀ sc, Leads p (start p ⟨first, true⟩) sc → sc.Faithful p := by
  constructor
  · intro f failed
    obtain ⟨output, failure⟩ := Program.run_of_report_error printing failed
    obtain ⟨cause, given⟩ := Option.isSome_iff_exists.1 failure
    exact ⟨output, by simp [Watch.after?, given]⟩
  · intro first rendered
    obtain ⟨output, failure⟩ := Program.run_of_report_ok printing rendered
    refine ⟨output, ?_, fun sc leads => ?_⟩
    · simp [Watch.after?, watched, printing, failure, output]
    · exact ((Sound.start printing rendered).leads leads).faithful printing

end Scene

/-! ## A module that is renamed -/

namespace Renaming

/-- A project file with one module. -/
def file (name : String) : ProjectFile where
  project := { roots := [name] }
  modules := .ofList [(name, {})]

/-- The program that lists the modules of a watched file, given the text of the file. -/
def program (text : String) : Program where
  arguments := { listing := .modules, watch := true }
  workingDirectory := ⟨"/work"⟩
  found := .ok (.file text)

/-- The file at first. -/
def old : String :=
  "project.roots = ['old']\n[module.old]"

/-- The file later on. -/
def new : String :=
  "project.roots = ['new']\n[module.new]"

theorem ofToml_old : ProjectFile.ofToml old = .ok (file "old") := by
  rfl

theorem ofToml_new : ProjectFile.ofToml new = .ok (file "new") := by
  rfl

/-- The session that is opened on a file. -/
def session (name : String) : Session :=
  .start ((file name).toProject ⟨"/work"⟩) [ModuleSection.toModule ⟨"/work"⟩ name {}] {}

theorem report_of_session {name text : String}
    (parsed : ProjectFile.ofToml text = .ok (file name)) (unbroken : (file name).violations = [])
    (opened : (file name).openSession ⟨"/work"⟩ (program text).arguments = .ok (session name))
    (shown : (session name).modules.map (·.name) = [name]) :
    (program text).report = .ok (name ++ "\n") := by
  have loaded : (program text).load = .ok (file name) := Program.load_of_text rfl parsed unbroken
  have here : projectDirectory ⟨"/work"⟩ ⟨"Depscope.toml"⟩ = ⟨"/work"⟩ := by decide +kernel
  have listed : (session name).listing (program text).arguments = .ok [name] :=
    congrArg Except.ok shown
  rw [← here] at opened
  rw [Program.report_of_opened loaded opened, listed]
  simp [Text.unlines, Functor.map, Except.map]

theorem report_old : (program old).report = .ok "old\n" :=
  report_of_session ofToml_old (by decide +kernel) rfl (by cbv)

theorem report_new : (program new).report = .ok "new\n" :=
  report_of_session ofToml_new (by decide +kernel) rfl (by cbv)

/-- The scene after the file was replaced and read again. -/
def after : Scene where
  found := (program new).found
  history := [(program new).found, (program old).found]
  watch := ⟨"new\n", true⟩
  output := "old\nnew\n"
  handled := [(program old).found, (program new).found]

/-- The file is replaced and announced, and the loop takes the event, reads the file, and
acts on it. -/
theorem leads_after : Scene.Leads (program old) (.start (program old) ⟨"old\n", true⟩) after := by
  have rendered : ((program old).reading (program new).found).report = .ok "new\n" := report_new
  have reacted : Scene.react (program old)
      { after with
        stage := .read (program new).found, watch := ⟨"old\n", true⟩, output := "old\n"
        handled := [(program old).found] } (program new).found = after := by
    simp only [Scene.react, rendered, Watch.step]
    rfl
  have printed : (program old).run.output = "old\n" :=
    (Program.run_of_report_ok rfl report_old).1
  unfold Scene.start
  rw [printed, ← reacted]
  refine .tail (.tail (.tail (.tail (.tail .refl (.replaced _ (program new).found))
    (.announced _)) (.took _ rfl rfl rfl)) (.looked _ rfl)) (.reacted _ rfl)

/-- Both names are printed, and the new one is what one run prints now. -/
theorem both_names_are_printed :
    (program old).arguments.watch = true ∧ (program old).arguments.dryRun = false ∧
      (program old).report = .ok "old\n" ∧ after.Settled ∧
      Scene.Leads (program old) (.start (program old) ⟨"old\n", true⟩) after ∧
      after.Faithful (program old) :=
  have refines := (Scene.watching_refines_runs (program old) rfl rfl).2 "old\n" report_old
  ⟨rfl, rfl, report_old, ⟨rfl, nofun, rfl⟩, leads_after, refines.2.2 after leads_after⟩

end Renaming

end Classpath
