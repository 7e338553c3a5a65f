import BranchingStory.Console.Command
import BranchingStory.Proofs.Console.FileStore
import BranchingStory.Proofs.Console.Report
import BranchingStory.Proofs.Json
import BranchingStory.Proofs.Save

/-!
What a single command does in a world. Each command comes down to playing on from one answer of a
session: a saved game is read back as it was, and its scenario is found again by its identifier.
-/

namespace BranchingStory.Console

namespace SavedGame

theorem decode?_encode {g : SavedGame} (hgame : Save.decode? g.game.encode = some g.game) :
    decode? g.encode = some g := by
  let fields := [("schemaVersion", Json.text g.schema), ("scenarioId", .text g.scenarioId),
    ("entryScene", .text g.entryScene), ("gameState", g.game.encode)]
  have hrecord : Json.Record.of? ["schemaVersion", "scenarioId", "entryScene", "gameState"]
      g.encode = some (.named fields) :=
    Json.Record.of?_object
      (show ["schemaVersion", "scenarioId", "entryScene", "gameState"].Nodup by decide)
  have hschema : (Json.Record.named fields).required 0 "schemaVersion" Json.text? =
      some g.schema := (Json.Record.required_found rfl 0 _).trans rfl
  have hscenario : (Json.Record.named fields).required 1 "scenarioId" Json.text? =
      some g.scenarioId := (Json.Record.required_found rfl 1 _).trans rfl
  have hentry : (Json.Record.named fields).required 2 "entryScene" Json.text? =
      some g.entryScene := (Json.Record.required_found rfl 2 _).trans rfl
  have hsave : (Json.Record.named fields).required 3 "gameState" Save.decode? = some g.game :=
    (Json.Record.required_found rfl 3 _).trans hgame
  rw [decode?, hrecord]
  simp only [Option.bind_eq_bind, Option.bind_some, hschema, hscenario, hentry, hsave]
  rfl

theorem narrow_game {g : SavedGame} (h : g.encode.Narrow) : g.game.encode.Narrow :=
  Json.narrowFields_iff.mp h ("gameState", g.game.encode) (by simp)

/-- A saved game whose text is read back as it was written is read back itself. -/
theorem ofText_toText {g : SavedGame} (hschema : g.schema = currentSchema)
    (htidy : Value.TidyEntries g.game.vars) (hfinite : Value.FiniteEntries g.game.vars)
    (hscan : Json.scan g.toText = .ok g.encode) : ofText g.toText = .ok g := by
  have hnarrow := narrow_game (Json.narrow_of_scan hscan)
  have hdecode := decode?_encode (Save.decode?_encode htidy hfinite hnarrow)
  simp only [ofText, hscan, hdecode, hschema, if_true]

end SavedGame

namespace Scenario

theorem ofFound_eq_ok {path entry : String} {found : Found} {s : Scenario}
    (h : ofFound path entry found = .ok s) : ∃ sources, s = make path entry sources := by
  unfold ofFound at h
  split at h
  · cases h
  · split at h
    · split at h
      · cases h
        exact ⟨_, rfl⟩
      · cases h
    · cases h
  · split at h
    · cases h
    · cases h
    · cases h
      exact ⟨_, rfl⟩

theorem ofFound_eq_error {path entry : String} {found : Found} {failure : Failure}
    (h : ofFound path entry found = .error failure) : ∃ cause, failure = .fault cause := by
  unfold ofFound at h
  split at h
  · cases h
    exact ⟨_, rfl⟩
  · split at h
    · split at h
      · cases h
      · cases h
        exact ⟨_, rfl⟩
    · cases h
      exact ⟨_, rfl⟩
  · split at h
    · cases h
      exact ⟨_, rfl⟩
    · cases h
      exact ⟨_, rfl⟩
    · cases h

theorem pathOf?_scheme (path : String) : pathOf? (scheme ++ path) = some path := by
  have hprefix : scheme.toList.isPrefixOf (scheme ++ path).toList := by
    rw [String.toList_append]
    exact List.isPrefixOf_iff_prefix.mpr (List.prefix_append _ _)
  rw [pathOf?, if_pos hprefix, String.toList_append, List.drop_left, String.ofList_toList]

theorem session_eq_ok {s : Scenario} {session : Session} (h : s.session = .ok session) :
    ∃ scenes, Script.readSources s.sources = .ok scenes ∧
      session = { engine := Engine.setScenes {} scenes } := by
  unfold Scenario.session at h
  split at h
  · cases h
  · rename_i scenes hread
    cases h
    exact ⟨scenes, hread, rfl⟩

theorem session_eq_error {s : Scenario} {failure : Failure} (h : s.session = .error failure) :
    ∃ cause, failure = .fault cause := by
  unfold Scenario.session at h
  split at h
  · cases h
    exact ⟨_, rfl⟩
  · cases h

end Scenario

theorem World.isAbsolute_folderPath (w : World) : PathText.isAbsolute w.folderPath :=
  PathText.isAbsolute_append (by decide) _

/-! ### How a command ends -/

def playOn (answer : Step × Session) : Stretch := goOn 10000 answer.1 answer.2

inductive Asks : Except Failure Stretch → Prop
  | mk {lines : List (Option String × String)} {content : String} {speaker : Option String}
      {choices : List PresentedChoice} {session : Session} (hlines : lines.length < 10000) :
      Asks (.ok ⟨lines, .choices content speaker choices, session⟩)

/-- How a command tells the outcome of play in a world: the exit code, the lines that it prints and
the files that it leaves. Only at choices a file has changed, and that is the file of the game. -/
inductive Shows (w : World) (file : String) : Except Failure Stretch → Nat × World → Prop
  /-- There is no play at all. -/
  | refused {cause : Fault} {report : List String}
      (hreport : TellsFault cause.code cause.message report) :
      Shows w file (.error (.fault cause)) (1, w.print (onLines report))
  | failed {lines : List (Option String × String)} {cause : Fault} {session : Session}
      {report : List String} (hlines : lines.length < 10000)
      (hreport : TellsFault cause.code cause.codedMessage report) :
      Shows w file (.ok ⟨lines, .fault cause, session⟩) (1, w.print (onLines report))
  | endless {lines : List (Option String × String)} {last : Step} {session : Session}
      {report : List String} (hlines : lines.length = 10000)
      (hreport : TellsFault "CLI_BOUNDARY_GUARD"
        "CLI_BOUNDARY_GUARD: No choice or end within 10000 dialogue lines." report) :
      Shows w file (.ok ⟨lines, last, session⟩) (1, w.print (onLines report))
  | ended {lines : List (Option String × String)} {session : Session} {shown : List String}
      (hlines : lines.length < 10000) (hshown : List.Forall₂ (TellsText "TEXT_JSON:") lines shown) :
      Shows w file (.ok ⟨lines, .sceneComplete, session⟩)
        (0, w.print (onLines (["RESULT:OK", "EVENT:END"] ++ shown ++ ["STATE_OUT:NONE"])))
  | asked {lines : List (Option String × String)} {content : String} {speaker : Option String}
      {choices : List PresentedChoice} {session : Session} {shown options : List String}
      {prompt : String} {store : FileStore} {place : List String} {text : String}
      (hlines : lines.length < 10000) (hshown : List.Forall₂ (TellsText "TEXT_JSON:") lines shown)
      (hprompt : TellsText "PROMPT_JSON:" (speaker, content) prompt)
      (hoptions : List.Forall₂ TellsChoice choices options)
      (hplace : store.locate? w.folder file = some place)
      (hfiles : ∀ other, store.file? other =
        if other = place then some (some text) else w.store.file? other) :
      Shows w file (.ok ⟨lines, .choices content speaker choices, session⟩)
        (0, ({ w with store } : World).print (onLines (["RESULT:OK", "EVENT:CHOICES"] ++ shown ++
          prompt :: options ++ ["STATE_OUT:" ++ file])))

theorem run_bind {α β : Type} {x : StateM World α} {f : α → StateM World β} {w w' : World} {a : α}
    (h : StateT.run x w = (a, w')) : StateT.run (x >>= f) w = StateT.run (f a) w' := by
  rw [StateT.run_bind, h]
  rfl

theorem save_run {w w' : World} {path : String} {written : Bool} (s : Scenario) (session : Session)
    (h : w.write path (SavedGame.ofSession s session w.clock).toText = (written, w')) :
    StateT.run (SavedGame.save path s session : StateM World (Except Failure Unit)) w =
      (if written then .ok () else .error (.console .stateUnwritable), w') := by
  have hclock : StateT.run (Access.now : StateM World String) w = (w.clock, w) := rfl
  have hwrite : StateT.run (Access.write path (SavedGame.ofSession s session w.clock).toText :
      StateM World Bool) w = (written, w') := h
  rw [SavedGame.save, run_bind hclock, run_bind hwrite]
  cases written with
  | true => rfl
  | false => rfl

/-- Finishes a command in a world: plays on, saves at choices, and prints. -/
def closing (s : Scenario) (file : String) (answer : Step × Session) (w : World) : Nat × World :=
  StateT.run (do Command.conclude (← Agent.finish s file answer.1 answer.2) : StateM World Nat) w

section

variable {s : Scenario} {file : String} {answer : Step × Session} {w : World} {session : Session}

theorem closing_failed {failure : Failure}
    (hreach : Boundary.reach Boundary.maxLines answer.1 answer.2 = .error failure) :
    closing s file answer w = (1, w.print failure.report) := by
  rw [closing, Agent.finish, hreach]
  rfl

theorem closing_ended {lines : List String}
    (hreach : Boundary.reach Boundary.maxLines answer.1 answer.2 = .ok (⟨lines, none⟩, session)) :
    closing s file answer w = (0, w.print (Boundary.report ⟨lines, none⟩ none)) := by
  rw [closing, Agent.finish, hreach]
  rfl

theorem closing_asked {lines : List String} {question : String × List PresentedChoice}
    (hreach : Boundary.reach Boundary.maxLines answer.1 answer.2 =
      .ok (⟨lines, some question⟩, session))
    {w' : World}
    (hwrite : w.write file (SavedGame.ofSession s session w.clock).toText = (true, w')) :
    closing s file answer w =
      (0, w'.print (Boundary.report ⟨lines, some question⟩ (some file))) := by
  rw [closing, Agent.finish, hreach]
  simp only
  rw [bind_assoc, run_bind (save_run s session hwrite)]
  rfl

def printed (file : String) : Except Failure (Boundary × Session) → String
  | .error failure => failure.report
  | .ok (⟨lines, none⟩, _) => Boundary.report ⟨lines, none⟩ none
  | .ok (⟨lines, some question⟩, _) => Boundary.report ⟨lines, some question⟩ (some file)

theorem output_closing (hwrite : ∀ text, (w.write file text).1 = true) :
    (closing s file answer w).2.output =
      w.output ++ printed file (Boundary.reach Boundary.maxLines answer.1 answer.2) := by
  rcases hreach : Boundary.reach Boundary.maxLines answer.1 answer.2 with
    failure | ⟨⟨lines, _ | question⟩, session⟩
  · rw [closing_failed hreach]
    rfl
  · rw [closing_ended hreach]
    rfl
  · rw [closing_asked hreach (Prod.ext (hwrite _) rfl)]
    rfl

theorem tooManyLines_message :
    (Failure.console (.tooManyLines Boundary.maxLines)).message =
      "CLI_BOUNDARY_GUARD: No choice or end within 10000 dialogue lines." := by
  decide +kernel

/-- A command tells the outcome of play, and at choices it leaves the game in its file. -/
theorem shows_closing (s : Scenario) (file : String) (answer : Step × Session) (w : World)
    (hwrite : Asks (.ok (playOn answer)) → ∀ text, (w.write file text).1 = true) :
    Shows w file (.ok (playOn answer)) (closing s file answer w) ∧
      (Asks (.ok (playOn answer)) → (closing s file answer w).2.find (fun _ => false) file =
        .file (some (SavedGame.ofSession s (playOn answer).session w.clock).toText)) := by
  have hrests : Rests 10000 (playOn answer) (Boundary.reach Boundary.maxLines answer.1 answer.2) :=
    rests_reach 10000 answer.1 answer.2
  generalize playOn answer = stretch at hrests hwrite ⊢
  generalize hreach : Boundary.reach Boundary.maxLines answer.1 answer.2 = outcome at hrests
  cases hrests with
  | @failed lines cause session hlines =>
      obtain ⟨report, hreport, htext⟩ := (Failure.step cause).exists_report
      rw [closing_failed hreach, htext]
      exact ⟨.failed hlines hreport, nofun⟩
  | endless hlines =>
      obtain ⟨report, hreport, htext⟩ :=
        (Failure.console (.tooManyLines Boundary.maxLines)).exists_report
      rw [tooManyLines_message] at hreport
      rw [closing_failed hreach, htext]
      refine ⟨.endless hlines hreport, ?_⟩
      rintro ⟨hshort⟩
      exact absurd hlines hshort.ne
  | @ended lines session hlines =>
      obtain ⟨shown, hshown, htext⟩ := exists_report_ended lines
      rw [closing_ended hreach, htext]
      exact ⟨.ended hlines hshown, nofun⟩
  | @asked lines content speaker choices session hlines =>
      let text := (SavedGame.ofSession s session w.clock).toText
      have hwritten := hwrite (.mk hlines) text
      obtain ⟨store, hstore⟩ : ∃ store, w.store.write w.folder file text = (true, store) :=
        ⟨_, Prod.ext hwritten rfl⟩
      have hworld : w.write file text = (true, { w with store }) := by
        rw [World.write, hstore]
      obtain ⟨hfind, place, hplace, hfiles⟩ := FileStore.write_eq_true hstore (fun _ => false)
      obtain ⟨shown, prompt, options, hshown, hprompt, hoptions, htext⟩ :=
        exists_report_asked lines content speaker choices file
      rw [closing_asked hreach hworld, htext]
      exact ⟨.asked hlines hshown hprompt hoptions hplace hfiles, fun _ => hfind⟩

end

/-! ### Single commands -/

def Command.runIn (n : Nat) (c : Command) (w : World) : Nat × World :=
  StateT.run (c.run n : StateM World Nat) w

theorem Scenario.load_run (path entry : String) (w : World) :
    StateT.run (Scenario.load path entry : StateM World (Except Failure Scenario)) w =
      (Scenario.ofFound (PathText.join w.folderPath path) entry
        (w.find Scenario.isScript (PathText.join w.folderPath path)), w) := rfl

/-- A scenario is found again by its identifier, in whatever folder. -/
theorem Scenario.loadById_run {path : String} (habsolute : PathText.isAbsolute path)
    (entry : String) (w : World) :
    StateT.run (Scenario.loadById (scheme ++ path) entry : StateM World (Except Failure Scenario))
        w = (Scenario.ofFound path entry (w.find Scenario.isScript path), w) := by
  unfold Scenario.loadById
  simp only [pathOf?_scheme]
  rw [load_run, PathText.join_of_isAbsolute habsolute]

theorem runIn_start (n : Nat) (scripts : String) (scene : Option String) (file : String)
    (w : World) :
    (Command.start scripts scene file).runIn n w =
      match Scenario.ofFound (PathText.join w.folderPath scripts)
          (scene.getD Scenario.defaultEntry)
          (w.find Scenario.isScript (PathText.join w.folderPath scripts)) with
      | .error failure => (1, w.print failure.report)
      | .ok s =>
        match s.session with
        | .error failure => (1, w.print failure.report)
        | .ok session => closing s file (session.start s.entryScene) w := by
  rw [Command.runIn, Command.run, Agent.start, bind_assoc, run_bind (Scenario.load_run _ _ w)]
  cases Scenario.ofFound (PathText.join w.folderPath scripts) (scene.getD Scenario.defaultEntry)
      (w.find Scenario.isScript (PathText.join w.folderPath scripts)) with
  | error failure => rfl
  | ok s =>
      cases hsession : s.session with
      | error failure =>
          simp only [hsession]
          rfl
      | ok session =>
          simp only [hsession]
          rfl

theorem runIn_choose {n index : Nat} {stateIn file : String} {w : World} {g : SavedGame}
    {s : Scenario} {resumed session : Session} {step : Step}
    (hload : SavedGame.ofFound stateIn (w.find (fun _ => false) stateIn) = .ok g)
    (hscenario : StateT.run (Scenario.loadById g.scenarioId g.entryScene :
      StateM World (Except Failure Scenario)) w = (.ok s, w))
    (hresume : s.resume g = .ok resumed)
    (hchoice : resumeAtChoice resumed = .ok (step, session)) :
    (Command.choose stateIn index file).runIn n w =
      closing s file (session.choose w.clock index) w := by
  have hrun : StateT.run (SavedGame.load stateIn : StateM World (Except Failure SavedGame)) w =
      (.ok g, w) := congrArg (·, w) hload
  have hnow : StateT.run (Access.now : StateM World String) w = (w.clock, w) := rfl
  rw [Command.runIn, Command.run, Agent.choose, bind_assoc, run_bind hrun]
  simp only
  rw [bind_assoc, run_bind hscenario]
  simp only [hresume, hchoice]
  rw [bind_assoc, run_bind hnow]
  generalize session.choose w.clock index = answer
  rfl

end BranchingStory.Console
