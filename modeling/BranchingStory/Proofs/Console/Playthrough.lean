import BranchingStory.Proofs.Console.Boundary
import BranchingStory.Proofs.Console.Command
import BranchingStory.Proofs.Json.RoundTrip

/-!
A game played by one command after the other. Each run begins in a world of its own with what the
run before it has saved, and tells what a single session that was never left would have shown. The
induction is on the number of runs: where a run leaves choices, its file holds the session of the
game in memory, and the next run takes that session up.
-/

namespace BranchingStory.Console

/-! ### Outcomes that agree -/

theorem Asks.of_agree {outcome outcome' : Except Failure Stretch} (hagree : Agree outcome outcome')
    (h : Asks outcome') : Asks outcome := by
  cases hagree with
  | error failure => exact h
  | ok halike =>
      cases h with
      | mk hlines => exact .mk hlines

theorem Shows.of_agree {w : World} {file : String} {outcome outcome' : Except Failure Stretch}
    {result : Nat × World} (hagree : Agree outcome outcome') (h : Shows w file outcome result) :
    Shows w file outcome' result := by
  cases hagree with
  | error failure => exact h
  | ok halike =>
      cases h with
      | failed hlines hreport => exact .failed hlines hreport
      | endless hlines hreport => exact .endless hlines hreport
      | ended hlines hshown => exact .ended hlines hshown
      | asked hlines hshown hprompt hoptions hplace hfiles =>
          exact .asked hlines hshown hprompt hoptions hplace hfiles

/-! ### Games in several runs -/

def opening (path entry : String) (found : Found) : Except Failure Stretch :=
  match Scenario.ofFound path entry found with
  | .error failure => .error failure
  | .ok s =>
    match s.session with
    | .error failure => .error failure
    | .ok session => .ok (playOn (session.start s.entryScene))

/-- Commands that play one game: the first begins it, and each other one answers the choices that
the one before it has saved. -/
structure Playthrough where
  scripts : String
  scene : Option String
  /-- The file in which a run saves the game. -/
  file : Nat → String
  /-- The answer to the choices of a run. -/
  choice : Nat → Nat
  /-- The world in which a run begins. -/
  world : Nat → World
  /-- The bound for games that are played line by line. -/
  turns : Nat

namespace Playthrough

variable (p : Playthrough)

def command : Nat → Command
  | 0 => .start p.scripts p.scene (p.file 0)
  | k + 1 => .choose (p.file k) (p.choice k) (p.file (k + 1))

def result (k : Nat) : Nat × World := (p.command k).runIn p.turns (p.world k)

def clock (k : Nat) : String := (p.world k).clock

def path : String := PathText.join (p.world 0).folderPath p.scripts

def entry : String := p.scene.getD Scenario.defaultEntry

def found : Found := (p.world 0).find Scenario.isScript p.path

/-- The same game in one session that is kept in memory, with choices made at the given times. -/
def memory (times : Nat → String) : Nat → Except Failure Stretch
  | 0 => opening p.path p.entry p.found
  | k + 1 =>
    match memory times k with
    | .error failure => .error failure
    | .ok stretch => .ok (playOn (stretch.session.choose (times (k + 1)) (p.choice k)))

def saved (k : Nat) (session : Session) : SavedGame :=
  { schema := SavedGame.currentSchema
    scenarioId := Scenario.scheme ++ p.path
    entryScene := p.entry
    game := session.save (p.clock k) }

/-- Nothing comes between the runs up to the one with number `k`: the scripts stay as they are,
files can be written and stay as they were written, and each game that is saved has finite numbers
and a text that is read back as the tree it was written from. -/
structure Undisturbed (k : Nat) : Prop where
  scripts : ∀ j ≤ k, (p.world j).find Scenario.isScript p.path = p.found
  written : ∀ j ≤ k, Asks (p.memory p.clock j) →
    ∀ text, ((p.world j).write (p.file j) text).1 = true
  kept : ∀ j < k, (p.world (j + 1)).find (fun _ => false) (p.file j) =
    (p.result j).2.find (fun _ => false) (p.file j)
  finite : ∀ j < k, ∀ stretch, p.memory p.clock j = .ok stretch →
    Value.FiniteEntries stretch.session.engine.state.vars
  readable : ∀ j < k, ∀ stretch, p.memory p.clock j = .ok stretch →
    Json.scan (p.saved j stretch.session).toText = .ok (p.saved j stretch.session).encode

variable {p}

theorem Undisturbed.of_succ {k : Nat} (h : p.Undisturbed (k + 1)) : p.Undisturbed k where
  scripts j hj := h.scripts j (Nat.le_succ_of_le hj)
  written j hj := h.written j (Nat.le_succ_of_le hj)
  kept j hj := h.kept j (Nat.lt_succ_of_lt hj)
  finite j hj := h.finite j (Nat.lt_succ_of_lt hj)
  readable j hj := h.readable j (Nat.lt_succ_of_lt hj)

theorem memory_succ {times : Nat → String} {k : Nat} {stretch : Stretch}
    (h : p.memory times k = .ok stretch) :
    p.memory times (k + 1) =
      .ok (playOn (stretch.session.choose (times (k + 1)) (p.choice k))) := by
  rw [memory, h]

/-! ### The session in memory -/

def Reads (p : Playthrough) (s : Scenario) (scenes : List Scene) : Prop :=
  Scenario.ofFound p.path p.entry p.found = .ok s ∧ Script.readSources s.sources = .ok scenes

theorem Reads.quiet {s : Scenario} {scenes : List Scene} (h : p.Reads s scenes) :
    Script.Quiet scenes := Script.Read.quiet (.inr ⟨s.sources, h.2⟩)

theorem tells_memory {times : Nat → String} {k : Nat} {stretch : Stretch}
    (h : p.memory times k = .ok stretch) :
    ∃ s scenes, p.Reads s scenes ∧ stretch.session.Tells scenes ∧
      Engine.Shown stretch.last stretch.session.engine := by
  induction k generalizing stretch with
  | zero =>
      rw [memory, opening] at h
      split at h
      · cases h
      · rename_i s hs
        split at h
        · cases h
        · rename_i fresh hfresh
          cases h
          obtain ⟨scenes, hread, rfl⟩ := Scenario.session_eq_ok hfresh
          have hreads : p.Reads s scenes := ⟨hs, hread⟩
          exact ⟨s, scenes, hreads, tells_goOn hreads.quiet (Session.tells_new scenes)
            (.start s.entryScene) 10000⟩
  | succ k ih =>
      rw [memory] at h
      split at h
      · cases h
      · rename_i before hbefore
        cases h
        obtain ⟨s, scenes, hreads, htells, -⟩ := ih hbefore
        exact ⟨s, scenes, hreads, tells_goOn hreads.quiet htells
          (.choose (times (k + 1)) (p.choice k)) 10000⟩

/-- Times make no difference to what is shown. -/
theorem agree_memory (times times' : Nat → String) (k : Nat) :
    Agree (p.memory times k) (p.memory times' k) := by
  induction k with
  | zero =>
      -- No choice has been made yet, so the times are not asked for.
      change Agree (p.memory times 0) (p.memory times 0)
      cases hmemory : p.memory times 0 with
      | error failure => exact .error failure
      | ok stretch =>
          obtain ⟨s, scenes, -, htells, -⟩ := tells_memory hmemory
          exact .ok htells.alike_self
  | succ k ih =>
      rw [memory, memory]
      generalize p.memory times k = outcome at ih ⊢
      generalize p.memory times' k = outcome' at ih ⊢
      cases ih with
      | error failure => exact .error failure
      | @ok lines last session session' halike =>
          have hagree : Agree
              (.ok (playOn (session.move (.choose (times (k + 1)) (p.choice k)))))
              (.ok (playOn (session'.move (.choose (times' (k + 1)) (p.choice k))))) :=
            agree_move halike (by rfl) 10000
          exact hagree

/-! ### One run after the other -/

/-- A run that comes to rest at choices leaves the session of the game in memory in its file. -/
def Leaves (p : Playthrough) (k : Nat) : Prop :=
  ∀ stretch, p.memory p.clock k = .ok stretch → Asks (.ok stretch) →
    (p.result k).2.find (fun _ => false) (p.file k) =
      .file (some (p.saved k stretch.session).toText)

theorem ofSession_eq_saved {s : Scenario} (hs : Scenario.ofFound p.path p.entry p.found = .ok s)
    (k : Nat) (session : Session) :
    SavedGame.ofSession s session (p.world k).clock = p.saved k session := by
  obtain ⟨sources, rfl⟩ := Scenario.ofFound_eq_ok hs
  rfl

/-- A run that plays on from the answer of the session in memory tells what is in memory. -/
theorem shows_of_result_eq {k : Nat} {s : Scenario} {answer : Step × Session}
    (hs : Scenario.ofFound p.path p.entry p.found = .ok s)
    (hwritten : Asks (p.memory p.clock k) → ∀ text, ((p.world k).write (p.file k) text).1 = true)
    (hmemory : p.memory p.clock k = .ok (playOn answer))
    (hresult : p.result k = closing s (p.file k) answer (p.world k)) :
    Shows (p.world k) (p.file k) (p.memory p.clock k) (p.result k) ∧ p.Leaves k := by
  rw [hmemory] at hwritten
  obtain ⟨hshows, hfile⟩ := shows_closing s (p.file k) answer (p.world k) hwritten
  rw [Leaves, hmemory, hresult]
  refine ⟨hshows, fun stretch hplay hasks => ?_⟩
  obtain rfl := Except.ok.inj hplay
  rw [hfile hasks, ofSession_eq_saved hs]

theorem shows_first
    (hwritten : Asks (p.memory p.clock 0) → ∀ text, ((p.world 0).write (p.file 0) text).1 = true) :
    Shows (p.world 0) (p.file 0) (p.memory p.clock 0) (p.result 0) ∧ p.Leaves 0 := by
  have hresult : p.result 0 =
      match Scenario.ofFound p.path p.entry p.found with
      | .error failure => (1, (p.world 0).print failure.report)
      | .ok s =>
        match s.session with
        | .error failure => (1, (p.world 0).print failure.report)
        | .ok session => closing s (p.file 0) (session.start s.entryScene) (p.world 0) :=
    runIn_start p.turns p.scripts p.scene (p.file 0) (p.world 0)
  -- What fails before the first scene ends the run and the game in memory alike.
  have hrefused : ∀ cause, p.memory p.clock 0 = .error (.fault cause) →
      p.result 0 = (1, (p.world 0).print (Failure.fault cause).report) →
        Shows (p.world 0) (p.file 0) (p.memory p.clock 0) (p.result 0) ∧ p.Leaves 0 := by
    intro cause hmemory hresult
    obtain ⟨report, hreport, htext⟩ := (Failure.fault cause).exists_report
    rw [Leaves, hmemory, hresult, htext]
    exact ⟨.refused hreport, fun stretch h => by cases h⟩
  cases hs : Scenario.ofFound p.path p.entry p.found with
  | error failure =>
      rw [hs] at hresult
      obtain ⟨cause, rfl⟩ := Scenario.ofFound_eq_error hs
      exact hrefused cause (by rw [memory, opening, hs]) hresult
  | ok s =>
      rw [hs] at hresult
      cases hsession : s.session with
      | error failure =>
          simp only [hsession] at hresult
          obtain ⟨cause, rfl⟩ := Scenario.session_eq_error hsession
          exact hrefused cause (by simp only [memory, opening, hs, hsession]) hresult
      | ok session =>
          simp only [hsession] at hresult
          exact shows_of_result_eq hs hwritten (by simp only [memory, opening, hs, hsession])
            hresult

/-- A later run takes up the session that is kept in memory, and answers its choices. -/
theorem result_succ {k : Nat} (h : p.Undisturbed (k + 1)) (hleaves : p.Leaves k)
    {stretch : Stretch} (hmemory : p.memory p.clock k = .ok stretch) (hasks : Asks (.ok stretch)) :
    ∃ s, Scenario.ofFound p.path p.entry p.found = .ok s ∧
      p.result (k + 1) = closing s (p.file (k + 1))
        (stretch.session.choose (p.clock (k + 1)) (p.choice k)) (p.world (k + 1)) := by
  obtain ⟨s, scenes, hreads, htells, hshown⟩ := tells_memory hmemory
  have hload := hleaves stretch hmemory hasks
  have hfinite := h.finite k (Nat.lt_succ_self k) stretch hmemory
  have hreadable := h.readable k (Nat.lt_succ_self k) stretch hmemory
  obtain @⟨lines, content, speaker, choices, session, -⟩ := hasks
  have hproceed := Session.proceed_of_shown hshown
  let fresh : Session := { engine := Engine.setScenes {} scenes }
  -- The file gives the save back, and its identifier the scripts; what the save leaves out comes
  -- back because going on shows the choices again.
  have hload : SavedGame.ofFound (p.file k)
      ((p.world (k + 1)).find (fun _ => false) (p.file k)) = .ok (p.saved k session) := by
    rw [h.kept k (Nat.lt_succ_self k), hload]
    exact SavedGame.ofText_toText rfl htells.resumable.canonical.tidy hfinite hreadable
  have habsolute : PathText.isAbsolute p.path :=
    PathText.isAbsolute_join (p.world 0).isAbsolute_folderPath p.scripts
  have hscenario := Scenario.loadById_run habsolute p.entry (p.world (k + 1))
  rw [h.scripts (k + 1) le_rfl, hreads.1] at hscenario
  have hresume : s.resume (p.saved k session) = .ok (fresh.load (session.save (p.clock k))) := by
    have hsession : s.session = .ok fresh := by rw [Scenario.session, hreads.2]
    rw [Scenario.resume, hsession]
    rfl
  have hchoice : resumeAtChoice (fresh.load (session.save (p.clock k))) =
      .ok (.choices content speaker choices, session) := by
    rw [resumeAtChoice, Session.Tells.proceed_load htells (Session.tells_new scenes), hproceed]
  exact ⟨s, hreads.1, runIn_choose hload hscenario hresume hchoice⟩

/-- Each run tells what the session in memory shows at the same times. -/
theorem shows_at_own_times {k : Nat} (h : p.Undisturbed k)
    (hasks : ∀ j < k, Asks (p.memory p.clock j)) :
    Shows (p.world k) (p.file k) (p.memory p.clock k) (p.result k) ∧ p.Leaves k := by
  induction k with
  | zero => exact shows_first (h.written 0 le_rfl)
  | succ k ih =>
      obtain ⟨-, hleaves⟩ := ih h.of_succ fun j hj => hasks j (Nat.lt_succ_of_lt hj)
      have hlast := hasks k (Nat.lt_succ_self k)
      cases hmemory : p.memory p.clock k with
      | error failure =>
          rw [hmemory] at hlast
          cases hlast
      | ok stretch =>
          rw [hmemory] at hlast
          obtain ⟨s, hs, hresult⟩ := result_succ h hleaves hmemory hlast
          exact shows_of_result_eq hs (h.written (k + 1) le_rfl) (memory_succ hmemory) hresult

/-- A game that is played by commands, each in a process of its own, is told as one session that
is kept in memory would show it, at whatever times: as long as that session has come to choices,
the next run prints what it shows next, with the failure or the boundary, and touches no file but
the one in which it leaves choices. -/
theorem shows_memory (p : Playthrough) (times : Nat → String) {k : Nat} (h : p.Undisturbed k)
    (hasks : ∀ j < k, Asks (p.memory times j)) :
    Shows (p.world k) (p.file k) (p.memory times k) (p.result k) := by
  have hown : ∀ j < k, Asks (p.memory p.clock j) := fun j hj =>
    .of_agree (agree_memory p.clock times j) (hasks j hj)
  exact .of_agree (agree_memory p.clock times k) (shows_at_own_times h hown).1

end Playthrough

/-! ### A game at the crossroads -/

def crossroadsSave : SavedGame :=
  { schema := SavedGame.currentSchema
    scenarioId := "scripts:/story.json"
    entryScene := "start"
    game := Engine.asking.save "noon" }

def tabletop (files : List (List String × Option String)) (clock : String) : World :=
  { store := { files }, clock }

/-- Begins the story in a script at noon, and later answers in the game that was saved. -/
def roundabout (script saved : String) (answer : Nat) : Playthrough where
  scripts := "story.json"
  scene := none
  file k := if k = 0 then "first.json" else "second.json"
  choice _ := answer
  world
    | 0 => tabletop [(["story.json"], some script)] "noon"
    | _ + 1 => tabletop [(["story.json"], some script), (["first.json"], some saved)] "later"
  turns := 0

section

variable {files : List (List String × Option String)} {clock : String}

theorem find_tabletop {path name : String} {text : Option String} (keep : String → Bool)
    (hlocate : FileStore.locate? {} [] path = some [name])
    (hfile : files.lookup [name] = some text) :
    (tabletop files clock).find keep path = .file text := by
  have hplace : FileStore.locate? { files } [] path = some [name] :=
    (FileStore.locate?_congr rfl [] path).trans hlocate
  unfold tabletop World.find FileStore.find
  simp only [hplace, FileStore.file?, hfile]
  rfl

theorem write_tabletop {name : String} (hname : PathText.names name = [name])
    (hlocate : FileStore.locate? {} [] name = some [name]) (text : String) :
    ((tabletop files clock).write name text).1 = true := by
  have hplace : FileStore.locate? { files } [] name = some [name] :=
    (FileStore.locate?_congr rfl [] name).trans hlocate
  unfold tabletop World.write FileStore.write
  simp only [hname, List.dropLast_singleton, FileStore.makeFolders, hplace]
  rfl

end

section

variable {script : String} (saved : String) (answer : Nat)

theorem path_roundabout : (roundabout script saved answer).path = "/story.json" := by
  change PathText.join ("/" ++ String.intercalate "/" []) "story.json" = _
  decide

theorem find_script_roundabout (k : Nat) :
    ((roundabout script saved answer).world k).find Scenario.isScript "/story.json" =
      .file (some script) := by
  have hlocate : FileStore.locate? {} [] "/story.json" = some ["story.json"] := by decide
  cases k with
  | zero => exact find_tabletop _ hlocate rfl
  | succ k => exact find_tabletop _ hlocate rfl

theorem write_roundabout {k : Nat} (hk : k ≤ 1) (text : String) :
    (((roundabout script saved answer).world k).write
      ((roundabout script saved answer).file k) text).1 = true := by
  match k, hk with
  | 0, _ =>
      change ((tabletop _ _).write "first.json" text).1 = true
      exact write_tabletop (by decide) (by decide) text
  | 1, _ =>
      change ((tabletop _ _).write "second.json" text).1 = true
      exact write_tabletop (by decide) (by decide) text

theorem ofFound_roundabout :
    Scenario.ofFound (roundabout script saved answer).path (roundabout script saved answer).entry
      (roundabout script saved answer).found =
        .ok (Scenario.make "/story.json" "start" [("story.json", script)]) := by
  have hname : PathText.fileName? "/story.json" = some "story.json" := by decide
  have hkind : Scenario.isScript "/story.json" = true := by decide
  rw [Playthrough.found, path_roundabout, find_script_roundabout]
  simp only [Scenario.ofFound, hkind, hname, if_true, Option.getD_some]
  rfl

theorem readSources_crossroads (hscript : Json.parse script = .ok Engine.crossroadsScript) :
    Script.readSources [("story.json", script)] = .ok Engine.crossroads := by
  have hsource : Script.readSource "story.json" script = .ok Engine.crossroads := by
    rw [Script.readSource, Script.readDocument,
      show Format.ofFileName "story.json" = .json by decide]
    simp only [hscript]
    cbv
  change Script.addSources [] [("story.json", script)] = _
  rw [Script.addSources, hsource]
  rfl

theorem memory_roundabout (hscript : Json.parse script = .ok Engine.crossroadsScript)
    (times : Nat → String) :
    (roundabout script saved answer).memory times 0 =
      .ok ⟨[], .choices "Which way?" none [⟨0, "left", none⟩, ⟨1, "back", some "start"⟩],
        { engine := Engine.asking }⟩ := by
  rw [Playthrough.memory, opening, ofFound_roundabout]
  simp only [Scenario.session, Scenario.make, readSources_crossroads hscript]
  rfl

theorem asks_roundabout (hscript : Json.parse script = .ok Engine.crossroadsScript)
    (times : Nat → String) : Asks ((roundabout script saved answer).memory times 0) := by
  rw [memory_roundabout saved answer hscript]
  exact .mk (by decide)

theorem saved_roundabout :
    (roundabout script saved answer).saved 0 { engine := Engine.asking } = crossroadsSave := by
  rw [Playthrough.saved, path_roundabout]
  rfl

theorem leaves_roundabout (hscript : Json.parse script = .ok Engine.crossroadsScript)
    (hsaved : crossroadsSave.toText = saved) :
    (roundabout script saved answer).Leaves 0 ∧
      ((roundabout script saved answer).result 0).2.find (fun _ => false) "first.json" =
        .file (some saved) := by
  let p := roundabout script saved answer
  have hleaves : p.Leaves 0 := (Playthrough.shows_first (p := p) fun _ =>
    write_roundabout saved answer (Nat.zero_le 1)).2
  refine ⟨hleaves, ?_⟩
  have hfile := hleaves _ (memory_roundabout saved answer hscript p.clock) (.mk (by decide))
  rw [saved_roundabout, hsaved] at hfile
  exact hfile

theorem undisturbed_roundabout (hscript : Json.parse script = .ok Engine.crossroadsScript)
    (hsaved : crossroadsSave.toText = saved) : (roundabout script saved answer).Undisturbed 1 := by
  have hmemory := memory_roundabout saved answer hscript (roundabout script saved answer).clock
  refine ⟨fun j _ => ?_, fun j hj _ => write_roundabout saved answer hj, fun j hj => ?_,
    fun j hj stretch hj' => ?_, fun j hj stretch hj' => ?_⟩
  · rw [Playthrough.found, path_roundabout, find_script_roundabout, find_script_roundabout]
  · obtain rfl := Nat.lt_one_iff.mp hj
    refine Eq.trans ?_ (leaves_roundabout saved answer hscript hsaved).2.symm
    exact find_tabletop _
      (show FileStore.locate? {} [] "first.json" = some ["first.json"] by decide) rfl
  · obtain rfl := Nat.lt_one_iff.mp hj
    cases hmemory.symm.trans hj'
    exact trivial
  · obtain rfl := Nat.lt_one_iff.mp hj
    cases hmemory.symm.trans hj'
    rw [saved_roundabout]
    exact Json.scan_pretty (by decide +kernel)

theorem result_roundabout (hscript : Json.parse script = .ok Engine.crossroadsScript)
    (hsaved : crossroadsSave.toText = saved) :
    ∃ s, (roundabout script saved answer).result 1 =
      closing s "second.json" (Session.choose { engine := Engine.asking } "later" answer)
        ((roundabout script saved answer).world 1) := by
  obtain ⟨s, -, hresult⟩ := Playthrough.result_succ
    (undisturbed_roundabout saved answer hscript hsaved)
    (leaves_roundabout saved answer hscript hsaved).1
    (memory_roundabout saved answer hscript _) (.mk (by decide))
  exact ⟨s, hresult⟩

theorem output_roundabout (hscript : Json.parse script = .ok Engine.crossroadsScript)
    (hsaved : crossroadsSave.toText = saved) :
    ((roundabout script saved answer).result 1).2.output =
      printed "second.json" (Boundary.reach Boundary.maxLines
        (Session.choose { engine := Engine.asking } "later" answer).1
        (Session.choose { engine := Engine.asking } "later" answer).2) := by
  obtain ⟨s, hresult⟩ := result_roundabout saved answer hscript hsaved
  have hwrite : ∀ text, (((roundabout script saved answer).world 1).write "second.json" text).1 =
      true := write_roundabout saved answer le_rfl
  rw [hresult, output_closing hwrite]
  exact String.empty_append

end

theorem parse_crossroadsScript :
    Json.parse Engine.crossroadsScript.pretty = .ok Engine.crossroadsScript := by
  rw [Json.parse, Json.scan_pretty (by decide +kernel)]
  rfl

/-- From the crossroads the game is told on, to its end, or not at all. -/
theorem shows_roundabout :
    let p := roundabout Engine.crossroadsScript.pretty crossroadsSave.toText
    let midnight : Nat → String := fun _ => "midnight"
    ((p 1).Undisturbed 1 ∧ (∀ j < 1, Asks ((p 1).memory midnight j)) ∧
      Shows ((p 1).world 1) "second.json" ((p 1).memory midnight 1) ((p 1).result 1) ∧
      ((p 1).result 1).2.output =
        "RESULT:OK\nEVENT:CHOICES\nPROMPT_JSON:\"Which way?\"\nCHOICE:0|\"left\"\n" ++
          "CHOICE:1|\"back\"\nSTATE_OUT:second.json\n") ∧
    (Shows ((p 0).world 1) "second.json" ((p 0).memory midnight 1) ((p 0).result 1) ∧
      ((p 0).result 1).2.output =
        "RESULT:OK\nEVENT:END\nTEXT_JSON:\"You go on.\"\nSTATE_OUT:NONE\n") ∧
    Shows ((p 5).world 1) "second.json" ((p 5).memory midnight 1) ((p 5).result 1) ∧
      ((p 5).result 1).2.output =
        "RESULT:ERROR\nERROR_CODE:ENGINE_CHOICE_INDEX\nERROR_MSG_JSON:" ++
          "\"ENGINE_CHOICE_INDEX: Choice index \\\"5\\\" is out of range (0..2).\"\n" := by
  intro p midnight
  have hundisturbed : ∀ answer, (p answer).Undisturbed 1 := fun answer =>
    undisturbed_roundabout _ answer parse_crossroadsScript rfl
  have hasks : ∀ answer, ∀ j < 1, Asks ((p answer).memory midnight j) := by
    intro answer j hj
    obtain rfl := Nat.lt_one_iff.mp hj
    exact asks_roundabout _ answer parse_crossroadsScript midnight
  have hshows := fun answer =>
    Playthrough.shows_memory (p answer) midnight (hundisturbed answer) (hasks answer)
  have houtput := fun answer => output_roundabout _ answer parse_crossroadsScript rfl
  exact ⟨⟨hundisturbed 1, hasks 1, hshows 1, (houtput 1).trans (by decide +kernel)⟩,
    ⟨hshows 0, (houtput 0).trans (by decide +kernel)⟩,
    hshows 5, (houtput 5).trans (by decide +kernel)⟩

end BranchingStory.Console
