import BranchingStory.Proofs.Console.Boundary
import BranchingStory.Proofs.Console.Moment
import BranchingStory.Proofs.Save.Restored

/-!
Prompts of a game that is played line by line. Every prompt stands at choices of a game that can be
saved, also where the game was loaded from a file of another origin. So after a save the file has
the game of that prompt, until the next save, and loading it leads back to the same choices.
-/

namespace BranchingStory

/-! ### Sessions -/

namespace Session

/-- A game that is taken up from any save and comes to choices can be saved there. -/
theorem Tells.load {scenes : List Scene} {fresh : Session} (h : fresh.Tells scenes)
    (hquiet : Script.Quiet scenes) {d : Save} (hcanonical : d.toState.Canonical) {content : String}
    {speaker : Option String} {choices : List PresentedChoice}
    (hchoices : (fresh.load d).proceed.1 = .choices content speaker choices) :
    (fresh.load d).proceed.2.Tells scenes := by
  have hsetting : Engine.Quiet fresh.engine.setting := by
    rw [h.setting]
    exact Engine.quiet_new hquiet [] []
  have hrestored : (fresh.engine.restore d).setting = fresh.engine.setting :=
    Engine.setting_place _ _
  refine ⟨h.lastFault, ?_, ?_⟩
  · exact (Engine.setting_move _ .proceed).trans (hrestored.trans h.setting)
  · exact h.resumable.coherent.resumable_restore hsetting hcanonical hchoices

end Session

namespace Console

/-- What is found as a saved game was read strictly. -/
theorem SavedGame.canonical_of_ofFound {path : String} {found : Found} {g : SavedGame}
    (h : ofFound path found = .ok g) : g.game.toState.Canonical := by
  unfold ofFound at h
  split at h
  · cases h
  · cases h
  · cases h
  · unfold ofText at h
    split at h
    · cases h
    · rename_i tree htree
      split at h
      · cases h
      · rename_i found hfound
        split at h
        · cases h
          simp only [decode?, Json.Record.required, Option.bind_eq_bind, Option.bind_eq_some_iff,
            Option.pure_def, Option.some.injEq] at hfound
          obtain ⟨r, -, _, -, _, -, _, -, d, ⟨part, -, hd⟩, rfl⟩ := hfound
          exact Save.canonical_toState hd
        · cases h

namespace LinePlay

/-! ### What every moment has -/

/-- The session can be saved, a step that is to be shown is where the session stands, and at a
question the session waits. -/
structure Stands (scenes : List Scene) (p : LinePlay) (next : Next) : Prop where
  tells : p.session.Tells scenes
  shown : ∀ step, next = .display step → Engine.Shown step p.session.engine
  waits : next = .ask → p.session.Waits

section

variable {scenes : List Scene} {p : LinePlay}

theorem stands_fail (h : p.session.Tells scenes) (failure : Failure) :
    Stands scenes p (.fail failure) :=
  ⟨h, nofun, nofun⟩

theorem stands_finish (h : p.session.Tells scenes) : Stands scenes p .finish :=
  ⟨h, nofun, nofun⟩

theorem stands_move (hquiet : Script.Quiet scenes) {s : Session} (h : s.Tells scenes)
    (m : Engine.Move) :
    Stands scenes { p with session := (s.move m).2 } (.display (s.move m).1) := by
  refine ⟨h.move hquiet m, fun step hstep => ?_, nofun⟩
  cases hstep
  exact Engine.shown_move s.engine m

theorem Stands.afterStep {step : Step} (h : Stands scenes p (.display step))
    (hquiet : Script.Quiet scenes) :
    Stands scenes (p.afterStep step).2 (p.afterStep step).1 := by
  cases step with
  | dialogue content speaker canContinue => exact stands_move hquiet h.tells .proceed
  | choices content speaker choices =>
      have hproceed := Session.proceed_of_shown (h.shown _ rfl)
      exact ⟨h.tells, nofun, fun _ => ⟨content, speaker, choices, hproceed⟩⟩
  | sceneComplete => exact stands_finish h.tells
  | fault cause => exact stands_fail h.tells _

theorem Stands.obey (h : Stands scenes p .ask) (hquiet : Script.Quiet scenes) {fresh : Session}
    (hsession : p.scenario.session = .ok fresh) (hfresh : fresh.Tells scenes) (w : World)
    (line : Line) : Stands scenes (p.obey w line).1.2 (p.obey w line).1.1 := by
  cases line with
  | help => exact h
  | save =>
      rw [LinePlay.obey]
      split
      · exact h
      · exact stands_fail h.tells _
  | load =>
      rw [LinePlay.obey]
      split
      · exact stands_fail h.tells _
      · rename_i step p' hfound
        obtain ⟨g, hg, htaken⟩ := bind_eq_ok hfound
        obtain ⟨fresh', session, content, speaker, choices, hfresh', rfl, hproceed, rfl⟩ :=
          takeUp_eq_ok htaken
        obtain rfl := Except.ok.inj (hsession.symm.trans hfresh')
        have htells := hfresh.load hquiet (SavedGame.canonical_of_ofFound hg)
          (congrArg Prod.fst hproceed)
        have hshown := Engine.shown_move (fresh.load g.game).engine .proceed
        rw [hproceed] at htells
        have hmove : (fresh.load g.game).engine.move .proceed =
            (.choices content speaker choices, session.engine) :=
          congrArg (fun result : Step × Session => (result.1, result.2.engine)) hproceed
        rw [hmove] at hshown
        refine ⟨htells, fun step hstep => ?_, fun hask => ?_⟩
        · cases hstep
          exact hshown
        · cases hask
  | restart =>
      rw [LinePlay.obey]
      split
      · exact stands_fail h.tells _
      · rename_i step p' hrestart
        obtain ⟨fresh', hfresh', rfl, rfl⟩ := restart_eq_ok hrestart
        obtain rfl := Except.ok.inj (hsession.symm.trans hfresh')
        exact stands_move hquiet hfresh (.start p.scenario.entryScene)
  | quit => exact stands_finish h.tells
  | answer raw =>
      rw [LinePlay.obey, answer]
      split
      · exact stands_fail h.tells _
      · exact stands_move hquiet h.tells (.choose w.clock _)

/-- A game that was saved at choices is taken up as it was, and shows the choices. -/
theorem takeUp_ofSession {fresh s : Session} (hsession : p.scenario.session = .ok fresh)
    (hfresh : fresh.Tells scenes) (hs : s.Tells scenes) {content : String} {speaker : Option String}
    {choices : List PresentedChoice} (hproceed : s.proceed = (.choices content speaker choices, s))
    (now : String) :
    p.takeUp (SavedGame.ofSession p.scenario s now) =
      .ok (.choices content speaker choices, { p with session := s }) := by
  have hload : (fresh.load (SavedGame.ofSession p.scenario s now).game).proceed =
      (.choices content speaker choices, s) := (hs.proceed_load hfresh now).trans hproceed
  have hid : (SavedGame.ofSession p.scenario s now).scenarioId = p.scenario.id := rfl
  rw [takeUp, if_pos hid, Scenario.resume, hsession]
  simp only [resumeAtChoice, hload]

end

end LinePlay

namespace Moment

variable {scenes : List Scene} {m m' : Moment}

structure Sound (scenes : List Scene) (m : Moment) : Prop where
  read : Script.readSources m.game.scenario.sources = .ok scenes
  stands : m.game.Stands scenes m.next
  writable : m.world.Writable m.game.stateFile

theorem Sound.quiet (h : m.Sound scenes) : Script.Quiet scenes :=
  Script.Read.quiet (.inr ⟨m.game.scenario.sources, h.read⟩)

theorem Sound.session_eq (h : m.Sound scenes) :
    m.game.scenario.session = .ok { engine := Engine.setScenes {} scenes } := by
  rw [Scenario.session, h.read]

/-- A turn that saves writes the file and prints so, if the file can be written. -/
theorem turn_save (hwritable : m.world.Writable m.game.stateFile) {raw : String}
    {rest : List Input} (hnext : m.next = .ask) (hinput : m.world.input = .line raw :: rest)
    (hsave : Line.of raw = .save) (now : String) :
    ∃ store, m.world.store.write m.world.folder m.game.stateFile
        (SavedGame.ofSession m.game.scenario m.game.session now).toText = (true, store) ∧
      m.turn now = ⟨m.game, .ask, World.print { m.heard now rest with store }
        ("saved: " ++ m.game.stateFile ++ "\n")⟩ ∧
      (m.turn now).world.Writable m.game.stateFile := by
  have hheard : (m.heard now rest).Writable m.game.stateFile := hwritable
  obtain ⟨store, hstore, hwrite, hagain⟩ := hheard.exists_write
    (SavedGame.ofSession m.game.scenario m.game.session now).toText
  have hturn : m.turn now = ⟨m.game, .ask, World.print { m.heard now rest with store }
      ("saved: " ++ m.game.stateFile ++ "\n")⟩ := by
    rw [turn_line hnext hinput, hsave, LinePlay.obey_save hwrite]
    rfl
  refine ⟨store, hstore, hturn, ?_⟩
  rw [hturn]
  exact hagain

/-- A turn that restarts shows the beginning of the game and prints so. -/
theorem turn_restart {fresh : Session} (h : m.game.scenario.session = .ok fresh) {raw : String}
    {rest : List Input} (hnext : m.next = .ask) (hinput : m.world.input = .line raw :: rest)
    (hrestart : Line.of raw = .restart) (now : String) :
    m.turn now = ⟨{ m.game with session := (fresh.start m.game.scenario.entryScene).2 },
      .display (fresh.start m.game.scenario.entryScene).1,
      (m.heard now rest).print "restarted\n"⟩ := by
  rw [turn_line hnext hinput, hrestart, LinePlay.obey, LinePlay.restart, h]
  rfl

theorem Sound.turn (h : m.Sound scenes) (now : String) : (m.turn now).Sound scenes := by
  obtain ⟨⟨store, input, text, hworld, hstore⟩, session, hgame⟩ := m.turn_frame now
  refine ⟨by rw [hgame]; exact h.read, ?_, ?_⟩
  · have hstands := h.stands
    cases hnext : m.next with
    | display step =>
        rw [hnext] at hstands
        rw [turn_display hnext]
        exact hstands.afterStep h.quiet
    | ask =>
        rw [hnext] at hstands
        by_cases hline : ∃ raw rest, m.world.input = .line raw :: rest
        · obtain ⟨raw, rest, hinput⟩ := hline
          rw [turn_line hnext hinput, ofResult]
          exact hstands.obey h.quiet h.session_eq (Session.tells_new scenes) (m.heard now rest)
            (Line.of raw)
        · push Not at hline
          rw [turn_no_line hnext hline]
          dsimp only
          split
          · exact LinePlay.stands_fail hstands.tells _
          · exact LinePlay.stands_finish hstands.tells
    | finish =>
        rw [turn_finish hnext]
        exact h.stands
    | fail failure =>
        rw [turn_fail hnext]
        exact h.stands
  · rw [hgame]
    by_cases hsaves : m.Saves
    · obtain ⟨hnext, raw, rest, hinput, hsave⟩ := hsaves
      obtain ⟨-, -, -, hwritable⟩ := turn_save h.writable hnext hinput hsave now
      exact hwritable
    · rw [hworld, hstore hsaves]
      exact h.writable

theorem Sound.after (h : m.Sound scenes) (times : List String) : (m.after times).Sound scenes := by
  induction times generalizing m with
  | nil => exact h
  | cons now times ih => exact ih (h.turn now)

/-! ### What is saved -/

def Legible (m : Moment) : Prop :=
  m.Saves → ∀ now, Value.FiniteEntries (m.game.session.save now).vars ∧
    Json.scan (SavedGame.ofSession m.game.scenario m.game.session now).toText =
      .ok (SavedGame.ofSession m.game.scenario m.game.session now).encode

def found (m : Moment) : Except Failure SavedGame :=
  SavedGame.ofFound m.game.stateFile (m.world.find (fun _ => false) m.game.stateFile)

theorem turn_load_failed {failure : Failure} (h : m.found >>= m.game.takeUp = .error failure)
    {raw : String} {rest : List Input} (hnext : m.next = .ask)
    (hinput : m.world.input = .line raw :: rest) (hload : Line.of raw = .load) (now : String) :
    m.turn now = ⟨m.game, .fail failure, m.heard now rest⟩ := by
  have hfound : SavedGame.ofFound m.game.stateFile
      ((m.heard now rest).find (fun _ => false) m.game.stateFile) >>= m.game.takeUp =
        .error failure := h
  rw [turn_line hnext hinput, hload, LinePlay.obey, hfound]
  rfl

theorem turn_load {step : Step} {p : LinePlay} (h : m.found >>= m.game.takeUp = .ok (step, p))
    {raw : String} {rest : List Input} (hnext : m.next = .ask)
    (hinput : m.world.input = .line raw :: rest) (hload : Line.of raw = .load) (now : String) :
    m.turn now =
      ⟨p, .display step, (m.heard now rest).print ("loaded: " ++ p.stateFile ++ "\n")⟩ := by
  have hfound : SavedGame.ofFound m.game.stateFile
      ((m.heard now rest).find (fun _ => false) m.game.stateFile) >>= m.game.takeUp =
        .ok (step, p) := h
  rw [turn_line hnext hinput, hload, LinePlay.obey, hfound]
  rfl

structure Holds (scenes : List Scene) (m : Moment) (s : Session) (now : String) : Prop where
  tells : s.Tells scenes
  waits : s.Waits
  found : m.found = .ok (SavedGame.ofSession m.game.scenario s now)

theorem found_congr (hfile : m'.game.stateFile = m.game.stateFile)
    (hstore : m'.world.store = m.world.store) (hfolder : m'.world.folder = m.world.folder) :
    m'.found = m.found := by
  unfold found World.find
  rw [hfile, hstore, hfolder]

/-- After a turn that does not save, the same game is found. -/
theorem found_turn (h : ¬ m.Saves) (now : String) : (m.turn now).found = m.found := by
  obtain ⟨⟨store, input, text, hworld, hstore⟩, session, hgame⟩ := m.turn_frame now
  refine found_congr ?_ ?_ ?_
  · rw [hgame]
  · rw [hworld]
    exact hstore h
  · rw [hworld]

/-- After a turn that saves, the file has the game of that moment. -/
theorem Sound.holds_turn (h : m.Sound scenes) (hsaves : m.Saves) (hlegible : m.Legible)
    (now : String) : (m.turn now).Holds scenes m.game.session now := by
  obtain ⟨hfinite, hscan⟩ := hlegible hsaves now
  obtain ⟨hnext, raw, rest, hinput, hsave⟩ := hsaves
  obtain ⟨store, hstore, hturn, -⟩ := turn_save h.writable hnext hinput hsave now
  refine ⟨h.stands.tells, h.stands.waits hnext, ?_⟩
  obtain ⟨hfind, -⟩ := FileStore.write_eq_true hstore (fun _ => false)
  have htext := SavedGame.ofText_toText
    (show (SavedGame.ofSession m.game.scenario m.game.session now).schema = _ from rfl)
    h.stands.tells.resumable.canonical.tidy hfinite hscan
  rw [hturn]
  unfold Moment.found World.find
  change SavedGame.ofFound m.game.stateFile (store.find m.world.folder _ m.game.stateFile) = _
  rw [hfind]
  exact htext

/-- The file holds the game until the next save. -/
theorem Holds.turn {s : Session} {saved : String} (h : m.Holds scenes s saved) (hnot : ¬ m.Saves)
    (now : String) : (m.turn now).Holds scenes s saved := by
  obtain ⟨-, session, hgame⟩ := m.turn_frame now
  refine ⟨h.tells, h.waits, ?_⟩
  rw [found_turn hnot, h.found, hgame]

/-- A game that is held is loaded as it was. -/
theorem Holds.load {s : Session} {now : String} (h : m.Holds scenes s now)
    (hsound : m.Sound scenes) {content : String} {speaker : Option String}
    {choices : List PresentedChoice}
    (hproceed : s.proceed = (.choices content speaker choices, s)) :
    m.found >>= m.game.takeUp =
      .ok (.choices content speaker choices, { m.game with session := s }) := by
  rw [h.found]
  exact LinePlay.takeUp_ofSession hsound.session_eq (Session.tells_new scenes) h.tells hproceed now

end Moment

end Console

end BranchingStory
