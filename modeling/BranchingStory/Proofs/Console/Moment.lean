import BranchingStory.Console.LinePlay
import BranchingStory.Proofs.Console.Command

/-!
Moments of a game that is played line by line: the game, what comes next, and the world around. Each
turn leads to another moment, at a time of its own, and a game that is played to its end is a
sequence of turns. Moments that differ only in what was printed before go on in the same way and
print the same. So do moments with other files, as long as no saved game is loaded.
-/

namespace BranchingStory.Console

/-! ### Lines -/

inductive Line where
  | help
  | save
  | load
  | restart
  | quit
  | answer (raw : String)
  deriving DecidableEq

def Line.of (raw : String) : Line :=
  match Text.trim raw with
  | ":help" => .help
  | ":save" => .save
  | ":load" => .load
  | ":restart" => .restart
  | ":quit" => .quit
  | _ => .answer raw

/-- A line is one of the commands as soon as its text is, whatever blanks stand around it. -/
theorem Line.of_cases (raw : String) :
    (Text.trim raw = ":help" ∧ Line.of raw = .help) ∨
    (Text.trim raw = ":save" ∧ Line.of raw = .save) ∨
    (Text.trim raw = ":load" ∧ Line.of raw = .load) ∨
    (Text.trim raw = ":restart" ∧ Line.of raw = .restart) ∨
    (Text.trim raw = ":quit" ∧ Line.of raw = .quit) ∨
    (Text.trim raw ≠ ":help" ∧ Text.trim raw ≠ ":save" ∧ Text.trim raw ≠ ":load" ∧
      Text.trim raw ≠ ":restart" ∧ Text.trim raw ≠ ":quit" ∧ Line.of raw = .answer raw) := by
  unfold Line.of
  split <;> simp_all

namespace LinePlay

def obey (p : LinePlay) (w : World) : Line → (Next × LinePlay) × World
  | .help => ((.ask, p), w.print (commandsLine ++ "\n"))
  | .save =>
    match w.write p.stateFile (SavedGame.ofSession p.scenario p.session w.clock).toText with
    | (true, w) => ((.ask, p), w.print ("saved: " ++ p.stateFile ++ "\n"))
    | (false, w) => ((.fail (.console .stateUnwritable), p), w)
  | .load =>
    match SavedGame.ofFound p.stateFile (w.find (fun _ => false) p.stateFile) >>= p.takeUp with
    | .error failure => ((.fail failure, p), w)
    | .ok (step, p) => ((.display step, p), w.print ("loaded: " ++ p.stateFile ++ "\n"))
  | .restart =>
    match p.restart with
    | .error failure => ((.fail failure, p), w)
    | .ok (step, p) => ((.display step, p), w.print "restarted\n")
  | .quit => ((.finish, p), w.print "bye\n")
  | .answer raw => (p.answer w.clock raw, w)

theorem load_run (path : String) (w : World) :
    StateT.run (SavedGame.load path : StateM World (Except Failure SavedGame)) w =
      (SavedGame.ofFound path (w.find (fun _ => false) path), w) := rfl

theorem respond_run (p : LinePlay) (raw : String) (w : World) :
    StateT.run (p.respond raw : StateM World (Next × LinePlay)) w = p.obey w (Line.of raw) := by
  rw [respond]
  have hcases := Line.of_cases raw
  generalize Text.trim raw = typed at hcases ⊢
  obtain ⟨rfl, hline⟩ | ⟨rfl, hline⟩ | ⟨rfl, hline⟩ | ⟨rfl, hline⟩ | ⟨rfl, hline⟩ |
    ⟨hhelp, hsave, hload, hrestart, hquit, hline⟩ := hcases
  · rw [hline]
    rfl
  · rw [hline]
    cases hwrite : w.write p.stateFile
        (SavedGame.ofSession p.scenario p.session w.clock).toText with
    | mk written w' =>
        refine (run_bind (save_run p.scenario p.session hwrite)).trans ?_
        rw [obey, hwrite]
        cases written with
        | true => rfl
        | false => rfl
  · rw [hline]
    refine (run_bind (load_run p.stateFile w)).trans ?_
    rw [obey]
    cases SavedGame.ofFound p.stateFile (w.find (fun _ => false) p.stateFile) >>= p.takeUp with
    | error failure => rfl
    | ok result => rfl
  · rw [hline, obey]
    cases p.restart with
    | error failure => rfl
    | ok result => rfl
  · rw [hline]
    rfl
  · rw [hline]
    -- Whatever is none of the commands is an answer.
    split
    · exact absurd rfl hhelp
    · exact absurd rfl hsave
    · exact absurd rfl hload
    · exact absurd rfl hrestart
    · exact absurd rfl hquit
    · rfl

theorem obey_save {p : LinePlay} {w w' : World}
    (h : w.write p.stateFile (SavedGame.ofSession p.scenario p.session w.clock).toText =
      (true, w')) :
    p.obey w .save = ((.ask, p), w'.print ("saved: " ++ p.stateFile ++ "\n")) := by
  rw [obey, h]

/-- A line changes nothing in the world but what is printed and, where it saves, the files. -/
theorem obey_frame (p : LinePlay) (w : World) (line : Line) :
    ∃ store text, (p.obey w line).2 = { w with store, output := w.output ++ text } ∧
      (line ≠ .save → store = w.store) := by
  have hsame : ∀ text, ∃ store text', w.print text =
      { w with store, output := w.output ++ text' } ∧ (line ≠ .save → store = w.store) :=
    fun text => ⟨w.store, text, rfl, fun _ => rfl⟩
  have hstill : ∃ store text', w = { w with store, output := w.output ++ text' } ∧
      (line ≠ .save → store = w.store) := ⟨w.store, "", by simp, fun _ => rfl⟩
  cases line with
  | help => exact hsame _
  | save =>
      rw [obey, World.write]
      obtain ⟨written, store⟩ := w.store.write w.folder p.stateFile
        (SavedGame.ofSession p.scenario p.session w.clock).toText
      cases written with
      | true => exact ⟨store, "saved: " ++ p.stateFile ++ "\n", rfl, fun h => absurd rfl h⟩
      | false => exact ⟨store, "", by simp, fun h => absurd rfl h⟩
  | load =>
      rw [obey]
      split
      · exact hstill
      · exact hsame _
  | restart =>
      rw [obey]
      split
      · exact hstill
      · exact hsame _
  | quit => exact hsame _
  | answer raw => exact hstill

/-- A line does not see the lines after it. -/
theorem obey_input (p : LinePlay) (w : World) (line : Line) (input : List Input) :
    p.obey { w with input } line =
      ((p.obey w line).1, { (p.obey w line).2 with input }) := by
  cases line with
  | save =>
      simp only [obey, World.write]
      cases w.store.write w.folder p.stateFile
          (SavedGame.ofSession p.scenario p.session w.clock).toText with
      | mk written store => cases written <;> rfl
  | load =>
      simp only [obey, World.find]
      cases SavedGame.ofFound p.stateFile
          (w.store.find w.folder (fun _ => false) p.stateFile) >>= p.takeUp with
      | error failure => rfl
      | ok result => rfl
  | restart =>
      simp only [obey]
      cases p.restart with
      | error failure => rfl
      | ok result => rfl
  | answer raw => rw [obey, obey]
  | _ => rfl

/-- A saved game that is taken up comes to choices at once. -/
theorem takeUp_eq_ok {p p' : LinePlay} {g : SavedGame} {step : Step}
    (h : p.takeUp g = .ok (step, p')) :
    ∃ fresh session content speaker choices, p.scenario.session = .ok fresh ∧
      step = .choices content speaker choices ∧ (fresh.load g.game).proceed = (step, session) ∧
      p' = { p with session } := by
  unfold takeUp Scenario.resume at h
  split at h
  · cases hfresh : p.scenario.session with
    | error failure =>
        rw [hfresh] at h
        cases h
    | ok fresh =>
        rw [hfresh] at h
        simp only [resumeAtChoice] at h
        cases hproceed : (fresh.load g.game).proceed with
        | mk shown session =>
            rw [hproceed] at h
            cases shown with
            | choices content speaker choices =>
                cases h
                exact ⟨fresh, session, content, speaker, choices, rfl, rfl, hproceed, rfl⟩
            | _ => cases h
  · cases h

theorem restart_eq_ok {p p' : LinePlay} {step : Step} (h : p.restart = .ok (step, p')) :
    ∃ fresh, p.scenario.session = .ok fresh ∧ step = (fresh.start p.scenario.entryScene).1 ∧
      p' = { p with session := (fresh.start p.scenario.entryScene).2 } := by
  unfold restart at h
  split at h
  · cases h
  · rename_i fresh hfresh
    cases h
    exact ⟨fresh, hfresh, rfl, rfl⟩

/-- The scenario and the file of the game stay the same. -/
theorem obey_game (p : LinePlay) (w : World) (line : Line) :
    ∃ session, (p.obey w line).1.2 = { p with session } := by
  cases line with
  | save =>
      rw [obey]
      split <;> exact ⟨p.session, rfl⟩
  | load =>
      rw [obey]
      split
      · exact ⟨p.session, rfl⟩
      · rename_i step p' hfound
        obtain ⟨g, -, hgame⟩ := bind_eq_ok hfound
        obtain ⟨fresh, session, content, speaker, choices, -, -, -, hp'⟩ := takeUp_eq_ok hgame
        exact ⟨session, hp'⟩
  | restart =>
      rw [obey]
      split
      · exact ⟨p.session, rfl⟩
      · rename_i step p' hrestart
        obtain ⟨fresh, -, -, hp'⟩ := restart_eq_ok hrestart
        exact ⟨_, hp'⟩
  | answer raw =>
      simp only [obey, answer]
      split
      · exact ⟨p.session, rfl⟩
      · exact ⟨_, rfl⟩
  | _ => exact ⟨p.session, rfl⟩

end LinePlay

/-! ### Turns -/

structure Moment where
  game : LinePlay
  next : LinePlay.Next
  world : World

namespace Moment

def ofResult (result : (LinePlay.Next × LinePlay) × World) : Moment :=
  ⟨result.1.2, result.1.1, result.2⟩

def turn (m : Moment) (now : String) : Moment :=
  ofResult (StateT.run (m.game.turn m.next : StateM World (LinePlay.Next × LinePlay))
    { m.world with clock := now })

def after (m : Moment) (times : List String) : Moment := times.foldl turn m

/-- The world when the player has been asked at a time and what is left to read is `rest`. -/
def heard (m : Moment) (now : String) (rest : List Input) : World :=
  { m.world with clock := now, input := rest, output := m.world.output ++ LinePlay.promptMark }

theorem turn_display {m : Moment} {step : Step} (hnext : m.next = .display step) (now : String) :
    m.turn now = ⟨(m.game.afterStep step).2, (m.game.afterStep step).1,
      World.print { m.world with clock := now } (LinePlay.stepText step)⟩ := by
  rw [turn, hnext]
  rfl

theorem turn_finish {m : Moment} (hnext : m.next = .finish) (now : String) :
    m.turn now = { m with world := { m.world with clock := now } } := by
  rw [turn, hnext]
  obtain ⟨game, next, world⟩ := m
  cases hnext
  rfl

theorem turn_fail {m : Moment} {failure : Failure} (hnext : m.next = .fail failure)
    (now : String) : m.turn now = { m with world := { m.world with clock := now } } := by
  rw [turn, hnext]
  obtain ⟨game, next, world⟩ := m
  cases hnext
  rfl

theorem turn_line {m : Moment} (hnext : m.next = .ask) {raw : String} {rest : List Input}
    (hinput : m.world.input = .line raw :: rest) (now : String) :
    m.turn now = ofResult (m.game.obey (m.heard now rest) (Line.of raw)) := by
  have hprint : StateT.run (Access.print LinePlay.promptMark : StateM World Unit)
      { m.world with clock := now } = ((), m.heard now m.world.input) := rfl
  have hread : StateT.run (Access.readLine : StateM World Input) (m.heard now m.world.input) =
      (.line raw, m.heard now rest) := by
    change World.readLine _ = _
    rw [World.readLine, heard, hinput]
    rfl
  rw [turn, hnext, LinePlay.turn]
  refine congrArg ofResult ((run_bind hprint).trans ((run_bind hread).trans ?_))
  exact m.game.respond_run raw _

/-- The input has come to its end or cannot be read. -/
theorem turn_no_line {m : Moment} (hnext : m.next = .ask)
    (hinput : ∀ raw rest, m.world.input ≠ .line raw :: rest) (now : String) :
    m.turn now = ⟨m.game,
      if m.world.input.head? = some .unreadable then .fail (.console .inputUnreadable) else .finish,
      m.heard now m.world.input.tail⟩ := by
  rw [turn, hnext]
  obtain ⟨game, next, world⟩ := m
  obtain ⟨store, folder, clock, input, output⟩ := world
  cases input with
  | nil => rfl
  | cons first rest =>
      cases first with
      | closed => rfl
      | line raw => exact absurd rfl (hinput raw rest)
      | unreadable => rfl

def Saves (m : Moment) : Prop :=
  m.next = .ask ∧ ∃ raw rest, m.world.input = .line raw :: rest ∧ Line.of raw = .save

/-- A turn reads and prints; files change only where the game is saved, and the scenario and the
file of the game never do. -/
theorem turn_frame (m : Moment) (now : String) :
    (∃ store input text, (m.turn now).world =
      { m.world with store, input, clock := now, output := m.world.output ++ text } ∧
        (¬ m.Saves → store = m.world.store)) ∧
      ∃ session, (m.turn now).game = { m.game with session } := by
  cases hnext : m.next with
  | display step =>
      rw [turn_display hnext]
      refine ⟨⟨m.world.store, m.world.input, _, rfl, fun _ => rfl⟩, ?_⟩
      cases step with
      | dialogue content speaker canContinue => exact ⟨_, rfl⟩
      | _ => exact ⟨m.game.session, rfl⟩
  | ask =>
      by_cases hline : ∃ raw rest, m.world.input = .line raw :: rest
      · obtain ⟨raw, rest, hinput⟩ := hline
        rw [turn_line hnext hinput]
        obtain ⟨store, text, hworld, hstore⟩ := m.game.obey_frame (m.heard now rest) (Line.of raw)
        refine ⟨⟨store, rest, LinePlay.promptMark ++ text, ?_, fun hnot => hstore fun hsave => ?_⟩,
          m.game.obey_game _ _⟩
        · rw [ofResult, hworld, ← String.append_assoc]
          rfl
        · exact hnot ⟨hnext, raw, rest, hinput, hsave⟩
      · push Not at hline
        rw [turn_no_line hnext hline]
        exact ⟨⟨m.world.store, m.world.input.tail, _, rfl, fun _ => rfl⟩, m.game.session, rfl⟩
  | finish =>
      rw [turn_finish hnext]
      exact ⟨⟨m.world.store, m.world.input, "", by simp, fun _ => rfl⟩, m.game.session, rfl⟩
  | fail failure =>
      rw [turn_fail hnext]
      exact ⟨⟨m.world.store, m.world.input, "", by simp, fun _ => rfl⟩, m.game.session, rfl⟩

/-! ### Runs -/

def outcome (m : Moment) : Option (Except Failure Unit) :=
  match m.next with
  | .finish => some (.ok ())
  | .fail failure => some (.error failure)
  | _ => none

@[simp] theorem after_nil (m : Moment) : m.after [] = m := rfl

@[simp] theorem after_cons (m : Moment) (now : String) (times : List String) :
    m.after (now :: times) = (m.turn now).after times := rfl

theorem after_append (m : Moment) (times more : List String) :
    m.after (times ++ more) = (m.after times).after more := List.foldl_append

/-- Where the game is over, nothing happens any more. -/
theorem after_replicate_of_turn_eq {m : Moment} {now : String} (h : m.turn now = m) (n : Nat) :
    m.after (List.replicate n now) = m := by
  induction n with
  | zero => rfl
  | succ n ih => rw [List.replicate_succ, after_cons, h, ih]

/-- Playing on is taking turns, in the time of the world. -/
theorem run_eq_after (n : Nat) (m : Moment) :
    StateT.run (LinePlay.run n m.game m.next : StateM World (Option (Except Failure Unit)))
        m.world =
      ((m.after (List.replicate n m.world.clock)).outcome,
        (m.after (List.replicate n m.world.clock)).world) := by
  induction n generalizing m with
  | zero =>
      obtain ⟨game, next, world⟩ := m
      cases next <;> rfl
  | succ n ih =>
      have hstep : m.world.clock = (m.turn m.world.clock).world.clock := by
        obtain ⟨⟨store, input, text, hworld, -⟩, -⟩ := m.turn_frame m.world.clock
        rw [hworld]
      have hrest := ih (m.turn m.world.clock)
      rw [← hstep] at hrest
      -- A run stops where the game is over, and turns from there on change nothing.
      obtain ⟨game, next, world⟩ := m
      cases next with
      | display step => exact hrest
      | ask => exact hrest
      | finish =>
          rw [after_replicate_of_turn_eq (turn_finish rfl world.clock)]
          rfl
      | fail failure =>
          rw [after_replicate_of_turn_eq (turn_fail rfl world.clock)]
          rfl

end Moment

/-! ### Moments that differ in what was printed -/

/-- The same text was printed, in one world after `a` and in the other after `b`. -/
def Trails (a b output output' : String) : Prop :=
  ∃ text, output = a ++ text ∧ output' = b ++ text

theorem trails_of_eq {a output : String} (h : output = a) (b : String) : Trails a b output b :=
  ⟨"", h.trans String.append_empty.symm, String.append_empty.symm⟩

theorem Trails.append {a b output output' : String} (h : Trails a b output output')
    (more : String) : Trails a b (output ++ more) (output' ++ more) := by
  obtain ⟨text, rfl, rfl⟩ := h
  exact ⟨text ++ more, String.append_assoc, String.append_assoc⟩

def World.Writable (w : World) (file : String) : Prop := ∀ text, (w.write file text).1 = true

theorem World.Writable.exists_write {w : World} {file : String} (h : w.Writable file)
    (text : String) : ∃ store, w.store.write w.folder file text = (true, store) ∧
      w.write file text = (true, { w with store }) ∧ World.Writable { w with store } file := by
  have hwritten := h text
  rw [World.write] at hwritten
  cases hstore : w.store.write w.folder file text with
  | mk written store =>
      rw [hstore] at hwritten
      obtain rfl : written = true := hwritten
      exact ⟨store, rfl, by rw [World.write, hstore], FileStore.write_again hstore⟩

def NoLoad (input : List Input) : Prop := ∀ raw, .line raw ∈ input → Line.of raw ≠ .load

theorem NoLoad.tail {input : List Input} (h : NoLoad input) : NoLoad input.tail :=
  fun raw hraw => h raw (List.mem_of_mem_tail hraw)

/-- The worlds differ in what was printed before, and in their files at most where no game is
loaded from them. -/
structure World.Echoes (file a b : String) (w w' : World) : Prop where
  folder : w'.folder = w.folder
  input : w'.input = w.input
  files : w'.store = w.store ∨ NoLoad w.input ∧ w.Writable file ∧ w'.Writable file
  output : Trails a b w.output w'.output

namespace World.Echoes

variable {file a b : String} {w w' : World}

theorem print (h : w.Echoes file a b w') (text : String) :
    (w.print text).Echoes file a b (w'.print text) :=
  ⟨h.folder, h.input, h.files, h.output.append text⟩

/-- Saving the same game leaves the worlds as they are to each other. -/
theorem write (h : w.Echoes file a b w') (text : String) :
    (w'.write file text).1 = (w.write file text).1 ∧
      (w.write file text).2.Echoes file a b (w'.write file text).2 := by
  obtain hstore | ⟨hload, hwrite, hwrite'⟩ := h.files
  · have hresult : w'.store.write w'.folder file text = w.store.write w.folder file text := by
      rw [hstore, h.folder]
    rw [World.write, World.write, hresult]
    exact ⟨rfl, h.folder, h.input, .inl rfl, h.output⟩
  · obtain ⟨store, -, hresult, hagain⟩ := hwrite.exists_write text
    obtain ⟨store', -, hresult', hagain'⟩ := hwrite'.exists_write text
    rw [hresult, hresult']
    exact ⟨rfl, h.folder, h.input, .inr ⟨hload, hagain, hagain'⟩, h.output⟩

end World.Echoes

structure Moment.Mirrors (file a b : String) (m m' : Moment) : Prop where
  stateFile : m.game.stateFile = file
  game : m'.game = m.game
  next : m'.next = m.next
  world : m.world.Echoes file a b m'.world

namespace Moment.Mirrors

variable {file a b : String} {m m' : Moment}

/-- The same line has the same effect. -/
theorem obey {p : LinePlay} (hfile : p.stateFile = file) {w w' : World}
    (h : w.Echoes file a b w') (hclock : w'.clock = w.clock) {line : Line}
    (hload : line = .load → w'.store = w.store) :
    Mirrors file a b (ofResult (p.obey w line)) (ofResult (p.obey w' line)) := by
  have hstateFile : (ofResult (p.obey w line)).game.stateFile = file := by
    obtain ⟨session, hgame⟩ := p.obey_game w line
    rw [ofResult, hgame]
    exact hfile
  cases line with
  | help => exact ⟨hstateFile, rfl, rfl, h.print _⟩
  | save =>
      obtain ⟨hwritten, hechoes⟩ :=
        h.write (SavedGame.ofSession p.scenario p.session w.clock).toText
      simp only [LinePlay.obey, hclock, hfile] at hstateFile ⊢
      cases hresult : w.write file (SavedGame.ofSession p.scenario p.session w.clock).toText with
      | mk written v =>
          cases hresult' : w'.write file
              (SavedGame.ofSession p.scenario p.session w.clock).toText with
          | mk written' v' =>
              -- The files may differ, but both are written or none is.
              rw [hresult, hresult'] at hwritten hechoes
              obtain rfl : written' = written := hwritten
              cases written' with
              | true => exact ⟨hfile, rfl, rfl, hechoes.print _⟩
              | false => exact ⟨hfile, rfl, rfl, hechoes⟩
  | load =>
      have hfind : w'.find (fun _ => false) p.stateFile = w.find (fun _ => false) p.stateFile := by
        rw [World.find, World.find, hload rfl, h.folder]
      simp only [LinePlay.obey, hfind] at hstateFile ⊢
      cases hfound : SavedGame.ofFound p.stateFile (w.find (fun _ => false) p.stateFile) >>=
          p.takeUp with
      | error failure => exact ⟨hfile, rfl, rfl, h⟩
      | ok result =>
          rw [hfound] at hstateFile
          exact ⟨hstateFile, rfl, rfl, h.print _⟩
  | restart =>
      simp only [LinePlay.obey] at hstateFile ⊢
      cases hrestart : p.restart with
      | error failure => exact ⟨hfile, rfl, rfl, h⟩
      | ok result =>
          rw [hrestart] at hstateFile
          exact ⟨hstateFile, rfl, rfl, h.print _⟩
  | quit => exact ⟨hstateFile, rfl, rfl, h.print _⟩
  | answer raw =>
      simp only [LinePlay.obey, hclock] at hstateFile ⊢
      exact ⟨hstateFile, rfl, rfl, h⟩

theorem turn (h : m.Mirrors file a b m') (now : String) :
    (m.turn now).Mirrors file a b (m'.turn now) := by
  have hstateFile : (m.turn now).game.stateFile = file := by
    obtain ⟨-, session, hgame⟩ := m.turn_frame now
    rw [hgame]
    exact h.stateFile
  obtain ⟨hfolder, hinput, hfiles, houtput⟩ := h.world
  cases hnext : m.next with
  | display step =>
      rw [turn_display hnext] at hstateFile ⊢
      rw [turn_display (h.next.trans hnext), h.game]
      exact ⟨hstateFile, rfl, rfl, hfolder, hinput, hfiles, houtput.append _⟩
  | ask =>
      by_cases hline : ∃ raw rest, m.world.input = .line raw :: rest
      · obtain ⟨raw, rest, hline⟩ := hline
        rw [turn_line hnext hline, turn_line (h.next.trans hnext) (hinput.trans hline), h.game]
        have hechoes : (m.heard now rest).Echoes file a b (m'.heard now rest) := by
          refine ⟨hfolder, rfl, ?_, houtput.append _⟩
          rw [hline] at hfiles
          exact hfiles.imp_right fun hother => ⟨hother.1.tail, hother.2⟩
        refine obey h.stateFile hechoes rfl fun hload => hfiles.resolve_right fun hother => ?_
        exact hother.1 raw (hline ▸ List.mem_cons_self) hload
      · push Not at hline
        rw [turn_no_line hnext hline] at hstateFile ⊢
        rw [turn_no_line (h.next.trans hnext) (hinput ▸ hline), h.game, hinput]
        refine ⟨hstateFile, rfl, rfl, hfolder, rfl, ?_, houtput.append _⟩
        exact hfiles.imp_right fun hother => ⟨hother.1.tail, hother.2⟩
  | finish =>
      rw [turn_finish hnext] at hstateFile ⊢
      rw [turn_finish (h.next.trans hnext)]
      exact ⟨hstateFile, h.game, h.next, hfolder, hinput, hfiles, houtput⟩
  | fail failure =>
      rw [turn_fail hnext] at hstateFile ⊢
      rw [turn_fail (h.next.trans hnext)]
      exact ⟨hstateFile, h.game, h.next, hfolder, hinput, hfiles, houtput⟩

theorem after (h : m.Mirrors file a b m') (times : List String) :
    (m.after times).Mirrors file a b (m'.after times) := by
  induction times generalizing m m' with
  | nil => exact h
  | cons now times ih => exact ih (h.turn now)

end Moment.Mirrors

end BranchingStory.Console
