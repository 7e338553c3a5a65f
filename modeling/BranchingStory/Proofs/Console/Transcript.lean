import BranchingStory.Proofs.Console.Playthrough
import BranchingStory.Proofs.Console.Prompt

/-!
The transcript of a game that is played line by line. Times are never seen in it: however long the
player takes, the same lines lead to the same transcript. Help and a save that is not loaded only
add what they print themselves; a load goes on as play would have gone on after the save; and after
a restart the game is a new one.
-/

namespace BranchingStory.Console

namespace LinePlay

/-- A saved game is taken up in the same way whatever was played before. -/
theorem takeUp_congr {p p' : LinePlay} (h : p'.scenario = p.scenario) (g : SavedGame) :
    p'.takeUp g =
      (p.takeUp g).map fun result => (result.1, { p' with session := result.2.session }) := by
  unfold takeUp
  rw [h]
  split
  · cases p.scenario.resume g with
    | error failure => rfl
    | ok session =>
        dsimp only
        cases resumeAtChoice session with
        | error failure => rfl
        | ok result => rfl
  · rfl

end LinePlay

namespace Moment

variable {scenes : List Scene} {m m' : Moment}

/-! ### Other times -/

/-- The moments differ only in times: those of choices, and those of the game in the file. -/
structure Paces (scenes : List Scene) (m m' : Moment) : Prop where
  scenario : m'.game.scenario = m.game.scenario
  stateFile : m'.game.stateFile = m.game.stateFile
  session : m.game.session.Alike m'.game.session
  next : m'.next = m.next
  input : m'.world.input = m.world.input
  output : m'.world.output = m.world.output
  found : m'.found = m.found ∨ ∃ s s' saved saved',
    m.Holds scenes s saved ∧ m'.Holds scenes s' saved' ∧ s.Alike s'

namespace Paces

theorem saves_iff (h : m.Paces scenes m') : m'.Saves ↔ m.Saves := by
  unfold Saves
  rw [h.next, h.input]

/-- What is found after a turn again differs only in times. -/
theorem found_turn (h : m.Paces scenes m') (hsound : m.Sound scenes) (hsound' : m'.Sound scenes)
    (hlegible : m.Legible) (hlegible' : m'.Legible) (now now' : String) :
    (m'.turn now').found = (m.turn now).found ∨ ∃ s s' saved saved',
      (m.turn now).Holds scenes s saved ∧ (m'.turn now').Holds scenes s' saved' ∧ s.Alike s' := by
  by_cases hsaves : m.Saves
  · exact .inr ⟨_, _, now, now', hsound.holds_turn hsaves hlegible now,
      hsound'.holds_turn (h.saves_iff.mpr hsaves) hlegible' now', h.session⟩
  · have hsaves' : ¬ m'.Saves := mt h.saves_iff.mp hsaves
    obtain hsame | ⟨s, s', saved, saved', hholds, hholds', halike⟩ := h.found
    · left
      rw [Moment.found_turn hsaves', Moment.found_turn hsaves, hsame]
    · exact .inr ⟨s, s', saved, saved', hholds.turn hsaves now, hholds'.turn hsaves' now', halike⟩

theorem load (h : m.Paces scenes m') (hsound : m.Sound scenes) (hsound' : m'.Sound scenes) :
    (∃ failure, m.found >>= m.game.takeUp = .error failure ∧
      m'.found >>= m'.game.takeUp = .error failure) ∨
    ∃ step s s', m.found >>= m.game.takeUp = .ok (step, { m.game with session := s }) ∧
      m'.found >>= m'.game.takeUp = .ok (step, { m'.game with session := s' }) ∧
      (s' = s ∨ s.Alike s') := by
  obtain hsame | ⟨s, s', saved, saved', hholds, hholds', halike⟩ := h.found
  · rw [hsame]
    cases hfound : m.found with
    | error failure => exact .inl ⟨failure, rfl, rfl⟩
    | ok g =>
        have htaken' := LinePlay.takeUp_congr h.scenario g
        cases htaken : m.game.takeUp g with
        | error failure =>
            rw [htaken] at htaken'
            exact .inl ⟨failure, htaken, htaken'⟩
        | ok result =>
            obtain ⟨step, p⟩ := result
            obtain ⟨-, s, -, -, -, -, -, -, rfl⟩ := LinePlay.takeUp_eq_ok htaken
            rw [htaken] at htaken'
            exact .inr ⟨step, s, s, htaken, htaken', .inl rfl⟩
  · -- Both games were saved at choices, and those are the same.
    obtain ⟨content, speaker, choices, hproceed⟩ := hholds.waits
    obtain ⟨content', speaker', choices', hproceed'⟩ := hholds'.waits
    have hstep : (.choices content' speaker' choices' : Step) =
        .choices content speaker choices := by
      have hmove : s'.proceed.1 = s.proceed.1 :=
        (halike.move (show Engine.Move.untimed .proceed = .untimed .proceed from rfl)).1
      rwa [hproceed, hproceed'] at hmove
    exact .inr ⟨.choices content speaker choices, s, s', hholds.load hsound hproceed,
      hstep ▸ hholds'.load hsound' hproceed', .inr halike⟩

/-- The same line at other times has the same effect. -/
theorem turn_line (h : m.Paces scenes m') (hsound : m.Sound scenes) (hsound' : m'.Sound scenes)
    {raw : String} {rest : List Input} (hnext : m.next = .ask)
    (hinput : m.world.input = .line raw :: rest) (now now' : String) :
    (m'.turn now').next = (m.turn now).next ∧
      (m.turn now).game.session.Alike (m'.turn now').game.session ∧
      (m'.turn now').world.output = (m.turn now).world.output ∧
      (m'.turn now').world.input = (m.turn now).world.input := by
  have hnext' := h.next.trans hnext
  have hinput' := h.input.trans hinput
  have hself := (hsound.turn now).stands.tells.alike_self
  have hheard : (m'.heard now' rest).output = (m.heard now rest).output := by
    rw [heard, heard, h.output]
  cases hline : Line.of raw with
  | save =>
      obtain ⟨store, -, hturn, -⟩ := turn_save hsound.writable hnext hinput hline now
      obtain ⟨store', -, hturn', -⟩ := turn_save hsound'.writable hnext' hinput' hline now'
      rw [hturn, hturn', World.print, World.print, h.stateFile]
      exact ⟨rfl, h.session, congrArg (· ++ _) hheard, rfl⟩
  | help =>
      rw [Moment.turn_line hnext hinput, Moment.turn_line hnext' hinput', hline]
      exact ⟨rfl, h.session, congrArg (· ++ _) hheard, rfl⟩
  | load =>
      obtain ⟨failure, hload, hload'⟩ | ⟨step, s, s', hload, hload', hs⟩ := h.load hsound hsound'
      · rw [turn_load_failed hload hnext hinput hline, turn_load_failed hload' hnext' hinput' hline]
        exact ⟨rfl, h.session, hheard, rfl⟩
      · rw [turn_load hload hnext hinput hline] at hself ⊢
        rw [turn_load hload' hnext' hinput' hline, World.print, World.print, h.stateFile]
        refine ⟨rfl, ?_, congrArg (· ++ _) hheard, rfl⟩
        obtain rfl | halike := hs
        · exact hself
        · exact halike
  | restart =>
      rw [turn_restart hsound.session_eq hnext hinput hline] at hself ⊢
      rw [turn_restart hsound'.session_eq hnext' hinput' hline, h.scenario]
      exact ⟨rfl, hself, congrArg (· ++ _) hheard, rfl⟩
  | quit =>
      rw [Moment.turn_line hnext hinput, Moment.turn_line hnext' hinput', hline]
      exact ⟨rfl, h.session, congrArg (· ++ _) hheard, rfl⟩
  | answer typed =>
      rw [Moment.turn_line hnext hinput, Moment.turn_line hnext' hinput', hline]
      simp only [LinePlay.obey, LinePlay.answer]
      cases Decimal.index? (Text.trim typed) with
      | none => exact ⟨rfl, h.session, hheard, rfl⟩
      | some index =>
          have hmove := h.session.move
            (show (Engine.Move.choose now' index).untimed = (Engine.Move.choose now index).untimed
              from rfl)
          exact ⟨congrArg LinePlay.Next.display hmove.1, hmove.2, hheard, rfl⟩

theorem turn (h : m.Paces scenes m') (hsound : m.Sound scenes) (hsound' : m'.Sound scenes)
    (hlegible : m.Legible) (hlegible' : m'.Legible) (now now' : String) :
    (m.turn now).Paces scenes (m'.turn now') := by
  have hfound := h.found_turn hsound hsound' hlegible hlegible' now now'
  have hgame : (m'.turn now').game.scenario = (m.turn now).game.scenario ∧
      (m'.turn now').game.stateFile = (m.turn now).game.stateFile := by
    obtain ⟨-, session, hgame⟩ := m.turn_frame now
    obtain ⟨-, session', hgame'⟩ := m'.turn_frame now'
    rw [hgame, hgame']
    exact ⟨h.scenario, h.stateFile⟩
  suffices hrest : (m'.turn now').next = (m.turn now).next ∧
      (m.turn now).game.session.Alike (m'.turn now').game.session ∧
      (m'.turn now').world.output = (m.turn now).world.output ∧
      (m'.turn now').world.input = (m.turn now).world.input by
    obtain ⟨hnext, hsession, houtput, hinput⟩ := hrest
    exact ⟨hgame.1, hgame.2, hsession, hnext, hinput, houtput, hfound⟩
  cases hnext : m.next with
  | display step =>
      rw [turn_display hnext, turn_display (h.next.trans hnext)]
      have houtput := congrArg (· ++ LinePlay.stepText step) h.output
      cases step with
      | dialogue content speaker canContinue =>
          have hmove := h.session.move
            (show Engine.Move.untimed .proceed = .untimed .proceed from rfl)
          exact ⟨congrArg LinePlay.Next.display hmove.1, hmove.2, houtput, h.input⟩
      | _ => exact ⟨rfl, h.session, houtput, h.input⟩
  | ask =>
      by_cases hline : ∃ raw rest, m.world.input = .line raw :: rest
      · obtain ⟨raw, rest, hinput⟩ := hline
        exact h.turn_line hsound hsound' hnext hinput now now'
      · push Not at hline
        rw [turn_no_line hnext hline, turn_no_line (h.next.trans hnext) (h.input ▸ hline), h.input]
        exact ⟨rfl, h.session, congrArg (· ++ _) h.output, rfl⟩
  | finish =>
      rw [turn_finish hnext, turn_finish (h.next.trans hnext)]
      exact ⟨h.next, h.session, h.output, h.input⟩
  | fail failure =>
      rw [turn_fail hnext, turn_fail (h.next.trans hnext)]
      exact ⟨h.next, h.session, h.output, h.input⟩

end Paces

/-- Whatever is saved from now on is read back as it was. -/
def Faithful (m : Moment) : Prop := ∀ times, (m.after times).Legible

theorem Faithful.after (h : m.Faithful) (times : List String) : (m.after times).Faithful := by
  intro more
  rw [← after_append]
  exact h (times ++ more)

theorem Paces.after (h : m.Paces scenes m') (hsound : m.Sound scenes) (hsound' : m'.Sound scenes)
    (hfaithful : m.Faithful) (hfaithful' : m'.Faithful) {times times' : List String}
    (hlength : times.length = times'.length) :
    (m.after times).Paces scenes (m'.after times') := by
  induction times generalizing m m' times' with
  | nil =>
      obtain rfl := List.length_eq_zero_iff.mp hlength.symm
      exact h
  | cons now times ih =>
      cases times' with
      | nil => cases hlength
      | cons now' times' =>
          exact ih (h.turn hsound hsound' (hfaithful []) (hfaithful' []) now now')
            (hsound.turn now) (hsound'.turn now') (hfaithful.after [now]) (hfaithful'.after [now'])
            (Nat.succ.inj hlength)

/-- However long the player takes, the transcript is the same. -/
theorem Sound.output_after_eq (hsound : m.Sound scenes) (hfaithful : m.Faithful)
    {times times' : List String} (hlength : times.length = times'.length) :
    (m.after times).world.output = (m.after times').world.output ∧
      (m.after times).next = (m.after times').next := by
  have hself : m.Paces scenes m :=
    ⟨rfl, rfl, hsound.stands.tells.alike_self, rfl, rfl, rfl, .inl rfl⟩
  have hpaces := hself.after hsound hsound hfaithful hfaithful hlength
  exact ⟨hpaces.output.symm, hpaces.next.symm⟩

/-! ### Lines still to come -/

def given (m : Moment) (input : List Input) : Moment :=
  { m with world := { m.world with input } }

theorem input_turn_line {raw : String} {rest : List Input} (hnext : m.next = .ask)
    (hinput : m.world.input = .line raw :: rest) (now : String) :
    (m.turn now).world.input = rest := by
  obtain ⟨store, text, hworld, -⟩ := m.game.obey_frame (m.heard now rest) (Line.of raw)
  rw [turn_line hnext hinput, ofResult, hworld]
  rfl

/-- What a turn does not read, it does not see. -/
theorem turn_given (h : m.next = .ask → m.world.input ≠ []) (now : String) :
    ∃ typed, m.world.input = typed ++ (m.turn now).world.input ∧
      ∀ rest, (m.given (typed ++ rest)).turn now = (m.turn now).given rest := by
  have hunread : ∀ {first : Input} (rest : List Input), m.next = .ask →
      m.world.input = first :: rest → (∀ raw, first ≠ .line raw) →
      ∃ typed, m.world.input = typed ++ (m.turn now).world.input ∧
        ∀ rest, (m.given (typed ++ rest)).turn now = (m.turn now).given rest := by
    intro first rest hnext hinput hfirst
    have hline : ∀ other raw tail, first :: other ≠ .line raw :: tail := by
      intro other raw tail heq
      exact hfirst raw (List.cons.inj heq).1
    have hturn := turn_no_line hnext (hinput ▸ hline rest) now
    refine ⟨[first], by rw [hturn, hinput]; rfl, fun other => ?_⟩
    rw [hturn, turn_no_line (m := m.given ([first] ++ other)) hnext (hline other) now, hinput]
    rfl
  cases hnext : m.next with
  | display step =>
      refine ⟨[], by rw [turn_display hnext]; rfl, fun rest => ?_⟩
      rw [turn_display hnext, turn_display (show (m.given ([] ++ rest)).next = _ from hnext)]
      rfl
  | ask =>
      obtain ⟨first, rest, hinput⟩ := List.exists_cons_of_ne_nil (h hnext)
      cases first with
      | line raw =>
          refine ⟨[.line raw], ?_, fun other => ?_⟩
          · rw [input_turn_line hnext hinput, hinput]
            rfl
          · have hgame : (m.given ([.line raw] ++ other)).game = m.game := rfl
            have hother : (m.given ([.line raw] ++ other)).world.input = .line raw :: other := rfl
            have hheard : (m.given ([.line raw] ++ other)).heard now other =
              { m.heard now rest with input := other } := rfl
            rw [turn_line (m := m.given ([Input.line raw] ++ other)) hnext hother, hgame, hheard,
              LinePlay.obey_input, turn_line hnext hinput]
            generalize m.game.obey (m.heard now rest) (Line.of raw) = result
            rfl
      | closed => exact hunread rest hnext hinput nofun
      | unreadable => exact hunread rest hnext hinput nofun
  | finish =>
      refine ⟨[], by rw [turn_finish hnext]; rfl, fun rest => ?_⟩
      rw [turn_finish hnext, turn_finish (show (m.given ([] ++ rest)).next = _ from hnext)]
      rfl
  | fail failure =>
      refine ⟨[], by rw [turn_fail hnext]; rfl, fun rest => ?_⟩
      rw [turn_fail hnext, turn_fail (show (m.given ([] ++ rest)).next = _ from hnext)]
      rfl

theorem next_after_of_finish (h : m.next = .finish) (times : List String) :
    (m.after times).next = .finish := by
  induction times generalizing m with
  | nil => exact h
  | cons now times ih =>
      refine ih ?_
      rw [turn_finish h]
      exact h

/-- At a prompt some lines have been typed, and whatever else could have followed them, the game
would have come to the same prompt. -/
theorem exists_typed {times : List String} (h : (m.after times).next = .ask) :
    ∃ typed, m.world.input = typed ++ (m.after times).world.input ∧
      ∀ rest, (m.given (typed ++ rest)).after times = (m.after times).given rest := by
  induction times generalizing m with
  | nil => exact ⟨[], rfl, fun rest => rfl⟩
  | cons now times ih =>
      by_cases hclosed : m.next = .ask ∧ m.world.input = []
      · -- Where the input ends the game is over, and there are no more prompts.
        obtain ⟨hnext, hinput⟩ := hclosed
        have hfinish : (m.turn now).next = .finish := by
          rw [turn_no_line hnext (by simp [hinput]), hinput]
          rfl
        rw [after_cons, next_after_of_finish hfinish] at h
        cases h
      · obtain ⟨first, hfirst, hgiven⟩ := m.turn_given (fun hnext => (not_and.mp hclosed) hnext) now
        obtain ⟨typed, htyped, hrest⟩ := ih h
        refine ⟨first ++ typed, ?_, fun rest => ?_⟩
        · rw [hfirst, htyped, List.append_assoc]
          rfl
        · rw [List.append_assoc, after_cons, hgiven, hrest]
          rfl

/-- A game that is saved later is saved by a line still to come. -/
theorem Saves.exists_line {times : List String} (h : (m.after times).Saves) :
    ∃ raw, .line raw ∈ m.world.input ∧ Line.of raw = .save := by
  obtain ⟨hnext, raw, rest, hinput, hsave⟩ := h
  obtain ⟨typed, htyped, -⟩ := exists_typed hnext
  refine ⟨raw, ?_, hsave⟩
  rw [htyped, hinput]
  exact List.mem_append_right _ List.mem_cons_self

theorem after_game (m : Moment) (times : List String) :
    ∃ session, (m.after times).game = { m.game with session } := by
  induction times generalizing m with
  | nil => exact ⟨m.game.session, rfl⟩
  | cons now times ih =>
      obtain ⟨-, session, hgame⟩ := m.turn_frame now
      obtain ⟨session', hafter⟩ := ih (m.turn now)
      exact ⟨session', by rw [after_cons, hafter, hgame]⟩

/-! ### What was shown last -/

def shown? (m : Moment) : Option Step :=
  match m.next with
  | .display step => some step
  | _ => none

def lastShown? (m : Moment) : List String → Option Step
  | [] => none
  | now :: times => ((m.turn now).lastShown? times).or m.shown?

theorem lastShown?_append (m : Moment) (times : List String) (now : String) :
    m.lastShown? (times ++ [now]) = (m.after times).shown?.or (m.lastShown? times) := by
  induction times generalizing m with
  | nil => simp [lastShown?]
  | cons first times ih =>
      rw [List.cons_append, lastShown?, lastShown?, ih, after_cons, Option.or_assoc]

structure ShownLast (m : Moment) (times : List String) (step : Step) (text : String) : Prop where
  last : m.lastShown? times = some step
  printed : ∃ before now rest, times = before ++ now :: rest ∧
    (m.after before).next = .display step ∧
    (m.after (before ++ [now])).world.output = (m.after before).world.output ++ text ∧
    (m.after (before ++ [now])).lastShown? rest = none

theorem shownLast_of_lastShown? {times : List String} {step : Step}
    (h : m.lastShown? times = some step) : m.ShownLast times step (LinePlay.stepText step) := by
  refine ⟨h, ?_⟩
  induction times generalizing m with
  | nil => cases h
  | cons now times ih =>
      rw [lastShown?] at h
      cases hlater : (m.turn now).lastShown? times with
      | some later =>
          rw [hlater, Option.some_or] at h
          obtain ⟨before, time, rest, rfl, hshown⟩ := ih (hlater.trans h)
          exact ⟨now :: before, time, rest, rfl, hshown⟩
      | none =>
          rw [hlater, Option.none_or, shown?] at h
          cases hnext : m.next with
          | display shown =>
              rw [hnext] at h
              cases h
              refine ⟨[], now, times, rfl, hnext, ?_, hlater⟩
              rw [List.nil_append, after_cons, after_nil, turn_display hnext]
              rfl
          | _ =>
              rw [hnext] at h
              cases h

/-- A line after which there is another prompt leaves the game as it is. -/
theorem Sound.game_turn_line (h : m.Sound scenes) {raw : String} {rest : List Input}
    (hnext : m.next = .ask) (hinput : m.world.input = .line raw :: rest) {now : String}
    (hask : (m.turn now).next = .ask) : (m.turn now).game = m.game := by
  cases hline : Line.of raw with
  | help =>
      rw [turn_line hnext hinput, hline]
      rfl
  | save =>
      obtain ⟨store, -, hturn, -⟩ := turn_save h.writable hnext hinput hline now
      rw [hturn]
  | load =>
      cases hload : m.found >>= m.game.takeUp with
      | error failure =>
          rw [turn_load_failed hload hnext hinput hline]
      | ok result =>
          rw [turn_load hload hnext hinput hline] at hask
          cases hask
  | restart =>
      rw [turn_restart h.session_eq hnext hinput hline] at hask
      cases hask
  | quit =>
      rw [turn_line hnext hinput, hline]
      rfl
  | answer typed =>
      rw [turn_line hnext hinput, hline] at hask
      simp only [LinePlay.obey, LinePlay.answer] at hask
      cases hindex : Decimal.index? (Text.trim typed) with
      | none =>
          rw [hindex] at hask
          cases hask
      | some index =>
          rw [hindex] at hask
          cases hask

/-- A turn leads to a prompt by showing choices, or from a prompt with the same game. -/
theorem Sound.turn_eq_ask (h : m.Sound scenes) {now : String} (hask : (m.turn now).next = .ask) :
    (∃ step, m.next = .display step ∧
      (m.turn now).game.session.proceed = (step, (m.turn now).game.session)) ∨
      m.next = .ask ∧ (m.turn now).game = m.game := by
  cases hnext : m.next with
  | display step =>
      refine .inl ⟨step, rfl, ?_⟩
      have hshown := h.stands.shown step hnext
      rw [turn_display hnext] at hask ⊢
      cases step with
      | choices content speaker choices => exact Session.proceed_of_shown hshown
      | _ => cases hask
  | ask =>
      refine .inr ⟨rfl, ?_⟩
      by_cases hline : ∃ raw rest, m.world.input = .line raw :: rest
      · obtain ⟨raw, rest, hinput⟩ := hline
        exact h.game_turn_line hnext hinput hask
      · push Not at hline
        rw [turn_no_line hnext hline]
  | finish =>
      rw [turn_finish hnext, hnext] at hask
      cases hask
  | fail failure =>
      rw [turn_fail hnext, hnext] at hask
      cases hask

/-- At a prompt the game waits at the step that was shown last. -/
theorem Sound.exists_lastShown? (h : m.Sound scenes) (hstart : m.next ≠ .ask)
    {times : List String} (hask : (m.after times).next = .ask) :
    ∃ step, m.lastShown? times = some step ∧
      (m.after times).game.session.proceed = (step, (m.after times).game.session) := by
  -- By the last turn: it has shown the choices, or it began at a prompt of the same game.
  induction times using List.reverseRecOn with
  | nil => exact absurd hask hstart
  | append_singleton times now ih =>
      rw [after_append] at hask ⊢
      rw [lastShown?_append, shown?]
      obtain ⟨step, hnext, hproceed⟩ | ⟨hnext, hgame⟩ := (h.after times).turn_eq_ask hask
      · rw [hnext]
        exact ⟨step, rfl, hproceed⟩
      · obtain ⟨step, hstep, hproceed⟩ := ih hnext
        rw [hnext]
        refine ⟨step, hstep, ?_⟩
        rw [after_cons, after_nil, hgame]
        exact hproceed

/-! ### Going on as another moment would -/

def opening (s : Scenario) (stateFile : String) (fresh : Session) (w : World) : Moment :=
  ⟨⟨s, stateFile, (fresh.start s.entryScene).2⟩, .display (fresh.start s.entryScene).1, w⟩

/-- The game prints `heading` in its next `k` turns and then goes on as the other one would, at
whatever times. -/
def GoesOnAs (m : Moment) (k : Nat) (heading : String) (m' : Moment) : Prop :=
  ∀ times times', times.length = k + times'.length →
    ∃ text, (m.after times).world.output = m.world.output ++ heading ++ text ∧
      (m'.after times').world.output = m'.world.output ++ text ∧
      (m.after times).next = (m'.after times').next

theorem Sound.goesOnAs (h : m.Sound scenes) (hfaithful : m.Faithful) {heading : String}
    (first : List String) (hmirrors : (m.after first).Mirrors m.game.stateFile
      (m.world.output ++ heading) m'.world.output m') :
    m.GoesOnAs first.length heading m' := by
  intro times times' hlength
  have hall : times.length = (first ++ times').length := by rw [hlength, List.length_append]
  -- Mirrored moments take their turns at the same times, so the first ones are exchanged.
  obtain ⟨houtput, hnext⟩ := h.output_after_eq hfaithful hall
  have hrest := hmirrors.after times'
  rw [← after_append] at hrest
  obtain ⟨text, htext, htext'⟩ := hrest.world.output
  exact ⟨text, houtput.trans htext, htext', hnext.trans hrest.next.symm⟩

theorem Sound.goesOnAs_help (h : m.Sound scenes) (hfaithful : m.Faithful) {raw : String}
    {rest : List Input} (hnext : m.next = .ask) (hinput : m.world.input = .line raw :: rest)
    (hhelp : Line.of raw = .help) :
    m.GoesOnAs 1 (LinePlay.promptMark ++ LinePlay.commandsLine ++ "\n") (m.given rest) := by
  refine h.goesOnAs hfaithful [""] ?_
  rw [after_cons, after_nil, turn_line hnext hinput, hhelp]
  refine ⟨rfl, rfl, hnext, rfl, rfl, .inl rfl, trails_of_eq ?_ _⟩
  change m.world.output ++ LinePlay.promptMark ++ (LinePlay.commandsLine ++ "\n") = _
  simp only [String.append_assoc]

theorem Sound.goesOnAs_save (h : m.Sound scenes) (hfaithful : m.Faithful) {raw : String}
    {rest : List Input} (hnext : m.next = .ask) (hinput : m.world.input = .line raw :: rest)
    (hsave : Line.of raw = .save) (hrest : NoLoad rest) :
    m.GoesOnAs 1 (LinePlay.promptMark ++ "saved: " ++ m.game.stateFile ++ "\n")
      (m.given rest) := by
  refine h.goesOnAs hfaithful [""] ?_
  obtain ⟨store, -, hturn, hwritable⟩ := turn_save h.writable hnext hinput hsave ""
  rw [after_cons, after_nil]
  rw [hturn] at hwritable ⊢
  refine ⟨rfl, rfl, hnext, rfl, rfl, .inr ⟨hrest, hwritable, h.writable⟩, trails_of_eq ?_ _⟩
  change m.world.output ++ LinePlay.promptMark ++ ("saved: " ++ m.game.stateFile ++ "\n") = _
  simp only [String.append_assoc]

def Spares (m : Moment) : List String → Prop
  | [] => True
  | now :: times => ¬ m.Saves ∧ (m.turn now).Spares times

/-- Turns that do not save leave the files and what they hold. -/
theorem Holds.after {s : Session} {saved : String} (h : m.Holds scenes s saved)
    {times : List String} (hspares : m.Spares times) :
    (m.after times).Holds scenes s saved ∧ (m.after times).world.store = m.world.store ∧
      (m.after times).world.folder = m.world.folder := by
  induction times generalizing m with
  | nil => exact ⟨h, rfl, rfl⟩
  | cons now times ih =>
      obtain ⟨hnot, hrest⟩ := hspares
      obtain ⟨hholds, hstore, hfolder⟩ := ih (h.turn hnot now) hrest
      obtain ⟨⟨store, input, text, hworld, hsame⟩, -⟩ := m.turn_frame now
      rw [hworld] at hstore hfolder
      exact ⟨hholds, hstore.trans (hsame hnot), hfolder⟩

/-- A load leads back to the prompt of the last save and goes on from there. -/
theorem Sound.goesOnAs_load (h : m.Sound scenes) (hfaithful : m.Faithful) (hsaves : m.Saves)
    {step : Step} (hproceed : m.game.session.proceed = (step, m.game.session)) (now : String)
    {times : List String} (hspares : (m.turn now).Spares times)
    (hnext : ((m.turn now).after times).next = .ask) {raw : String} {rest : List Input}
    (hinput : ((m.turn now).after times).world.input = .line raw :: rest)
    (hload : Line.of raw = .load) :
    ((m.turn now).after times).GoesOnAs 2
      (LinePlay.promptMark ++ "loaded: " ++ m.game.stateFile ++ "\n" ++ LinePlay.stepText step)
      ((m.turn now).given rest) := by
  have hsound := (h.turn now).after times
  have hlater : ((m.turn now).after times).Faithful := (hfaithful.after [now]).after times
  have hholds := h.holds_turn hsaves (hfaithful []) now
  obtain ⟨hholds, hstore, hfolder⟩ := hholds.after hspares
  obtain ⟨content, speaker, choices, hwaits⟩ := hholds.waits
  obtain rfl : step = .choices content speaker choices :=
    congrArg Prod.fst (hproceed.symm.trans hwaits)
  have hloaded := hholds.load hsound hwaits
  obtain ⟨hgame, hask⟩ : (m.turn now).game = m.game ∧ (m.turn now).next = .ask := by
    obtain ⟨hask, typed, tail, htyped, hsave⟩ := hsaves
    obtain ⟨store, -, hsaved, -⟩ := turn_save h.writable hask htyped hsave now
    rw [hsaved]
    exact ⟨rfl, rfl⟩
  obtain ⟨session, hafter⟩ := (m.turn now).after_game times
  rw [hgame] at hafter
  have hagain : (m.turn now).game =
      { ((m.turn now).after times).game with session := m.game.session } := by
    rw [hgame, hafter]
  -- The first turn takes the game up, and the second shows the choices at which it was saved.
  refine hsound.goesOnAs hlater ["", ""] ?_
  let loaded : Moment := ((m.turn now).after times).turn ""
  have hshown : loaded.next = .display (.choices content speaker choices) := by
    rw [show loaded = _ from turn_load hloaded hnext hinput hload ""]
  rw [after_cons, after_cons, after_nil, turn_display hshown,
    show loaded = _ from turn_load hloaded hnext hinput hload ""]
  refine ⟨rfl, hagain, hask, hfolder.symm, rfl, .inl hstore.symm, trails_of_eq ?_ _⟩
  rw [hafter]
  simp only [World.print, heard, String.append_assoc]

/-- A restarted game goes on as a new one. -/
theorem Sound.goesOnAs_restart (h : m.Sound scenes) (hfaithful : m.Faithful) {fresh : Session}
    (hfresh : m.game.scenario.session = .ok fresh) {raw : String} {rest : List Input}
    (hnext : m.next = .ask) (hinput : m.world.input = .line raw :: rest)
    (hrestart : Line.of raw = .restart) :
    (∀ now, (m.turn now).game = (opening m.game.scenario m.game.stateFile fresh m.world).game) ∧
      m.GoesOnAs 1 (LinePlay.promptMark ++ "restarted\n")
        (opening m.game.scenario m.game.stateFile fresh (m.given rest).world) := by
  have hturn : ∀ now, m.turn now =
      opening m.game.scenario m.game.stateFile fresh ((m.heard now rest).print "restarted\n") :=
    turn_restart hfresh hnext hinput hrestart
  refine ⟨fun now => by rw [hturn]; rfl, h.goesOnAs hfaithful [""] ?_⟩
  rw [after_cons, after_nil, hturn]
  refine ⟨rfl, rfl, rfl, rfl, rfl, .inl rfl, trails_of_eq ?_ _⟩
  simp only [opening, World.print, heard, String.append_assoc]

/-! ### Whole games -/

theorem sound_opening {s : Scenario} {fresh : Session} (hsession : s.session = .ok fresh)
    {file : String} {w : World} (hwritable : w.Writable file) :
    ∃ scenes, (opening s file fresh w).Sound scenes := by
  obtain ⟨scenes, hread, hfresh⟩ := Scenario.session_eq_ok hsession
  have hquiet : Script.Quiet scenes := Script.Read.quiet (.inr ⟨s.sources, hread⟩)
  have htells : fresh.Tells scenes := hfresh ▸ Session.tells_new scenes
  exact ⟨scenes, hread, LinePlay.stands_move (p := ⟨s, file, fresh⟩) hquiet htells
    (.start s.entryScene), hwritable⟩

/-- A game is played from its first moment on, after the banner. -/
theorem play_eq_after {scripts entry file : String} {w : World} {s : Scenario} {fresh : Session}
    (hload : StateT.run (Scenario.load scripts entry : StateM World (Except Failure Scenario)) w =
      (.ok s, w))
    (hsession : s.session = .ok fresh) (hentry : fresh.engine.hasScene entry = true) (n : Nat) :
    StateT.run (LinePlay.play n scripts entry file : StateM World (Option (Except Failure Unit)))
        w =
      (((opening s file fresh (w.print (LinePlay.banner s))).after
          (List.replicate n w.clock)).outcome,
        ((opening s file fresh (w.print (LinePlay.banner s))).after
          (List.replicate n w.clock)).world) := by
  obtain ⟨sources, rfl⟩ := Scenario.ofFound_eq_ok
    (congrArg Prod.fst ((Scenario.load_run scripts entry w).symm.trans hload))
  rw [LinePlay.play, run_bind hload]
  simp only [hsession, hentry, if_true]
  exact run_eq_after n (opening _ file fresh (w.print (LinePlay.banner _)))

/-- What a player can rely on at the prompt to which a game has come at the given times. -/
structure Transparent (o : Moment) (fresh : Session) (times : List String) : Prop where
  /-- The game would have come to this prompt whatever lines were to follow. -/
  typed : ∃ typed, o.world.input = typed ++ (o.after times).world.input ∧
    ∀ rest, (o.given (typed ++ rest)).after times = (o.after times).given rest
  /-- Help changes nothing in the rest of the transcript. -/
  help : ∀ raw rest, (o.after times).world.input = .line raw :: rest → Line.of raw = .help →
    (o.after times).GoesOnAs 1 ("> " ++ "commands: :help :save :load :restart :quit" ++ "\n")
      ((o.after times).given rest)
  /-- Nor does a save, if no load follows. -/
  save : ∀ raw rest, (o.after times).world.input = .line raw :: rest → Line.of raw = .save →
    NoLoad rest →
    (o.after times).GoesOnAs 1 ("> " ++ "saved: " ++ o.game.stateFile ++ "\n")
      ((o.after times).given rest)
  /-- A load at a later prompt, after no other save, lists again the choices that were shown last
  before the save, and goes on as the game would have gone on after the save. -/
  load : ∃ content speaker choices text, Listed (.choices content speaker choices) text ∧
    o.ShownLast times (.choices content speaker choices) text ∧
    ∀ now more raw rest, (o.after times).Saves → ((o.after times).turn now).Spares more →
      (((o.after times).turn now).after more).next = .ask →
      (((o.after times).turn now).after more).world.input = .line raw :: rest →
      Line.of raw = .load →
      (((o.after times).turn now).after more).GoesOnAs 2
        ("> " ++ "loaded: " ++ o.game.stateFile ++ "\n" ++ text)
        (((o.after times).turn now).given rest)
  /-- After a restart nothing is left of the game, and the transcript is that of a new one. -/
  restart : ∀ raw rest, (o.after times).world.input = .line raw :: rest →
    Line.of raw = .restart →
    (∀ now, ((o.after times).turn now).game = o.game) ∧
      (o.after times).GoesOnAs 1 ("> " ++ "restarted\n")
        (opening o.game.scenario o.game.stateFile fresh ((o.after times).given rest).world)

/-- Saving, loading and restarting are transparent at every prompt of every game that is played. -/
theorem play_transparent {scripts entry file : String} {w : World} {s : Scenario} {fresh : Session}
    (hload : StateT.run (Scenario.load scripts entry : StateM World (Except Failure Scenario)) w =
      (.ok s, w))
    (hsession : s.session = .ok fresh) (hentry : fresh.engine.hasScene entry = true)
    (hwritable : w.Writable file)
    (hfaithful : (opening s file fresh (w.print (LinePlay.banner s))).Faithful) :
    (∀ n, StateT.run
        (LinePlay.play n scripts entry file : StateM World (Option (Except Failure Unit))) w =
      (((opening s file fresh (w.print (LinePlay.banner s))).after
          (List.replicate n w.clock)).outcome,
        ((opening s file fresh (w.print (LinePlay.banner s))).after
          (List.replicate n w.clock)).world)) ∧
    (fresh.engine.state = {} ∧ fresh.engine.frames = [] ∧ fresh.engine.held = [] ∧
      fresh.engine.pending = none) ∧
    ∀ times, ((opening s file fresh (w.print (LinePlay.banner s))).after times).next = .ask →
      Transparent (opening s file fresh (w.print (LinePlay.banner s))) fresh times := by
  refine ⟨play_eq_after hload hsession hentry, ?_, fun times hask => ?_⟩
  · obtain ⟨scenes, -, rfl⟩ := Scenario.session_eq_ok hsession
    exact ⟨rfl, rfl, rfl, rfl⟩
  · obtain ⟨scenes, hsound⟩ := sound_opening hsession
      (show (w.print (LinePlay.banner s)).Writable file from hwritable)
    generalize ho : opening s file fresh (w.print (LinePlay.banner s)) = o at *
    have hstart : o.next ≠ .ask := by
      rw [← ho]
      nofun
    have hthere := hsound.after times
    have hlater := hfaithful.after times
    obtain ⟨step, hstep, hproceed⟩ := hsound.exists_lastShown? hstart hask
    obtain ⟨content, speaker, choices, hwaits⟩ := hthere.stands.waits hask
    obtain rfl : step = .choices content speaker choices :=
      congrArg Prod.fst (hproceed.symm.trans hwaits)
    obtain ⟨session, hgame⟩ := o.after_game times
    have hfile : (o.after times).game.stateFile = o.game.stateFile := by rw [hgame]
    have hscenario : (o.after times).game.scenario = o.game.scenario := by rw [hgame]
    refine ⟨exists_typed hask, fun raw rest hinput => hthere.goesOnAs_help hlater hask hinput,
      fun raw rest hinput => ?_, ⟨content, speaker, choices, _, listed_stepText _ _ _,
        shownLast_of_lastShown? hstep, fun now more raw rest hsaves hspares hnext => ?_⟩,
      fun raw rest hinput hline => ?_⟩
    · rw [← hfile]
      exact hthere.goesOnAs_save hlater hask hinput
    · rw [← hfile]
      exact hthere.goesOnAs_load hlater hsaves hproceed now hspares hnext
    · have hfresh : (o.after times).game.scenario.session = .ok fresh := by
        rw [hscenario, ← ho]
        exact hsession
      have hrestart := hthere.goesOnAs_restart hlater hfresh hask hinput hline
      rw [hscenario, hfile] at hrestart
      refine ⟨fun now => (hrestart.1 now).trans ?_, hrestart.2⟩
      rw [← ho]
      rfl

/-! ### A game at the crossroads -/

/-- A player who saves at the crossroads, takes the way back, then loads the game and goes on. -/
def wayBack (script : String) : World :=
  { tabletop [(["story.json"], some script)] "noon" with
    input := [.line ":save", .line "1", .line ":load", .line "0"] }

section

variable (script : String)

def wayBackScenario : Scenario := .make "/story.json" "start" [("story.json", script)]

def wayBackOpening : Moment :=
  opening (wayBackScenario script) "game.json" { engine := Engine.setScenes {} Engine.crossroads }
    ((wayBack script).print (LinePlay.banner (wayBackScenario script)))

theorem load_wayBack :
    StateT.run (Scenario.load "story.json" "start" : StateM World (Except Failure Scenario))
      (wayBack script) = (.ok (wayBackScenario script), wayBack script) := by
  have hpath : PathText.join (wayBack script).folderPath "story.json" = "/story.json" := by
    change PathText.join ("/" ++ String.intercalate "/" []) "story.json" = _
    decide
  have hlocate : FileStore.locate? {} [] "/story.json" = some ["story.json"] := by decide
  have hfind : (tabletop [(["story.json"], some script)] "noon").find Scenario.isScript
      "/story.json" = .file (some script) := find_tabletop _ hlocate rfl
  have hname : PathText.fileName? "/story.json" = some "story.json" := by decide
  have hkind : Scenario.isScript "/story.json" = true := by decide
  rw [Scenario.load_run, hpath]
  change (Scenario.ofFound "/story.json" "start" (World.find (tabletop _ "noon") _ _), _) = _
  rw [hfind]
  simp only [Scenario.ofFound, hkind, hname, if_true, Option.getD_some]
  rfl

theorem stateFile_wayBackOpening : (wayBackOpening script).game.stateFile = "game.json" := rfl

theorem lastShown?_wayBackOpening : (wayBackOpening script).lastShown? ["noon"] =
    some (.choices "Which way?" none [⟨0, "left", none⟩, ⟨1, "back", some "start"⟩]) := rfl

theorem turn_wayBackOpening (now : String) : ∃ w, (wayBackOpening script).turn now =
    ⟨⟨wayBackScenario script, "game.json", { engine := Engine.asking }⟩, .ask, w⟩ ∧
      w.input = (wayBack script).input :=
  ⟨_, rfl, rfl⟩

theorem faithful_wayBackOpening : (wayBackOpening script).Faithful := by
  rintro (_ | ⟨first, _ | ⟨second, times⟩⟩) hsaves now
  · cases hsaves.1
  · obtain ⟨w, hturn, -⟩ := turn_wayBackOpening script first
    rw [after_cons, after_nil, hturn]
    exact ⟨trivial, Json.scan_pretty rfl⟩
  · -- The only line that saves has been read before.
    obtain ⟨w, hturn, hinput⟩ := turn_wayBackOpening script first
    rw [after_cons, after_cons, hturn] at hsaves
    obtain ⟨raw, hmem, hsave⟩ := hsaves.exists_line
    rw [input_turn_line rfl hinput] at hmem
    have hnot : ∀ line ∈ [Input.line "1", .line ":load", .line "0"],
        ∀ raw, line = .line raw → Line.of raw ≠ .save := by
      simp only [List.forall_mem_cons, Input.line.injEq, forall_eq']
      exact ⟨by decide +kernel, by decide +kernel, by decide +kernel, nofun⟩
    exact absurd hsave (hnot _ hmem raw rfl)

/-- The way back leads to the crossroads again. -/
theorem spares_wayBack {m : Moment} (hsession : m.game.session = { engine := Engine.asking })
    (hnext : m.next = .ask)
    (hinput : m.world.input = [.line "1", .line ":load", .line "0"]) :
    m.Spares ["one", "two"] ∧ (m.after ["one", "two"]).next = .ask ∧
      (m.after ["one", "two"]).world.input = [.line ":load", .line "0"] := by
  have hline : Line.of "1" = .answer "1" := by decide +kernel
  have hindex : Decimal.index? (Text.trim "1") = some 1 := by decide +kernel
  have hkind : (Session.choose { engine := Engine.asking } "one" 1).1.kind =
      "presenting_choices" := by decide +kernel
  have hshown : (m.turn "one").next =
      .display (Session.choose { engine := Engine.asking } "one" 1).1 := by
    rw [turn_line hnext hinput, hline, LinePlay.obey, LinePlay.answer, hindex, hsession]
    rfl
  have hinput' := input_turn_line hnext hinput "one"
  generalize (Session.choose { engine := Engine.asking } "one" 1).1 = step at hkind hshown
  refine ⟨⟨?_, ?_, trivial⟩, ?_⟩
  · rintro ⟨-, raw, rest, htyped, hsave⟩
    rw [hinput] at htyped
    cases htyped
    rw [hline] at hsave
    cases hsave
  · rintro ⟨hask, -⟩
    rw [hshown] at hask
    cases hask
  · rw [after_cons, after_cons, after_nil, turn_display hshown]
    cases step with
    | choices content speaker choices => exact ⟨rfl, hinput'⟩
    | _ => simp [Step.kind] at hkind

theorem session_wayBack (hscript : Json.parse script = .ok Engine.crossroadsScript) :
    (wayBackScenario script).session =
      .ok { engine := Engine.setScenes {} Engine.crossroads } := by
  rw [Scenario.session, wayBackScenario, Scenario.make, readSources_crossroads hscript]

theorem writable_wayBack : (wayBack script).Writable "game.json" := by
  intro text
  change ((tabletop [(["story.json"], some script)] "noon").write "game.json" text).1 = true
  exact write_tabletop (by decide) (by decide) text

theorem saves_wayBack (hscript : Json.parse script = .ok Engine.crossroadsScript) :
    ((wayBackOpening script).after ["noon"]).Saves ∧
      (((wayBackOpening script).after ["noon"]).turn "later").Spares ["one", "two"] ∧
      ((((wayBackOpening script).after ["noon"]).turn "later").after ["one", "two"]).next = .ask ∧
      ((((wayBackOpening script).after ["noon"]).turn "later").after ["one", "two"]).world.input =
        [.line ":load", .line "0"] := by
  have hline : Line.of ":save" = .save := by decide +kernel
  obtain ⟨scenes, hsound⟩ : ∃ scenes, (wayBackOpening script).Sound scenes :=
    sound_opening (session_wayBack script hscript) (writable_wayBack script)
  have hwritable := (hsound.after ["noon"]).writable
  obtain ⟨w, hturn, hinput⟩ := turn_wayBackOpening script "noon"
  rw [after_cons, after_nil, hturn] at hwritable
  rw [after_cons, after_nil, hturn]
  obtain ⟨store, -, hsaved, -⟩ := turn_save hwritable rfl hinput hline "later"
  refine ⟨⟨rfl, ":save", _, hinput, hline⟩, spares_wayBack ?_ ?_ ?_⟩
  · rw [hsaved]
  · rw [hsaved]
  · exact input_turn_line rfl hinput "later"

end

/-- The game that is loaded at the third prompt goes on as it would have gone on at the first. -/
theorem play_transparent_wayBack :
    let o := wayBackOpening Engine.crossroadsScript.pretty
    let saved := (o.after ["noon"]).turn "later"
    (o.after ["noon"]).Saves ∧ saved.Spares ["one", "two"] ∧
      o.ShownLast ["noon"]
        (.choices "Which way?" none [⟨0, "left", none⟩, ⟨1, "back", some "start"⟩])
        "\nWhich way?\n  [0] left\n  [1] back\n" ∧
      (saved.after ["one", "two"]).GoesOnAs 2
        "> loaded: game.json\n\nWhich way?\n  [0] left\n  [1] back\n"
        (saved.given [.line "0"]) := by
  have hline : Line.of ":load" = .load := by decide +kernel
  have hfile := stateFile_wayBackOpening Engine.crossroadsScript.pretty
  have hlast := lastShown?_wayBackOpening Engine.crossroadsScript.pretty
  have hsaves := saves_wayBack _ parse_crossroadsScript
  -- Stated for all times, so that the two openings are compared and not their runs.
  have hprompts : ∀ times,
      ((wayBackOpening Engine.crossroadsScript.pretty).after times).next = .ask →
        (wayBackOpening Engine.crossroadsScript.pretty).Transparent _ times :=
    (play_transparent (load_wayBack Engine.crossroadsScript.pretty)
      (session_wayBack _ parse_crossroadsScript) (by decide +kernel) (writable_wayBack _)
      (faithful_wayBackOpening Engine.crossroadsScript.pretty)).2.2
  generalize wayBackOpening Engine.crossroadsScript.pretty = o at hfile hlast hsaves hprompts ⊢
  obtain ⟨hsaves, hspares, hnext, hinput⟩ := hsaves
  obtain ⟨content, speaker, choices, text, hlisted, hshown, hload⟩ :=
    (hprompts ["noon"] hsaves.1).load
  obtain ⟨rfl, rfl, rfl⟩ := Step.choices.inj (Option.some.inj (hshown.last.symm.trans hlast))
  cases hlisted with
  | mk hspoken =>
      cases hspoken with
      | nobody =>
          have hgoes :=
            hload "later" ["one", "two"] ":load" [.line "0"] hsaves hspares hnext hinput hline
          rw [hfile] at hgoes
          exact ⟨hsaves, hspares, hshown, hgoes⟩

end Moment

end BranchingStory.Console
