import BranchingStory.Proofs.Console.Report
import BranchingStory.Proofs.Engine.Resume

/-!
Playing on to a boundary. A session does nothing to its engine but moves, so a game that could be
saved can be saved wherever play comes to rest, and at choices it waits for an answer. Sessions
that differ only in times come to rest at the same boundary.
-/

namespace BranchingStory

namespace Session

/-! ### Sessions of scenes -/

/-- A session in which scenes are played: no load has failed, and the game can be saved. -/
structure Tells (scenes : List Scene) (s : Session) : Prop where
  lastFault : s.lastFault = none
  setting : s.engine.setting = (Engine.new scenes [] [] none).setting
  resumable : s.engine.Resumable

/-- Going on shows choices and changes nothing. -/
def Waits (s : Session) : Prop :=
  ∃ content speaker choices, s.proceed = (.choices content speaker choices, s)

theorem proceed_of_shown {s : Session} {content : String} {speaker : Option String}
    {choices : List PresentedChoice}
    (h : Engine.Shown (.choices content speaker choices) s.engine) :
    s.proceed = (.choices content speaker choices, s) := by
  have hengine := h content speaker choices rfl
  rw [proceed, onEngine, hengine]

theorem tells_new (scenes : List Scene) :
    Tells scenes { engine := Engine.setScenes {} scenes } :=
  ⟨rfl, rfl, Engine.resumable_new scenes [] []⟩

def move (s : Session) (m : Engine.Move) : Step × Session := s.onEngine (·.move m)

theorem Tells.move {scenes : List Scene} {s : Session} (h : s.Tells scenes)
    (hquiet : Script.Quiet scenes) (m : Engine.Move) : (s.move m).2.Tells scenes := by
  have hsetting : Engine.Quiet s.engine.setting := by
    rw [h.setting]
    exact Engine.quiet_new hquiet [] []
  exact ⟨h.lastFault, (Engine.setting_move s.engine m).trans h.setting,
    h.resumable.move hsetting m⟩

/-- A new session that takes up the game of another goes on to the choices at which it waits. -/
theorem Tells.proceed_load {scenes : List Scene} {s fresh : Session} (h : s.Tells scenes)
    (hfresh : fresh.Tells scenes) (now : String) :
    (fresh.load (s.save now)).proceed = s.proceed := by
  have hrestore := h.resumable.restore_save (hfresh.setting.trans h.setting.symm) now
  have hproceed : (fresh.engine.restore (s.engine.save now)).proceed = s.engine.proceed := by
    rw [hrestore]
    exact h.resumable.proceed_suspended
  have hfault : fresh.lastFault = s.lastFault := hfresh.lastFault.trans h.lastFault.symm
  unfold proceed load save onEngine
  rw [hproceed, hfault]

/-! ### Sessions at other times -/

structure Alike (s s' : Session) : Prop where
  engine : Engine.Alike 0 s.engine s'.engine
  blind : s.engine.helpers.Blind GameState.SameButTimes

/-- The same move at other times shows the same step. -/
theorem Alike.move {s s' : Session} (h : s.Alike s') {m m' : Engine.Move}
    (hm : m'.untimed = m.untimed) :
    (s'.move m').1 = (s.move m).1 ∧ (s.move m).2.Alike (s'.move m').2 := by
  obtain ⟨hstep, hengine⟩ := h.engine.move h.blind hm
  have hhelpers : (s.move m).2.engine.helpers = s.engine.helpers :=
    congrArg Setting.helpers (Engine.setting_move s.engine m)
  exact ⟨hstep, hengine, hhelpers ▸ h.blind⟩

theorem Tells.alike_self {scenes : List Scene} {s : Session} (h : s.Tells scenes) : s.Alike s := by
  have hhelpers : s.engine.helpers = Template.Standard.registry.extend [] :=
    congrArg Setting.helpers h.setting
  refine ⟨⟨rfl, Nat.zero_le _, Nat.zero_le _⟩, ?_⟩
  rw [hhelpers]
  exact (Template.Standard.registry_blind GameState.unseen_times).extend
    Template.Registry.blind_nil

end Session

namespace Console

/-! ### What is kept on the way -/

theorem goOn_keeps {P : Step → Session → Prop}
    (hproceed : ∀ step s, P step s → P s.proceed.1 s.proceed.2) (n : Nat) {step : Step}
    {s : Session} (hstart : P step s) : P (goOn n step s).last (goOn n step s).session := by
  induction n generalizing step s with
  | zero => exact hstart
  | succ n ih =>
      cases step with
      | dialogue content speaker canContinue => exact ih (hproceed _ s hstart)
      | _ => exact hstart

/-- Play that goes on from a move comes to rest with a game that can be saved, and at choices it
waits. -/
theorem tells_goOn {scenes : List Scene} (hquiet : Script.Quiet scenes) {s : Session}
    (h : s.Tells scenes) (m : Engine.Move) (n : Nat) :
    (goOn n (s.move m).1 (s.move m).2).session.Tells scenes ∧
      Engine.Shown (goOn n (s.move m).1 (s.move m).2).last
        (goOn n (s.move m).1 (s.move m).2).session.engine :=
  goOn_keeps (P := fun step s => s.Tells scenes ∧ Engine.Shown step s.engine)
    (fun _ s h => ⟨h.1.move hquiet .proceed, Engine.shown_move s.engine .proceed⟩) n
    ⟨h.move hquiet m, Engine.shown_move s.engine m⟩

/-! ### Other times -/

inductive Agree : Except Failure Stretch → Except Failure Stretch → Prop
  | ok {lines : List (Option String × String)} {last : Step} {s s' : Session}
      (halike : s.Alike s') : Agree (.ok ⟨lines, last, s⟩) (.ok ⟨lines, last, s'⟩)
  | error (failure : Failure) : Agree (.error failure) (.error failure)

theorem agree_goOn {s s' : Session} (halike : s.Alike s') (n : Nat) (step : Step) :
    Agree (.ok (goOn n step s)) (.ok (goOn n step s')) := by
  induction n generalizing step s s' with
  | zero => exact .ok halike
  | succ n ih =>
      cases step with
      | dialogue content speaker canContinue =>
          have hmove : s'.proceed.1 = s.proceed.1 ∧ s.proceed.2.Alike s'.proceed.2 :=
            halike.move (show Engine.Move.untimed .proceed = .untimed .proceed from rfl)
          -- Both sides go on to the same step, from sessions that are alike again.
          have hrest := ih hmove.2 s.proceed.1
          rw [goOn, goOn, hmove.1]
          generalize goOn n s.proceed.1 s.proceed.2 = rest at hrest ⊢
          generalize goOn n s.proceed.1 s'.proceed.2 = rest' at hrest ⊢
          cases hrest with
          | ok halike' => exact .ok halike'
      | _ => exact .ok halike

theorem agree_move {s s' : Session} (halike : s.Alike s') {m m' : Engine.Move}
    (hm : m'.untimed = m.untimed) (n : Nat) :
    Agree (.ok (goOn n (s.move m).1 (s.move m).2)) (.ok (goOn n (s'.move m').1 (s'.move m').2)) := by
  obtain ⟨hstep, hnext⟩ := halike.move hm
  rw [hstep]
  exact agree_goOn hnext n (s.move m).1

end Console

end BranchingStory
