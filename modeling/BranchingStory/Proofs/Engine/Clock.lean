import BranchingStory.Proofs.Engine.Coherence
import BranchingStory.Proofs.Template

/-!
The clock is only for the record. A choice is recorded with the time at which it was made; nothing
in a story looks at that time, as long as no helper of the host does. So a story that is played
twice with different clocks shows the same steps, and its engines differ in times alone.
-/

namespace BranchingStory

def ChoiceRecord.untimed (r : ChoiceRecord) : ChoiceRecord := { r with timestamp := none }

namespace GameState

/-- The state without the times of all but the first `n` choices. -/
def untimed (n : Nat) (s : GameState) : GameState :=
  { s with history := s.history.take n ++ (s.history.drop n).map ChoiceRecord.untimed }

def SameButTimes (s s' : GameState) : Prop := s.untimed 0 = s'.untimed 0

theorem unseen_times : Template.Unseen SameButTimes where
  vars := by
    intro s s' h
    have hvars := congrArg vars (show s.untimed 0 = s'.untimed 0 from h)
    exact hvars
  flags := by
    intro s s' h
    have hflags := congrArg flags (show s.untimed 0 = s'.untimed 0 from h)
    exact hflags
  playerChose := by
    intro s s' h
    have hchose : ∀ s : GameState, (s.untimed 0).playerChose = s.playerChose := by
      intro s
      funext text scene
      simp only [playerChose, untimed, List.take_zero, List.drop_zero, List.nil_append,
        List.any_map]
      rfl
    rw [← hchose s, ← hchose s', show s.untimed 0 = s'.untimed 0 from h]

theorem sameButTimes_untimed (n : Nat) (s : GameState) : SameButTimes (s.untimed n) s := by
  have hagain : ChoiceRecord.untimed ∘ ChoiceRecord.untimed = ChoiceRecord.untimed := rfl
  have hhistory : (s.history.take n).map ChoiceRecord.untimed ++
      (s.history.drop n).map ChoiceRecord.untimed = s.history.map ChoiceRecord.untimed := by
    rw [← List.map_append, List.take_append_drop]
  simp only [SameButTimes, untimed, List.take_zero, List.drop_zero, List.nil_append,
    List.map_append, List.map_map, hagain, hhistory]

/-- A choice that is made later loses its time. -/
theorem untimed_addChoice {n : Nat} {s : GameState} (hn : n ≤ s.history.length)
    (r : ChoiceRecord) : (s.addChoice r).untimed n = (s.untimed n).addChoice r.untimed := by
  simp only [addChoice, untimed, List.take_append_of_le_length hn,
    List.drop_append_of_le_length hn, List.map_append, List.map_cons, List.map_nil,
    List.append_assoc]

theorem untimed_applyAll (n : Nat) (s : GameState) (actions : List Action) :
    (Action.applyAll s actions).untimed n = Action.applyAll (s.untimed n) actions := by
  have hwith := Action.applyAll_with s s.scene s.index (s.untimed n).history actions
  have hscene := Action.applyAll_scene s actions
  have hindex := Action.applyAll_index s actions
  have hhistory := Action.applyAll_history s actions
  refine Eq.trans ?_ hwith.symm
  simp only [untimed, hhistory, ← hscene, ← hindex]

theorem untimed_run (n : Nat) (s : GameState) (descriptors : List Json) :
    Action.run (s.untimed n) descriptors = (Action.run s descriptors).map (untimed n) := by
  unfold Action.run
  cases Action.ofDescriptors descriptors with
  | error fault => rfl
  | ok actions => exact congrArg Except.ok (untimed_applyAll n s actions).symm

end GameState

namespace Engine

def untimed (n : Nat) (e : Engine) : Engine := { e with state := e.state.untimed n }

def Turn.untimed (n : Nat) : Turn → Turn
  | .running e => .running (e.untimed n)
  | .stopped e step => .stopped (e.untimed n) step
  | .failed e fault => .failed (e.untimed n) fault

/-! ### Turns -/

theorem untimed_bump (n : Nat) (e : Engine) : (e.untimed n).bump = e.bump.untimed n := by
  unfold bump untimed
  cases e.frames <;> rfl

theorem untimed_enter (n : Nat) (e : Engine) (branch : List Instruction) (elseBranch : Bool) :
    (e.untimed n).enter branch elseBranch = (e.enter branch elseBranch).untimed n := by
  rw [enter_eq, enter_eq, untimed_bump]
  rfl

section blind

variable {e : Engine} (hblind : e.helpers.Blind GameState.SameButTimes) (n : Nat)

include hblind

theorem untimed_render : (e.untimed n).render = e.render := by
  have hsame := GameState.sameButTimes_untimed n e.state
  funext template
  exact Template.render_eq_of_blind hblind hsame rfl e.assets template

theorem untimed_holds : (e.untimed n).holds = e.holds := by
  have hsame := GameState.sameButTimes_untimed n e.state
  funext condition
  exact Template.holds_eq_of_blind hblind hsame rfl e.assets condition

theorem untimed_speak (speaker : Option String) (text : String)
    (choices : Option (List ChoiceOption)) :
    (e.untimed n).speak speaker text choices = e.speak speaker text choices :=
  speak_congr (untimed_render hblind n) (untimed_holds hblind n) speaker text choices

theorem untimed_perform (i : Instruction) :
    (e.untimed n).perform i = (e.perform i).untimed n := by
  cases i with
  | action actions l =>
      simp only [perform, untimed, GameState.untimed_run]
      cases Action.run e.state actions with
      | error fault => rfl
      | ok state => exact congrArg Turn.running (untimed_bump n { e with state })
  | dialogue speaker text actions choices l =>
      simp only [perform, untimed, GameState.untimed_run]
      cases Action.run e.state actions with
      | error fault => rfl
      | ok state =>
          have hspeak := untimed_speak (e := { e with state }) hblind n speaker text choices
          simp only [Except.map]
          rw [show ({ e with state := state.untimed n } : Engine) = untimed n { e with state }
            from rfl, hspeak]
          cases { e with state }.speak speaker text choices with
          | error fault => rfl
          | ok p =>
              simp only [display, untimed_bump]
              cases p.options.isEmpty with
              | true => rfl
              | false => rfl
  | conditional condition thenBranch elseBranch l =>
      simp only [perform, untimed_holds hblind n]
      cases e.holds condition with
      | error fault => rfl
      | ok chosen =>
          cases chosen with
          | true => exact congrArg Turn.running (untimed_enter n e _ _)
          | false => exact congrArg Turn.running (untimed_enter n e _ _)
  | jump target l =>
      simp only [perform, jump, show (e.untimed n).hasScene target = e.hasScene target from rfl]
      cases e.hasScene target with
      | true => rfl
      | false => rfl

theorem untimed_turn : (e.untimed n).turn = e.turn.untimed n := by
  have hnext : (e.untimed n).settle.next? = e.settle.next? := rfl
  rw [turn, turn, hnext]
  cases e.settle.next? with
  | error cause => rfl
  | ok next =>
      cases next with
      | none => rfl
      | some i => exact untimed_perform (e := e.settle) hblind n i

end blind

theorem untimed_runToStep {e : Engine} (hblind : e.helpers.Blind GameState.SameButTimes) (n : Nat) :
    (e.untimed n).runToStep = (e.runToStep.1, e.runToStep.2.untimed n) := by
  have hrun : ∀ k (e : Engine), e.helpers.Blind GameState.SameButTimes →
      run k (e.untimed n) = ((run k e).1.untimed n, (run k e).2) := by
    intro k e hblind
    induction k generalizing e with
    | zero => rfl
    | succ k ih =>
        have hsetting := setting_turn e
        rw [run, run, untimed_turn hblind n]
        cases hturn : e.turn with
        | running e' =>
            rw [hturn] at hsetting
            refine ih e' ?_
            rwa [show e'.helpers = e.helpers from congrArg Setting.helpers hsetting]
        | stopped e' step => rfl
        | failed e' fault => rfl
  have hrun' := hrun maxTurns { e with status := .sceneActive } hblind
  rw [runToStep, runToStep,
    show ({ e.untimed n with status := .sceneActive } : Engine) =
      untimed n { e with status := .sceneActive } from rfl, hrun']
  cases run maxTurns { e with status := .sceneActive } with
  | mk e' result =>
      cases result with
      | ok step => rfl
      | error fault => rfl

/-! ### Moves -/

def takeAs (e : Engine) (r : ChoiceRecord) (option : ChoiceOption) (actions : List Action) :
    Engine :=
  let moved := { e with pending := none, state := e.state.addChoice r }.bump
  let acted := { moved with state := Action.applyAll moved.state actions }
  match option.target with
  | none => acted
  | some target =>
    { acted with state := acted.state.setPosition target 0, frames := [], held := [] }

theorem take_eq_takeAs (e : Engine) (now text : String) (option : ChoiceOption)
    (actions : List Action) :
    e.take now text option actions =
      e.takeAs ⟨text, e.state.scene.getD "", some now⟩ option actions := rfl

theorem history_takeAs (e : Engine) (r : ChoiceRecord) (option : ChoiceOption)
    (actions : List Action) :
    (e.takeAs r option actions).state.history = e.state.history ++ [r] := by
  have hmoved := history_bump { e with pending := none, state := e.state.addChoice r }
  unfold takeAs
  cases option.target with
  | none => exact (Action.applyAll_history _ _).trans hmoved
  | some target => exact (Action.applyAll_history _ _).trans hmoved

theorem untimed_takeAs {n : Nat} {e : Engine} (hn : n ≤ e.state.history.length) (r : ChoiceRecord)
    (option : ChoiceOption) (actions : List Action) :
    (e.takeAs r option actions).untimed n = (e.untimed n).takeAs r.untimed option actions := by
  let moved : Engine := { e with pending := none, state := e.state.addChoice r }.bump
  let moved' : Engine :=
    { e.untimed n with pending := none, state := (e.untimed n).state.addChoice r.untimed }.bump
  have hmoved : moved.untimed n = moved' := by
    rw [show moved.untimed n = _ from (untimed_bump n _).symm]
    refine congrArg bump ?_
    exact congrArg (fun state => { e with pending := none, state })
      (GameState.untimed_addChoice hn r)
  have hacted : untimed n { moved with state := Action.applyAll moved.state actions } =
      { moved' with state := Action.applyAll moved'.state actions } := by
    rw [← hmoved]
    exact congrArg (fun state => { moved with state })
      (GameState.untimed_applyAll n moved.state actions)
  unfold takeAs
  cases option.target with
  | none => exact hacted
  | some target =>
      exact congrArg (fun e : Engine =>
        { e with state := e.state.setPosition target 0, frames := [], held := [] }) hacted

def Move.untimed : Move → Move
  | .choose _ index => .choose "" index
  | .start scene => .start scene
  | .proceed => .proceed

/-- The engines differ in nothing but the times of choices after the first `n`, which were made in
both. -/
structure Alike (n : Nat) (e e' : Engine) : Prop where
  same : e.untimed n = e'.untimed n
  made : n ≤ e.state.history.length
  made' : n ≤ e'.state.history.length

namespace Alike

variable {n : Nat} {e e' : Engine}

/-- What does not depend on times is the same. -/
theorem eq {α : Type} (h : Alike n e e') (f : Engine → α) (hf : ∀ e, f (e.untimed n) = f e) :
    f e' = f e :=
  (hf e').symm.trans ((congrArg f h.same.symm).trans (hf e))

theorem runToStep (h : Alike n e e') (hblind : e.helpers.Blind GameState.SameButTimes) :
    e'.runToStep.1 = e.runToStep.1 ∧ Alike n e.runToStep.2 e'.runToStep.2 := by
  have hblind' : e'.helpers.Blind GameState.SameButTimes := by
    rwa [show e'.helpers = e.helpers from h.eq helpers fun _ => rfl]
  have hrun := untimed_runToStep hblind n
  rw [h.same, untimed_runToStep hblind' n, Prod.mk.injEq] at hrun
  refine ⟨hrun.1, hrun.2.symm, ?_, ?_⟩
  · rw [history_runToStep]
    exact h.made
  · rw [history_runToStep]
    exact h.made'

/-- Choices that are taken in both at whatever times leave the engines alike. -/
theorem take (h : Alike n e e') (now now' text : String) (option : ChoiceOption)
    (actions : List Action) :
    Alike n (e.take now text option actions) (e'.take now' text option actions) := by
  have hscene : e'.state.scene = e.state.scene := h.eq (fun e => e.state.scene) fun _ => rfl
  rw [take_eq_takeAs, take_eq_takeAs, hscene]
  refine ⟨?_, ?_, ?_⟩
  · rw [untimed_takeAs h.made, untimed_takeAs h.made', h.same]
    rfl
  · rw [history_takeAs, List.length_append]
    exact Nat.le_add_right_of_le h.made
  · rw [history_takeAs, List.length_append]
    exact Nat.le_add_right_of_le h.made'

theorem start (h : Alike n e e') (hblind : e.helpers.Blind GameState.SameButTimes)
    (name : String) :
    (e'.start name).1 = (e.start name).1 ∧ Alike n (e.start name).2 (e'.start name).2 := by
  have hscene : e'.hasScene name = e.hasScene name := h.eq (hasScene · name) fun _ => rfl
  simp only [Engine.start, hscene]
  split
  · refine runToStep ⟨?_, h.made, h.made'⟩ hblind
    exact congrArg (fun e : Engine =>
      { e with
        state := e.state.setPosition name 0, frames := [], held := []
        pending := none }) h.same
  · exact ⟨rfl, h⟩

theorem proceed (h : Alike n e e') (hblind : e.helpers.Blind GameState.SameButTimes) :
    e'.proceed.1 = e.proceed.1 ∧ Alike n e.proceed.2 e'.proceed.2 := by
  have hstatus : e'.status = e.status := h.eq status fun _ => rfl
  have hpending : e'.pending = e.pending := h.eq pending fun _ => rfl
  have hscene : e'.state.scene = e.state.scene := h.eq (fun e => e.state.scene) fun _ => rfl
  simp only [Engine.proceed, hstatus, hpending, hscene]
  split
  · exact ⟨rfl, h⟩
  · exact ⟨rfl, h⟩
  · split
    · exact ⟨rfl, h⟩
    · exact h.runToStep hblind

theorem choose (h : Alike n e e') (hblind : e.helpers.Blind GameState.SameButTimes)
    (now now' : String) (index : Nat) :
    (e'.choose now' index).1 = (e.choose now index).1 ∧
      Alike n (e.choose now index).2 (e'.choose now' index).2 := by
  have hstatus : e'.status = e.status := h.eq status fun _ => rfl
  have hpending : e'.pending = e.pending := h.eq pending fun _ => rfl
  have hcheck : e'.checkChoice = e.checkChoice := h.eq checkChoice fun _ => rfl
  simp only [Engine.choose, hstatus, hpending, hcheck]
  split
  · split
    · exact ⟨rfl, h⟩
    · split
      · exact ⟨rfl, h⟩
      · rename_i option hoption _ actions hactions
        have hhelpers : ∀ text, (e.take now text option actions).helpers = e.helpers :=
          fun text => congrArg Setting.helpers (setting_take e now text option actions)
        refine (h.take now now' _ _ _).runToStep ?_
        rwa [hhelpers]
  · exact ⟨rfl, h⟩

theorem move (h : Alike n e e') (hblind : e.helpers.Blind GameState.SameButTimes) {m m' : Move}
    (hm : m'.untimed = m.untimed) :
    (e'.move m').1 = (e.move m).1 ∧ Alike n (e.move m).2 (e'.move m').2 := by
  cases m with
  | start name =>
      cases m' with
      | start name' =>
          cases hm
          exact h.start hblind name
      | _ => cases hm
  | proceed =>
      cases m' with
      | proceed => exact h.proceed hblind
      | _ => cases hm
  | choose now index =>
      cases m' with
      | choose now' index' =>
          cases hm
          exact h.choose hblind now now' index
      | _ => cases hm

end Alike

end Engine

end BranchingStory
