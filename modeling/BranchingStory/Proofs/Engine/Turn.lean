import BranchingStory.Engine.Run
import BranchingStory.Proofs.GameState
import Mathlib.Data.List.DropRight

/-!
What a turn can do, said once. The operations that move the story get one lemma for each field that
they leave alone; `Performs` lists the outcomes of an instruction together with what led to them,
and every statement about turns below takes its cases from there.
-/

namespace BranchingStory

structure Setting where
  scenes : List (String × List Instruction)
  assets : List Asset
  helpers : Template.Registry

namespace Engine

def setting (e : Engine) : Setting := ⟨e.scenes, e.assets, e.helpers⟩

/-! ### The current scene -/

def Loaded (e : Engine) : Prop := ∃ body, e.sceneBody = .ok body

/-- The instructions of the current scene are found by its name. -/
theorem sceneBody_eq_ok_iff {e : Engine} {body : List Instruction} :
    e.sceneBody = .ok body ↔
      ∃ name, e.state.scene = some name ∧ Keyed.get? name e.scenes = some body := by
  unfold sceneBody
  cases hscene : e.state.scene with
  | none => simp
  | some name =>
      cases hget : Keyed.get? name e.scenes with
      | none => simp [hget]
      | some found => simp [hget]

theorem sceneBody_congr {e e' : Engine} (hscenes : e'.scenes = e.scenes)
    (hscene : e'.state.scene = e.state.scene) : e'.sceneBody = e.sceneBody := by
  unfold sceneBody
  rw [hscenes, hscene]

theorem sceneBody_acted {e : Engine} {actions : List Json} {state : GameState}
    (hrun : Action.run e.state actions = .ok state) : { e with state }.sceneBody = e.sceneBody :=
  sceneBody_congr rfl (Action.run_scene hrun)

theorem hasScene_iff {e : Engine} {name : String} :
    e.hasScene name = true ↔ ∃ body, Keyed.get? name e.scenes = some body := by
  rw [hasScene, Keyed.contains, Option.isSome_iff_exists]

/-! ### Moving past an instruction -/

section bump

variable (e : Engine)

@[simp] theorem setting_bump : e.bump.setting = e.setting := by unfold bump; split <;> rfl

@[simp] theorem scenes_bump : e.bump.scenes = e.scenes := by unfold bump; split <;> rfl

@[simp] theorem held_bump : e.bump.held = e.held := by unfold bump; split <;> rfl

@[simp] theorem pending_bump : e.bump.pending = e.pending := by unfold bump; split <;> rfl

@[simp] theorem status_bump : e.bump.status = e.status := by unfold bump; split <;> rfl

@[simp] theorem scene_bump : e.bump.state.scene = e.state.scene := by unfold bump; split <;> rfl

@[simp] theorem history_bump : e.bump.state.history = e.state.history := by
  unfold bump; split <;> rfl

@[simp] theorem vars_bump : e.bump.state.vars = e.state.vars := by unfold bump; split <;> rfl

@[simp] theorem flags_bump : e.bump.state.flags = e.state.flags := by unfold bump; split <;> rfl

@[simp] theorem sceneBody_bump : e.bump.sceneBody = e.sceneBody :=
  sceneBody_congr (scenes_bump e) (scene_bump e)

end bump

/-- Entering a branch is moving past its conditional and opening at most one frame. -/
theorem enter_eq (e : Engine) (branch : List Instruction) (elseBranch : Bool) :
    e.enter branch elseBranch = { e.bump with
      frames := (if branch.isEmpty then [] else [⟨branch, 0, e.cursor, elseBranch⟩]) ++
        e.bump.frames } := by
  unfold enter
  split <;> rfl

@[simp] theorem setting_enter (e : Engine) (branch : List Instruction) (elseBranch : Bool) :
    (e.enter branch elseBranch).setting = e.setting := by
  rw [enter_eq]
  exact setting_bump e

@[simp] theorem pending_enter (e : Engine) (branch : List Instruction) (elseBranch : Bool) :
    (e.enter branch elseBranch).pending = e.pending := by
  rw [enter_eq]
  exact pending_bump e

@[simp] theorem sceneBody_enter (e : Engine) (branch : List Instruction) (elseBranch : Bool) :
    (e.enter branch elseBranch).sceneBody = e.sceneBody := by
  rw [enter_eq]
  exact sceneBody_bump e

@[simp] theorem history_enter (e : Engine) (branch : List Instruction) (elseBranch : Bool) :
    (e.enter branch elseBranch).state.history = e.state.history := by
  rw [enter_eq]
  exact history_bump e

theorem loaded_setPosition {e : Engine} {target : String} (h : e.hasScene target = true) :
    Loaded { e with state := e.state.setPosition target 0, frames := [], held := [] } := by
  obtain ⟨body, hbody⟩ := hasScene_iff.mp h
  exact ⟨body, sceneBody_eq_ok_iff.mpr ⟨target, rfl, hbody⟩⟩

/-! ### What a dialogue shows -/

def shows (e : Engine) (option : ChoiceOption) : Bool :=
  match option.condition with
  | none => true
  | some condition =>
    match e.holds condition with
    | .ok shown => shown
    | .error _ => false

theorem visible_eq_filter {e : Engine} {options shown : List ChoiceOption}
    (h : e.visible options = .ok shown) : shown = options.filter e.shows := by
  induction options generalizing shown with
  | nil =>
      simp only [visible, Except.ok.injEq] at h
      simp [← h]
  | cons option rest ih =>
      rw [visible] at h
      split at h
      · simp at h
      · rename_i seen hseen
        have hshows : e.shows option = seen := by
          unfold shows
          cases hcondition : option.condition with
          | none => simpa [hcondition] using hseen
          | some condition =>
              have hholds : e.holds condition = .ok seen := by simpa [hcondition] using hseen
              simp [hholds]
        split at h
        · simp at h
        · rename_i others hothers
          simp only [Except.ok.injEq] at h
          rw [← h, List.filter_cons, hshows, ← ih hothers]

/-- The choices that are offered count up. Each has the text of the option behind it, as it renders,
and leads where that option leads. -/
theorem present_eq_ok {e : Engine} {index : Nat} {options : List ChoiceOption}
    {presented : List PresentedChoice} (h : e.present index options = .ok presented) :
    presented.map PresentedChoice.index = List.range' index options.length ∧
      presented.map PresentedChoice.target = options.map ChoiceOption.target ∧
      presented.map (fun shown => .ok shown.text) =
        options.map (fun option => e.render option.text) := by
  induction options generalizing index presented with
  | nil =>
      obtain rfl := Except.ok.inj h
      exact ⟨rfl, rfl, rfl⟩
  | cons option rest ih =>
      rw [present] at h
      split at h
      · simp at h
      · rename_i text htext
        split at h
        · simp at h
        · rename_i others hothers
          obtain rfl := Except.ok.inj h
          obtain ⟨hindex, htarget, htexts⟩ := ih hothers
          simp only [List.map_cons, hindex, htarget, htexts, htext, List.length_cons,
            List.range'_succ, and_self]

/-- A dialogue shows the options that are visible. -/
theorem speak_eq_ok {e : Engine} {speaker : Option String} {text : String}
    {choices : Option (List ChoiceOption)} {p : Pending}
    (h : e.speak speaker text choices = .ok p) :
    p.options = (choices.getD []).filter e.shows ∧ e.present 0 p.options = .ok p.presented := by
  unfold speak at h
  split at h
  · simp at h
  · split at h
    · simp at h
    · split at h
      · simp at h
      · rename_i options hvisible
        split at h
        · simp at h
        · rename_i presented hpresent
          obtain rfl := Except.ok.inj h
          exact ⟨visible_eq_filter hvisible, hpresent⟩

/-- Only a dialogue that has choices written can show some. -/
theorem written_of_speak {e : Engine} {speaker : Option String} {text : String}
    {choices : Option (List ChoiceOption)} {p : Pending}
    (h : e.speak speaker text choices = .ok p) (hsome : p.options ≠ []) :
    ∃ written, choices = some written := by
  cases choices with
  | none => exact absurd (speak_eq_ok h).1 hsome
  | some written => exact ⟨written, rfl⟩

/-- What a dialogue shows is a matter of how templates render and which conditions hold. -/
theorem speak_congr {e e' : Engine} (hrender : e'.render = e.render) (hholds : e'.holds = e.holds)
    (speaker : Option String) (text : String) (choices : Option (List ChoiceOption)) :
    e'.speak speaker text choices = e.speak speaker text choices := by
  have hvisible : ∀ options, e'.visible options = e.visible options := by
    intro options
    induction options with
    | nil => rfl
    | cons option rest ih => simp only [visible, hholds, ih]
  have hpresent : ∀ options index, e'.present index options = e.present index options := by
    intro options
    induction options with
    | nil => exact fun _ => rfl
    | cons option rest ih => exact fun index => by simp only [present, hrender, ih]
  have hspeaker : e'.renderSpeaker speaker = e.renderSpeaker speaker := by
    cases speaker with
    | none => rfl
    | some name => simp only [renderSpeaker, hrender]
  simp only [speak, hvisible, hpresent, hspeaker, hrender]

theorem speak_waiting (e : Engine) (pending : Option Pending) (status : Status)
    (speaker : Option String) (text : String) (choices : Option (List ChoiceOption)) :
    speak { e with pending, status } speaker text choices = e.speak speaker text choices := by
  refine speak_congr ?_ ?_ speaker text choices
  · rfl
  · rfl

/-! ### Instructions -/

inductive Performs (e : Engine) : Instruction → Turn → Prop
  | act {actions : List Json} {l : Location} {state : GameState}
      (hrun : Action.run e.state actions = .ok state) :
      Performs e (.action actions l) (.running { e with state }.bump)
  | actFault {actions : List Json} {l : Location} {fault : Fault}
      (hrun : Action.run e.state actions = .error fault) :
      Performs e (.action actions l) (.failed e fault)
  | line {speaker : Option String} {text : String} {actions : List Json}
      {choices : Option (List ChoiceOption)} {l : Location} {state : GameState} {p : Pending}
      (hrun : Action.run e.state actions = .ok state)
      (hspeak : { e with state }.speak speaker text choices = .ok p) (hnone : p.options = []) :
      Performs e (.dialogue speaker text actions choices l)
        (.stopped { e with state }.bump
          (.dialogue p.content p.speaker { e with state }.bump.canContinue))
  | offer {speaker : Option String} {text : String} {actions : List Json}
      {choices : Option (List ChoiceOption)} {l : Location} {state : GameState} {p : Pending}
      (hrun : Action.run e.state actions = .ok state)
      (hspeak : { e with state }.speak speaker text choices = .ok p) (hsome : p.options ≠ []) :
      Performs e (.dialogue speaker text actions choices l)
        (.stopped { e with state, pending := some p, status := .awaitingChoice } p.step)
  | lineFault {speaker : Option String} {text : String} {actions : List Json}
      {choices : Option (List ChoiceOption)} {l : Location} {state : GameState} {fault : Fault}
      (hrun : Action.run e.state actions = .ok state)
      (hspeak : { e with state }.speak speaker text choices = .error fault) :
      Performs e (.dialogue speaker text actions choices l) (.failed { e with state } fault)
  | lineActFault {speaker : Option String} {text : String} {actions : List Json}
      {choices : Option (List ChoiceOption)} {l : Location} {fault : Fault}
      (hrun : Action.run e.state actions = .error fault) :
      Performs e (.dialogue speaker text actions choices l) (.failed e fault)
  | branch {condition : String} {thenBranch : List Instruction}
      {elseBranch : Option (List Instruction)} {l : Location}
      (hholds : e.holds condition = .ok true) :
      Performs e (.conditional condition thenBranch elseBranch l)
        (.running (e.enter thenBranch false))
  | otherwise {condition : String} {thenBranch : List Instruction}
      {elseBranch : Option (List Instruction)} {l : Location}
      (hholds : e.holds condition = .ok false) :
      Performs e (.conditional condition thenBranch elseBranch l)
        (.running (e.enter (elseBranch.getD []) true))
  | conditionFault {condition : String} {thenBranch : List Instruction}
      {elseBranch : Option (List Instruction)} {l : Location} {fault : Fault}
      (hholds : e.holds condition = .error fault) :
      Performs e (.conditional condition thenBranch elseBranch l) (.failed e fault)
  | jump {target : String} {l : Location} (hscene : e.hasScene target = true) :
      Performs e (.jump target l)
        (.running { e with state := e.state.setPosition target 0, frames := [], held := [] })
  | jumpFault {target : String} {l : Location} (hscene : e.hasScene target = false) :
      Performs e (.jump target l) (.failed e (.engine (.jumpTargetNotFound target)))

theorem performs_perform (e : Engine) (i : Instruction) : Performs e i (e.perform i) := by
  cases i with
  | action actions l =>
      rw [perform]
      cases hrun : Action.run e.state actions with
      | error fault => exact .actFault hrun
      | ok state => exact .act hrun
  | dialogue speaker text actions choices l =>
      rw [perform]
      cases hrun : Action.run e.state actions with
      | error fault => exact .lineActFault hrun
      | ok state =>
          dsimp only
          cases hspeak : { e with state }.speak speaker text choices with
          | error fault => exact .lineFault hrun hspeak
          | ok p =>
              dsimp only [display]
              split
              · rename_i hempty
                exact .line hrun hspeak (List.isEmpty_iff.mp hempty)
              · rename_i hempty
                exact .offer hrun hspeak (fun h => hempty (List.isEmpty_iff.mpr h))
  | conditional condition thenBranch elseBranch l =>
      rw [perform]
      cases hholds : e.holds condition with
      | error fault => exact .conditionFault hholds
      | ok shown =>
          cases shown with
          | false => exact .otherwise hholds
          | true => exact .branch hholds
  | jump target l =>
      rw [perform, jump]
      cases hscene : e.hasScene target with
      | false => exact .jumpFault hscene
      | true => exact .jump hscene

/-! ### Turns and runs -/

/-- After finished branches are left, the innermost open branch has an instruction left. -/
theorem index_lt_of_settle {e : Engine} {f : Frame} {rest : List Frame}
    (h : e.settle.frames = f :: rest) : f.index < f.instructions.length := by
  have hhead := List.head?_dropWhile_not Frame.finished e.frames
  rw [show e.frames.dropWhile Frame.finished = f :: rest from h] at hhead
  simpa [Frame.finished] using hhead

theorem settle_settle (e : Engine) : e.settle.settle = e.settle := by
  have hframes : e.settle.frames.dropWhile Frame.finished = e.settle.frames :=
    List.dropWhile_idempotent _ _
  exact congrArg (fun frames => { e.settle with frames }) hframes

/-- Where no instruction is left, no branch is open and the scene is at its end. -/
theorem settle_of_next?_none {e : Engine} (h : e.settle.next? = .ok none) :
    e.settle.frames = [] ∧ ∃ body, e.sceneBody = .ok body ∧ body.length ≤ e.state.index := by
  cases hframes : e.settle.frames with
  | nil =>
      refine ⟨rfl, ?_⟩
      rw [next?, hframes] at h
      cases hbody : e.settle.sceneBody with
      | error cause => simp [hbody] at h
      | ok body =>
          simp only [hbody, Except.ok.injEq, List.getElem?_eq_none_iff] at h
          exact ⟨body, hbody, h⟩
  | cons f rest =>
      rw [next?, hframes] at h
      simp only [Except.ok.injEq, List.getElem?_eq_none_iff] at h
      exact absurd (index_lt_of_settle hframes) (Nat.not_lt.mpr h)

inductive Turns (e : Engine) : Turn → Prop
  | lost {cause : EngineFault} (hnext : e.settle.next? = .error cause) :
      Turns e (.failed e.settle (.engine cause))
  | complete (hnext : e.settle.next? = .ok none) :
      Turns e (.stopped { e.settle with frames := [], status := .sceneComplete } .sceneComplete)
  | perform {i : Instruction} {outcome : Turn} (hnext : e.settle.next? = .ok (some i))
      (hperform : Performs e.settle i outcome) : Turns e outcome

theorem turns_turn (e : Engine) : Turns e e.turn := by
  rw [turn]
  cases hnext : e.settle.next? with
  | error cause => exact .lost hnext
  | ok next =>
      cases next with
      | none => exact .complete hnext
      | some i => exact .perform hnext (performs_perform e.settle i)

def Turn.engine : Turn → Engine
  | .running e => e
  | .stopped e _ => e
  | .failed e _ => e

/-- No turn changes the scenes, the assets or the helpers. -/
theorem setting_turn (e : Engine) : e.turn.engine.setting = e.setting := by
  have hturns := turns_turn e
  generalize e.turn = outcome at hturns ⊢
  cases hturns with
  | lost hnext => rfl
  | complete hnext => rfl
  | perform hnext hperforms =>
      cases hperforms with
      | act hrun => exact setting_bump _
      | line hrun hspeak hnone => exact setting_bump _
      | branch hholds => exact setting_enter _ _ _
      | otherwise hholds => exact setting_enter _ _ _
      | _ => rfl

theorem history_turn (e : Engine) : e.turn.engine.state.history = e.state.history := by
  have hturns := turns_turn e
  generalize e.turn = outcome at hturns ⊢
  cases hturns with
  | lost hnext => rfl
  | complete hnext => rfl
  | perform hnext hperforms =>
      cases hperforms with
      | act hrun => exact (history_bump _).trans (Action.run_history hrun)
      | line hrun hspeak hnone => exact (history_bump _).trans (Action.run_history hrun)
      | offer hrun hspeak hsome => exact Action.run_history hrun
      | lineFault hrun hspeak => exact Action.run_history hrun
      | branch hholds => exact history_enter _ _ _
      | otherwise hholds => exact history_enter _ _ _
      | _ => rfl

/-- While a run goes on no choices come up, and the scene stays loaded. -/
theorem turn_eq_running {e e' : Engine} (hturn : e.turn = .running e') :
    e'.pending = e.pending ∧ (e.Loaded → e'.Loaded) := by
  have hturns := turns_turn e
  rw [hturn] at hturns
  cases hturns with
  | perform hnext hperforms =>
      cases hperforms with
      | act hrun =>
          refine ⟨pending_bump _, ?_⟩
          rintro ⟨body, hbody⟩
          exact ⟨body, (sceneBody_bump _).trans ((sceneBody_acted hrun).trans hbody)⟩
      | branch hholds =>
          refine ⟨pending_enter _ _ _, ?_⟩
          rintro ⟨body, hbody⟩
          exact ⟨body, (sceneBody_enter _ _ _).trans hbody⟩
      | otherwise hholds =>
          refine ⟨pending_enter _ _ _, ?_⟩
          rintro ⟨body, hbody⟩
          exact ⟨body, (sceneBody_enter _ _ _).trans hbody⟩
      | jump hscene => exact ⟨rfl, fun _ => loaded_setPosition hscene⟩

/-- What holds of a run: `P` of the engine as long as the run goes on, and then `Q` of what it
ends with. -/
theorem run_induction {P : Engine → Prop} {Q : Engine → Except Fault Step → Prop}
    (hguard : ∀ e, P e → Q e (.error (.engine (.guardExceeded maxTurns))))
    (hrunning : ∀ e e', P e → e.turn = .running e' → P e')
    (hstopped : ∀ e e' step, P e → e.turn = .stopped e' step → Q e' (.ok step))
    (hfailed : ∀ e e' fault, P e → e.turn = .failed e' fault → Q e' (.error fault))
    (n : Nat) (e : Engine) (h : P e) : Q (run n e).1 (run n e).2 := by
  induction n generalizing e with
  | zero => exact hguard e h
  | succ n ih =>
      rw [run]
      cases hturn : e.turn with
      | running e' => exact ih e' (hrunning e e' h hturn)
      | stopped e' step => exact hstopped e e' step h hturn
      | failed e' fault => exact hfailed e e' fault h hturn

/-- What no turn changes is the same after a run, and after the step that it shows. -/
theorem runToStep_keeps {α : Type} {f : Engine → α} (hturn : ∀ e, f e.turn.engine = f e)
    (hwaiting : ∀ e pending status, f { e with pending, status } = f e) (e : Engine) :
    f e.runToStep.2 = f e := by
  have hrun : ∀ n e, f (run n e).1 = f e := by
    intro n e
    induction n generalizing e with
    | zero => rfl
    | succ n ih =>
        have hsame := hturn e
        rw [run]
        cases hturn' : e.turn with
        | running e' =>
            rw [hturn'] at hsame
            exact (ih e').trans hsame
        | stopped e' step => rwa [hturn'] at hsame
        | failed e' fault => rwa [hturn'] at hsame
  have hsame := (hrun maxTurns _).trans (hwaiting e e.pending .sceneActive)
  unfold runToStep
  split
  · rename_i e' step heq
    rwa [heq] at hsame
  · rename_i e' fault heq
    rw [heq] at hsame
    exact (hwaiting e' none .error).trans hsame

theorem setting_runToStep (e : Engine) : e.runToStep.2.setting = e.setting :=
  runToStep_keeps setting_turn (fun _ _ _ => rfl) e

theorem history_runToStep (e : Engine) : e.runToStep.2.state.history = e.state.history :=
  runToStep_keeps (f := fun e => e.state.history) history_turn (fun _ _ _ => rfl) e

end Engine

end BranchingStory
