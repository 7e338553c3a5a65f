import BranchingStory.Proofs.Engine.Coherence
import BranchingStory.Proofs.Template

/-!
Branches are nothing but text put in place. A flat machine keeps what the story remembers, the name
of its scene and the list of instructions that remain, and knows no branches: a conditional is
replaced by its branch, and a jump replaces the whole list. An engine plays a story just as the flat
machine does that remains of it, step by step and with the same number of turns.

The flat machine has no index into the scene, so helpers of the host must not look at one.
-/

namespace BranchingStory

/-- What the story remembers, its scene, and the instructions that remain. -/
structure Flat where
  vars : List (String × Value)
  flags : List String
  history : List ChoiceRecord
  scene : Option String
  rest : List Instruction

namespace Flat

/-! ### The machine -/

def state (m : Flat) : GameState :=
  { scene := m.scene, vars := m.vars, flags := m.flags, history := m.history }

def withState (m : Flat) (s : GameState) : Flat :=
  { m with vars := s.vars, flags := s.flags, history := s.history }

def viewer (t : Setting) (m : Flat) : Engine :=
  { scenes := t.scenes, assets := t.assets, helpers := t.helpers, state := m.state }

inductive Outcome where
  | running (m : Flat)
  | stopped (m : Flat) (step : Step) (offer : Option Pending)
  | failed (m : Flat) (fault : Fault)

/-- Carries out an instruction that has `tail` behind it. -/
def perform (t : Setting) (m : Flat) (tail : List Instruction) : Instruction → Outcome
  | .action actions _ =>
    match Action.run m.state actions with
    | .error fault => .failed m fault
    | .ok s => .running { m.withState s with rest := tail }
  | .dialogue speaker text actions choices _ =>
    match Action.run m.state actions with
    | .error fault => .failed m fault
    | .ok s =>
      match ((m.withState s).viewer t).speak speaker text choices with
      | .error fault => .failed (m.withState s) fault
      | .ok p =>
        if p.options.isEmpty then
          .stopped { m.withState s with rest := tail }
            (.dialogue p.content p.speaker (!tail.isEmpty)) none
        else .stopped (m.withState s) p.step (some p)
  | .conditional condition thenBranch elseBranch _ =>
    match (m.viewer t).holds condition with
    | .error fault => .failed m fault
    | .ok true => .running { m with rest := thenBranch ++ tail }
    | .ok false => .running { m with rest := elseBranch.getD [] ++ tail }
  | .jump target _ =>
    match Keyed.get? target t.scenes with
    | none => .failed m (.engine (.jumpTargetNotFound target))
    | some body => .running { m with scene := some target, rest := body }

def turn (t : Setting) (m : Flat) : Outcome :=
  match m.rest with
  | [] => .stopped m .sceneComplete none
  | i :: tail => m.perform t tail i

def run (t : Setting) : Nat → Flat → Outcome
  | 0, m => .failed m (.engine (.guardExceeded Engine.maxTurns))
  | n + 1, m =>
    match m.turn t with
    | .running m => run t n m
    | outcome => outcome

/-- The step that a run shows, the choices that wait after it, and the machine. -/
def Outcome.answer : Outcome → Step × Option Pending × Flat
  | .running m => (.sceneComplete, none, m)
  | .stopped m step offer => (step, offer, m)
  | .failed m fault => (.fault fault, none, m)

def play (t : Setting) (m : Flat) : Step × Option Pending × Flat :=
  (run t Engine.maxTurns m).answer

def goTo (m : Flat) (name : String) (body : List Instruction) : Flat :=
  { m with scene := some name, rest := body }

/-- The machine after a choice: the choice is recorded, its dialogue is done, its actions are
carried out, and the story moves to its target if it has one. -/
def take (t : Setting) (m : Flat) (now text : String) (option : ChoiceOption)
    (actions : List Action) : Flat :=
  let record : ChoiceRecord := ⟨text, m.scene.getD "", some now⟩
  let acted := m.withState (Action.applyAll (m.state.addChoice record) actions)
  match option.target with
  | none => { acted with rest := m.rest.tail }
  | some target => acted.goTo target ((Keyed.get? target t.scenes).getD [])

end Flat

def GameState.SameButIndex (s s' : GameState) : Prop := s = { s' with index := s.index }

theorem GameState.unseen_index : Template.Unseen GameState.SameButIndex where
  vars := fun h => by rw [h]
  flags := fun h => by rw [h]
  playerChose := fun h => by rw [h]; rfl

namespace Engine

/-- The instructions that remain: those of the open branches, innermost first, and then those of the
scene. -/
def remaining (e : Engine) : List Instruction :=
  e.frames.flatMap (fun f => f.instructions.drop f.index) ++
    match e.sceneBody with
    | .ok body => body.drop e.state.index
    | .error _ => []

def flat (e : Engine) : Flat :=
  { vars := e.state.vars
    flags := e.state.flags
    history := e.state.history
    scene := e.state.scene
    rest := e.remaining }

/-! ### What remains -/

theorem remaining_congr {e e' : Engine} (hbody : e'.sceneBody = e.sceneBody)
    (hframes : e'.frames = e.frames) (hindex : e'.state.index = e.state.index) :
    e'.remaining = e.remaining := by
  unfold remaining
  rw [hbody, hframes, hindex]

/-- Finished branches have nothing left, so leaving them changes nothing. -/
theorem remaining_settle (e : Engine) : e.settle.remaining = e.remaining := by
  have hdrop : ∀ frames : List Frame,
      (frames.dropWhile Frame.finished).flatMap (fun f => f.instructions.drop f.index) =
        frames.flatMap (fun f => f.instructions.drop f.index) := by
    intro frames
    induction frames with
    | nil => rfl
    | cons f rest ih =>
        by_cases hfinished : f.finished
        · have hnil : f.instructions.drop f.index = [] :=
            List.drop_eq_nil_of_le (by simpa [Frame.finished] using hfinished)
          rw [List.dropWhile_cons_of_pos hfinished, ih, List.flatMap_cons, hnil, List.nil_append]
        · rw [List.dropWhile_cons_of_neg hfinished]
  unfold remaining
  exact congrArg (· ++ _) (hdrop e.frames)

/-- The instruction at the cursor is the first that remains, and moving past it leaves the
others. -/
theorem remaining_of_next? {e : Engine} {i : Instruction} (hnext : e.next? = .ok (some i)) :
    e.remaining = i :: e.bump.remaining := by
  unfold next? at hnext
  unfold remaining
  rw [sceneBody_bump]
  unfold bump
  cases hframes : e.frames with
  | nil =>
      rw [hframes] at hnext
      cases hbody : e.sceneBody with
      | error cause => simp [hbody] at hnext
      | ok body =>
          simp only [hbody, Except.ok.injEq] at hnext
          obtain ⟨hlt, hget⟩ := List.getElem?_eq_some_iff.mp hnext
          simp only [List.flatMap_nil, List.nil_append]
          rw [List.drop_eq_getElem_cons hlt, hget]
          rfl
  | cons f rest =>
      rw [hframes] at hnext
      simp only [Except.ok.injEq] at hnext
      obtain ⟨hlt, hget⟩ := List.getElem?_eq_some_iff.mp hnext
      simp only [List.flatMap_cons, Frame.advance]
      rw [List.drop_eq_getElem_cons hlt, hget]
      rfl

theorem remaining_of_next?_none {e : Engine} (hnext : e.settle.next? = .ok none) :
    e.remaining = [] := by
  obtain ⟨hframes, body, hbody, hle⟩ := settle_of_next?_none hnext
  rw [← remaining_settle]
  unfold remaining
  rw [hframes, show e.settle.sceneBody = .ok body from hbody]
  simpa [settle] using hle

theorem remaining_enter (e : Engine) (branch : List Instruction) (elseBranch : Bool) :
    (e.enter branch elseBranch).remaining = branch ++ e.bump.remaining := by
  rw [enter_eq]
  unfold remaining
  cases branch with
  | nil => rfl
  | cons i rest => simp [sceneBody, List.append_assoc]

/-- An instruction is left exactly if some remain. -/
theorem canContinue_eq (e : Engine) : e.canContinue = !e.remaining.isEmpty := by
  rw [Bool.eq_iff_iff, Bool.not_eq_true', ← Bool.not_eq_true, List.isEmpty_iff]
  unfold canContinue remaining
  rw [List.append_eq_nil_iff, not_and_or, Bool.or_eq_true]
  refine or_congr ?_ ?_
  · simp [Frame.finished]
  · cases e.sceneBody with
    | error cause => simp
    | ok body => simp

/-! ### Turns -/

def Turn.flat : Turn → Flat.Outcome
  | .running e => .running e.flat
  | .stopped e step => .stopped e.flat step e.pending
  | .failed e fault => .failed e.flat fault

def flatEnd : Engine × Except Fault Step → Flat.Outcome
  | (e, .ok step) => .stopped e.flat step e.pending
  | (e, .error fault) => .failed e.flat fault

theorem state_flat (e : Engine) : e.flat.state = { e.state with index := 0 } := rfl

theorem flat_applyAll (e : Engine) (actions : List Action) :
    flat { e with state := Action.applyAll e.state actions } =
      e.flat.withState (Action.applyAll e.flat.state actions) := by
  have hrest : remaining { e with state := Action.applyAll e.state actions } = e.remaining :=
    remaining_congr (sceneBody_congr rfl (Action.applyAll_scene _ _)) rfl
      (Action.applyAll_index _ _)
  have hstate := Action.applyAll_with e.state e.state.scene 0 e.state.history actions
  have hscene := Action.applyAll_scene e.state actions
  have hhistory := Action.applyAll_history e.state actions
  rw [state_flat, hstate]
  simp only [flat, Flat.withState, hrest, hscene, hhistory]

theorem flat_acted {e : Engine} {actions : List Json} {state : GameState}
    (hrun : Action.run e.state actions = .ok state) :
    ∃ s, Action.run e.flat.state actions = .ok s ∧ e.flat.withState s = { e with state }.flat := by
  obtain ⟨checked, hchecked, rfl⟩ := Action.run_eq_ok hrun
  refine ⟨Action.applyAll e.flat.state checked, ?_, (flat_applyAll e checked).symm⟩
  unfold Action.run
  rw [hchecked]

theorem flat_bump (e : Engine) : e.bump.flat = { e.flat with rest := e.bump.remaining } := by
  simp only [flat, vars_bump, flags_bump, history_bump, scene_bump]

theorem flat_enter (e : Engine) (branch : List Instruction) (elseBranch : Bool) :
    (e.enter branch elseBranch).flat = { e.flat with rest := branch ++ e.bump.remaining } := by
  have hrest := remaining_enter e branch elseBranch
  rw [enter_eq] at hrest ⊢
  rw [← hrest]
  simp only [flat, vars_bump, flags_bump, history_bump, scene_bump]

theorem remaining_bump_acted {e : Engine} {actions : List Json} {state : GameState}
    (hrun : Action.run e.state actions = .ok state) :
    { e with state }.bump.remaining = e.bump.remaining := by
  refine remaining_congr ?_ ?_ ?_
  · rw [sceneBody_bump, sceneBody_bump, sceneBody_acted hrun]
  · unfold bump
    cases e.frames <;> rfl
  · unfold bump
    cases e.frames with
    | nil => exact congrArg (· + 1) (Action.run_index hrun)
    | cons f rest => exact Action.run_index hrun

theorem run_flat_error {e : Engine} {actions : List Json} {fault : Fault}
    (hrun : Action.run e.state actions = .error fault) :
    Action.run e.flat.state actions = .error fault := by
  have hwith := Action.run_with e.state e.state.scene 0 e.state.history actions
  rw [state_flat, hwith, hrun]
  rfl

section blind

variable {e : Engine} (hblind : e.helpers.Blind GameState.SameButIndex)

include hblind

theorem render_viewer : (e.flat.viewer e.setting).render = e.render := by
  have hsame : GameState.SameButIndex e.flat.state e.state := rfl
  funext template
  exact Template.render_eq_of_blind hblind hsame rfl e.assets template

theorem holds_viewer : (e.flat.viewer e.setting).holds = e.holds := by
  have hsame : GameState.SameButIndex e.flat.state e.state := rfl
  funext condition
  exact Template.holds_eq_of_blind hblind hsame rfl e.assets condition

theorem speak_viewer (speaker : Option String) (text : String)
    (choices : Option (List ChoiceOption)) :
    (e.flat.viewer e.setting).speak speaker text choices = e.speak speaker text choices :=
  speak_congr (render_viewer hblind) (holds_viewer hblind) speaker text choices

/-- An instruction does to the flat machine what it does to the engine. -/
theorem flat_perform (hpending : e.pending = none) {i : Instruction} {outcome : Turn}
    (hperforms : Performs e i outcome) :
    outcome.flat = e.flat.perform e.setting e.bump.remaining i := by
  cases hperforms with
  | act hrun =>
      obtain ⟨s, hs, hflat⟩ := flat_acted hrun
      simp only [Turn.flat, Flat.perform, hs, hflat, flat_bump, remaining_bump_acted hrun]
  | actFault hrun => simp only [Turn.flat, Flat.perform, run_flat_error hrun]
  | @line speaker text actions choices l state p hrun hspeak hnone =>
      obtain ⟨s, hs, hflat⟩ := flat_acted hrun
      have hspeak' := speak_viewer (e := { e with state }) hblind speaker text choices
      have hpending' : { e with state }.bump.pending = none := (pending_bump _).trans hpending
      simp only [Turn.flat, Flat.perform, hs, hflat]
      rw [show e.setting = setting { e with state } from rfl, hspeak', hspeak]
      simp only [hnone, List.isEmpty_nil, if_true, flat_bump, remaining_bump_acted hrun,
        canContinue_eq, hpending']
  | @offer speaker text actions choices l state p hrun hspeak hsome =>
      obtain ⟨s, hs, hflat⟩ := flat_acted hrun
      have hspeak' := speak_viewer (e := { e with state }) hblind speaker text choices
      have hempty : p.options.isEmpty = false := by simpa using hsome
      simp only [Turn.flat, Flat.perform, hs, hflat]
      rw [show e.setting = setting { e with state } from rfl, hspeak', hspeak]
      simp only [hempty, Bool.false_eq_true, if_false]
      rfl
  | @lineFault speaker text actions choices l state fault hrun hspeak =>
      obtain ⟨s, hs, hflat⟩ := flat_acted hrun
      have hspeak' := speak_viewer (e := { e with state }) hblind speaker text choices
      simp only [Turn.flat, Flat.perform, hs, hflat]
      rw [show e.setting = setting { e with state } from rfl, hspeak', hspeak]
  | lineActFault hrun => simp only [Turn.flat, Flat.perform, run_flat_error hrun]
  | branch hholds =>
      simp only [Turn.flat, Flat.perform, holds_viewer hblind, hholds, flat_enter]
  | otherwise hholds =>
      simp only [Turn.flat, Flat.perform, holds_viewer hblind, hholds, flat_enter]
  | conditionFault hholds => simp only [Turn.flat, Flat.perform, holds_viewer hblind, hholds]
  | @jump target l hscene =>
      obtain ⟨body, hbody⟩ := hasScene_iff.mp hscene
      simp only [Turn.flat, Flat.perform, setting, hbody]
      simp [flat, remaining, sceneBody, GameState.setPosition, hbody]
  | @jumpFault target l hscene =>
      have hnone : Keyed.get? target e.scenes = none := by
        simpa [hasScene, Keyed.contains] using hscene
      simp only [Turn.flat, Flat.perform, setting, hnone]

theorem flat_turn (hpending : e.pending = none) (hloaded : e.Loaded) :
    e.turn.flat = e.flat.turn e.setting := by
  have hflat : e.settle.flat = e.flat := by simp only [flat, remaining_settle]; rfl
  have hturns := turns_turn e
  generalize e.turn = outcome at hturns ⊢
  unfold Flat.turn
  cases hturns with
  | lost hnext =>
      obtain ⟨body, hbody⟩ := hloaded
      rw [next?_eq (show e.settle.sceneBody = .ok body from hbody)] at hnext
      cases hnext
  | complete hnext =>
      have hrest : e.flat.rest = [] := remaining_of_next?_none hnext
      have hframes : e.settle.frames = [] := (settle_of_next?_none hnext).1
      have hflat' : flat { e.settle with frames := [], status := .sceneComplete } = e.flat := by
        rw [← hflat, ← hframes]
        rfl
      rw [hrest]
      simp only [Turn.flat, hflat']
      exact congrArg _ hpending
  | perform hnext hperforms =>
      have hrest : e.flat.rest = _ :=
        (congrArg Flat.rest hflat).symm.trans (remaining_of_next? hnext)
      rw [hrest, ← hflat]
      exact flat_perform (e := e.settle) hblind hpending hperforms

end blind

/-- A run of the engine is a run of the flat machine, with as many turns. -/
theorem flat_run {t : Setting} (hblind : t.helpers.Blind GameState.SameButIndex) (n : Nat)
    {e : Engine} (hsetting : e.setting = t) (hpending : e.pending = none) (hloaded : e.Loaded) :
    flatEnd (run n e) = e.flat.run t n := by
  induction n generalizing e with
  | zero => rfl
  | succ n ih =>
      subst hsetting
      have hflat := flat_turn hblind hpending hloaded
      rw [run, Flat.run, ← hflat]
      cases hturn : e.turn with
      | running e' =>
          have hsetting' := setting_turn e
          rw [hturn] at hsetting'
          obtain ⟨hpending', hloaded'⟩ := turn_eq_running hturn
          exact ih hsetting' (hpending'.trans hpending) (hloaded' hloaded)
      | stopped e' step => rfl
      | failed e' fault => rfl

/-! ### Moves -/

/-- What can be compared with the flat machine after a move: the step, the choices that wait, and
what the machine keeps. -/
def observed (r : Step × Engine) : Step × Option Pending × Flat := (r.1, r.2.pending, r.2.flat)

theorem observed_runToStep {e : Engine} (hblind : e.helpers.Blind GameState.SameButIndex)
    (hpending : e.pending = none) (hloaded : e.Loaded) :
    observed e.runToStep = e.flat.play e.setting := by
  have hflat : flat { e with status := .sceneActive } = e.flat := rfl
  have hrun := flat_run (e := { e with status := .sceneActive }) (t := e.setting) hblind maxTurns
    rfl hpending hloaded
  rw [hflat] at hrun
  unfold runToStep Flat.play
  rw [← hrun]
  split
  · rename_i e' step heq
    rw [heq]
    rfl
  · rename_i e' fault heq
    rw [heq]
    rfl

theorem flat_goTo {e : Engine} {name : String} {body : List Instruction}
    (hbody : Keyed.get? name e.scenes = some body) :
    flat { e with state := e.state.setPosition name 0, frames := [], held := [] } =
      e.flat.goTo name body := by
  simp [flat, Flat.goTo, remaining, sceneBody, GameState.setPosition, hbody]

theorem flat_take {e : Engine} {i : Instruction} (hnext : e.next? = .ok (some i))
    (now text : String) {option : ChoiceOption} {actions : List Action}
    (hcheck : e.checkChoice option = .ok actions) :
    (e.take now text option actions).flat = e.flat.take e.setting now text option actions := by
  let record : ChoiceRecord := ⟨text, e.state.scene.getD "", some now⟩
  let recorded : Engine := { e with pending := none, state := e.state.addChoice record }
  have hrest : e.remaining = i :: recorded.bump.remaining :=
    remaining_of_next? (e := recorded) hnext
  have hrecorded : recorded.bump.flat =
      { e.flat with history := (e.state.addChoice record).history, rest := e.flat.rest.tail } := by
    have htail : e.flat.rest.tail = recorded.bump.remaining := by
      rw [show e.flat.rest = e.remaining from rfl, hrest, List.tail_cons]
    rw [flat_bump, htail]
    rfl
  let acted : Engine := { recorded.bump with state := Action.applyAll recorded.bump.state actions }
  have hacted : acted.flat = _ := flat_applyAll recorded.bump actions
  rw [hrecorded] at hacted
  unfold take Flat.take
  cases htarget : option.target with
  | none => exact hacted
  | some target =>
      obtain ⟨body, hbody⟩ := hasScene_iff.mp ((checkChoice_eq_ok hcheck).2 target htarget)
      have hbody' : Keyed.get? target acted.scenes = some body :=
        (congrArg (Keyed.get? target) (scenes_bump recorded)).trans hbody
      have hgoTo := flat_goTo hbody'
      rw [hacted] at hgoTo
      simp only [setting, hbody, Option.getD_some]
      exact hgoTo

theorem loaded_take {e : Engine} (hloaded : e.Loaded) (now text : String) {option : ChoiceOption}
    {actions : List Action} (hcheck : e.checkChoice option = .ok actions) :
    (e.take now text option actions).Loaded := by
  unfold take
  cases htarget : option.target with
  | none =>
      obtain ⟨body, hbody⟩ := hloaded
      refine ⟨body, (sceneBody_congr ?_ ?_).trans hbody⟩
      · exact scenes_bump _
      · exact (Action.applyAll_scene _ _).trans (scene_bump _)
  | some target =>
      obtain ⟨body, hbody⟩ := hasScene_iff.mp ((checkChoice_eq_ok hcheck).2 target htarget)
      refine ⟨body, sceneBody_eq_ok_iff.mpr ⟨target, rfl, ?_⟩⟩
      exact (congrArg (Keyed.get? target) (scenes_bump _)).trans hbody

theorem observed_move {e e' : Engine} {m : Move} (hcoherent : e.Coherent)
    (hblind : e.helpers.Blind GameState.SameButIndex) (hdeparts : Departs e m e')
    (hloaded : e'.Loaded) : observed (e.move m) = e'.flat.play e.setting := by
  have hsetting := hdeparts.setting_eq
  have hblind' : e'.helpers.Blind GameState.SameButIndex := by
    rwa [show e'.helpers = e.helpers from congrArg Setting.helpers hsetting]
  rw [hdeparts.move_eq, ← hsetting]
  exact observed_runToStep hblind' (hcoherent.departs hdeparts).2 hloaded

/-- An engine plays as the flat machine does. Starting a scene, going on and taking a choice show
the same step, and leave the same choices waiting and the same instructions to come. -/
theorem observed_eq_play {helpers : Template.Registry}
    (hblind : helpers.Blind GameState.SameButIndex) {e : Engine} (hreach : e.Reachable helpers) :
    (∀ name body, Keyed.get? name e.scenes = some body →
      observed (e.start name) = (e.flat.goTo name body).play e.setting) ∧
    (e.Loaded → e.pending = none → e.status ≠ .sceneComplete →
      observed e.proceed = e.flat.play e.setting) ∧
    (∀ now index p option actions, e.pending = some p → p.options[index]? = some option →
      e.checkChoice option = .ok actions →
      observed (e.choose now index) =
        (e.flat.take e.setting now
          (((p.presented[index]?).map PresentedChoice.text).getD option.text) option
          actions).play e.setting) := by
  have hcoherent := hreach.coherent
  have hblind' : e.helpers.Blind GameState.SameButIndex := by
    rw [hreach.helpers_eq]
    exact (Template.Standard.registry_blind GameState.unseen_index).extend hblind
  refine ⟨fun name body hbody => ?_, fun hloaded hpending hstatus => ?_,
    fun now index p option actions hp hoption hcheck => ?_⟩
  · have hscene : e.hasScene name = true := hasScene_iff.mpr ⟨body, hbody⟩
    rw [← flat_goTo hbody]
    exact observed_move hcoherent hblind' (.start hscene) (loaded_setPosition hscene)
  · obtain ⟨body, hbody⟩ := hloaded
    obtain ⟨name, hname, -⟩ := sceneBody_eq_ok_iff.mp hbody
    have hdeparts : Departs e .proceed e := .proceed hname hstatus (by simp [hpending])
    exact observed_move hcoherent hblind' hdeparts ⟨body, hbody⟩
  · obtain ⟨speaker, content, own, choices, l, hnext, -⟩ := (hcoherent.offers p hp).dialogue
    have hstatus : e.status = .awaitingChoice := hcoherent.pending_iff.mp (by simp [hp])
    rw [← flat_take hnext now _ hcheck]
    exact observed_move hcoherent hblind' (.choose hstatus hp hoption hcheck)
      (loaded_take (hcoherent.placed.loaded hnext) now _ hcheck)

theorem observed_crossroads :
    (∃ p option, asking.pending = some p ∧ p.options[0]? = some option ∧
      asking.checkChoice option = .ok [] ∧
      observed (asking.choose "noon" 0) =
        (asking.flat.take asking.setting "noon"
          (((p.presented[0]?).map PresentedChoice.text).getD option.text) option []).play
          asking.setting) ∧
    observed (asking.choose "noon" 0).2.proceed =
      (asking.choose "noon" 0).2.flat.play (asking.choose "noon" 0).2.setting := by
  have hleft : (asking.choose "noon" 0).2.Reachable [] :=
    ⟨crossroads, [], none, [.play (.start "start"), .play (.choose "noon" 0)], rfl⟩
  obtain ⟨-, -, hchoose⟩ := observed_eq_play Template.Registry.blind_nil reachable_asking
  obtain ⟨-, hproceed, -⟩ := observed_eq_play Template.Registry.blind_nil hleft
  have hstatus : (asking.choose "noon" 0).2.status = .sceneActive := by rfl
  refine ⟨⟨_, _, rfl, rfl, rfl, hchoose "noon" 0 _ _ _ rfl rfl rfl⟩, ?_⟩
  exact hproceed ⟨_, rfl⟩ rfl (by simp [hstatus])

end Engine

end BranchingStory
