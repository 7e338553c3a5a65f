import BranchingStory.Proofs.Engine.Coherence
import BranchingStory.Proofs.Template

/-!
Choices, from the dialogue that offers them to the place where the story goes on. What waits for an
answer are the visible options of the dialogue at the cursor, as they were rendered when they came
up. An answer is accepted or it changes nothing. One that is accepted leaves its record, has its
actions carried out, and takes the story to its target or past the dialogue.
-/

namespace BranchingStory.Engine

/-! ### What is offered -/

/-- Under each number stands the option of that number, rendered. -/
theorem present_getElem? {e : Engine} {start : Nat} {options : List ChoiceOption}
    {presented : List PresentedChoice} (h : e.present start options = .ok presented) {index : Nat}
    {shown : PresentedChoice} {option : ChoiceOption} (hshown : presented[index]? = some shown)
    (hoption : options[index]? = some option) :
    e.render option.text = .ok shown.text ∧ shown.index = start + index ∧
      shown.target = option.target := by
  obtain ⟨hindices, htargets, htexts⟩ := present_eq_ok h
  have hlt : index < options.length := (List.getElem?_eq_some_iff.mp hoption).1
  have hindex := congrArg (fun indices => indices[index]?) hindices
  have htarget := congrArg (fun targets => targets[index]?) htargets
  have htext := congrArg (fun texts => texts[index]?) htexts
  simp only [List.getElem?_map, hshown, hoption, Option.map_some, Option.some.injEq,
    List.getElem?_range' hlt, Nat.one_mul] at hindex htarget htext
  exact ⟨htext.symm, hindex, htarget⟩

/-! ### Choices that wait -/

/-- The choices are those that the dialogue at the cursor shows while the assets are the given
ones. -/
def CameUp (e : Engine) (assets : List Asset) (p : Pending) : Prop :=
  ∃ speaker text own choices location,
    e.next? = .ok (some (.dialogue speaker text own (some choices) location)) ∧
      speak { e with assets } speaker text (some choices) = .ok p

theorem cameUp_turn {e e' : Engine} {step : Step} (hturn : e.turn = .stopped e' step)
    (hnone : e.pending = none) {p : Pending} (hp : e'.pending = some p) :
    e'.CameUp e'.assets p := by
  have hturns := turns_turn e
  rw [hturn] at hturns
  cases hturns with
  | complete hnext => simp [settle, hnone] at hp
  | perform hnext hperforms =>
      cases hperforms with
      | line hrun hspeak hempty => simp [settle, hnone] at hp
      | @offer speaker text own choices l state q hrun hspeak hsome =>
          obtain rfl := Option.some.inj hp
          obtain ⟨written, rfl⟩ := written_of_speak hspeak hsome
          refine ⟨speaker, text, own, written, l, ?_,
            (speak_waiting { e.settle with state } _ _ _ _ _).trans hspeak⟩
          -- The dialogue's own actions have not moved the cursor.
          exact (next?_congr (sceneBody_acted hrun) rfl (Action.run_index hrun)).trans hnext

theorem cameUp_runToStep {e : Engine} (hnone : e.pending = none) {p : Pending}
    (hp : e.runToStep.2.pending = some p) : e.runToStep.2.CameUp e.runToStep.2.assets p := by
  have hrun := run_induction (P := fun e' => e'.pending = none)
    (Q := fun e' result => ∀ step, result = .ok step → ∀ p, e'.pending = some p →
      e'.CameUp e'.assets p)
    (by simp) (fun e' next hnone' hturn => (turn_eq_running hturn).1.trans hnone')
    (fun e' next step hnone' hturn _ _ p hp => cameUp_turn hturn hnone' hp)
    (by simp) maxTurns { e with status := .sceneActive } hnone
  unfold runToStep at hp ⊢
  split at hp
  · rename_i e' step heq
    rw [heq] at hrun
    exact hrun step rfl p hp
  · simp at hp

/-- In every engine that can be reached, what waits has come up from the dialogue at the cursor.
Since then a host can have changed the assets alone. -/
theorem Reachable.cameUp {helpers : Template.Registry} {e : Engine} (h : e.Reachable helpers)
    {p : Pending} (hp : e.pending = some p) : ∃ assets, e.CameUp assets p := by
  -- A move runs from where nothing waits, which only coherence tells.
  have hboth : e.Coherent ∧ ∀ p, e.pending = some p → ∃ assets, e.CameUp assets p := by
    refine h.induction (P := fun e => e.Coherent ∧ ∀ p, e.pending = some p →
      ∃ assets, e.CameUp assets p) ?_ ?_
    · intro scenes assets initial
      have hreach : (new scenes assets helpers initial).Reachable helpers :=
        ⟨scenes, assets, initial, [], rfl⟩
      refine ⟨hreach.coherent, fun p hp => ?_⟩
      simp [new, setScenes] at hp
    · rintro e request ⟨hcoherent, hcameUp⟩
      refine ⟨hcoherent.serve request, fun p hp => ?_⟩
      cases request with
      | play m =>
          obtain ⟨hsame, -⟩ | ⟨e', hdeparts, hmove⟩ := move_cases e m
          · simp only [serve, hsame] at hp ⊢
            exact hcameUp p hp
          · simp only [serve, hmove] at hp ⊢
            exact ⟨_, cameUp_runToStep (hcoherent.departs hdeparts).2 hp⟩
      | setAssets assets => exact hcameUp p hp
      | setScenes scenes => simp [serve, setScenes] at hp
      | restore saved => simp [serve, restore] at hp
      | reset => simp [serve, reset] at hp
      | amend actions => simp [serve, modifyState, release] at hp
  exact hboth.2 p hp

/-! ### Targets that are not there -/

theorem visible_eq_error {e : Engine} {options : List ChoiceOption} {fault : Fault}
    (h : e.visible options = .error fault) : ∃ source cause, fault = .template source cause := by
  induction options with
  | nil => simp [visible] at h
  | cons option rest ih =>
      rw [visible] at h
      split at h
      · rename_i found hfound
        obtain rfl := Except.error.inj h
        split at hfound
        · exact ⟨_, Template.holds_eq_error hfound⟩
        · simp at hfound
      · split at h
        · rename_i found hfound
          obtain rfl := Except.error.inj h
          exact ih hfound
        · simp at h

theorem present_eq_error {e : Engine} {start : Nat} {options : List ChoiceOption} {fault : Fault}
    (h : e.present start options = .error fault) :
    ∃ source cause, fault = .template source cause := by
  induction options generalizing start with
  | nil => simp [present] at h
  | cons option rest ih =>
      rw [present] at h
      split at h
      · rename_i found hfound
        obtain rfl := Except.error.inj h
        exact ⟨_, Template.render_eq_error hfound⟩
      · split at h
        · rename_i found hfound
          obtain rfl := Except.error.inj h
          exact ih hfound
        · simp at h

theorem renderSpeaker_eq_error {e : Engine} {speaker : Option String} {fault : Fault}
    (h : e.renderSpeaker speaker = .error fault) :
    ∃ source cause, fault = .template source cause := by
  unfold renderSpeaker at h
  split at h
  · simp at h
  · split at h
    · rename_i found hfound
      obtain rfl := Except.error.inj h
      exact ⟨_, Template.render_eq_error hfound⟩
    · simp at h

theorem speak_eq_error {e : Engine} {speaker : Option String} {text : String}
    {choices : Option (List ChoiceOption)} {fault : Fault}
    (h : e.speak speaker text choices = .error fault) :
    ∃ source cause, fault = .template source cause := by
  unfold speak at h
  split at h
  · rename_i found hfound
    obtain rfl := Except.error.inj h
    exact renderSpeaker_eq_error hfound
  · split at h
    · rename_i found hfound
      obtain rfl := Except.error.inj h
      exact ⟨_, Template.render_eq_error hfound⟩
    · split at h
      · rename_i found hfound
        obtain rfl := Except.error.inj h
        exact visible_eq_error hfound
      · split at h
        · rename_i found hfound
          obtain rfl := Except.error.inj h
          exact present_eq_error hfound
        · simp at h

theorem next?_eq_error {e : Engine} {cause : EngineFault} (h : e.next? = .error cause) :
    cause = .noActiveScene ∨ ∃ name, cause = .sceneNotFound name := by
  unfold next? sceneBody at h
  grind

/-- A turn that misses a jump target misses one that is not there. -/
theorem hasScene_of_turn {e e' : Engine} {target : String}
    (hturn : e.turn = .failed e' (.engine (.jumpTargetNotFound target))) :
    e.hasScene target = false := by
  have hturns := turns_turn e
  rw [hturn] at hturns
  cases hturns with
  | lost hnext =>
      obtain hcause | ⟨name, hcause⟩ := next?_eq_error hnext <;> simp at hcause
  | perform hnext hperforms =>
      cases hperforms with
      | actFault hrun =>
          obtain ⟨descriptor, cause, hfault⟩ := Action.run_eq_error hrun
          simp at hfault
      | lineFault hrun hspeak =>
          obtain ⟨source, cause, hfault⟩ := speak_eq_error hspeak
          simp at hfault
      | lineActFault hrun =>
          obtain ⟨descriptor, cause, hfault⟩ := Action.run_eq_error hrun
          simp at hfault
      | conditionFault hholds =>
          obtain ⟨cause, hfault⟩ := Template.holds_eq_error hholds
          simp at hfault
      | jumpFault hscene => exact hscene

theorem ne_fault_of_turn {e e' : Engine} {step : Step} (hturn : e.turn = .stopped e' step)
    (fault : Fault) : step ≠ .fault fault := by
  have hturns := turns_turn e
  rw [hturn] at hturns
  cases hturns with
  | complete hnext => simp
  | perform hnext hperforms => cases hperforms <;> simp [Pending.step]

theorem runToStep_ne_jumpTargetNotFound {e : Engine} {target : String}
    (hscene : e.hasScene target = true) :
    e.runToStep.1 ≠ .fault (.engine (.jumpTargetNotFound target)) := by
  have hrun := run_induction (P := fun e' => e'.scenes = e.scenes)
    (Q := fun _ result => result ≠ .error (.engine (.jumpTargetNotFound target)) ∧
      ∀ fault, result ≠ .ok (.fault fault))
    (by simp)
    (fun e' next hscenes hturn => by
      have hsetting := setting_turn e'
      rw [hturn] at hsetting
      exact (congrArg Setting.scenes hsetting).trans hscenes)
    (fun e' next step hscenes hturn => by simpa using ne_fault_of_turn hturn)
    (fun e' next fault hscenes hturn => by
      -- Scenes are the same in every turn, so a target that is missed was missing at the start.
      refine ⟨fun hfault => ?_, by simp⟩
      obtain rfl := Except.error.inj hfault
      have hmissing := hasScene_of_turn hturn
      rw [hasScene, hscenes] at hmissing
      simp [hasScene, hmissing] at hscene)
    maxTurns { e with status := .sceneActive } rfl
  unfold runToStep
  split
  · rename_i e' step heq
    rw [heq] at hrun
    simpa using hrun.2 (.engine (.jumpTargetNotFound target))
  · rename_i e' fault heq
    rw [heq] at hrun
    simpa using hrun.1

/-! ### Answers -/

structure Accepts (e : Engine) (index : Nat) (shown : PresentedChoice) (option : ChoiceOption)
    (actions : List Action) : Prop where
  awaiting : e.status = .awaitingChoice
  offered : ∃ p, e.pending = some p ∧ p.presented[index]? = some shown ∧
    p.options[index]? = some option
  checked : List.Forall₂ (fun descriptor action => Action.ofDescriptor descriptor = .ok action)
    option.actions actions
  target : ∀ target, option.target = some target → e.hasScene target = true

theorem checkChoice_eq_ok_iff {e : Engine} {option : ChoiceOption} {actions : List Action} :
    e.checkChoice option = .ok actions ↔
      List.Forall₂ (fun descriptor action => Action.ofDescriptor descriptor = .ok action)
        option.actions actions ∧
      ∀ target, option.target = some target → e.hasScene target = true := by
  rw [← Action.ofDescriptors_eq_ok_iff]
  constructor
  · exact checkChoice_eq_ok
  · rintro ⟨hactions, htarget⟩
    unfold checkChoice
    rw [hactions]
    cases hoption : option.target with
    | none => rfl
    | some target => simp [htarget target hoption]

/-- Exactly the answers that are accepted take the story on. -/
theorem Coherent.departs_choose_iff {e : Engine} (h : e.Coherent) {now : String} {index : Nat}
    {e' : Engine} : Departs e (.choose now index) e' ↔
      ∃ shown option actions, e.Accepts index shown option actions ∧
        e' = e.take now shown.text option actions := by
  constructor
  · intro hdeparts
    cases hdeparts with
    | @choose _ _ p option actions hstatus hp hoption hcheck =>
        obtain ⟨hchecked, htarget⟩ := checkChoice_eq_ok_iff.mp hcheck
        have hlength : p.presented.length = p.options.length := by
          simpa using congrArg List.length (h.offers p hp).indices
        have hlt : index < p.presented.length := by
          rw [hlength]
          exact (List.getElem?_eq_some_iff.mp hoption).1
        have hshown := List.getElem?_eq_getElem hlt
        refine ⟨_, option, actions, ⟨hstatus, ⟨p, hp, hshown, hoption⟩, hchecked, htarget⟩, ?_⟩
        simp [hshown]
  · rintro ⟨shown, option, actions, ⟨hstatus, ⟨p, hp, hshown, hoption⟩, hchecked, htarget⟩, rfl⟩
    have htext : ((p.presented[index]?).map PresentedChoice.text).getD option.text =
        shown.text := by simp [hshown]
    rw [← htext]
    exact .choose hstatus hp hoption (checkChoice_eq_ok_iff.mpr ⟨hchecked, htarget⟩)

structure GoesOn (e : Engine) (record : ChoiceRecord) (option : ChoiceOption)
    (actions : List Action) (e' : Engine) : Prop where
  setting : e'.setting = e.setting
  pending : e'.pending = none
  held : e'.held = []
  /-- The actions are carried out in their order, and the record comes last in the log. -/
  state : e'.state = { Action.applyAll e.state actions with
    scene := e'.state.scene, index := e'.state.index, history := e.state.history ++ [record] }
  target : ∀ target, option.target = some target →
    e'.state.scene = some target ∧ e'.state.index = 0 ∧ e'.frames = []
  /-- Without a target the story goes on just after the dialogue. -/
  onward : option.target = none → e'.state.scene = e.state.scene ∧
    match e.frames with
    | [] => e'.frames = [] ∧ e'.state.index = e.state.index + 1
    | f :: rest =>
      e'.frames = { f with index := f.index + 1 } :: rest ∧ e'.state.index = e.state.index

theorem Coherent.held_eq_nil {e : Engine} (h : e.Coherent) {p : Pending}
    (hp : e.pending = some p) : e.held = [] := by
  by_contra hheld
  obtain ⟨speaker, text, own, choices, l, hnext, -⟩ := (h.offers p hp).dialogue
  exact (h.placed.held hheld).2 (h.placed.loaded hnext)

/-- An answer records the choice, carries out its actions and moves; in which order is not seen,
since actions look neither at the log nor at the place. -/
theorem Coherent.goesOn_take {e : Engine} (h : e.Coherent) {p : Pending} (hp : e.pending = some p)
    {scene : String} (hscene : e.state.scene = some scene) (now text : String)
    (option : ChoiceOption) (actions : List Action) :
    GoesOn e ⟨text, scene, some now⟩ option actions (e.take now text option actions) := by
  let record : ChoiceRecord := ⟨text, scene, some now⟩
  let recorded : Engine := { e with pending := none, state := e.state.addChoice record }
  have hbump : recorded.bump.state = { e.state with
      scene := e.state.scene, index := recorded.bump.state.index,
      history := e.state.history ++ [record] } := by
    unfold bump
    split <;> rfl
  have hacted : Action.applyAll recorded.bump.state actions = { Action.applyAll e.state actions with
      scene := e.state.scene, index := recorded.bump.state.index,
      history := e.state.history ++ [record] } := by
    rw [← Action.applyAll_with, ← hbump]
  have hheld : e.held = [] := h.held_eq_nil hp
  cases htarget : option.target with
  | none =>
      have htake : e.take now text option actions =
          { recorded.bump with state := Action.applyAll recorded.bump.state actions } := by
        simp only [Engine.take, htarget, hscene, Option.getD_some]
        rfl
      rw [htake, hacted]
      refine ⟨setting_bump recorded, pending_bump recorded, (held_bump recorded).trans hheld, rfl,
        by simp [htarget], fun _ => ⟨rfl, ?_⟩⟩
      cases hframes : e.frames with
      | nil => simp [recorded, bump, hframes, GameState.advance, GameState.addChoice]
      | cons f rest => simp [recorded, bump, hframes, Frame.advance, GameState.addChoice]
  | some target =>
      have htake : e.take now text option actions =
          { recorded.bump with
            state := (Action.applyAll recorded.bump.state actions).setPosition target 0
            frames := []
            held := [] } := by
        simp only [Engine.take, htarget, hscene, Option.getD_some]
        rfl
      rw [htake, hacted]
      refine ⟨setting_bump recorded, pending_bump recorded, rfl, rfl, ?_, by simp [htarget]⟩
      intro other hother
      rw [htarget] at hother
      exact ⟨hother, rfl, rfl⟩

/-- An answer that is accepted runs the story from where the choice takes it. -/
theorem Coherent.choose_of_accepts {e : Engine} (h : e.Coherent) {index : Nat}
    {shown : PresentedChoice} {option : ChoiceOption} {actions : List Action}
    (haccepts : e.Accepts index shown option actions) (now : String) :
    ∃ scene e', e.state.scene = some scene ∧
      e.GoesOn ⟨shown.text, scene, some now⟩ option actions e' ∧
      e.choose now index = e'.runToStep := by
  obtain ⟨p, hp, -⟩ := haccepts.offered
  obtain ⟨speaker, text, own, choices, l, hnext, -⟩ := (h.offers p hp).dialogue
  obtain ⟨body, hbody⟩ := h.placed.loaded hnext
  obtain ⟨scene, hscene, -⟩ := sceneBody_eq_ok_iff.mp hbody
  have hdeparts : Departs e (.choose now index) (e.take now shown.text option actions) :=
    h.departs_choose_iff.mpr ⟨shown, option, actions, haccepts, rfl⟩
  exact ⟨scene, _, hscene, h.goesOn_take hp hscene now shown.text option actions, hdeparts.move_eq⟩

/-- An answer that is not accepted meets a fault and changes nothing. -/
theorem Coherent.choose_of_not_accepts {e : Engine} (h : e.Coherent) {index : Nat}
    (hnot : ∀ shown option actions, ¬ e.Accepts index shown option actions) (now : String) :
    ∃ fault, e.choose now index = (.fault fault, e) := by
  obtain ⟨hsame, hproceed | ⟨fault, hfault⟩⟩ | ⟨e', hdeparts, -⟩ := move_cases e (.choose now index)
  · simp at hproceed
  · exact ⟨fault, Prod.ext hfault hsame⟩
  · obtain ⟨shown, option, actions, haccepts, -⟩ := h.departs_choose_iff.mp hdeparts
    exact absurd haccepts (hnot shown option actions)

/-- The choice under a number is the one that stands there among the options of the dialogue at the
cursor that are visible, and it is offered by that number, as its text renders and with its target.
The assets are those that there were when the choices came up. -/
def Reveals (e : Engine) (index : Nat) (shown : PresentedChoice) (option : ChoiceOption) : Prop :=
  ∃ assets speaker text own choices location,
    e.next? = .ok (some (.dialogue speaker text own (some choices) location)) ∧
    (choices.filter (shows { e with assets }))[index]? = some option ∧
    render { e with assets } option.text = .ok shown.text ∧
    shown.index = index ∧ shown.target = option.target

theorem Reachable.reveals {helpers : Template.Registry} {e : Engine} (h : e.Reachable helpers)
    {index : Nat} {shown : PresentedChoice} {option : ChoiceOption} {actions : List Action}
    (haccepts : e.Accepts index shown option actions) : e.Reveals index shown option := by
  obtain ⟨p, hp, hshown, hoption⟩ := haccepts.offered
  obtain ⟨assets, speaker, text, own, choices, location, hnext, hspeak⟩ := h.cameUp hp
  obtain ⟨hoptions, hpresent⟩ := speak_eq_ok hspeak
  obtain ⟨hrender, hindex, htarget⟩ := present_getElem? hpresent hshown hoption
  refine ⟨assets, speaker, text, own, choices, location, hnext, ?_, hrender, by omega, htarget⟩
  rw [← hoption, hoptions, Option.getD_some]

end BranchingStory.Engine
