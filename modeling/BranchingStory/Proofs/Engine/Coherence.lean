import BranchingStory.Proofs.Engine.Place

/-!
The fields of an engine fit together. Choices wait exactly when the status says so, and are choices
of the dialogue at the cursor; open branches form a path in the current scene; cursors are held only
while that scene is not loaded; a scene that is complete has nothing left. A host can reach no other
engine, whatever it asks for and whatever a save says.
-/

namespace BranchingStory.Engine

/-! ### What a host can ask for -/

inductive Move where
  | start (scene : String)
  | proceed
  | choose (now : String) (index : Nat)

def move (e : Engine) : Move → Step × Engine
  | .start scene => e.start scene
  | .proceed => e.proceed
  | .choose now index => e.choose now index

/-- Everything that a host can ask for. Actions from outside are changes of variables, flags, lists
and time. -/
inductive Request where
  | play (m : Move)
  | setScenes (scenes : List Scene)
  | setAssets (assets : List Asset)
  | restore (saved : Save)
  | reset
  | amend (actions : List Action)

def serve (e : Engine) : Request → Engine
  | .play m => (e.move m).2
  | .setScenes scenes => e.setScenes scenes
  | .setAssets assets => e.setAssets assets
  | .restore saved => e.restore saved
  | .reset => e.reset
  | .amend actions => e.modifyState (Action.applyAll · actions)

/-- The engine can be reached by requests from a new one with the given helpers of the host. -/
def Reachable (helpers : Template.Registry) (e : Engine) : Prop :=
  ∃ scenes assets initial requests,
    e = List.foldl serve (new scenes assets helpers initial) requests

/-- What holds of new engines and is kept by every request holds of every engine that can be
reached. -/
theorem Reachable.induction {helpers : Template.Registry} {P : Engine → Prop}
    (hnew : ∀ scenes assets initial, P (new scenes assets helpers initial))
    (hserve : ∀ e request, P e → P (e.serve request)) {e : Engine} (h : e.Reachable helpers) :
    P e := by
  obtain ⟨scenes, assets, initial, requests, rfl⟩ := h
  have hstart := hnew scenes assets initial
  generalize new scenes assets helpers initial = start at hstart
  induction requests generalizing start with
  | nil => exact hstart
  | cons request rest ih => exact ih _ (hserve start request hstart)

/-! ### What a move does -/

inductive Departs (e : Engine) : Move → Engine → Prop
  | start {name : String} (hscene : e.hasScene name) :
      Departs e (.start name)
        { e with state := e.state.setPosition name 0, frames := [], held := [], pending := none }
  | proceed {name : String} (hscene : e.state.scene = some name)
      (hcomplete : e.status ≠ .sceneComplete)
      (hwaiting : ∀ p, e.status = .awaitingChoice → e.pending ≠ some p) : Departs e .proceed e
  | choose {now : String} {index : Nat} {p : Pending} {option : ChoiceOption}
      {actions : List Action} (hstatus : e.status = .awaitingChoice) (hp : e.pending = some p)
      (hoption : p.options[index]? = some option) (hcheck : e.checkChoice option = .ok actions) :
      Departs e (.choose now index)
        (e.take now (((p.presented[index]?).map PresentedChoice.text).getD option.text) option
          actions)

/-- A move leaves the engine as it is, with a fault unless it only asked to go on, or it runs the
engine from the place to which it takes it. -/
theorem move_cases (e : Engine) (m : Move) :
    ((e.move m).2 = e ∧ (m = .proceed ∨ ∃ cause, (e.move m).1 = .fault cause)) ∨
      ∃ e', Departs e m e' ∧ e.move m = e'.runToStep := by
  cases m with
  | start name =>
      by_cases hscene : e.hasScene name
      · exact .inr ⟨_, .start hscene, if_pos hscene⟩
      · have hmove : e.move (.start name) = (.fault (.engine (.sceneNotFound name)), e) :=
          if_neg hscene
        exact .inl ⟨congrArg Prod.snd hmove, .inr ⟨_, congrArg Prod.fst hmove⟩⟩
  | proceed =>
      change (e.proceed.2 = e ∧ _) ∨ ∃ e', Departs e .proceed e' ∧ e.proceed = _
      unfold proceed
      split
      · exact .inl ⟨rfl, .inl rfl⟩
      · exact .inl ⟨rfl, .inl rfl⟩
      · rename_i hcomplete hwaiting
        split
        · exact .inl ⟨rfl, .inl rfl⟩
        · rename_i name hscene
          exact .inr ⟨e, .proceed hscene hcomplete hwaiting, rfl⟩
  | choose now index =>
      change ((e.choose now index).2 = e ∧ (_ ∨ ∃ cause, (e.choose now index).1 = _)) ∨
        ∃ e', Departs e (.choose now index) e' ∧ e.choose now index = _
      unfold choose
      split
      · rename_i p hstatus hp
        split
        · exact .inl ⟨rfl, .inr ⟨_, rfl⟩⟩
        · rename_i option hoption
          split
          · exact .inl ⟨rfl, .inr ⟨_, rfl⟩⟩
          · rename_i actions hcheck
            exact .inr ⟨_, .choose hstatus hp hoption hcheck, rfl⟩
      · exact .inl ⟨rfl, .inr ⟨_, rfl⟩⟩

/-- A choice that can be taken has actions that were checked, and its target is there. -/
theorem checkChoice_eq_ok {e : Engine} {option : ChoiceOption} {actions : List Action}
    (h : e.checkChoice option = .ok actions) :
    Action.ofDescriptors option.actions = .ok actions ∧
      ∀ target, option.target = some target → e.hasScene target = true := by
  unfold checkChoice at h
  split at h
  · cases h
  · rename_i checked hchecked
    split at h
    · rename_i hnone
      cases h
      exact ⟨hchecked, by simp [hnone]⟩
    · rename_i target htarget
      split at h
      · rename_i hscene
        cases h
        exact ⟨hchecked, by simpa [htarget] using hscene⟩
      · cases h

theorem Departs.move_eq {e e' : Engine} {m : Move} (h : Departs e m e') :
    e.move m = e'.runToStep := by
  cases h with
  | start hscene => exact if_pos hscene
  | proceed hscene hcomplete hwaiting =>
      change e.proceed = e.runToStep
      unfold Engine.proceed
      split
      · rename_i p hstatus hp
        exact absurd hp (hwaiting p hstatus)
      · contradiction
      · rw [hscene]
  | choose hstatus hp hoption hcheck =>
      simp only [move, Engine.choose, hstatus, hp, hoption, hcheck]

theorem setting_take (e : Engine) (now text : String) (option : ChoiceOption)
    (actions : List Action) : (e.take now text option actions).setting = e.setting := by
  unfold take
  split
  · exact setting_bump _
  · exact setting_bump _

theorem Departs.setting_eq {e e' : Engine} {m : Move} (h : Departs e m e') :
    e'.setting = e.setting := by
  cases h with
  | start hscene => rfl
  | proceed hscene hcomplete hwaiting => rfl
  | choose hstatus hp hoption hcheck => exact setting_take _ _ _ _ _

/-- No move changes the scenes, the assets or the helpers. -/
theorem setting_move (e : Engine) (m : Move) : (e.move m).2.setting = e.setting := by
  obtain ⟨hsame, -⟩ | ⟨e', hdeparts, hmove⟩ := move_cases e m
  · rw [hsame]
  · rw [hmove, setting_runToStep, hdeparts.setting_eq]

/-- If the step shows choices, going on shows them again. -/
def Shown (step : Step) (e : Engine) : Prop :=
  ∀ content speaker choices, step = .choices content speaker choices → e.proceed = (step, e)

theorem shown_turn {e e' : Engine} {step : Step} (hturn : e.turn = .stopped e' step) :
    Shown step e' := by
  intro content speaker choices hstep
  have hturns := turns_turn e
  rw [hturn] at hturns
  cases hturns with
  | complete hnext => cases hstep
  | perform hnext hperforms =>
      cases hperforms with
      | line hrun hspeak hnone => cases hstep
      | offer hrun hspeak hsome => rfl

theorem shown_runToStep (e : Engine) : Shown e.runToStep.1 e.runToStep.2 := by
  have hrun := run_induction (P := fun _ => True)
    (Q := fun e' result => ∀ step, result = .ok step → Shown step e')
    (fun _ _ step h => by cases h) (fun _ _ _ _ => trivial)
    (fun e' next step _ hturn step' h => by cases h; exact shown_turn hturn)
    (fun _ _ _ _ _ step h => by cases h) maxTurns { e with status := .sceneActive } trivial
  unfold runToStep
  split
  · rename_i e' step heq
    rw [heq] at hrun
    exact hrun step rfl
  · intro content speaker choices hstep
    cases hstep

/-- Choices that were shown are shown again. -/
theorem shown_move (e : Engine) (m : Move) : Shown (e.move m).1 (e.move m).2 := by
  obtain ⟨hsame, rfl | ⟨cause, hfault⟩⟩ | ⟨e', -, hmove⟩ := move_cases e m
  · intro content speaker choices hstep
    exact (congrArg proceed hsame).trans rfl
  · intro content speaker choices hstep
    rw [hfault] at hstep
    cases hstep
  · rw [hmove]
    exact shown_runToStep e'

@[simp] theorem helpers_new (scenes : List Scene) (assets : List Asset)
    (helpers : Template.Registry) (initial : Option Save) :
    (new scenes assets helpers initial).helpers = Template.Standard.registry.extend helpers := by
  rw [new, helpers_place, setScenes, helpers_place]

theorem helpers_serve (e : Engine) (request : Request) :
    (e.serve request).helpers = e.helpers := by
  cases request with
  | play m => exact congrArg Setting.helpers (setting_move e m)
  | setScenes scenes => exact helpers_place _ _
  | restore saved => exact helpers_place _ _
  | setAssets assets => rfl
  | reset => rfl
  | amend actions => rfl

/-- The helpers are those of the host over the standard ones, whatever is asked for. -/
theorem Reachable.helpers_eq {helpers : Template.Registry} {e : Engine} (h : e.Reachable helpers) :
    e.helpers = Template.Standard.registry.extend helpers :=
  h.induction (P := fun e => e.helpers = Template.Standard.registry.extend helpers)
    (fun scenes assets initial => helpers_new scenes assets helpers initial)
    (fun e request he => (helpers_serve e request).trans he)

/-! ### Coherent engines -/

/-- The choices that wait are some of those of the dialogue at the cursor, in their order; they are
offered by their numbers, and with the targets of the options behind them. -/
structure Offers (e : Engine) (p : Pending) : Prop where
  dialogue : ∃ speaker text actions choices location,
    e.next? = .ok (some (.dialogue speaker text actions (some choices) location)) ∧
      p.options.Sublist choices
  nonempty : p.options ≠ []
  indices : p.presented.map PresentedChoice.index = List.range p.options.length
  targets : p.presented.map PresentedChoice.target = p.options.map ChoiceOption.target

structure Coherent (e : Engine) : Prop where
  placed : e.Placed
  pending_iff : e.pending.isSome ↔ e.status = .awaitingChoice
  offers : ∀ p, e.pending = some p → e.Offers p
  complete : e.status = .sceneComplete →
    e.frames = [] ∧ ∃ body, e.sceneBody = .ok body ∧ body.length ≤ e.state.index

theorem Coherent.of_placed {e : Engine} (hplaced : e.Placed) (hpending : e.pending = none)
    (hawaiting : e.status ≠ .awaitingChoice) (hcomplete : e.status ≠ .sceneComplete) :
    e.Coherent where
  placed := hplaced
  pending_iff := by simp [hpending, hawaiting]
  offers := by simp [hpending]
  complete := fun h => absurd h hcomplete

/-! ### Playing -/

structure Running (e : Engine) : Prop where
  placed : e.Placed
  pending : e.pending = none
  status : e.status = .sceneActive

theorem Running.pending_ne_some {e : Engine} (h : e.Running) (p : Pending) :
    e.pending ≠ some p := by
  simp [h.pending]

theorem Running.settle {e : Engine} (h : e.Running) : e.settle.Running :=
  ⟨h.placed.settle, h.pending, h.status⟩

theorem Running.acted {e : Engine} (h : e.Running) {actions : List Json} {state : GameState}
    (hrun : Action.run e.state actions = .ok state) :
    Running { e with state } ∧ { e with state }.next? = e.next? :=
  ⟨⟨h.placed.congr (sceneBody_acted hrun) rfl rfl, h.pending, h.status⟩,
    next?_congr (sceneBody_acted hrun) rfl (Action.run_index hrun)⟩

theorem Running.bump {e : Engine} (h : e.Running) {i : Instruction}
    (hnext : e.next? = .ok (some i)) : e.bump.Running :=
  ⟨h.placed.bump hnext, (pending_bump e).trans h.pending, (status_bump e).trans h.status⟩

theorem Running.coherent {e : Engine} (h : e.Running) : e.Coherent :=
  .of_placed h.placed h.pending (by simp [h.status]) (by simp [h.status])

/-- The branch that a conditional opens is the one that its mark says. -/
theorem Running.enter {e : Engine} (h : e.Running) {condition : String}
    {thenBranch : List Instruction} {elseBranch : Option (List Instruction)} {l : Location}
    (hnext : e.next? = .ok (some (.conditional condition thenBranch elseBranch l)))
    (chosen : Bool) :
    (e.enter (if chosen then elseBranch.getD [] else thenBranch) chosen).Running := by
  refine ⟨h.placed.enter hnext ?_, ?_, ?_⟩
  · intro sequence hat hne
    refine ⟨hne, condition, thenBranch, elseBranch, l, hat, ?_⟩
    cases chosen with
    | false => rfl
    | true =>
        cases elseBranch with
        | none => exact absurd rfl hne
        | some branch => rfl
  · exact (pending_enter e _ _).trans h.pending
  · rw [enter_eq]
    exact (status_bump e).trans h.status

def Turn.Sound : Turn → Prop
  | .running e => e.Running
  | .stopped e _ => e.Coherent
  | .failed e _ => e.Running

theorem Running.performs {e : Engine} (h : e.Running) {i : Instruction} {outcome : Turn}
    (hnext : e.next? = .ok (some i)) (hperforms : Performs e i outcome) : outcome.Sound := by
  cases hperforms with
  | act hrun =>
      obtain ⟨hacted, hsame⟩ := h.acted hrun
      exact hacted.bump (hsame.trans hnext)
  | actFault hrun => exact h
  | line hrun hspeak hnone =>
      obtain ⟨hacted, hsame⟩ := h.acted hrun
      exact (hacted.bump (hsame.trans hnext)).coherent
  | @offer speaker text actions choices l state p hrun hspeak hsome =>
      obtain ⟨hacted, hsame⟩ := h.acted hrun
      obtain ⟨hoptions, hpresent⟩ := speak_eq_ok hspeak
      obtain ⟨hindices, htargets, -⟩ := present_eq_ok hpresent
      obtain ⟨written, rfl⟩ := written_of_speak hspeak hsome
      refine ⟨hacted.placed.congr rfl rfl rfl, by simp, ?_, fun hstatus => by cases hstatus⟩
      intro q hq
      cases hq
      have hsublist : p.options.Sublist written := hoptions ▸ List.filter_sublist
      exact ⟨⟨speaker, text, actions, written, l, hsame.trans hnext, hsublist⟩, hsome,
        hindices.trans List.range_eq_range'.symm, htargets⟩
  | lineFault hrun hspeak => exact (h.acted hrun).1
  | lineActFault hrun => exact h
  | branch hholds => exact h.enter hnext false
  | otherwise hholds => exact h.enter hnext true
  | conditionFault hholds => exact h
  | jump hscene => exact ⟨.of_nil rfl rfl, h.pending, h.status⟩
  | jumpFault hscene => exact h

theorem Running.turn {e : Engine} (h : e.Running) : e.turn.Sound := by
  have hturns := turns_turn e
  generalize e.turn = outcome at hturns ⊢
  cases hturns with
  | lost hnext => exact h.settle
  | complete hnext =>
      obtain ⟨hframes, hbody⟩ := settle_of_next?_none hnext
      refine ⟨⟨fun hne => absurd rfl hne, fun hheld => ⟨rfl, ?_⟩⟩, ?_, ?_, fun _ => ⟨rfl, hbody⟩⟩
      · exact (h.placed.held hheld).2
      · simp [h.settle.pending]
      · exact fun p hp => absurd hp (h.pending_ne_some p)
  | perform hnext hperforms => exact h.settle.performs hnext hperforms

def Ended : Engine → Except Fault Step → Prop
  | e, .ok _ => e.Coherent
  | e, .error _ => e.Running

theorem Running.run {e : Engine} (h : e.Running) (n : Nat) : Ended (run n e).1 (run n e).2 := by
  refine run_induction (P := Running) (Q := Ended) ?_ ?_ ?_ ?_ n e h
  · intro e' h'
    exact h'
  · intro e' next h' hturn
    have hsound := h'.turn
    rwa [hturn] at hsound
  · intro e' next step h' hturn
    have hsound := h'.turn
    rwa [hturn] at hsound
  · intro e' next fault h' hturn
    have hsound := h'.turn
    rwa [hturn] at hsound

theorem Coherent.runToStep {e : Engine} (hplaced : e.Placed) (hpending : e.pending = none) :
    e.runToStep.2.Coherent := by
  have hrunning : Running { e with status := .sceneActive } :=
    ⟨hplaced.congr rfl rfl rfl, hpending, rfl⟩
  have hended := hrunning.run maxTurns
  unfold Engine.runToStep
  split
  · rename_i e' step hrun
    rwa [hrun] at hended
  · rename_i e' fault hrun
    rw [hrun] at hended
    exact .of_placed (hended.placed.congr rfl rfl rfl) rfl (by simp) (by simp)

namespace Coherent

variable {e : Engine}

/-- A choice that is taken leads past its dialogue or to another scene. -/
theorem take (h : e.Coherent) {p : Pending} (hp : e.pending = some p) (now text : String)
    (option : ChoiceOption) (actions : List Action) :
    (e.take now text option actions).Placed ∧ (e.take now text option actions).pending = none := by
  obtain ⟨speaker, content, own, choices, l, hnext, -⟩ := (h.offers p hp).dialogue
  unfold Engine.take
  cases option.target with
  | some target => exact ⟨.of_nil rfl rfl, pending_bump _⟩
  | none =>
      refine ⟨?_, pending_bump _⟩
      have hrecorded : ∀ record : ChoiceRecord,
          Placed { e with pending := none, state := e.state.addChoice record } :=
        fun record => h.placed.congr rfl rfl rfl
      refine ((hrecorded _).bump hnext).congr ?_ rfl rfl
      exact sceneBody_congr rfl (Action.applyAll_scene _ _)

theorem departs (h : e.Coherent) {m : Move} {e' : Engine} (hdeparts : Departs e m e') :
    e'.Placed ∧ e'.pending = none := by
  cases hdeparts with
  | start hscene => exact ⟨.of_nil rfl rfl, rfl⟩
  | proceed hscene hcomplete hwaiting =>
      refine ⟨h.placed, ?_⟩
      -- Choices that wait would have been shown again.
      cases hpending : e.pending with
      | none => rfl
      | some p =>
          have hstatus : e.status = .awaitingChoice := h.pending_iff.mp (by simp [hpending])
          exact (hwaiting p hstatus hpending).elim
  | choose hstatus hp hoption hcheck => exact h.take hp _ _ _ _

theorem move (h : e.Coherent) (m : Move) : (e.move m).2.Coherent := by
  obtain ⟨hsame, -⟩ | ⟨e', hdeparts, hmove⟩ := move_cases e m
  · rwa [hsame]
  · obtain ⟨hplaced, hpending⟩ := h.departs hdeparts
    rw [hmove]
    exact .runToStep hplaced hpending

/-! ### Everything else -/

theorem place (e : Engine) (cursors : List BranchCursor) (hpending : e.pending = none)
    (hstatus : e.status = .idle) : (e.place cursors).Coherent :=
  .of_placed (.place e cursors) (by simp [hpending]) (by simp [hstatus]) (by simp [hstatus])

theorem amend (h : e.Coherent) (actions : List Action) :
    (e.modifyState (Action.applyAll · actions)).Coherent where
  placed := .of_nil rfl rfl
  pending_iff := by
    simp only [modifyState, release]
    split <;> simp_all
  offers := by simp [modifyState, release]
  complete := by
    intro hstatus
    refine ⟨rfl, ?_⟩
    have hcomplete : e.status = .sceneComplete := by
      simp only [modifyState, release] at hstatus
      split at hstatus <;> simp_all
    obtain ⟨-, body, hbody, hindex⟩ := h.complete hcomplete
    have hscene : (e.modifyState (Action.applyAll · actions)).sceneBody = e.sceneBody :=
      sceneBody_congr rfl (Action.applyAll_scene e.state actions)
    refine ⟨body, hscene.trans hbody, ?_⟩
    exact (Action.applyAll_index e.state actions).symm ▸ hindex

theorem serve (h : e.Coherent) (request : Request) : (e.serve request).Coherent := by
  cases request with
  | play m => exact h.move m
  | setScenes scenes => exact .place _ _ rfl rfl
  | setAssets assets =>
      refine ⟨h.placed.congr rfl rfl rfl, h.pending_iff, fun p hp => ?_, h.complete⟩
      obtain ⟨hdialogue, hnonempty, hindices, htargets⟩ := h.offers p hp
      exact ⟨hdialogue, hnonempty, hindices, htargets⟩
  | restore saved => exact .place _ _ rfl rfl
  | reset =>
      have hstatus : (e.serve .reset).status = .idle := rfl
      exact .of_placed (.of_nil rfl rfl) rfl (by simp [hstatus]) (by simp [hstatus])
  | amend actions => exact h.amend actions

end Coherent

/-- Every engine that a host can reach is coherent. -/
theorem Reachable.coherent {helpers : Template.Registry} {e : Engine} (h : e.Reachable helpers) :
    e.Coherent := by
  refine h.induction ?_ (fun e request he => he.serve request)
  intro scenes assets initial
  exact .place _ _ (by simp [setScenes]) (by simp [setScenes])

/-- How the fields of an engine fit together, whatever the host has asked for. -/
theorem fields_of_reachable {helpers : Template.Registry} {e : Engine} (h : e.Reachable helpers) :
    (e.pending.isSome ↔ e.status = .awaitingChoice) ∧
    (∀ p, e.pending = some p →
      (∃ speaker text actions choices location,
        e.next? = .ok (some (.dialogue speaker text actions (some choices) location)) ∧
          p.options.Sublist choices) ∧
      p.options ≠ [] ∧
      p.presented.length = p.options.length ∧
      p.presented.map PresentedChoice.index = List.range p.presented.length ∧
      p.presented.map PresentedChoice.target = p.options.map ChoiceOption.target) ∧
    (e.frames ≠ [] → ∃ body, e.sceneBody = .ok body ∧ Nested body e.frames) ∧
    (e.held ≠ [] → e.frames = [] ∧
      ∀ name, e.state.scene = some name → Keyed.get? name e.scenes = none) ∧
    (e.status = .sceneComplete →
      e.frames = [] ∧ ∃ body, e.sceneBody = .ok body ∧ body.length ≤ e.state.index) := by
  have hcoherent := h.coherent
  refine ⟨hcoherent.pending_iff, fun p hp => ?_, hcoherent.placed.path, fun hheld => ?_,
    hcoherent.complete⟩
  · obtain ⟨hdialogue, hnonempty, hindices, htargets⟩ := hcoherent.offers p hp
    have hlength : p.presented.length = p.options.length := by
      simpa using congrArg List.length hindices
    exact ⟨hdialogue, hnonempty, hlength, hlength ▸ hindices, htargets⟩
  · obtain ⟨hframes, hloaded⟩ := hcoherent.placed.held hheld
    refine ⟨hframes, fun name hname => ?_⟩
    cases hget : Keyed.get? name e.scenes with
    | none => rfl
    | some body => exact absurd ⟨body, sceneBody_eq_ok_iff.mpr ⟨name, hname, hget⟩⟩ hloaded

/-- A scene that asks inside a branch, with one choice hidden, one that goes on and one that leads
back. -/
def crossroads : List Scene :=
  let first : Location := ⟨"story.json", 1, "start"⟩
  let second : Location := ⟨"story.json", 2, "start"⟩
  let options : List ChoiceOption :=
    [⟨"left", none, none, []⟩, ⟨"up", none, some "false", []⟩, ⟨"back", some "start", none, []⟩]
  [⟨"start",
    [.conditional "true" [.dialogue none "Which way?" [] (some options) first] none first,
      .dialogue none "You go on." [] none second]⟩]

def asking : Engine := (new crossroads [] [] none).serve (.play (.start "start"))

theorem reachable_asking : asking.Reachable [] :=
  ⟨crossroads, [], none, [.play (.start "start")], rfl⟩

theorem fields_asking :
    asking.status = .awaitingChoice ∧ asking.frames.length = 1 ∧ asking.pending.isSome ∧
      ∃ body, asking.sceneBody = .ok body ∧ Nested body asking.frames := by
  have hstatus : asking.status = .awaitingChoice := by rfl
  have hframes : asking.frames.length = 1 := by rfl
  obtain ⟨hpending, -, hpath, -⟩ := fields_of_reachable reachable_asking
  exact ⟨hstatus, hframes, hpending.mpr hstatus, hpath (by rintro h; simp [h] at hframes)⟩

end BranchingStory.Engine
