import BranchingStory.Proofs.Engine.Clock
import BranchingStory.Proofs.Script

/-!
A saved game is taken up where it was left. What is saved is less than what there is: choices that
wait and the status are not in it. They come back because the next step is found again: a dialogue
of a script changes nothing when it is shown, so it is shown once more, and the end of a scene is
reached once more.
-/

namespace BranchingStory.Engine

/-! ### Quiet scenes -/

def Quiet (t : Setting) : Prop :=
  ∀ name body, Keyed.get? name t.scenes = some body → Instruction.QuietBranch body

theorem quiet_branch {f : Frame} {sequence : List Instruction} (hopens : f.Opens sequence)
    (hquiet : Instruction.QuietBranch sequence) : Instruction.QuietBranch f.instructions := by
  obtain ⟨-, condition, thenBranch, elseBranch, l, hat, hbranch⟩ := hopens
  obtain ⟨hthen, helse⟩ := Instruction.quietBranch_iff.mp hquiet _ (List.mem_of_getElem? hat)
  split at hbranch
  · rwa [hbranch] at helse
  · rwa [hbranch] at hthen

theorem quiet_innermost {body : List Instruction} (hquiet : Instruction.QuietBranch body)
    {frames : List Frame} (hnested : Nested body frames) :
    Instruction.QuietBranch (innermost body frames) := by
  induction frames with
  | nil => exact hquiet
  | cons f rest ih => exact quiet_branch hnested.1 (ih hnested.2.2)

theorem Placed.quiet {e : Engine} (h : e.Placed) (hquiet : Quiet e.setting) {i : Instruction}
    (hnext : e.next? = .ok (some i)) : i.Quiet := by
  obtain ⟨body, hbody⟩ := h.loaded hnext
  obtain ⟨name, -, hget⟩ := sceneBody_eq_ok_iff.mp hbody
  rw [next?_eq hbody, Except.ok.injEq] at hnext
  have hinnermost := quiet_innermost (hquiet name body hget) (h.nested hbody)
  exact Instruction.quietBranch_iff.mp hinnermost i (List.mem_of_getElem? hnext)

/-! ### What comes back from a save -/

structure Repeats (e : Engine) (p : Pending) : Prop where
  settled : e.settle = e
  dialogue : ∃ speaker text choices l,
    e.next? = .ok (some (.dialogue speaker text [] choices l)) ∧
      e.speak speaker text choices = .ok p

/-- The engine is such that a save of it tells all that matters. -/
structure Resumable (e : Engine) : Prop where
  coherent : e.Coherent
  held : e.held = []
  canonical : e.state.Canonical
  unstarted : e.state.scene = none → e.state.index = 0 ∧ e.status = .idle
  repeats : ∀ p, e.pending = some p → e.Repeats p

/-! ### While a story is played -/

structure Underway (e : Engine) : Prop where
  held : e.held = []
  canonical : e.state.Canonical
  scene : e.state.scene ≠ none

namespace Underway

variable {e : Engine}

theorem acted (h : e.Underway) {actions : List Json} {state : GameState}
    (hrun : Action.run e.state actions = .ok state) : Underway { e with state } :=
  ⟨h.held, Action.run_canonical h.canonical hrun, (Action.run_scene hrun).trans_ne h.scene⟩

theorem bump (h : e.Underway) : e.bump.Underway :=
  ⟨(held_bump e).trans h.held, h.canonical.congr (vars_bump e) (flags_bump e),
    (scene_bump e).trans_ne h.scene⟩

theorem applyAll (h : e.Underway) {actions : List Action} (htidy : ∀ a ∈ actions, a.Tidy) :
    Underway { e with state := Action.applyAll e.state actions } :=
  ⟨h.held, Action.applyAll_canonical h.canonical htidy,
    (Action.applyAll_scene _ _).trans_ne h.scene⟩

theorem setPosition (h : e.Underway) (name : String) :
    Underway { e with state := e.state.setPosition name 0, frames := [], held := [] } :=
  ⟨rfl, h.canonical.congr rfl rfl, Option.some_ne_none name⟩

theorem enter (h : e.Underway) (branch : List Instruction) (elseBranch : Bool) :
    (e.enter branch elseBranch).Underway := by
  rw [enter_eq]
  exact ⟨h.bump.held, h.bump.canonical, h.bump.scene⟩

end Underway

/-- What a turn leaves of an engine that can be saved: it can be saved again, and choices that came
up can be shown again. -/
def Turn.Saved : Turn → Prop
  | .running e => e.Underway
  | .stopped e _ => e.Underway ∧ ∀ p, e.pending = some p → e.Repeats p
  | .failed e _ => e.Underway

theorem Underway.performs {e : Engine} (h : e.Underway) (hrunning : e.Running)
    (hquiet : Quiet e.setting) (hsettled : e.settle = e) {i : Instruction} {outcome : Turn}
    (hnext : e.next? = .ok (some i)) (hperforms : Performs e i outcome) : outcome.Saved := by
  cases hperforms with
  | act hrun => exact (h.acted hrun).bump
  | actFault hrun => exact h
  | line hrun hspeak hnone =>
      refine ⟨(h.acted hrun).bump, fun q hq => ?_⟩
      rw [pending_bump] at hq
      exact absurd hq (hrunning.pending_ne_some q)
  | @offer speaker text actions choices l state p hrun hspeak hsome =>
      -- The dialogue has no actions, so showing it has changed nothing.
      obtain rfl : actions = [] := hrunning.placed.quiet hquiet hnext
      obtain rfl : e.state = state := Except.ok.inj hrun
      refine ⟨⟨h.held, h.canonical, h.scene⟩, ?_⟩
      intro q hq
      cases hq
      refine ⟨?_, speaker, text, choices, l, hnext, (speak_waiting e _ _ _ _ _).trans hspeak⟩
      exact congrArg (fun frames => { e with frames, pending := some p, status := .awaitingChoice })
        (congrArg frames hsettled)
  | lineFault hrun hspeak => exact h.acted hrun
  | lineActFault hrun => exact h
  | branch hholds => exact h.enter _ _
  | otherwise hholds => exact h.enter _ _
  | conditionFault hholds => exact h
  | jump hscene => exact h.setPosition _
  | jumpFault hscene => exact h

theorem Underway.turn {e : Engine} (h : e.Underway) (hrunning : e.Running)
    (hquiet : Quiet e.setting) : e.turn.Saved := by
  have hsettle : e.settle.Underway := ⟨h.held, h.canonical, h.scene⟩
  have hturns := turns_turn e
  generalize e.turn = outcome at hturns ⊢
  cases hturns with
  | lost hnext => exact hsettle
  | complete hnext =>
      refine ⟨⟨h.held, h.canonical, h.scene⟩, fun p hp => ?_⟩
      exact absurd hp (hrunning.pending_ne_some p)
  | perform hnext hperforms =>
      exact hsettle.performs hrunning.settle hquiet (settle_settle e) hnext hperforms

def Stays (e : Engine) : Prop := e.Underway ∧ ∀ p, e.pending = some p → e.Repeats p

theorem Underway.runToStep {e : Engine} (h : e.Underway) (hplaced : e.Placed)
    (hpending : e.pending = none) (hquiet : Quiet e.setting) : e.runToStep.2.Stays := by
  have hrun : Stays (run maxTurns { e with status := .sceneActive }).1 := by
    refine run_induction
      (P := fun e' => e'.Underway ∧ e'.Running ∧ Quiet e'.setting) (Q := fun e' _ => e'.Stays)
      ?_ ?_ ?_ ?_ maxTurns _ ⟨⟨h.held, h.canonical, h.scene⟩, ⟨hplaced.congr rfl rfl rfl, hpending,
        rfl⟩, hquiet⟩
    · rintro e' ⟨hunderway, hrunning, -⟩
      exact ⟨hunderway, fun p hp => absurd hp (hrunning.pending_ne_some p)⟩
    · rintro e' next ⟨hunderway, hrunning, hquiet'⟩ hturn
      have hsaved := hunderway.turn hrunning hquiet'
      have hsound := hrunning.turn
      have hsetting := setting_turn e'
      rw [hturn] at hsaved hsound hsetting
      exact ⟨hsaved, hsound, hsetting ▸ hquiet'⟩
    · rintro e' next step ⟨hunderway, hrunning, hquiet'⟩ hturn
      have hsaved := hunderway.turn hrunning hquiet'
      rwa [hturn] at hsaved
    · rintro e' next fault ⟨hunderway, hrunning, hquiet'⟩ hturn
      have hsaved := hunderway.turn hrunning hquiet'
      have hsound := hrunning.turn
      rw [hturn] at hsaved hsound
      exact ⟨hsaved, fun p hp => absurd hp (hsound.pending_ne_some p)⟩
  unfold Engine.runToStep
  split
  · rename_i e' step heq
    rwa [heq] at hrun
  · rename_i e' fault heq
    rw [heq] at hrun
    exact ⟨⟨hrun.1.held, hrun.1.canonical, hrun.1.scene⟩, fun p hp => by cases hp⟩

namespace Resumable

variable {e : Engine}

theorem departs (h : e.Resumable) {m : Move} {e' : Engine} (hdeparts : Departs e m e') :
    e'.Underway := by
  cases hdeparts with
  | start hscene => exact ⟨rfl, h.canonical.congr rfl rfl, Option.some_ne_none _⟩
  | proceed hscene hcomplete hwaiting =>
      exact ⟨h.held, h.canonical, hscene.trans_ne (Option.some_ne_none _)⟩
  | @choose now index p option actions hstatus hp hoption hcheck =>
      obtain ⟨speaker, text, own, choices, l, hnext, -⟩ := (h.coherent.offers p hp).dialogue
      obtain ⟨body, hbody⟩ := h.coherent.placed.loaded hnext
      obtain ⟨name, hname, -⟩ := sceneBody_eq_ok_iff.mp hbody
      have htidy := Action.ofDescriptors_tidy (checkChoice_eq_ok hcheck).1
      have hrecorded : ∀ record : ChoiceRecord,
          Underway { e with pending := none, state := e.state.addChoice record } := fun record =>
        ⟨h.held, h.canonical.congr rfl rfl, hname.trans_ne (Option.some_ne_none _)⟩
      have hacted := fun record => (hrecorded record).bump.applyAll htidy
      unfold take
      split
      · exact hacted _
      · exact (hacted _).setPosition _

theorem move (h : e.Resumable) (hquiet : Quiet e.setting) (m : Move) :
    (e.move m).2.Resumable := by
  have hcoherent := h.coherent.move m
  obtain ⟨hsame, -⟩ | ⟨e', hdeparts, hmove⟩ := move_cases e m
  · rwa [hsame]
  · obtain ⟨hplaced, hpending⟩ := h.coherent.departs hdeparts
    have hquiet' : Quiet e'.setting := hdeparts.setting_eq ▸ hquiet
    obtain ⟨hunderway, hrepeats⟩ := (h.departs hdeparts).runToStep hplaced hpending hquiet'
    rw [hmove] at hcoherent ⊢
    exact ⟨hcoherent, hunderway.held, hunderway.canonical,
      fun hscene => absurd hscene hunderway.scene, hrepeats⟩

end Resumable

/-- The engine as a save of it leaves it: nothing waits, and nothing has been done. -/
def suspended (e : Engine) : Engine := { e with pending := none, status := .idle }

/-- A step that is found at once is where a run ends. -/
theorem runToStep_of_stopped {e e' : Engine} {step : Step}
    (hturn : turn { e with status := .sceneActive } = .stopped e' step) :
    e.runToStep = (step, e') := by
  have hrun : run maxTurns { e with status := .sceneActive } = (e', .ok step) := by
    rw [maxTurns, run, hturn]
  rw [runToStep, hrun]

/-- Choices that wait come up again. -/
theorem Repeats.turn_eq {e : Engine} {p : Pending} (h : e.Repeats p) (hsome : p.options ≠ [])
    (hpending : e.pending = some p) (hstatus : e.status = .awaitingChoice) :
    turn { e with pending := none, status := .sceneActive } = .stopped e p.step := by
  obtain ⟨hsettled, speaker, text, choices, l, hnext, hspeak⟩ := h
  let again : Engine := { e with pending := none, status := .sceneActive }
  have hsettle : again.settle = again :=
    congrArg (fun frames => { again with frames }) (congrArg frames hsettled)
  have hnext' : again.next? = .ok (some (.dialogue speaker text [] choices l)) := hnext
  have hspeak' : again.speak speaker text choices = .ok p :=
    (speak_waiting e _ _ _ _ _).trans hspeak
  have hempty : p.options.isEmpty = false := by simpa using hsome
  have hsame : ({ again with pending := some p, status := .awaitingChoice } : Engine) = e := by
    rw [← hpending, ← hstatus]
  change again.turn = _
  rw [turn, hsettle]
  simp only [hnext', perform, Action.run_nil]
  rw [show ({ again with state := again.state } : Engine) = again from rfl, hspeak']
  simp only [display, hempty, hsame, Bool.false_eq_true, if_false]

/-- The end of a scene is reached again. -/
theorem turn_of_complete {e : Engine} (hcoherent : e.Coherent)
    (hstatus : e.status = .sceneComplete) :
    turn { e with pending := none, status := .sceneActive } = .stopped e .sceneComplete := by
  obtain ⟨hframes, body, hbody, hle⟩ := hcoherent.complete hstatus
  have hpending : e.pending = none := by
    by_contra hsome
    have hawaiting := hcoherent.pending_iff.mp (Option.isSome_iff_ne_none.mpr hsome)
    simp [hstatus] at hawaiting
  let again : Engine := { e with pending := none, status := .sceneActive }
  have hsettle : again.settle = again := by
    simp only [settle, again, hframes, List.dropWhile_nil]
  have hnext : again.next? = .ok none := by
    rw [next?_eq (show again.sceneBody = .ok body from hbody)]
    simp [again, hframes, innermost, cursor, hle]
  have hsame : ({ again with frames := [], status := .sceneComplete } : Engine) = e := by
    rw [← hframes, ← hstatus, show again.pending = e.pending from hpending.symm]
  change again.turn = _
  rw [turn, hsettle]
  simp only [hnext, hsame]

/-- Going on finds again what a save leaves out. -/
theorem Resumable.proceed_suspended {e : Engine} (h : e.Resumable) :
    e.suspended.proceed = e.proceed := by
  have hpending : e.status ≠ .awaitingChoice → e.pending = none := by
    intro hstatus
    by_contra hsome
    exact hstatus (h.coherent.pending_iff.mp (Option.isSome_iff_ne_none.mpr hsome))
  cases hscene : e.state.scene with
  | none =>
      obtain ⟨-, hidle⟩ := h.unstarted hscene
      have hnone := hpending (by simp [hidle])
      rw [show e.suspended = e by rw [suspended, ← hidle, ← hnone]]
  | some name =>
      have hsuspended : e.suspended.proceed = e.suspended.runToStep :=
        Departs.move_eq (.proceed (e := e.suspended) hscene (by simp [suspended])
          (by simp [suspended]))
      rw [hsuspended]
      by_cases hawaiting : e.status = .awaitingChoice
      · obtain ⟨p, hp⟩ := Option.isSome_iff_exists.mp (h.coherent.pending_iff.mpr hawaiting)
        have hturn := (h.repeats p hp).turn_eq (h.coherent.offers p hp).nonempty hp hawaiting
        rw [runToStep_of_stopped hturn]
        simp only [proceed, hawaiting, hp]
      · by_cases hcomplete : e.status = .sceneComplete
        · rw [runToStep_of_stopped (turn_of_complete h.coherent hcomplete)]
          simp only [proceed, hcomplete]
        · have hproceed : e.proceed = e.runToStep :=
            Departs.move_eq (.proceed hscene hcomplete fun p hstatus => absurd hstatus hawaiting)
          have hnone := hpending hawaiting
          rw [hproceed, runToStep, runToStep,
            show ({ e.suspended with status := .sceneActive } : Engine) =
              { e with status := .sceneActive } by rw [suspended, ← hnone]]

theorem cursors_of_held {e : Engine} (hheld : e.held = []) :
    e.cursors = (e.frames.map Frame.cursor).reverse := by
  unfold cursors
  split
  · rename_i hempty
    rw [hheld, List.isEmpty_iff.mp hempty]
    rfl
  · rfl

/-- A save brings back all but what waits and what was done, wherever the state can be saved as it
is. -/
theorem Placed.restore_save {e fresh : Engine} (h : e.Placed) (hheld : e.held = []) {now : String}
    (hstate : (e.save now).toState = e.state) (hsetting : fresh.setting = e.setting) :
    fresh.restore (e.save now) = e.suspended := by
  have hcursors := cursors_of_held hheld
  have hplace : Engine.place { e with pending := none, status := .idle } e.cursors =
      e.suspended := by
    unfold Engine.place
    split
    · rename_i body hbody
      have hnested : Nested body e.frames := h.nested hbody
      rw [hcursors, framesAlong_cursors hnested, List.reverse_reverse, ← hheld]
      rfl
    · rename_i cause hbody
      have hframes : e.frames = [] := by
        by_contra hframes
        obtain ⟨body, hbody', -⟩ := h.path hframes
        exact absurd (hbody.symm.trans hbody') (by simp)
      rw [hcursors, hframes, suspended, hframes, hheld]
      rfl
  have hsame : ({ fresh with state := e.state, pending := none, status := .idle } : Engine).place
      e.cursors = Engine.place { e with pending := none, status := .idle } e.cursors := by
    obtain ⟨hscenes, hassets, hhelpers⟩ := Setting.mk.inj hsetting
    simp only [Engine.place, sceneBody, hscenes, hassets, hhelpers]
  rw [restore, hstate]
  exact hsame.trans hplace

theorem Resumable.restore_save {e fresh : Engine} (h : e.Resumable)
    (hsetting : fresh.setting = e.setting) (now : String) :
    fresh.restore (e.save now) = e.suspended :=
  h.coherent.placed.restore_save h.held (Save.toState_ofState h.canonical.sorted
    h.canonical.flags (fun hscene => (h.unstarted hscene).1) now) hsetting

/-! ### Playing on -/

def plays (e : Engine) : List Move → List (Step × Engine)
  | [] => []
  | m :: rest => e.move m :: (e.move m).2.plays rest

def after (e : Engine) (moves : List Move) : Engine := moves.foldl (fun e m => (e.move m).2) e

theorem setting_after (e : Engine) (moves : List Move) : (e.after moves).setting = e.setting := by
  induction moves generalizing e with
  | nil => rfl
  | cons m rest ih => exact (ih (e.move m).2).trans (setting_move e m)

theorem Resumable.after {e : Engine} (h : e.Resumable) (hquiet : Quiet e.setting)
    (moves : List Move) : (e.after moves).Resumable := by
  induction moves generalizing e with
  | nil => exact h
  | cons m rest ih => exact ih (h.move hquiet m) ((setting_move e m).symm ▸ hquiet)

theorem new_none (scenes : List Scene) (assets : List Asset) (helpers : Template.Registry) :
    new scenes assets helpers none =
      { scenes := Keyed.distinct (scenes.map fun s => (s.name, s.instructions))
        assets
        helpers := Template.Standard.registry.extend helpers } := rfl

theorem resumable_new (scenes : List Scene) (assets : List Asset) (helpers : Template.Registry) :
    (new scenes assets helpers none).Resumable := by
  rw [new_none]
  exact ⟨.of_placed (.of_nil rfl rfl) rfl (by simp) (by simp), rfl, .empty, fun _ => ⟨rfl, rfl⟩,
    fun p hp => by cases hp⟩

theorem quiet_new {scenes : List Scene} (hquiet : Script.Quiet scenes) (assets : List Asset)
    (helpers : Template.Registry) : Quiet (new scenes assets helpers none).setting := by
  rw [new_none]
  intro name body hget
  have hmem := Keyed.mem_distinct (Keyed.mem_of_get?_eq_some hget)
  obtain ⟨scene, hscene, hentry⟩ := List.mem_map.mp hmem
  cases hentry
  exact hquiet scene hscene

/-- A game that is saved and taken up again goes on as if it had never been left. -/
theorem Resumable.plays_restored {e fresh : Engine} (h : e.Resumable)
    (hsetting : fresh.setting = e.setting) (now : String) (moves : List Move) :
    (fresh.restore (e.save now)).plays (.proceed :: moves) = e.plays (.proceed :: moves) := by
  have hproceed : (fresh.restore (e.save now)).move .proceed = e.move .proceed := by
    rw [h.restore_save hsetting now]
    exact h.proceed_suspended
  rw [plays, plays, hproceed]

/-- The same moves at other times lead through the same steps. -/
theorem Alike.plays {n : Nat} {e e' : Engine} (h : Alike n e e')
    (hblind : e.helpers.Blind GameState.SameButTimes) {moves moves' : List Move}
    (hmoves : moves'.map Move.untimed = moves.map Move.untimed) :
    List.Forall₂ (fun a b => b.1 = a.1 ∧ b.2.untimed n = a.2.untimed n)
      (e.plays moves) (e'.plays moves') := by
  induction moves generalizing e e' moves' with
  | nil =>
      obtain rfl : moves' = [] := List.map_eq_nil_iff.mp hmoves
      exact .nil
  | cons m rest ih =>
      obtain ⟨m', rest', rfl, hm, hrest⟩ := List.map_eq_cons_iff.mp hmoves
      obtain ⟨hstep, halike⟩ := h.move hblind hm
      have hblind' : (e.move m).2.helpers.Blind GameState.SameButTimes := by
        rwa [show (e.move m).2.helpers = e.helpers from
          congrArg Setting.helpers (setting_move e m)]
      exact .cons ⟨hstep, halike.same.symm⟩ (ih halike hblind' hrest)

/-- Saving and taking up again is not noticed. A game played from a script has its state and its
open branches back, and goes on through the same steps and engines; at other times of day the
engines differ in the times of new choices only. -/
theorem plays_restore_save {scenes : List Scene} (hread : Script.Read scenes)
    (assets : List Asset) (helpers : Template.Registry) (moves : List Move) (now : String) :
    let fresh := new scenes assets helpers none
    let e := fresh.after moves
    let r := fresh.restore (e.save now)
    (r.state = e.state ∧ r.frames = e.frames) ∧
    (∀ further, r.plays (.proceed :: further) = e.plays (.proceed :: further)) ∧
    (helpers.Blind GameState.SameButTimes → ∀ further further',
      further'.map Move.untimed = further.map Move.untimed →
      List.Forall₂
        (fun a b => b.1 = a.1 ∧
          b.2.untimed e.state.history.length = a.2.untimed e.state.history.length)
        (e.plays (.proceed :: further)) (r.plays (.proceed :: further'))) := by
  intro fresh e r
  have hquiet : Quiet fresh.setting := quiet_new hread.quiet assets helpers
  have hresumable : e.Resumable := (resumable_new scenes assets helpers).after hquiet moves
  have hsetting : e.setting = fresh.setting := setting_after fresh moves
  have hplays := hresumable.plays_restored hsetting.symm now
  refine ⟨?_, hplays, fun hblind further further' hfurther => ?_⟩
  · rw [show r = e.suspended from hresumable.restore_save hsetting.symm now]
    exact ⟨rfl, rfl⟩
  · have hblind' : e.helpers.Blind GameState.SameButTimes := by
      rw [show e.helpers = fresh.helpers from congrArg Setting.helpers hsetting]
      exact (Template.Standard.registry_blind GameState.unseen_times).extend hblind
    rw [hplays further']
    exact Alike.plays ⟨rfl, le_rfl, le_rfl⟩ hblind' (congrArg (Move.proceed :: ·) hfurther)

def crossroadsScript : Json :=
  .object [("start", .list [
    .object [("if", .text "true"), ("then", .object [("say", .text "Which way?"),
      ("choices", .list [.text "left",
        .object [("text", .text "up"), ("if", .text "false")],
        .object [("text", .text "back"), ("target", .text "start")]])])],
    .text "You go on."])]

theorem read_crossroads : Script.Read crossroads :=
  .inl ⟨"story.json", crossroadsScript, by cbv⟩

theorem plays_asking_restored :
    let r := (new crossroads [] [] none).restore (asking.save "noon")
    asking.status = .awaitingChoice ∧ r.status = .idle ∧ r.frames = asking.frames ∧
      r.plays [.proceed, .choose "one" 0, .proceed] =
        asking.plays [.proceed, .choose "one" 0, .proceed] ∧
      List.Forall₂ (fun a b => b.1 = a.1 ∧ b.2.untimed 0 = a.2.untimed 0)
        (asking.plays [.proceed, .choose "one" 0]) (r.plays [.proceed, .choose "two" 0]) := by
  intro r
  obtain ⟨⟨-, hframes⟩, hplays, htimes⟩ :=
    plays_restore_save read_crossroads [] [] [.start "start"] "noon"
  exact ⟨rfl, rfl, hframes, hplays [.choose "one" 0, .proceed],
    htimes Template.Registry.blind_nil [.choose "one" 0] [.choose "two" 0] rfl⟩

end BranchingStory.Engine
