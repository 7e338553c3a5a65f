import BranchingStory.Proofs.Engine.Choosing
import BranchingStory.Proofs.Engine.Resume

/-!
Faults in the middle of a story. A run that meets a fault has completed some instructions and stands
at the one that fails, of which nothing is done: the state is what the completed instructions have
made of it. Going on meets the same fault again and changes nothing. Only the guard against runs
without end is different, as it stops where no instruction has failed.
-/

namespace BranchingStory

/-- What an instruction that is completed does to the state, apart from the index into the scene. -/
def Instruction.effect (s : GameState) : Instruction → GameState
  | .action actions _ =>
    match Action.run s actions with
    | .ok acted => acted
    | .error _ => s
  | .jump target _ => { s with scene := some target }
  | .dialogue .. => s
  | .conditional .. => s

namespace Engine

/-! ### Instructions that fail -/

inductive Faults (e : Engine) : Instruction → Fault → Prop
  | action {actions : List Json} {l : Location} {fault : Fault}
      (hrun : Action.run e.state actions = .error fault) : Faults e (.action actions l) fault
  | dialogue {speaker : Option String} {text : String} {choices : Option (List ChoiceOption)}
      {l : Location} {fault : Fault} (hspeak : e.speak speaker text choices = .error fault) :
      Faults e (.dialogue speaker text [] choices l) fault
  | condition {condition : String} {thenBranch : List Instruction}
      {elseBranch : Option (List Instruction)} {l : Location} {fault : Fault}
      (hholds : e.holds condition = .error fault) :
      Faults e (.conditional condition thenBranch elseBranch l) fault
  | jump {target : String} {l : Location} (hscene : e.hasScene target = false) :
      Faults e (.jump target l) (.engine (.jumpTargetNotFound target))

/-- An instruction that fails leaves the engine as it is. -/
theorem Faults.perform_eq {e : Engine} {i : Instruction} {fault : Fault} (h : Faults e i fault) :
    e.perform i = .failed e fault := by
  cases h with
  | action hrun => simp only [perform, hrun]
  | dialogue hspeak =>
      simp only [perform, Action.run_nil]
      rw [show ({ e with state := e.state } : Engine) = e from rfl, hspeak]
  | condition hholds => simp only [perform, hholds]
  | jump hscene => simp [perform, Engine.jump, hscene]

/-- A quiet instruction that fails has one of these faults. -/
theorem faults_of_performs {e e' : Engine} {i : Instruction} {fault : Fault} (hquiet : i.Quiet)
    (hperforms : Performs e i (.failed e' fault)) : e' = e ∧ Faults e i fault := by
  cases hperforms with
  | actFault hrun => exact ⟨rfl, .action hrun⟩
  | lineFault hrun hspeak =>
      -- Without actions of its own the dialogue has not touched the state.
      obtain rfl : _ = [] := hquiet
      obtain rfl := Except.ok.inj hrun
      exact ⟨rfl, .dialogue hspeak⟩
  | lineActFault hrun =>
      obtain rfl : _ = [] := hquiet
      cases hrun
  | conditionFault hholds => exact ⟨rfl, .condition hholds⟩
  | jumpFault hscene => exact ⟨rfl, .jump hscene⟩

theorem Faults.waiting {e : Engine} {i : Instruction} {fault : Fault} (h : Faults e i fault)
    (pending : Option Pending) (status : Status) : Faults { e with pending, status } i fault := by
  cases h with
  | action hrun => exact .action hrun
  | dialogue hspeak => exact .dialogue ((speak_waiting e pending status _ _ _).trans hspeak)
  | condition hholds => exact .condition hholds
  | jump hscene => exact .jump hscene

inductive Fails (e : Engine) : Fault → Prop
  | instruction {i : Instruction} {fault : Fault} (hnext : e.settle.next? = .ok (some i))
      (hfaults : Faults e.settle i fault) : Fails e fault
  | lost {cause : EngineFault} (hnext : e.settle.next? = .error cause) : Fails e (.engine cause)
  | unstarted (hscene : e.state.scene = none) : Fails e (.engine .noActiveScene)

/-! ### Quiet engines -/

structure AllQuiet (e : Engine) : Prop where
  scenes : Quiet e.setting
  frames : ∀ f ∈ e.frames, Instruction.QuietBranch f.instructions

/-- Branches of quiet scenes are quiet. -/
theorem Placed.allQuiet {e : Engine} (h : e.Placed) (hquiet : Quiet e.setting) : e.AllQuiet := by
  refine ⟨hquiet, fun f hf => ?_⟩
  obtain ⟨body, hbody, hnested⟩ := h.path (List.ne_nil_of_mem hf)
  obtain ⟨name, -, hget⟩ := sceneBody_eq_ok_iff.mp hbody
  obtain ⟨inner, outer, hsplit⟩ := List.append_of_mem hf
  rw [hsplit] at hnested
  exact quiet_innermost (hquiet name body hget) hnested.of_suffix

namespace AllQuiet

variable {e : Engine}

theorem settle (h : e.AllQuiet) : e.settle.AllQuiet :=
  ⟨h.scenes, fun f hf => h.frames f ((List.dropWhile_sublist _).mem hf)⟩

theorem next (h : e.AllQuiet) {i : Instruction} (hnext : e.next? = .ok (some i)) : i.Quiet := by
  unfold next? at hnext
  split at hnext
  · rename_i f rest hframes
    have hquiet := h.frames f (by simp [hframes])
    exact Instruction.quietBranch_iff.mp hquiet i (List.mem_of_getElem? (Except.ok.inj hnext))
  · split at hnext
    · cases hnext
    · rename_i body hbody
      obtain ⟨name, -, hget⟩ := sceneBody_eq_ok_iff.mp hbody
      exact Instruction.quietBranch_iff.mp (h.scenes name body hget) i
        (List.mem_of_getElem? (Except.ok.inj hnext))

theorem bump (h : e.AllQuiet) : e.bump.AllQuiet := by
  refine ⟨(setting_bump e).symm ▸ h.scenes, ?_⟩
  unfold Engine.bump
  split
  · rename_i f rest hframes
    rintro g hg
    rcases List.mem_cons.mp hg with rfl | hg
    · exact h.frames f (by simp [hframes])
    · exact h.frames g (by simp [hframes, hg])
  · exact h.frames

theorem enter (h : e.AllQuiet) {branch : List Instruction}
    (hbranch : Instruction.QuietBranch branch) (elseBranch : Bool) :
    (e.enter branch elseBranch).AllQuiet := by
  refine ⟨(setting_enter e branch elseBranch).symm ▸ h.scenes, ?_⟩
  rw [enter_eq]
  intro f hf
  rcases List.mem_append.mp hf with hf | hf
  · split at hf
    · cases hf
    · exact List.mem_singleton.mp hf ▸ hbranch
  · exact h.bump.frames f hf

theorem performs (h : e.AllQuiet) {i : Instruction} {e' : Engine}
    (hnext : e.next? = .ok (some i)) (hperforms : Performs e i (.running e')) : e'.AllQuiet := by
  have hquiet := h.next hnext
  cases hperforms with
  | act hrun => exact bump ⟨h.scenes, h.frames⟩
  | branch hholds => exact h.enter hquiet.1 false
  | @otherwise condition thenBranch elseBranch l hholds =>
      refine h.enter ?_ true
      cases elseBranch with
      | none => trivial
      | some branch => exact hquiet.2
  | jump hscene => exact ⟨h.scenes, fun f hf => by cases hf⟩

/-- A turn that fails leaves the story at what has failed. -/
theorem turn_failed (h : e.AllQuiet) {e' : Engine} {fault : Fault}
    (hturn : e.turn = .failed e' fault) : e' = e.settle ∧ e.Fails fault := by
  have hturns := turns_turn e
  rw [hturn] at hturns
  cases hturns with
  | lost hnext => exact ⟨rfl, .lost hnext⟩
  | perform hnext hperforms =>
      obtain ⟨hsame, hfaults⟩ := faults_of_performs (h.settle.next hnext) hperforms
      exact ⟨hsame, .instruction hnext hfaults⟩

end AllQuiet

/-! ### Instructions that are completed -/

/-- Instructions are completed one after the other: each is the next where the story stands, and
carrying it out shows nothing and meets no fault. -/
inductive Completes : Engine → List Instruction → Engine → Prop
  | nothing (e : Engine) : Completes e [] e
  | next {e e' e'' : Engine} {i : Instruction} {rest : List Instruction}
      (hnext : e.settle.next? = .ok (some i)) (hperform : e.settle.perform i = .running e')
      (hrest : Completes e' rest e'') : Completes e (i :: rest) e''

theorem exists_of_turn_running {e e' : Engine} (h : e.turn = .running e') :
    ∃ i, e.settle.next? = .ok (some i) ∧ e.settle.perform i = .running e' := by
  rw [turn] at h
  split at h
  · cases h
  · cases h
  · rename_i i hnext
    exact ⟨i, hnext, h⟩

/-- A run that fails, but not by the guard, has completed some instructions before. -/
theorem exists_completes_of_run {n : Nat} {e e' : Engine} {fault : Fault}
    (hrun : run n e = (e', .error fault)) (hguard : fault.code ≠ "ENGINE_GUARD_EXCEEDED") :
    ∃ completed stuck, Completes e completed stuck ∧ stuck.turn = .failed e' fault := by
  induction n generalizing e with
  | zero =>
      obtain rfl := Except.error.inj (congrArg Prod.snd hrun)
      exact absurd rfl hguard
  | succ n ih =>
      rw [run] at hrun
      cases hturn : e.turn with
      | running next =>
          rw [hturn] at hrun
          obtain ⟨i, hnext, hperform⟩ := exists_of_turn_running hturn
          obtain ⟨completed, stuck, hcompletes, hfailed⟩ := ih hrun
          exact ⟨i :: completed, stuck, .next hnext hperform hcompletes, hfailed⟩
      | stopped next step =>
          rw [hturn] at hrun
          cases congrArg Prod.snd hrun
      | failed next found =>
          rw [hturn] at hrun
          cases hrun
          exact ⟨[], e, .nothing e, hturn⟩

theorem state_bump (e : Engine) : e.bump.state = { e.state with index := e.bump.state.index } := by
  unfold bump
  split <;> rfl

/-- An instruction that is completed has its effect, and may move the index. -/
theorem state_of_performs {e e' : Engine} {i : Instruction}
    (hperforms : Performs e i (.running e')) :
    e'.state = { i.effect e.state with index := e'.state.index } := by
  cases hperforms with
  | act hrun =>
      simp only [Instruction.effect, hrun]
      exact state_bump _
  | branch hholds =>
      rw [enter_eq]
      exact state_bump e
  | otherwise hholds =>
      rw [enter_eq]
      exact state_bump e
  | jump hscene => rfl

theorem effect_with (s : GameState) (index : Nat) (i : Instruction) :
    i.effect { s with index } = { i.effect s with index } := by
  cases i with
  | action actions l =>
      have hwith := Action.run_with s s.scene index s.history actions
      cases hrun : Action.run s actions with
      | error fault =>
          rw [hrun] at hwith
          simp only [Instruction.effect, hrun, hwith, Except.map]
      | ok acted =>
          rw [hrun] at hwith
          have hscene := Action.run_scene hrun
          have hhistory := Action.run_history hrun
          simp only [Instruction.effect, hrun, hwith, Except.map, hscene, hhistory]
  | _ => rfl

theorem foldl_effect_with (s : GameState) (index : Nat) (instructions : List Instruction) :
    instructions.foldl Instruction.effect { s with index } =
      { instructions.foldl Instruction.effect s with index } := by
  induction instructions generalizing s with
  | nil => rfl
  | cons i rest ih => rw [List.foldl_cons, effect_with, ih, List.foldl_cons]

namespace Completes

variable {e e' : Engine} {completed : List Instruction}

/-- The state is what the completed instructions have made of it. -/
theorem state_eq (h : Completes e completed e') :
    e'.state = { completed.foldl Instruction.effect e.state with index := e'.state.index } := by
  induction h with
  | nothing e => rfl
  | @next e middle last i rest hnext hperform hrest ih =>
      have hstate := state_of_performs (hperform ▸ performs_perform e.settle i)
      rw [ih, hstate, foldl_effect_with]
      rfl

theorem keeps (h : Completes e completed e') (hquiet : e.AllQuiet)
    (hscene : e.state.scene ≠ none) : e'.AllQuiet ∧ e'.state.scene ≠ none := by
  induction h with
  | nothing e => exact ⟨hquiet, hscene⟩
  | @next e middle last i rest hnext hperform hrest ih =>
      have hperforms : Performs e.settle i (.running middle) :=
        hperform ▸ performs_perform e.settle i
      refine ih (hquiet.settle.performs hnext hperforms) ?_
      rw [state_of_performs hperforms]
      cases i with
      | jump target l => exact Option.some_ne_none target
      | action actions l =>
          cases hperforms with
          | act hrun =>
              simp only [Instruction.effect, hrun]
              rw [Action.run_scene hrun]
              exact hscene
      | _ => exact hscene

end Completes

/-! ### Meeting a fault again -/

namespace Fails

variable {e : Engine} {fault : Fault}

theorem waiting (h : e.Fails fault) (pending : Option Pending) (status : Status) :
    Fails { e with pending, status } fault := by
  cases h with
  | instruction hnext hfaults => exact .instruction hnext (hfaults.waiting pending status)
  | lost hnext => exact .lost hnext
  | unstarted hscene => exact .unstarted hscene

theorem settled (h : e.Fails fault) : e.settle.Fails fault := by
  cases h with
  | instruction hnext hfaults =>
      rw [← settle_settle e] at hnext hfaults
      exact .instruction hnext hfaults
  | lost hnext =>
      rw [← settle_settle e] at hnext
      exact .lost hnext
  | unstarted hscene => exact .unstarted hscene

theorem turn_eq (h : e.Fails fault) (hscene : e.state.scene ≠ none) :
    e.turn = .failed e.settle fault := by
  cases h with
  | instruction hnext hfaults =>
      rw [turn, hnext]
      exact hfaults.perform_eq
  | lost hnext => rw [turn, hnext]
  | unstarted hnone => exact absurd hnone hscene

/-- A run from where a fault is met meets it at once. -/
theorem runToStep_eq (h : e.Fails fault) (hscene : e.state.scene ≠ none) :
    e.runToStep = (.fault fault, { e.settle with status := .error, pending := none }) := by
  have hturn := (h.waiting e.pending .sceneActive).turn_eq hscene
  have hrun : run maxTurns { e with status := .sceneActive } =
      (Engine.settle { e with status := .sceneActive }, .error fault) := by
    rw [maxTurns, run, hturn]
  rw [runToStep, hrun]
  rfl

/-- Going on from a fault meets it again and changes nothing. -/
theorem proceed_eq (h : e.Fails fault) (hscene : e.state.scene ≠ none) (hsettled : e.settle = e)
    (hstatus : e.status = .error) (hpending : e.pending = none) :
    e.proceed = (.fault fault, e) := by
  obtain ⟨name, hname⟩ := Option.ne_none_iff_exists'.mp hscene
  have hproceed : e.proceed = e.runToStep :=
    Departs.move_eq (.proceed hname (by simp [hstatus]) (by simp [hstatus]))
  rw [hproceed, h.runToStep_eq hscene, hsettled, ← hstatus, ← hpending]

end Fails

theorem plays_replicate {e : Engine} {step : Step} (h : e.proceed = (step, e)) (n : Nat) :
    e.plays (List.replicate n .proceed) = List.replicate n (step, e) := by
  induction n with
  | zero => rfl
  | succ n ih =>
      rw [List.replicate_succ, List.replicate_succ, plays, move, h]
      exact congrArg ((step, e) :: ·) ih

/-- Where a fault leaves the engine: after instructions that were completed, at what has failed, and
with nothing done of it. -/
structure Halted (start : Engine) (fault : Fault) (e : Engine) : Prop where
  completed : ∃ completed stuck, Completes { start with status := .sceneActive } completed stuck ∧
    stuck.Fails fault ∧ e.state = stuck.state ∧ e.settle.frames = stuck.settle.frames ∧
    e.state = { completed.foldl Instruction.effect start.state with index := e.state.index }
  stands : e.Fails fault

theorem ne_fault_of_run {n : Nat} {e e' : Engine} {step : Step} (hrun : run n e = (e', .ok step))
    (fault : Fault) : step ≠ .fault fault := by
  have hstep := run_induction (P := fun _ => True)
    (Q := fun _ result => ∀ step, result = .ok step → step ≠ .fault fault)
    (fun _ _ step h => by cases h) (fun _ _ _ _ => trivial)
    (fun e next step _ hturn step' h => by cases h; exact ne_fault_of_turn hturn fault)
    (fun _ _ _ _ _ step h => by cases h) n e trivial
  exact hstep step (congrArg Prod.snd hrun)

theorem AllQuiet.runToStep {e : Engine} (hquiet : e.AllQuiet) (hscene : e.state.scene ≠ none)
    {fault : Fault} (hfault : e.runToStep.1 = .fault fault)
    (hguard : fault.code ≠ "ENGINE_GUARD_EXCEEDED") :
    Halted e fault e.runToStep.2 ∧ e.runToStep.2.proceed = (.fault fault, e.runToStep.2) := by
  unfold Engine.runToStep at hfault ⊢
  split
  · rename_i e' step hrun
    rw [hrun] at hfault
    exact absurd hfault (ne_fault_of_run hrun fault)
  · rename_i e' found hrun
    rw [hrun] at hfault
    obtain rfl := Step.fault.inj hfault
    obtain ⟨completed, stuck, hcompletes, hturn⟩ := exists_completes_of_run hrun hguard
    obtain ⟨hquiet', hscene'⟩ := hcompletes.keeps ⟨hquiet.scenes, hquiet.frames⟩ hscene
    obtain ⟨rfl, hfails⟩ := hquiet'.turn_failed hturn
    have hframes : stuck.settle.settle.frames = stuck.settle.frames :=
      congrArg Engine.frames (settle_settle stuck)
    have hstands := hfails.settled.waiting none .error
    refine ⟨⟨⟨completed, stuck, hcompletes, hfails, rfl, hframes, ?_⟩, hstands⟩, ?_⟩
    · exact hcompletes.state_eq
    refine hstands.proceed_eq hscene' ?_ rfl rfl
    exact congrArg (fun frames => { stuck with frames, status := .error, pending := none }) hframes

inductive Begins (e : Engine) : Move → Engine → Prop
  | proceed : Begins e .proceed e
  | departs {m : Move} {start : Engine} (hdeparts : Departs e m start) : Begins e m start

theorem AllQuiet.departs {e start : Engine} {m : Move} (h : e.AllQuiet)
    (hwaiting : e.pending ≠ none → e.state.scene ≠ none) (hdeparts : Departs e m start) :
    start.AllQuiet ∧ start.state.scene ≠ none := by
  cases hdeparts with
  | start hscene => exact ⟨⟨h.scenes, fun f hf => by cases hf⟩, Option.some_ne_none _⟩
  | proceed hscene hcomplete hawaiting => exact ⟨h, hscene.trans_ne (Option.some_ne_none _)⟩
  | choose hstatus hp hoption hcheck =>
      have hmoved : ∀ record : ChoiceRecord,
          AllQuiet (Engine.bump { e with pending := none, state := e.state.addChoice record }) :=
        fun record => bump ⟨h.scenes, h.frames⟩
      have hscene : e.state.scene ≠ none := hwaiting (hp.trans_ne (Option.some_ne_none _))
      unfold take
      split
      · refine ⟨⟨(hmoved _).scenes, (hmoved _).frames⟩, ?_⟩
        rw [Action.applyAll_scene, scene_bump]
        exact hscene
      · exact ⟨⟨(hmoved _).scenes, fun f hf => by cases hf⟩, Option.some_ne_none _⟩

/-- A fault that going on shows without a run is that there is no scene. -/
theorem proceed_eq_fault {e : Engine} {fault : Fault} (hfault : e.proceed.1 = .fault fault) :
    Departs e .proceed e ∨ e.state.scene = none ∧ fault = .engine .noActiveScene ∧
      e.proceed = (.fault fault, e) := by
  obtain ⟨hsame, -⟩ | ⟨start, hdeparts, -⟩ := move_cases e .proceed
  · have hproceed : e.proceed = (.fault fault, e) := Prod.ext hfault hsame
    unfold proceed at hfault
    split at hfault
    · simp [Pending.step] at hfault
    · cases hfault
    · rename_i hcomplete hawaiting
      split at hfault
      · rename_i hscene
        exact .inr ⟨hscene, (Step.fault.inj hfault).symm, hproceed⟩
      · rename_i name hscene
        exact .inl (.proceed hscene hcomplete hawaiting)
  · cases hdeparts with
    | proceed hscene hcomplete hawaiting => exact .inl (.proceed hscene hcomplete hawaiting)

/-- A fault leaves the story at what has failed, with everything before it done and nothing of it,
and going on shows the same fault as often as one likes and changes nothing. The guard apart, this
is so for every move that is accepted, in every engine whose dialogues are quiet. -/
theorem halted_of_fault {e start : Engine} {m : Move} {fault : Fault} (hquiet : e.AllQuiet)
    (hwaiting : e.pending ≠ none → e.state.scene ≠ none) (hbegins : Begins e m start)
    (hfault : (e.move m).1 = .fault fault) (hguard : fault.code ≠ "ENGINE_GUARD_EXCEEDED") :
    Halted start fault (e.move m).2 ∧
      ∀ n, (e.move m).2.plays (List.replicate n .proceed) =
        List.replicate n (.fault fault, (e.move m).2) := by
  have hruns : Departs e m start → Halted start fault (e.move m).2 ∧
      (e.move m).2.proceed = (.fault fault, (e.move m).2) := by
    intro hdeparts
    obtain ⟨hquiet', hscene⟩ := hquiet.departs hwaiting hdeparts
    rw [hdeparts.move_eq] at hfault ⊢
    exact hquiet'.runToStep hscene hfault hguard
  suffices h : Halted start fault (e.move m).2 ∧
      (e.move m).2.proceed = (.fault fault, (e.move m).2) from ⟨h.1, plays_replicate h.2⟩
  cases hbegins with
  | departs hdeparts => exact hruns hdeparts
  | proceed =>
      obtain hdeparts | ⟨hscene, rfl, hproceed⟩ := proceed_eq_fault hfault
      · exact hruns hdeparts
      · rw [show e.move .proceed = (.fault (.engine .noActiveScene), e) from hproceed]
        refine ⟨⟨⟨[], _, .nothing _, .unstarted hscene, rfl, rfl, rfl⟩, ?_⟩, hproceed⟩
        exact .unstarted hscene

theorem Coherent.scene_of_pending {e : Engine} (h : e.Coherent) (hpending : e.pending ≠ none) :
    e.state.scene ≠ none := by
  obtain ⟨p, hp⟩ := Option.ne_none_iff_exists'.mp hpending
  obtain ⟨speaker, text, own, choices, l, hnext, -⟩ := (h.offers p hp).dialogue
  obtain ⟨body, hbody⟩ := h.placed.loaded hnext
  obtain ⟨name, hname, -⟩ := sceneBody_eq_ok_iff.mp hbody
  exact hname.trans_ne (Option.some_ne_none name)

/-- A scene that sets a flag and then leads to nowhere from inside a branch. -/
def deadEnd : List Scene :=
  let first : Location := ⟨"story.json", 1, "start"⟩
  let second : Location := ⟨"story.json", 2, "start"⟩
  let seen : Json := .object [("type", .text "setFlag"), ("flag", .text "seen")]
  [⟨"start", [.action [seen] first, .conditional "true" [.jump "nowhere" second] none second]⟩]

theorem halted_of_fault_deadEnd :
    let e := new deadEnd [] [] none
    let fault : Fault := .engine (.jumpTargetNotFound "nowhere")
    let halted := (e.move (.start "start")).2
    (e.move (.start "start")).1 = .fault fault ∧
    (∃ start, Begins e (.start "start") start ∧ Halted start fault halted) ∧
    halted.state.flags = ["seen"] ∧
    halted.plays [.proceed, .proceed] = [(.fault fault, halted), (.fault fault, halted)] := by
  intro e fault halted
  have hreach : e.Reachable [] := ⟨deadEnd, [], none, [], rfl⟩
  have hquiet : Quiet e.setting :=
    quiet_new (by simp [Script.Quiet, deadEnd, Instruction.QuietBranch, Instruction.Quiet,
      Instruction.QuietElse]) [] []
  have hbegins : Begins e (.start "start") _ := .departs (.start (by decide))
  have hfault : (e.move (.start "start")).1 = .fault fault := by rfl
  obtain ⟨hhalted, hagain⟩ := halted_of_fault (hreach.coherent.placed.allQuiet hquiet)
    hreach.coherent.scene_of_pending hbegins hfault (by decide)
  exact ⟨hfault, ⟨_, hbegins, hhalted⟩, by rfl, hagain 2⟩

end Engine

end BranchingStory
