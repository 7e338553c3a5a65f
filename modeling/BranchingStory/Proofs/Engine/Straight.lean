import BranchingStory.Proofs.Engine.Failing
import BranchingStory.Proofs.Engine.Flat

/-!
Stories without jumps come to an end. What remains of such a story is counted with both branches of
every conditional, and the count is what a run lives on: a turn that shows nothing uses up at least
one instruction, and so does a line that is shown. Hence the guard against runs without end stops
only stories that jump or are as long as it allows, and a player sees at most as many lines as there
are instructions.
-/

namespace BranchingStory

namespace Instruction

mutual

/-- How many instructions there are in an instruction: itself and those of both branches. -/
def count : Instruction → Nat
  | .conditional _ thenBranch elseBranch _ => countBranch thenBranch + countElse elseBranch + 1
  | .dialogue .. => 1
  | .action .. => 1
  | .jump .. => 1

def countBranch : List Instruction → Nat
  | [] => 0
  | i :: rest => i.count + countBranch rest

def countElse : Option (List Instruction) → Nat
  | none => 0
  | some branch => countBranch branch

end

mutual

def Straight : Instruction → Prop
  | .conditional _ thenBranch elseBranch _ => StraightBranch thenBranch ∧ StraightElse elseBranch
  | .dialogue .. => True
  | .action .. => True
  | .jump .. => False

def StraightBranch : List Instruction → Prop
  | [] => True
  | i :: rest => i.Straight ∧ StraightBranch rest

def StraightElse : Option (List Instruction) → Prop
  | none => True
  | some branch => StraightBranch branch

end

theorem countBranch_append (branch rest : List Instruction) :
    countBranch (branch ++ rest) = countBranch branch + countBranch rest := by
  induction branch with
  | nil => simp [countBranch]
  | cons i branch ih => rw [List.cons_append, countBranch, countBranch, ih, Nat.add_assoc]

theorem straightBranch_append {branch rest : List Instruction} :
    StraightBranch (branch ++ rest) ↔ StraightBranch branch ∧ StraightBranch rest := by
  induction branch with
  | nil => simp [StraightBranch]
  | cons i branch ih => simp [StraightBranch, ih, and_assoc]

theorem countBranch_getD (branch : Option (List Instruction)) :
    countBranch (branch.getD []) = countElse branch := by
  cases branch <;> rfl

theorem straightBranch_getD {branch : Option (List Instruction)} :
    StraightBranch (branch.getD []) ↔ StraightElse branch := by
  cases branch <;> rfl

theorem one_le_count (i : Instruction) : 1 ≤ i.count := by
  cases i with
  | conditional condition thenBranch elseBranch l =>
      rw [count]
      omega
  | _ => exact Nat.le_refl 1

end Instruction

def Step.lines : Step → Nat
  | .dialogue .. => 1
  | _ => 0

namespace Engine

open Instruction

/-! ### What a turn uses up -/

/-- What remains in `e'` is straight, and shorter than what remains in `e` by the instructions that
were spent. -/
structure Spends (e : Engine) (spent : Nat) (e' : Engine) : Prop where
  straight : StraightBranch e'.remaining
  count_le : countBranch e'.remaining + spent ≤ countBranch e.remaining

theorem Spends.refl {e : Engine} (h : StraightBranch e.remaining) : Spends e 0 e :=
  ⟨h, Nat.le_refl _⟩

theorem Spends.trans {e e' e'' : Engine} {spent more : Nat} (h : Spends e spent e')
    (h' : Spends e' more e'') : Spends e (spent + more) e'' := by
  have := h.count_le
  have := h'.count_le
  exact ⟨h'.straight, by omega⟩

theorem Spends.mono {e e' : Engine} {spent less : Nat} (h : Spends e spent e')
    (hless : less ≤ spent) : Spends e less e' :=
  ⟨h.straight, (Nat.add_le_add_left hless _).trans h.count_le⟩

theorem Spends.congr {e e' e'' : Engine} {spent : Nat} (h : Spends e spent e')
    (hsame : e''.remaining = e'.remaining) : Spends e spent e'' :=
  ⟨hsame ▸ h.straight, hsame ▸ h.count_le⟩

/-- What a turn must use up: going on costs an instruction, and so does a line. -/
def Turn.cost : Turn → Nat
  | .running _ => 1
  | .stopped _ step => step.lines
  | .failed _ _ => 0

theorem remaining_acted {e : Engine} {actions : List Json} {state : GameState}
    (hrun : Action.run e.state actions = .ok state) :
    remaining { e with state } = e.remaining :=
  remaining_congr (sceneBody_acted hrun) rfl (Action.run_index hrun)

/-- Moving past an instruction spends it. -/
theorem spends_bump {e : Engine} {i : Instruction} (hnext : e.next? = .ok (some i))
    (h : StraightBranch e.remaining) : Spends e 1 e.bump := by
  have hrest := remaining_of_next? hnext
  rw [hrest] at h
  have hcount := one_le_count i
  refine ⟨h.2, ?_⟩
  rw [hrest, countBranch]
  omega

/-- Of a conditional at most one branch is left, and the conditional itself is spent. -/
theorem spends_enter {e : Engine} {condition : String} {thenBranch branch : List Instruction}
    {elseBranch : Option (List Instruction)} {l : Location} {inElse : Bool}
    (hnext : e.next? = .ok (some (.conditional condition thenBranch elseBranch l)))
    (hbranch : branch = thenBranch ∨ branch = elseBranch.getD [])
    (h : StraightBranch e.remaining) : Spends e 1 (e.enter branch inElse) := by
  have hrest := remaining_of_next? hnext
  rw [hrest] at h
  obtain ⟨⟨hthen, helse⟩, hbehind⟩ := h
  have hcount : countBranch e.remaining =
      countBranch thenBranch + countElse elseBranch + 1 + countBranch e.bump.remaining := by
    rw [hrest, countBranch, Instruction.count]
  constructor
  · rw [remaining_enter, straightBranch_append]
    refine ⟨?_, hbehind⟩
    obtain rfl | rfl := hbranch
    · exact hthen
    · exact straightBranch_getD.mpr helse
  · rw [remaining_enter, countBranch_append, hcount]
    obtain rfl | rfl := hbranch
    · omega
    · rw [countBranch_getD]
      omega

theorem spends_performs {e : Engine} {i : Instruction} {outcome : Turn}
    (hnext : e.next? = .ok (some i)) (h : StraightBranch e.remaining)
    (hperforms : Performs e i outcome) : Spends e outcome.cost outcome.engine := by
  cases hperforms with
  | act hrun => exact (spends_bump hnext h).congr (remaining_bump_acted hrun)
  | line hrun hspeak hnone => exact (spends_bump hnext h).congr (remaining_bump_acted hrun)
  | offer hrun hspeak hsome => exact (Spends.refl h).congr (remaining_acted hrun)
  | lineFault hrun hspeak => exact (Spends.refl h).congr (remaining_acted hrun)
  | actFault hrun => exact .refl h
  | lineActFault hrun => exact .refl h
  | conditionFault hholds => exact .refl h
  | branch hholds => exact spends_enter hnext (.inl rfl) h
  | otherwise hholds => exact spends_enter hnext (.inr rfl) h
  | jump hscene =>
      rw [remaining_of_next? hnext] at h
      exact h.1.elim
  | jumpFault hscene => exact .refl h

/-- A turn uses up what it costs. -/
theorem spends_turn {e : Engine} (h : StraightBranch e.remaining) :
    Spends e e.turn.cost e.turn.engine := by
  have hsettled : Spends e 0 e.settle := (Spends.refl h).congr (remaining_settle e)
  have hturns := turns_turn e
  generalize e.turn = outcome at hturns ⊢
  cases hturns with
  | lost hnext => exact hsettled
  | complete hnext =>
      refine hsettled.congr ?_
      have hframes := (settle_of_next?_none hnext).1
      exact remaining_congr rfl hframes.symm rfl
  | perform hnext hperforms =>
      have hspends := hsettled.trans (spends_performs hnext hsettled.straight hperforms)
      rwa [Nat.zero_add] at hspends

/-! ### The guard -/

theorem code_of_turn {e e' : Engine} {fault : Fault} (hturn : e.turn = .failed e' fault) :
    fault.code ≠ "ENGINE_GUARD_EXCEEDED" := by
  have hturns := turns_turn e
  rw [hturn] at hturns
  cases hturns with
  | lost hnext =>
      obtain rfl | ⟨name, rfl⟩ := next?_eq_error hnext <;> simp [Fault.code, EngineFault.code]
  | perform hnext hperforms =>
      cases hperforms with
      | actFault hrun =>
          obtain ⟨descriptor, cause, rfl⟩ := Action.run_eq_error hrun
          simp [Fault.code]
      | lineFault hrun hspeak =>
          obtain ⟨source, cause, rfl⟩ := speak_eq_error hspeak
          simp [Fault.code]
      | lineActFault hrun =>
          obtain ⟨descriptor, cause, rfl⟩ := Action.run_eq_error hrun
          simp [Fault.code]
      | conditionFault hholds =>
          obtain ⟨cause, rfl⟩ := Template.holds_eq_error hholds
          simp [Fault.code]
      | jumpFault hscene => simp [Fault.code, EngineFault.code]

/-- A run that is given `n` turns uses up the line that it shows, and comes to its end before its
turns do if fewer instructions than turns remain. -/
def Affords (e : Engine) (n : Nat) : Engine × Except Fault Step → Prop
  | (e', .ok step) => Spends e step.lines e'
  | (e', .error fault) =>
    Spends e 0 e' ∧ (countBranch e.remaining < n → fault.code ≠ "ENGINE_GUARD_EXCEEDED")

theorem affords_run {e : Engine} (h : StraightBranch e.remaining) (n : Nat) :
    Affords e n (run n e) := by
  induction n generalizing e with
  | zero => exact ⟨.refl h, fun hcount => absurd hcount (Nat.not_lt_zero _)⟩
  | succ n ih =>
      have hspends := spends_turn h
      rw [run]
      cases hturn : e.turn with
      | running next =>
          rw [hturn] at hspends
          change Spends e 1 next at hspends
          have hrun : Affords next n (run n next) := ih hspends.straight
          have hcount := hspends.count_le
          dsimp only
          cases hresult : run n next with
          | mk e' result =>
              rw [hresult] at hrun
              cases result with
              | ok step => exact (hspends.trans hrun).mono (Nat.le_add_left _ _)
              | error fault =>
                  obtain ⟨hrest, hguard⟩ := hrun
                  exact ⟨(hspends.trans hrest).mono (Nat.zero_le _),
                    fun hfew => hguard (by omega)⟩
      | stopped next step => rwa [hturn] at hspends
      | failed next fault =>
          rw [hturn] at hspends
          exact ⟨hspends, fun _ => code_of_turn hturn⟩

/-! ### Going on again and again -/

/-- Going on uses up the line that it shows, and is stopped by the guard only where as many
instructions remain as it allows turns. -/
theorem spends_proceed {e : Engine} (h : StraightBranch e.remaining) :
    Spends e e.proceed.1.lines e.proceed.2 ∧
      (countBranch e.remaining < maxTurns →
        ∀ fault, e.proceed.1 = .fault fault → fault.code ≠ "ENGINE_GUARD_EXCEEDED") := by
  unfold proceed
  split
  · exact ⟨.refl h, fun _ fault hfault => by cases hfault⟩
  · exact ⟨.refl h, fun _ fault hfault => by cases hfault⟩
  · split
    · refine ⟨.refl h, fun _ fault hfault => ?_⟩
      cases hfault
      simp [Fault.code, EngineFault.code]
    · have hrun := affords_run (e := { e with status := .sceneActive }) h maxTurns
      unfold runToStep
      split
      · rename_i e' step heq
        rw [heq] at hrun
        refine ⟨⟨hrun.straight, hrun.count_le⟩, fun _ fault hfault => ?_⟩
        exact absurd hfault (ne_fault_of_run heq fault)
      · rename_i e' found heq
        rw [heq] at hrun
        obtain ⟨hspends, hguard⟩ := hrun
        refine ⟨⟨hspends.straight, hspends.count_le⟩, fun hcount fault hfault => ?_⟩
        cases hfault
        exact hguard hcount

theorem guard_of_plays {e : Engine} (h : StraightBranch e.remaining)
    (hcount : countBranch e.remaining < maxTurns) {k : Nat} {shown : Step × Engine}
    (hshown : shown ∈ e.plays (List.replicate k .proceed)) {fault : Fault}
    (hfault : shown.1 = .fault fault) : fault.code ≠ "ENGINE_GUARD_EXCEEDED" := by
  induction k generalizing e with
  | zero => cases hshown
  | succ k ih =>
      obtain ⟨hspends, hguard⟩ := spends_proceed h
      rw [List.replicate_succ, plays] at hshown
      rcases List.mem_cons.mp hshown with rfl | hshown
      · exact hguard hcount fault hfault
      · refine ih hspends.straight ?_ hshown
        have := hspends.count_le
        omega

theorem exists_lines {e : Engine} (h : StraightBranch e.remaining) :
    ∃ lines last, lines ≤ countBranch e.remaining ∧
      (e.plays (List.replicate (lines + 1) .proceed)).map (fun shown => shown.1.kind) =
        List.replicate lines "display_dialogue" ++ [last] ∧
      last ∈ ["scene_complete", "presenting_choices", "error"] := by
  induction hcount : countBranch e.remaining using Nat.strongRecOn generalizing e with
  | ind count ih =>
      obtain ⟨hspends, -⟩ := spends_proceed h
      have hle := hspends.count_le
      cases hstep : e.proceed.1 with
      | dialogue content speaker more =>
          rw [hstep, Step.lines, hcount] at hle
          obtain ⟨lines, last, hlines, hkinds, hlast⟩ := ih _ (by omega) hspends.straight rfl
          refine ⟨lines + 1, last, by omega, ?_, hlast⟩
          exact congrArg₂ List.cons (congrArg Step.kind hstep) hkinds
      | choices content speaker offered =>
          refine ⟨0, _, Nat.zero_le _, congrArg ([·]) (congrArg Step.kind hstep), ?_⟩
          simp [Step.kind]
      | sceneComplete =>
          refine ⟨0, _, Nat.zero_le _, congrArg ([·]) (congrArg Step.kind hstep), ?_⟩
          simp [Step.kind]
      | fault cause =>
          refine ⟨0, _, Nat.zero_le _, congrArg ([·]) (congrArg Step.kind hstep), ?_⟩
          simp [Step.kind]

/-- Where no jump remains, going on again and again comes to the end of the scene, to a choice or to
a fault in at most as many lines as instructions remain, and the guard stops none of the calls if
these are fewer than it allows turns. -/
theorem straight_story_ends {e : Engine} (h : StraightBranch e.remaining) :
    (countBranch e.remaining ≤ 9999 →
      ∀ k, ∀ shown ∈ e.plays (List.replicate k .proceed), ∀ fault, shown.1 = .fault fault →
        fault.code ≠ "ENGINE_GUARD_EXCEEDED") ∧
    ∃ lines last, lines ≤ countBranch e.remaining ∧
      (e.plays (List.replicate (lines + 1) .proceed)).map (fun shown => shown.1.kind) =
        List.replicate lines "display_dialogue" ++ [last] ∧
      last ∈ ["scene_complete", "presenting_choices", "error"] := by
  refine ⟨fun hcount k shown hshown fault hfault => ?_, exists_lines h⟩
  exact guard_of_plays h (Nat.lt_succ_of_le hcount) hshown hfault

/-- A scene that jumps only in a branch that is not taken. -/
def detour : List Scene :=
  let first : Location := ⟨"story.json", 1, "start"⟩
  let second : Location := ⟨"story.json", 2, "start"⟩
  [⟨"start",
    [.conditional "true" [.dialogue none "One." [] none first, .dialogue none "Two." [] none first]
        (some [.jump "start" first]) first,
      .conditional "false" [.dialogue none "Never." [] none second] none second]⟩]

theorem straight_story_ends_detour :
    let e := ((new detour [] [] none).start "start").2
    StraightBranch e.remaining ∧ countBranch e.remaining = 3 ∧ e.frames.length = 1 ∧
    (∀ k, ∀ shown ∈ e.plays (List.replicate k .proceed), ∀ fault, shown.1 = .fault fault →
      fault.code ≠ "ENGINE_GUARD_EXCEEDED") ∧
    (e.plays [.proceed, .proceed]).map (fun shown => shown.1.kind) =
      ["display_dialogue", "scene_complete"] ∧
    ∃ lines last, lines ≤ 3 ∧
      (e.plays (List.replicate (lines + 1) .proceed)).map (fun shown => shown.1.kind) =
        List.replicate lines "display_dialogue" ++ [last] ∧
      last ∈ ["scene_complete", "presenting_choices", "error"] := by
  intro e
  have hstraight : StraightBranch e.remaining := ⟨trivial, ⟨⟨trivial, trivial⟩, trivial⟩, trivial⟩
  have hcount : countBranch e.remaining = 3 := by rfl
  obtain ⟨hguard, hlines⟩ := straight_story_ends hstraight
  rw [hcount] at hguard hlines
  exact ⟨hstraight, hcount, by rfl, hguard (by decide), by rfl, hlines⟩

/-! ### Where the guard stops -/

/-- In a scene of actions that do nothing the guard is met after all turns that there are. -/
theorem run_of_idle {e : Engine} {n : Nat} {l : Location} (hframes : e.frames = [])
    (hbody : e.sceneBody = .ok (List.replicate n (.action [] l))) {k : Nat}
    (hk : e.state.index + k ≤ n) :
    (run k e).2 = .error (.engine (.guardExceeded maxTurns)) := by
  induction k generalizing e with
  | zero => rfl
  | succ k ih =>
      have hsettle : e.settle = e := by
        rw [settle, hframes, List.dropWhile_nil, ← hframes]
      have hnext : e.next? = .ok (some (.action [] l)) := by
        rw [next?, hframes, hbody]
        simp only [Except.ok.injEq]
        rw [List.getElem?_replicate_of_lt (by omega)]
      have hturn : e.turn = .running e.bump := by
        rw [turn, hsettle, hnext]
        rfl
      have hbump : e.bump = { e with state := e.state.advance } := by rw [bump, hframes]
      rw [run, hturn, hbump]
      refine ih hframes hbody ?_
      change e.state.index + 1 + k ≤ n
      omega

theorem straight_replicate_action (n : Nat) (l : Location) :
    StraightBranch (List.replicate n (.action [] l)) ∧
      countBranch (List.replicate n (.action [] l)) = n := by
  induction n with
  | zero => exact ⟨trivial, rfl⟩
  | succ n ih =>
      rw [List.replicate_succ, countBranch, ih.2, Instruction.count]
      exact ⟨⟨trivial, ih.1⟩, Nat.add_comm 1 n⟩

/-- The bound is exact: from as many instructions on as the guard allows turns, there is a story
without jumps that it stops. -/
theorem exists_straight_guard {n : Nat} (h : maxTurns ≤ n) :
    ∃ e : Engine, e.pending = none ∧ StraightBranch e.remaining ∧ countBranch e.remaining = n ∧
      e.proceed.1 = .fault (.engine (.guardExceeded maxTurns)) := by
  let l : Location := ⟨"story.json", 1, "start"⟩
  let body : List Instruction := List.replicate n (.action [] l)
  let e : Engine := { scenes := [("start", body)], state := { scene := some "start" } }
  have hbody : e.sceneBody = .ok body := by rfl
  obtain ⟨hstraight, hcount⟩ := straight_replicate_action n l
  have hrun := run_of_idle (e := { e with status := .sceneActive }) rfl hbody
    (k := maxTurns) (by simpa [e] using h)
  refine ⟨e, rfl, hstraight, hcount, ?_⟩
  change e.runToStep.1 = _
  unfold runToStep
  split
  · rename_i e' step heq
    rw [heq] at hrun
    cases hrun
  · rename_i e' fault heq
    rw [heq] at hrun
    cases hrun
    rfl

end Engine

end BranchingStory
