import BranchingStory.Proofs.Engine.Resume

/-!
A save may have been made of another version of the script, or edited by hand, so its cursors can be
anything. Of these cursors the engine takes up those that lead into the current scene, as many as it
can, and none beyond the first that leads nowhere; an index past the end of a branch becomes its
end. What it has taken up it finds again in a save of its own.
-/

namespace BranchingStory

namespace BranchCursor

/-- The cursor selects a branch in a sequence: it points at a conditional, and the branch that its
mark says is there and has something in it. -/
def Selects (c : BranchCursor) (sequence branch : List Instruction) : Prop :=
  branch ≠ [] ∧ ∃ condition thenBranch elseBranch location,
    sequence[c.conditionalIndex]? = some (.conditional condition thenBranch elseBranch location) ∧
      if c.elseBranch then elseBranch = some branch else thenBranch = branch

def within (c : BranchCursor) (branch : List Instruction) : BranchCursor :=
  { c with index := min c.index branch.length }

inductive Lead : List Instruction → List BranchCursor → List (List Instruction) → Prop
  | here (sequence : List Instruction) : Lead sequence [] []
  | into {sequence branch : List Instruction} {c : BranchCursor} {rest : List BranchCursor}
      {branches : List (List Instruction)} (hselects : c.Selects sequence branch)
      (hrest : Lead branch rest branches) : Lead sequence (c :: rest) (branch :: branches)

end BranchCursor

open BranchCursor

namespace Engine

theorem branchAt?_eq_some_iff_selects {sequence branch : List Instruction} {c : BranchCursor} :
    branchAt? sequence c = some branch ↔ c.Selects sequence branch :=
  branchAt?_eq_some_iff (i := 0)

def frameWithin (c : BranchCursor) (branch : List Instruction) : Frame :=
  ⟨branch, min c.index branch.length, c.conditionalIndex, c.elseBranch⟩

theorem instructions_frameWithin {sequence : List Instruction} {cursors : List BranchCursor}
    {branches : List (List Instruction)} (h : Lead sequence cursors branches) :
    (List.zipWith frameWithin cursors branches).map Frame.instructions = branches := by
  induction h with
  | here sequence => rfl
  | into hselects hrest ih => exact congrArg (_ :: ·) ih

/-- The frames along cursors are those of the longest part of them, from the first on, that
leads through branches. -/
theorem framesAlong_longest (sequence : List Instruction) (cursors : List BranchCursor) :
    ∃ kept branches, kept <+: cursors ∧ Lead sequence kept branches ∧
      (∀ longer others, longer <+: cursors → Lead sequence longer others →
        longer.length ≤ kept.length) ∧
      framesAlong sequence cursors = List.zipWith frameWithin kept branches := by
  induction cursors generalizing sequence with
  | nil =>
      refine ⟨[], [], List.prefix_rfl, .here sequence, ?_, rfl⟩
      intro longer others hlonger _
      rw [List.prefix_nil.mp hlonger]
  | cons c rest ih =>
      cases hbranch : branchAt? sequence c with
      | none =>
          refine ⟨[], [], List.nil_prefix, .here sequence, ?_, by rw [framesAlong, hbranch]; rfl⟩
          intro longer others hlonger hlead
          cases hlead with
          | here => exact le_rfl
          | into hselects hrest =>
              obtain ⟨rfl, -⟩ := List.cons_prefix_cons.mp hlonger
              rw [branchAt?_eq_some_iff_selects.mpr hselects] at hbranch
              cases hbranch
      | some branch =>
          obtain ⟨kept, branches, hkept, hlead, hlongest, hframes⟩ := ih branch
          refine ⟨c :: kept, branch :: branches, List.cons_prefix_cons.mpr ⟨rfl, hkept⟩,
            .into (branchAt?_eq_some_iff_selects.mp hbranch) hlead, ?_, ?_⟩
          · intro longer others hlonger hlead'
            cases hlead' with
            | here => exact Nat.zero_le _
            | into hselects hrest =>
                obtain ⟨rfl, htail⟩ := List.cons_prefix_cons.mp hlonger
                -- A cursor selects at most one branch, so the rest is compared in the same one.
                rw [branchAt?_eq_some_iff_selects.mpr hselects, Option.some.injEq] at hbranch
                subst hbranch
                exact Nat.succ_le_succ (hlongest _ _ htail hrest)
          · rw [framesAlong, hbranch]
            exact congrArg (frameWithin c branch :: ·) hframes

/-- Where the engine stands after it has taken up a save is a matter of its frames. -/
theorem cursors_place {e : Engine} {body : List Instruction} (hbody : e.sceneBody = .ok body)
    (cursors : List BranchCursor) :
    (e.place cursors).frames = (framesAlong body cursors).reverse ∧
      (e.place cursors).held = [] ∧
      (e.place cursors).cursors = (framesAlong body cursors).map Frame.cursor := by
  have hplace : e.place cursors =
      { e with frames := (framesAlong body cursors).reverse, held := [] } := by
    rw [place, hbody]
  rw [hplace]
  refine ⟨rfl, rfl, ?_⟩
  rw [cursors_of_held rfl, ← List.map_reverse, List.reverse_reverse]

/-- The state after a save is taken up is that of the save, whatever its cursors are. -/
theorem state_restore (e : Engine) (saved : Save) :
    (e.restore saved).state = saved.toState :=
  state_place _ _

theorem toState_save_restore (e : Engine) {saved : Save} {name : String}
    (hscene : saved.currentScene = some name) (now : String) :
    ((e.restore saved).save now).toState = (e.restore saved).state := by
  refine Save.toState_ofState ?_ ?_ ?_ now
  · rw [state_restore]
    exact Keyed.sorted_ascending saved.vars
  · rw [state_restore]
    exact TextSet.pairwise_ofList saved.storyFlags
  · rw [state_restore]
    intro hnone
    exact absurd (hscene.symm.trans hnone) (by simp)

/-- Whatever cursors a save has, the engine takes up the longest part of them, from the first on,
that leads through branches of the scene, each with an index within its branch. A save made of that
gives the same engine again. The state of the game does not depend on the cursors. -/
theorem restore_normalizes (e : Engine) (saved : Save) :
    (∀ cursors, (e.restore { saved with branches := cursors }).state = (e.restore saved).state) ∧
    ∀ name body, saved.currentScene = some name → Keyed.get? name e.scenes = some body →
      (∃ kept branches, kept <+: saved.branches ∧ Lead body kept branches ∧
        (∀ longer others, longer <+: saved.branches → Lead body longer others →
          longer.length ≤ kept.length) ∧
        (e.restore saved).cursors = List.zipWith BranchCursor.within kept branches ∧
        (e.restore saved).frames.reverse.map Frame.instructions = branches) ∧
      ∀ (fresh : Engine) (now : String), fresh.setting = (e.restore saved).setting →
        fresh.restore ((e.restore saved).save now) = e.restore saved := by
  refine ⟨fun cursors => by rw [state_restore, state_restore]; rfl, ?_⟩
  intro name body hscene hbody
  let cleared : Engine := { e with state := saved.toState, pending := none, status := .idle }
  have hcleared : cleared.sceneBody = .ok body := sceneBody_eq_ok_iff.mpr ⟨name, hscene, hbody⟩
  obtain ⟨hframes, hheld, hcursors⟩ := cursors_place hcleared saved.branches
  constructor
  · obtain ⟨kept, branches, hkept, hlead, hlongest, halong⟩ :=
      framesAlong_longest body saved.branches
    refine ⟨kept, branches, hkept, hlead, hlongest, ?_, ?_⟩
    · change (cleared.place saved.branches).cursors = _
      rw [hcursors, halong, List.map_zipWith]
      rfl
    · change (cleared.place saved.branches).frames.reverse.map _ = _
      rw [hframes, List.reverse_reverse, halong, instructions_frameWithin hlead]
  · intro fresh now hsetting
    have hplaced : (e.restore saved).Placed := .place cleared saved.branches
    rw [hplaced.restore_save hheld (toState_save_restore e hscene now) hsetting]
    have hpending : (e.restore saved).pending = none := pending_place cleared saved.branches
    have hstatus : (e.restore saved).status = .idle := status_place cleared saved.branches
    rw [suspended, ← hpending, ← hstatus]

/-- Of two cursors into the scene at the crossroads the first goes past the end of its branch, and
the second points at a dialogue. -/
theorem restore_normalizes_crossroads :
    let e := new crossroads [] [] none
    let saved : Save :=
      { currentScene := some "start", branches := [⟨0, false, 7⟩, ⟨0, true, 0⟩] }
    (∃ body kept branches, Keyed.get? "start" e.scenes = some body ∧ Lead body kept branches ∧
      (e.restore saved).cursors = List.zipWith BranchCursor.within kept branches) ∧
    (e.restore saved).cursors = [⟨0, false, 1⟩] ∧
    (e.restore saved).restore ((e.restore saved).save "noon") = e.restore saved := by
  intro e saved
  obtain ⟨body, hbody⟩ : ∃ body, Keyed.get? "start" e.scenes = some body := ⟨_, rfl⟩
  obtain ⟨⟨kept, branches, -, hlead, -, hcursors, -⟩, hagain⟩ :=
    (restore_normalizes e saved).2 "start" body rfl hbody
  exact ⟨⟨body, kept, branches, hbody, hlead, hcursors⟩, rfl, hagain _ "noon" rfl⟩

end Engine

end BranchingStory
