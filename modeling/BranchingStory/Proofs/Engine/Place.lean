import BranchingStory.Proofs.Engine.Turn

/-!
The place where a story stands. Open branches form a path in the tree of the current scene: each is
a branch of a conditional in the sequence around it. The path is found again from its cursors, and
every move of the story keeps it.
-/

namespace BranchingStory

/-- The frame is a branch of the conditional at its place in a sequence, the one that its mark says,
and not an empty one. -/
def Frame.Opens (f : Frame) (sequence : List Instruction) : Prop :=
  f.instructions ≠ [] ∧ ∃ condition thenBranch elseBranch location,
    sequence[f.conditionalIndex]? = some (.conditional condition thenBranch elseBranch location) ∧
      if f.elseBranch then elseBranch = some f.instructions else thenBranch = f.instructions

namespace Engine

def innermost (body : List Instruction) : List Frame → List Instruction
  | [] => body
  | f :: _ => f.instructions

/-- The frames, innermost first, form a path in the tree of a scene. -/
def Nested (body : List Instruction) : List Frame → Prop
  | [] => True
  | f :: rest =>
      f.Opens (innermost body rest) ∧ f.index ≤ f.instructions.length ∧ Nested body rest

/-! ### Paths and their cursors -/

theorem branchAt?_eq_some_iff {sequence branch : List Instruction} {c : BranchCursor} {i : Nat} :
    branchAt? sequence c = some branch ↔
      Frame.Opens ⟨branch, i, c.conditionalIndex, c.elseBranch⟩ sequence := by
  unfold branchAt? Frame.Opens
  cases hat : sequence[c.conditionalIndex]? with
  | none => simp
  | some instruction =>
      cases instruction with
      | conditional condition thenBranch elseBranch location =>
          have hempty : (!branch.isEmpty) = true ↔ branch ≠ [] := by simp
          cases c.elseBranch with
          | false =>
              simp only [Bool.false_eq_true, if_false, Option.filter_eq_some_iff, hempty]
              constructor
              · rintro ⟨hbranch, hne⟩
                exact ⟨hne, _, _, _, _, rfl, Option.some.inj hbranch⟩
              · rintro ⟨hne, _, _, _, _, hsame, hbranch⟩
                cases hsame
                exact ⟨congrArg some hbranch, hne⟩
          | true =>
              simp only [if_true, Option.filter_eq_some_iff, hempty]
              constructor
              · rintro ⟨hbranch, hne⟩
                exact ⟨hne, _, _, _, _, rfl, hbranch⟩
              · rintro ⟨hne, _, _, _, _, hsame, hbranch⟩
                cases hsame
                exact ⟨hbranch, hne⟩
      | _ => simp

/-- The frames along a path of cursors are a path, on top of those that are open already. -/
theorem nested_framesAlong {body : List Instruction} (cursors : List BranchCursor)
    {frames : List Frame} (h : Nested body frames) :
    Nested body ((framesAlong (innermost body frames) cursors).reverse ++ frames) := by
  induction cursors generalizing frames with
  | nil => exact h
  | cons c rest ih =>
      rw [framesAlong]
      split
      · exact h
      · rename_i branch hbranch
        rw [List.reverse_cons, List.append_assoc, List.singleton_append]
        have hopened : Nested body
            (⟨branch, min c.index branch.length, c.conditionalIndex, c.elseBranch⟩ :: frames) :=
          ⟨branchAt?_eq_some_iff.mp hbranch, min_le_right _ _, h⟩
        exact ih hopened

/-- A path is found again from its cursors, whatever further cursors follow. -/
theorem framesAlong_append {body : List Instruction} {frames : List Frame}
    (h : Nested body frames) (cursors : List BranchCursor) :
    framesAlong body ((frames.map Frame.cursor).reverse ++ cursors) =
      frames.reverse ++ framesAlong (innermost body frames) cursors := by
  induction frames generalizing cursors with
  | nil => rfl
  | cons f rest ih =>
      obtain ⟨hopens, hindex, hrest⟩ := h
      have hbranch : branchAt? (innermost body rest) f.cursor = some f.instructions :=
        (branchAt?_eq_some_iff (i := f.index)).mpr hopens
      rw [List.map_cons, List.reverse_cons, List.append_assoc, List.singleton_append,
        ih hrest (f.cursor :: cursors), framesAlong, hbranch, List.reverse_cons,
        List.append_assoc, List.singleton_append]
      simp only [Frame.cursor, min_eq_left hindex, innermost]

theorem framesAlong_cursors {body : List Instruction} {frames : List Frame}
    (h : Nested body frames) :
    framesAlong body (frames.map Frame.cursor).reverse = frames.reverse := by
  have happend := framesAlong_append h []
  rwa [List.append_nil, framesAlong, List.append_nil] at happend

theorem Nested.of_suffix {body : List Instruction} {frames inner : List Frame}
    (h : Nested body (inner ++ frames)) : Nested body frames := by
  induction inner with
  | nil => exact h
  | cons f rest ih => exact ih h.2.2

/-! ### What placing leaves alone -/

section place

variable (e : Engine) (cursors : List BranchCursor)

@[simp] theorem setting_place : (e.place cursors).setting = e.setting := by
  unfold place; split <;> rfl

@[simp] theorem helpers_place : (e.place cursors).helpers = e.helpers :=
  congrArg Setting.helpers (setting_place e cursors)

@[simp] theorem state_place : (e.place cursors).state = e.state := by unfold place; split <;> rfl

@[simp] theorem pending_place : (e.place cursors).pending = e.pending := by
  unfold place; split <;> rfl

@[simp] theorem status_place : (e.place cursors).status = e.status := by
  unfold place; split <;> rfl

end place

/-! ### The instruction at the cursor -/

theorem next?_eq {e : Engine} {body : List Instruction} (h : e.sceneBody = .ok body) :
    e.next? = .ok (innermost body e.frames)[e.cursor]? := by
  unfold next? cursor innermost
  cases e.frames with
  | nil => simp [h]
  | cons f rest => rfl

theorem next?_congr {e e' : Engine} (hbody : e'.sceneBody = e.sceneBody)
    (hframes : e'.frames = e.frames) (hindex : e'.state.index = e.state.index) :
    e'.next? = e.next? := by
  unfold next?
  rw [hframes, hbody, hindex]

/-! ### Places -/

/-- Open branches form a path in the current scene, and cursors are held only while that scene is
not loaded. -/
structure Placed (e : Engine) : Prop where
  path : e.frames ≠ [] → ∃ body, e.sceneBody = .ok body ∧ Nested body e.frames
  held : e.held ≠ [] → e.frames = [] ∧ ¬ e.Loaded

namespace Placed

variable {e : Engine}

theorem nested (h : e.Placed) {body : List Instruction} (hbody : e.sceneBody = .ok body) :
    Nested body e.frames := by
  by_cases hframes : e.frames = []
  · rw [hframes]
    trivial
  · obtain ⟨body', hbody', hnested⟩ := h.path hframes
    rw [hbody, Except.ok.injEq] at hbody'
    exact hbody' ▸ hnested

theorem loaded (h : e.Placed) {i : Instruction} (hnext : e.next? = .ok (some i)) : e.Loaded := by
  by_cases hframes : e.frames = []
  · unfold next? at hnext
    rw [hframes] at hnext
    cases hbody : e.sceneBody with
    | error cause => simp [hbody] at hnext
    | ok body => exact ⟨body, hbody⟩
  · obtain ⟨body, hbody, -⟩ := h.path hframes
    exact ⟨body, hbody⟩

theorem congr {e' : Engine} (h : e.Placed) (hbody : e'.sceneBody = e.sceneBody)
    (hframes : e'.frames = e.frames) (hheld : e'.held = e.held) : e'.Placed where
  path := by rw [hframes, hbody]; exact h.path
  held := by rw [hframes, hheld, Loaded, hbody]; exact h.held

theorem of_nil {e' : Engine} (hframes : e'.frames = []) (hheld : e'.held = []) : e'.Placed where
  path := fun hne => absurd hframes hne
  held := fun hne => absurd hheld hne

theorem settle (h : e.Placed) : e.settle.Placed where
  path := by
    intro hframes
    have hsuffix : e.settle.frames <:+ e.frames := List.dropWhile_suffix Frame.finished
    obtain ⟨finished, hsplit⟩ := hsuffix
    have hne : e.frames ≠ [] := by
      rw [← hsplit]
      exact List.append_ne_nil_of_right_ne_nil _ hframes
    obtain ⟨body, hbody, hnested⟩ := h.path hne
    rw [← hsplit] at hnested
    exact ⟨body, hbody, hnested.of_suffix⟩
  held := by
    intro hheld
    obtain ⟨hframes, hloaded⟩ := h.held hheld
    refine ⟨?_, hloaded⟩
    unfold Engine.settle
    rw [hframes]
    rfl

theorem bump (h : e.Placed) {i : Instruction} (hnext : e.next? = .ok (some i)) :
    e.bump.Placed := by
  obtain ⟨body, hbody⟩ := h.loaded hnext
  refine ⟨fun _ => ⟨body, (sceneBody_bump e).trans hbody, ?_⟩, ?_⟩
  · have hnested := h.nested hbody
    unfold Engine.bump
    cases hframes : e.frames with
    | nil => trivial
    | cons f rest =>
        rw [hframes] at hnested
        rw [next?_eq hbody, hframes] at hnext
        -- The instruction at the cursor shows that the branch is not used up.
        have hlt : f.index < f.instructions.length := by
          simp only [innermost, cursor, hframes, Except.ok.injEq] at hnext
          exact (List.getElem?_eq_some_iff.mp hnext).1
        exact ⟨hnested.1, hlt, hnested.2.2⟩
  · intro hheld
    rw [held_bump] at hheld
    exact absurd ⟨body, hbody⟩ (h.held hheld).2

/-- Going into the branch of a conditional at the cursor makes the path longer by one. -/
theorem enter (h : e.Placed) {i : Instruction} (hnext : e.next? = .ok (some i))
    {branch : List Instruction} {elseBranch : Bool}
    (hopens : ∀ sequence : List Instruction, sequence[e.cursor]? = some i → branch ≠ [] →
      Frame.Opens ⟨branch, 0, e.cursor, elseBranch⟩ sequence) :
    (e.enter branch elseBranch).Placed := by
  have hbump := h.bump hnext
  obtain ⟨body, hbody⟩ := h.loaded hnext
  have hbody' : e.bump.sceneBody = .ok body := (sceneBody_bump e).trans hbody
  rw [enter_eq]
  refine ⟨fun _ => ⟨body, hbody', ?_⟩, fun hheld => ?_⟩
  · split
    · exact hbump.nested hbody'
    · rename_i hempty
      refine ⟨?_, Nat.zero_le _, hbump.nested hbody'⟩
      have hinnermost : innermost body e.bump.frames = innermost body e.frames := by
        unfold Engine.bump
        cases hframes : e.frames <;> rfl
      change Frame.Opens _ (innermost body e.bump.frames)
      rw [hinnermost]
      rw [next?_eq hbody, Except.ok.injEq] at hnext
      exact hopens _ hnext (fun hnil => hempty (List.isEmpty_iff.mpr hnil))
  · exact absurd ⟨body, hbody'⟩ (hbump.held hheld).2

/-- Opening the branches along any cursors gives a place. -/
theorem place (e : Engine) (cursors : List BranchCursor) : (e.place cursors).Placed := by
  unfold Engine.place
  split
  · rename_i body hbody
    refine ⟨fun _ => ⟨body, hbody, ?_⟩, fun hne => absurd rfl hne⟩
    have hnil : Nested body [] := trivial
    have hnested := nested_framesAlong cursors hnil
    rwa [List.append_nil] at hnested
  · rename_i cause hcause
    refine ⟨fun hne => absurd rfl hne, fun _ => ⟨rfl, ?_⟩⟩
    rintro ⟨body, hbody⟩
    exact absurd (hcause.symm.trans hbody) (by simp)

end Placed

end Engine

end BranchingStory
