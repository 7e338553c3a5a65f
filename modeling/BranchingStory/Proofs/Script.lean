import BranchingStory.Script.Source

/-!
Scripts have quiet dialogues. A dialogue may carry actions of its own, but there is no way to write
them in a script: actions are always entries of their own. So showing a dialogue that was read from
a script changes nothing in the game.
-/

namespace BranchingStory

namespace Instruction

mutual

/-- No dialogue in the instruction, however deep, has actions of its own. -/
def Quiet : Instruction → Prop
  | .dialogue _ _ actions _ _ => actions = []
  | .conditional _ thenBranch elseBranch _ => QuietBranch thenBranch ∧ QuietElse elseBranch
  | .action .. => True
  | .jump .. => True

def QuietBranch : List Instruction → Prop
  | [] => True
  | i :: rest => i.Quiet ∧ QuietBranch rest

def QuietElse : Option (List Instruction) → Prop
  | none => True
  | some branch => QuietBranch branch

end

theorem quietBranch_iff {branch : List Instruction} :
    QuietBranch branch ↔ ∀ i ∈ branch, i.Quiet := by
  induction branch with
  | nil => simp [QuietBranch]
  | cons i rest ih => simp [QuietBranch, ih]

end Instruction

namespace Script

open Instruction

theorem quiet_readDialogue {location : Location} {fields : List (String × Json)}
    {i : Instruction} (h : readDialogue location fields = .ok i) : i.Quiet := by
  unfold readDialogue at h
  split at h
  · cases h
    rfl
  · split at h
    · cases h
    · cases h
      rfl
    · cases h
      rfl

mutual

theorem quiet_readInstruction {location : Location} {entry : Json} {i : Instruction}
    (h : readInstruction location entry = .ok i) : i.Quiet := by
  cases entry with
  | text text =>
      rw [readInstruction] at h
      cases h
      rfl
  | object fields =>
      rw [readInstruction] at h
      split at h
      · cases h
        trivial
      · split at h
        · split at h
          · cases h
          · split at h
            · cases h
            · rename_i thenBranch hthen
              split at h
              · cases h
              · rename_i elseBranch helse
                cases h
                have hquiet := quiet_readBranch hthen
                refine ⟨?_, quiet_readBranch helse⟩
                cases thenBranch with
                | none => trivial
                | some branch => exact hquiet
        · split at h
          · split at h
            · cases h
            · cases h
              trivial
          · split at h
            · exact quiet_readDialogue h
            · cases h
  | _ =>
      rw [readInstruction] at h
      · cases h
      all_goals simp
termination_by (sizeOf entry, 1)
decreasing_by
  all_goals
    subst_vars
    exact Prod.Lex.right _ Nat.zero_lt_one

theorem quiet_readBranch {location : Location} {fields : List (String × Json)} {key : String}
    {branch : Option (List Instruction)} (h : readBranch location fields key = .ok branch) :
    QuietElse branch := by
  unfold readBranch at h
  split at h
  · cases h
    trivial
  · rename_i written hfound
    split at h
    · cases h
    · rename_i instructions hread
      cases h
      exact quiet_readSequence hread
termination_by (sizeOf (Json.object fields), 0)
decreasing_by exact Prod.Lex.left _ _ (Json.sizeOf_asList_lt (by assumption))

theorem quiet_readSequence {location : Location} {entries : List Json}
    {instructions : List Instruction} (h : readSequence location entries = .ok instructions) :
    QuietBranch instructions := by
  unfold readSequence at h
  split at h
  · cases h
    trivial
  · split at h
    · cases h
    · rename_i instruction hinstruction
      split at h
      · cases h
      · rename_i rest hrest
        cases h
        exact ⟨quiet_readInstruction hinstruction, quiet_readSequence hrest⟩
termination_by (sizeOf entries, 0)

end

theorem quiet_readEntries {file scene : String} {line : Nat} {entries : List Json}
    {instructions : List Instruction} (h : readEntries file scene line entries = .ok instructions) :
    QuietBranch instructions := by
  induction entries generalizing line instructions with
  | nil =>
      cases h
      trivial
  | cons entry rest ih =>
      rw [readEntries] at h
      split at h
      · cases h
      · rename_i instruction hinstruction
        split at h
        · cases h
        · rename_i others hothers
          cases h
          exact ⟨quiet_readInstruction hinstruction, ih hothers⟩

def Quiet (scenes : List Scene) : Prop := ∀ scene ∈ scenes, QuietBranch scene.instructions

theorem quiet_readFields {file : String} {fields : List (String × Json)} {scenes : List Scene}
    (h : readFields file fields = .ok scenes) : Quiet scenes := by
  induction fields generalizing scenes with
  | nil =>
      cases h
      intro scene hscene
      cases hscene
  | cons field rest ih =>
      rw [readFields] at h
      split at h
      · cases h
      · rename_i scene hscene
        split at h
        · cases h
        · rename_i others hothers
          cases h
          refine List.forall_mem_cons.mpr ⟨?_, ih hothers⟩
          unfold readScene at hscene
          split at hscene
          · split at hscene
            · cases hscene
            · rename_i instructions hread
              cases hscene
              exact quiet_readEntries hread
          · cases hscene

theorem quiet_readScenes {file : String} {tree : Json} {scenes : List Scene}
    (h : readScenes file tree = .ok scenes) : Quiet scenes := by
  unfold readScenes at h
  split at h
  · exact quiet_readFields h
  · cases h

theorem quiet_merge {file : String} {table scenes merged : List Scene} (htable : Quiet table)
    (hscenes : Quiet scenes) (h : merge file table scenes = .ok merged) : Quiet merged := by
  induction scenes generalizing table with
  | nil =>
      cases h
      exact htable
  | cons scene rest ih =>
      obtain ⟨hscene, hrest⟩ := List.forall_mem_cons.mp hscenes
      rw [merge] at h
      split at h
      · cases h
      · refine ih ?_ hrest h
        exact List.forall_mem_append.mpr ⟨htable, List.forall_mem_singleton.mpr hscene⟩

theorem quiet_addSources {table scenes : List Scene} {sources : List (String × String)}
    (htable : Quiet table) (h : addSources table sources = .ok scenes) : Quiet scenes := by
  induction sources generalizing table with
  | nil =>
      cases h
      exact htable
  | cons source rest ih =>
      rw [addSources] at h
      split at h
      · cases h
      · rename_i read hread
        split at h
        · cases h
        · rename_i merged hmerge
          refine ih (quiet_merge htable ?_ hmerge) h
          unfold readSource at hread
          split at hread
          · cases hread
          · exact quiet_readScenes hread

def Read (scenes : List Scene) : Prop :=
  (∃ file tree, readScenes file tree = .ok scenes) ∨ ∃ sources, readSources sources = .ok scenes

theorem Read.quiet {scenes : List Scene} (h : Read scenes) : Quiet scenes := by
  obtain ⟨file, tree, htree⟩ | ⟨sources, hsources⟩ := h
  · exact quiet_readScenes htree
  · exact quiet_addSources (fun scene hscene => by cases hscene) hsources

end Script

end BranchingStory
