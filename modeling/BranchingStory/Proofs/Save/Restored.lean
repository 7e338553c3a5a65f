import BranchingStory.Proofs.Engine.Resume
import BranchingStory.Proofs.Save.Agreement
import BranchingStory.Proofs.Session.Waiting

/-!
Games that are taken up from saves of any origin. Whatever could be read as a save makes a tidy
state. If the game then comes to choices, its scene was there, and from there on it can be saved as
any other game.
-/

namespace BranchingStory

theorem Save.tidy_decodeVariable? {tree : Json} {entry : String × Value}
    (h : decodeVariable? tree = some entry) : entry.2.Tidy := by
  unfold decodeVariable? at h
  split at h
  · obtain ⟨v, hv, rfl⟩ := Option.map_eq_some_iff.mp h
    exact Value.tidy_ofJson? (Value.ofJson?_of_decode? hv)
  · cases h

theorem Json.mem_of_listOf {α : Type} {read : Json → Option α} {tree : Json} {values : List α}
    (h : listOf read tree = some values) {v : α} (hv : v ∈ values) :
    ∃ item, read item = some v := by
  obtain ⟨items, -, hitems⟩ := listOf_eq_some_iff.mp h
  have hmem : some v ∈ items.map read := by
    rw [hitems]
    exact List.mem_map_of_mem hv
  obtain ⟨item, -, hitem⟩ := List.mem_map.mp hmem
  exact ⟨item, hitem⟩

/-- A save that was read strictly makes a canonical state. -/
theorem Save.canonical_toState {tree : Json} {d : Save} (h : decode? tree = some d) :
    d.toState.Canonical := by
  refine ⟨Keyed.sorted_ascending d.vars, ?_, TextSet.pairwise_ofList d.storyFlags⟩
  rw [Value.tidyEntries_iff]
  intro entry hentry
  have hmem : entry ∈ d.vars := Keyed.mem_ascending hentry
  simp only [decode?, Option.bind_eq_bind, Option.bind_eq_some_iff, Option.pure_def,
    Option.some.injEq] at h
  obtain ⟨r, -, _, -, _, -, vars, hvars, _, -, _, -, _, -, _, -, _, -, rfl⟩ := h
  unfold Json.Record.withDefault at hvars
  split at hvars
  · obtain ⟨item, hitem⟩ := Json.mem_of_listOf hvars hmem
    exact tidy_decodeVariable? hitem
  · cases hvars
    cases hmem

namespace Engine

/-- A game that is taken up and comes to choices can be saved there. -/
theorem Coherent.resumable_restore {e : Engine} (h : e.Coherent) (hquiet : Quiet e.setting)
    {d : Save} (hcanonical : d.toState.Canonical) {content : String} {speaker : Option String}
    {choices : List PresentedChoice}
    (hchoices : (e.restore d).proceed.1 = .choices content speaker choices) :
    (e.restore d).proceed.2.Resumable := by
  let cleared : Engine := { e with state := d.toState, pending := none, status := .idle }
  have hcoherent : (e.restore d).Coherent := h.serve (.restore d)
  have hstate : (e.restore d).state = d.toState := state_place cleared d.branches
  have hpending : (e.restore d).pending = none := pending_place cleared d.branches
  have hstatus : (e.restore d).status = .idle := status_place cleared d.branches
  have hsetting : (e.restore d).setting = e.setting := setting_place cleared d.branches
  have hafter := hcoherent.move .proceed
  -- Nothing waits and nothing is complete, so the game runs, unless it has no scene.
  have hrun : (e.restore d).state.scene ≠ none ∧
      (e.restore d).proceed = (e.restore d).runToStep := by
    unfold proceed at hchoices ⊢
    simp only [hstatus] at hchoices ⊢
    split at hchoices
    · cases hchoices
    · rename_i name hname
      exact ⟨by simp [hname], rfl⟩
  obtain ⟨hscene, hproceed⟩ := hrun
  have hheld : (e.restore d).held = [] := by
    by_contra hheld
    obtain ⟨hframes, hmissing⟩ := hcoherent.placed.held hheld
    obtain ⟨fault, hfault⟩ := exists_runToStep_of_not_loaded hframes hmissing
    rw [hproceed, hfault] at hchoices
    cases hchoices
  have hunderway : (e.restore d).Underway :=
    ⟨hheld, hstate ▸ hcanonical, hscene⟩
  obtain ⟨hstays, hrepeats⟩ :=
    hunderway.runToStep hcoherent.placed hpending (hsetting ▸ hquiet)
  rw [show (e.restore d).move .proceed = (e.restore d).runToStep from hproceed] at hafter
  rw [hproceed]
  exact ⟨hafter, hstays.held, hstays.canonical, fun hnone => absurd hnone hstays.scene, hrepeats⟩

end Engine

end BranchingStory
