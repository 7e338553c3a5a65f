import BranchingStory.Proofs.Session

/-!
A saved game that waits for its scene. A game can be taken up before its script is there. Its place
is then held, whatever the host asks for in the meantime, and it is found when the scene arrives: in
the end it makes no difference which of the two came first.
-/

namespace BranchingStory

namespace Engine

/-! ### Placing -/

theorem place_of_not_loaded {e : Engine} (h : ¬ e.Loaded) (cursors : List BranchCursor) :
    e.place cursors = { e with frames := [], held := cursors } := by
  unfold place
  split
  · rename_i body hbody
    exact absurd ⟨body, hbody⟩ h
  · rfl

theorem exists_place_eq (e : Engine) (cursors : List BranchCursor) :
    ∃ frames held, e.place cursors = { e with frames, held } := by
  unfold place
  split
  · exact ⟨_, _, rfl⟩
  · exact ⟨_, _, rfl⟩

theorem setAssets_place (e : Engine) (cursors : List BranchCursor) (assets : List Asset) :
    (e.place cursors).setAssets assets = (e.setAssets assets).place cursors := by
  have hbody : (e.setAssets assets).sceneBody = e.sceneBody := rfl
  unfold place
  rw [hbody]
  split
  · rfl
  · rfl

def taken (e : Engine) (scenes : List Scene) (d : Save) : Engine :=
  place
    { scenes := Keyed.distinct (scenes.map fun s => (s.name, s.instructions))
      assets := e.assets
      helpers := e.helpers
      state := d.toState } d.branches

theorem restore_setScenes (e : Engine) (scenes : List Scene) (d : Save) :
    (e.setScenes scenes).restore d = e.taken scenes d := by
  obtain ⟨frames, held, hplace⟩ := exists_place_eq
    { e with
      scenes := Keyed.distinct (scenes.map fun s => (s.name, s.instructions))
      pending := none
      status := .idle } e.held
  -- Whatever the scenes opened, the game puts its own place over it.
  rw [setScenes, hplace]
  rfl

/-- A new engine takes up a saved game as one without scenes does. -/
theorem new_eq_restore (assets : List Asset) (helpers : Template.Registry) (d : Save) :
    new [] assets helpers (some d) =
      restore { assets, helpers := Template.Standard.registry.extend helpers } d := by
  let e : Engine :=
    { assets, helpers := Template.Standard.registry.extend helpers, state := d.toState }
  obtain ⟨frames, held, hplace⟩ := exists_place_eq e []
  have hscenes : e.setScenes [] = { e with frames, held } := hplace
  change (e.setScenes []).place d.branches = _
  rw [hscenes]
  rfl

/-! ### Waiting for a scene -/

structure Awaits (e : Engine) (d : Save) : Prop where
  state : e.state = d.toState
  frames : e.frames = []
  held : e.held = d.branches
  pending : e.pending = none
  missing : ¬ e.Loaded

def Lacks (e : Engine) (scene : Option String) : Prop :=
  ∀ name, scene = some name → e.hasScene name = false

theorem Lacks.not_loaded {e : Engine} (h : e.Lacks e.state.scene) : ¬ e.Loaded := by
  rintro ⟨body, hbody⟩
  obtain ⟨name, hname, hget⟩ := sceneBody_eq_ok_iff.mp hbody
  have hthere : e.hasScene name = true := hasScene_iff.mpr ⟨body, hget⟩
  exact absurd (hthere.symm.trans (h name hname)) (by simp)

/-- A table has only the scenes that it was made of. -/
theorem lacks_distinct {e : Engine} {scenes : List Scene} {scene : Option String}
    (htable : e.scenes = Keyed.distinct (scenes.map fun s => (s.name, s.instructions)))
    (h : ∀ s ∈ scenes, scene ≠ some s.name) : e.Lacks scene := by
  intro name hname
  by_contra hthere
  obtain ⟨body, hget⟩ := hasScene_iff.mp (Bool.not_eq_false _ ▸ hthere)
  rw [htable] at hget
  obtain ⟨s, hs, hentry⟩ := List.mem_map.mp (Keyed.mem_distinct (Keyed.mem_of_get?_eq_some hget))
  obtain ⟨rfl, -⟩ := Prod.mk.inj hentry
  exact h s hs hname

/-- A run without a scene to run in ends at once. -/
theorem exists_runToStep_of_not_loaded {e : Engine} (hframes : e.frames = []) (h : ¬ e.Loaded) :
    ∃ fault, e.runToStep = (.fault fault, { e with status := .error, pending := none }) := by
  obtain ⟨cause, hcause⟩ : ∃ cause, e.sceneBody = .error cause := by
    cases hbody : e.sceneBody with
    | error cause => exact ⟨cause, rfl⟩
    | ok body => exact absurd ⟨body, hbody⟩ h
  let active : Engine := { e with status := .sceneActive }
  have hsettle : active.settle = active := by
    simp [settle, active, hframes]
  have hbody : active.sceneBody = .error cause := hcause
  have hnext : active.next? = .error cause := by
    rw [next?, show active.frames = [] from hframes]
    simp only [hbody]
  have hturn : active.turn = .failed active (.engine cause) := by
    rw [turn, hsettle]
    simp only [hnext]
  -- One turn is enough: it asks for the current scene and fails.
  rw [runToStep, maxTurns, run, hturn]
  exact ⟨_, rfl⟩

theorem runToStep_of_not_loaded {e : Engine} (hframes : e.frames = []) (h : ¬ e.Loaded) :
    e.runToStep.2 = { e with status := .error, pending := none } := by
  obtain ⟨fault, hrun⟩ := exists_runToStep_of_not_loaded hframes h
  rw [hrun]

namespace Awaits

variable {e : Engine} {d : Save}

theorem restore (h : e.Lacks d.currentScene) : (e.restore d).Awaits d := by
  have hmissing : ¬ Loaded { e with state := d.toState, pending := none, status := .idle } :=
    Lacks.not_loaded h
  rw [Engine.restore, place_of_not_loaded hmissing]
  exact ⟨rfl, rfl, rfl, rfl, hmissing⟩

theorem setScenes (h : e.Awaits d) {scenes : List Scene}
    (hscenes : ∀ s ∈ scenes, d.currentScene ≠ some s.name) : (e.setScenes scenes).Awaits d := by
  let cleared : Engine :=
    { e with
      scenes := Keyed.distinct (scenes.map fun s => (s.name, s.instructions))
      pending := none
      status := .idle }
  have hmissing : ¬ cleared.Loaded := by
    refine Lacks.not_loaded (lacks_distinct rfl ?_)
    change ∀ s ∈ scenes, e.state.scene ≠ some s.name
    rw [h.state]
    exact hscenes
  change (cleared.place e.held).Awaits d
  rw [place_of_not_loaded hmissing]
  exact ⟨h.state, rfl, h.held, rfl, hmissing⟩

theorem setAssets (h : e.Awaits d) (assets : List Asset) : (e.setAssets assets).Awaits d :=
  ⟨h.state, h.frames, h.held, h.pending, h.missing⟩

theorem move (h : e.Awaits d) {m : Move} (hm : ∀ scene, m ≠ .start scene) :
    (e.move m).2.Awaits d := by
  obtain ⟨hsame, -⟩ | ⟨e', hdeparts, hmove⟩ := move_cases e m
  · rw [hsame]
    exact h
  · cases hdeparts with
    | start hscene => exact absurd rfl (hm _)
    | proceed hscene hcomplete hwaiting =>
        rw [hmove, runToStep_of_not_loaded h.frames h.missing]
        exact ⟨h.state, h.frames, h.held, rfl, h.missing⟩
    | choose hstatus hp hoption hcheck =>
        -- An answer is taken only where choices wait.
        rw [h.pending] at hp
        cases hp

theorem cursors_eq (h : e.Awaits d) : e.cursors = d.branches := by
  rw [cursors, h.frames, h.held]
  rfl

/-- When scenes arrive, the game is taken up with them. -/
theorem setScenes_eq (h : e.Awaits d) (scenes : List Scene) :
    e.setScenes scenes = e.taken scenes d := by
  obtain ⟨table, assets, helpers, state, frames, held, pending, status⟩ := e
  obtain ⟨rfl, rfl, rfl, rfl, -⟩ := h
  rfl

/-- Where a saved game waits, scenes that arrive and the game that is taken up may change places.
Assets play no part in that, so they are those of the engine that waited. -/
theorem setScenes_eq_restore (h : e.Awaits d) {e' : Engine}
    (hhelpers : e.helpers = e'.helpers) (scenes : List Scene) :
    e.setScenes scenes = ((e'.setScenes scenes).restore d).setAssets e.assets := by
  rw [h.setScenes_eq, restore_setScenes, taken, taken, setAssets_place, hhelpers]
  rfl

end Awaits

end Engine

namespace Session

/-- The call leaves a saved game waiting: it starts no scene, and it does not bring the scene in
which the game stands. -/
def Call.Spares (d : Save) : Call → Prop
  | .play m => ∀ scene, m ≠ .start scene
  | .setScenes scenes => ∀ s ∈ scenes, d.currentScene ≠ some s.name
  | _ => True

variable {d : Save}

theorem awaits_serve {s : Session} (h : s.engine.Awaits d) {call : Call} (hspares : call.Spares d) :
    (s.serve call).engine.Awaits d := by
  rw [engine_serve]
  cases call with
  | play m => exact h.move hspares
  | setScenes scenes => exact h.setScenes hspares
  | setAssets assets => exact h.setAssets assets
  | loadScript file text fails => exact h
  | loadScripts sources fails => exact h
  | loadText now text fails => exact h

theorem helpers_serve (s : Session) (call : Call) :
    (s.serve call).engine.helpers = s.engine.helpers := by
  rw [engine_serve]
  split
  · exact Engine.helpers_serve _ _
  · rfl

theorem awaits_serveAll {s : Session} (h : s.engine.Awaits d) {calls : List Call}
    (hspares : ∀ call ∈ calls, call.Spares d) :
    (s.serveAll calls).engine.Awaits d ∧ (s.serveAll calls).engine.helpers = s.engine.helpers := by
  induction calls generalizing s with
  | nil => exact ⟨h, rfl⟩
  | cons call rest ih =>
      obtain ⟨hcall, hrest⟩ := List.forall_mem_cons.mp hspares
      obtain ⟨hawaits, hhelpers⟩ := ih (awaits_serve h hcall) hrest
      exact ⟨hawaits, hhelpers.trans (helpers_serve s call)⟩

/-- A saved game may be taken up before its scenes are there. Whatever a host asks for in between,
short of starting a scene or bringing the one in which the game stands, every save has the branches
of the game, and when scenes arrive, the engine is the one that takes up the game after them, with
the assets given in between. So it is for a new engine that begins with the game. -/
theorem setScenes_load_comm (d : Save) {calls : List Call}
    (hspares : ∀ call ∈ calls, call.Spares d) (scenes : List Scene) :
    (∀ s : Session, s.engine.Lacks d.currentScene →
      let e := ((s.load d).serveAll calls).engine
      e.setScenes scenes = ((s.engine.setScenes scenes).restore d).setAssets e.assets ∧
        ∀ now, (e.save now).branches = d.branches) ∧
    ∀ (assets : List Asset) (helpers : Template.Registry) (initial : Option Save),
      let e := ((Session.new assets helpers (some d)).serveAll calls).engine
      e.setScenes scenes = (((Engine.new [] assets helpers initial).setScenes scenes).restore
          d).setAssets e.assets ∧
        ∀ now, (e.save now).branches = d.branches := by
  constructor
  · intro s hlacks e
    obtain ⟨hawaits, hhelpers⟩ := awaits_serveAll (s := s.load d) (.restore hlacks) hspares
    have hsame : e.helpers = s.engine.helpers := hhelpers.trans (Engine.helpers_place _ _)
    exact ⟨hawaits.setScenes_eq_restore hsame scenes, fun now => hawaits.cursors_eq⟩
  · intro assets helpers initial e
    have hnew : (Session.new assets helpers (some d)).engine.Awaits d := by
      rw [Session.new, Engine.new_eq_restore]
      exact .restore fun name hname => rfl
    obtain ⟨hawaits, hhelpers⟩ := awaits_serveAll hnew hspares
    have hsame : e.helpers = (Engine.new [] assets helpers initial).helpers := by
      rw [Engine.helpers_new]
      exact hhelpers.trans (Engine.helpers_new _ _ _ _)
    exact ⟨hawaits.setScenes_eq_restore hsame scenes, fun now => hawaits.cursors_eq⟩

theorem setScenes_load_comm_crossroads :
    let d := Engine.asking.save "noon"
    let cellar : List Scene := [⟨"cellar", []⟩]
    let s : Session := { engine := Engine.new cellar [] [] none }
    let calls : List Call :=
      [.play .proceed, .play (.choose "noon" 0), .setScenes cellar,
        .loadScript "story.json" "?" (by decide +kernel)]
    let e := ((s.load d).serveAll calls).engine
    s.engine.Lacks d.currentScene ∧ (∀ call ∈ calls, call.Spares d) ∧
      e.setScenes Engine.crossroads =
        ((s.engine.setScenes Engine.crossroads).restore d).setAssets e.assets ∧
      (e.setScenes Engine.crossroads).frames.map Frame.cursor = d.branches ∧
      (e.save "noon").branches = d.branches ∧ d.branches = [⟨0, false, 0⟩] := by
  intro d cellar s calls e
  have hscene : d.currentScene = some "start" := by rfl
  have hbranches : d.branches = [⟨0, false, 0⟩] := by rfl
  have hlacks : s.engine.Lacks d.currentScene := by
    intro name hname
    rw [hscene] at hname
    cases hname
    decide
  have hspares : ∀ call ∈ calls, call.Spares d := by
    simp [calls, Call.Spares, cellar, hscene]
  obtain ⟨hload, -⟩ := setScenes_load_comm d hspares Engine.crossroads
  obtain ⟨hcomm, hsave⟩ := hload s hlacks
  refine ⟨hlacks, hspares, hcomm, ?_, hsave "noon", hbranches⟩
  rw [hcomm]
  rfl

end Session

end BranchingStory
