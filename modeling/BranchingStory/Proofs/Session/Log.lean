import BranchingStory.Proofs.Engine.Choosing
import BranchingStory.Proofs.Session

/-!
The log of choices. Whatever a host asks for, the choices made are kept in the order in which they
were made, and each choice that is accepted is added once. Nothing else touches the log: not the
actions of a story, not a run that ends in a fault, not other scenes or assets, not a load that
fails.
-/

namespace BranchingStory

namespace Engine

def Chooses (e : Engine) (m : Move) : Prop :=
  ∃ now index, m = .choose now index ∧ ∃ shown option actions, e.Accepts index shown option actions

theorem Coherent.history_choose {e : Engine} (h : e.Coherent) {index : Nat}
    {shown : PresentedChoice} {option : ChoiceOption} {actions : List Action}
    (haccepts : e.Accepts index shown option actions) (now : String) :
    ∃ scene, e.state.scene = some scene ∧ (e.choose now index).2.state.history =
      e.state.history ++ [⟨shown.text, scene, some now⟩] := by
  obtain ⟨scene, e', hscene, hgoesOn, hchoose⟩ := h.choose_of_accepts haccepts now
  refine ⟨scene, hscene, ?_⟩
  rw [hchoose, history_runToStep, hgoesOn.state]

/-- A move that makes no choice leaves the log as it is. -/
theorem Coherent.history_move {e : Engine} (h : e.Coherent) {m : Move} (hnot : ¬ e.Chooses m) :
    (e.move m).2.state.history = e.state.history := by
  obtain ⟨hsame, -⟩ | ⟨e', hdeparts, hmove⟩ := move_cases e m
  · rw [hsame]
  · rw [hmove, history_runToStep]
    cases m with
    | start name =>
        cases hdeparts
        rfl
    | proceed =>
        cases hdeparts
        rfl
    | choose now index =>
        obtain ⟨shown, option, actions, haccepts, -⟩ := h.departs_choose_iff.mp hdeparts
        exact absurd ⟨now, index, rfl, shown, option, actions, haccepts⟩ hnot

end Engine

namespace Session

/-- The records that calls leave, one after the other. A choice that is accepted leaves the text
under which it was offered, the scene at that time and the time; any other call leaves none. -/
inductive Logs : Session → List Call → List ChoiceRecord → Prop
  | nil {s : Session} : Logs s [] []
  | accepted {s : Session} {now : String} {index : Nat} {shown : PresentedChoice}
      {option : ChoiceOption} {actions : List Action} {scene : String} {rest : List Call}
      {records : List ChoiceRecord} (haccepts : s.engine.Accepts index shown option actions)
      (hscene : s.engine.state.scene = some scene)
      (hrest : Logs (s.serve (.play (.choose now index))) rest records) :
      Logs s (.play (.choose now index) :: rest) (⟨shown.text, scene, some now⟩ :: records)
  | other {s : Session} {call : Call} {rest : List Call} {records : List ChoiceRecord}
      (hnot : ∀ m, call = .play m → ¬ s.engine.Chooses m)
      (hrest : Logs (s.serve call) rest records) : Logs s (call :: rest) records

theorem history_serve {s : Session} (h : s.engine.Coherent) {call : Call}
    (hnot : ∀ m, call = .play m → ¬ s.engine.Chooses m) :
    (s.serve call).engine.state.history = s.engine.state.history := by
  rw [engine_serve]
  cases call with
  | play m => exact h.history_move (hnot m rfl)
  | setScenes scenes => simp [Call.request?, Engine.serve, Engine.setScenes]
  | setAssets assets => rfl
  | loadScript file text fails => rfl
  | loadScripts sources fails => rfl
  | loadText now text fails => rfl

theorem history_serveAll {helpers : Template.Registry} {s : Session}
    (h : s.engine.Reachable helpers) (calls : List Call) :
    ∃ records, s.Logs calls records ∧
      (s.serveAll calls).engine.state.history = s.engine.state.history ++ records := by
  induction calls generalizing s with
  | nil => exact ⟨[], .nil, by simp⟩
  | cons call rest ih =>
      obtain ⟨records, hlogs, hhistory⟩ := ih (reachable_serve h call)
      by_cases hchooses : ∃ m, call = .play m ∧ s.engine.Chooses m
      · -- The one record of the call goes before those of the rest.
        obtain ⟨m, rfl, now, index, rfl, shown, option, actions, haccepts⟩ := hchooses
        obtain ⟨scene, hscene, hchoose⟩ := h.coherent.history_choose haccepts now
        refine ⟨_, .accepted haccepts hscene hlogs, ?_⟩
        rw [serveAll_cons, hhistory, engine_serve]
        simp only [Call.request?, Engine.serve, Engine.move, hchoose, List.append_assoc,
          List.singleton_append]
      · have hnot : ∀ m, call = .play m → ¬ s.engine.Chooses m :=
          fun m hm hm' => hchooses ⟨m, hm, hm'⟩
        refine ⟨records, .other hnot hlogs, ?_⟩
        rw [serveAll_cons, hhistory, history_serve h.coherent hnot]

/-- The log holds the choices that were accepted and nothing else, in the order in which they were
made. An answer is accepted if choices wait, one was offered under its number, all actions of the
option behind that are sound and its target is there; then the story goes on as the option says, and
never misses that target. Any other answer meets a fault and changes nothing. -/
theorem log_exact {helpers : Template.Registry} {s : Session} (h : s.engine.Reachable helpers) :
    (∀ calls, ∃ records, s.Logs calls records ∧
      (s.serveAll calls).engine.state.history = s.engine.state.history ++ records) ∧
    ∀ now index,
      ((∃ shown option actions, s.engine.Accepts index shown option actions) ↔
        (s.engine.choose now index).2.state.history ≠ s.engine.state.history) ∧
      ((∀ shown option actions, ¬ s.engine.Accepts index shown option actions) →
        ∃ fault, s.engine.choose now index = (.fault fault, s.engine)) ∧
      ∀ shown option actions, s.engine.Accepts index shown option actions →
        s.engine.Reveals index shown option ∧
        (∃ scene e', s.engine.state.scene = some scene ∧
          s.engine.GoesOn ⟨shown.text, scene, some now⟩ option actions e' ∧
          s.engine.choose now index = e'.runToStep) ∧
        ∀ target, option.target = some target →
          (s.engine.choose now index).1 ≠ .fault (.engine (.jumpTargetNotFound target)) := by
  have hcoherent := h.coherent
  refine ⟨history_serveAll h, fun now index => ⟨⟨?_, ?_⟩, fun hnot => ?_, ?_⟩⟩
  · rintro ⟨shown, option, actions, haccepts⟩
    obtain ⟨scene, -, hhistory⟩ := hcoherent.history_choose haccepts now
    simp [hhistory]
  · intro hchanged
    by_contra hnot
    obtain ⟨fault, hchoose⟩ := hcoherent.choose_of_not_accepts
      (fun shown option actions haccepts => hnot ⟨shown, option, actions, haccepts⟩) now
    simp [hchoose] at hchanged
  · exact hcoherent.choose_of_not_accepts hnot now
  · intro shown option actions haccepts
    refine ⟨h.reveals haccepts, hcoherent.choose_of_accepts haccepts now, fun target htarget => ?_⟩
    obtain ⟨scene, e', -, hgoesOn, hchoose⟩ := hcoherent.choose_of_accepts haccepts now
    have hscenes : e'.scenes = s.engine.scenes := congrArg Setting.scenes hgoesOn.setting
    rw [hchoose]
    apply Engine.runToStep_ne_jumpTargetNotFound
    rw [Engine.hasScene, hscenes]
    exact haccepts.target target htarget

/-- At the crossroads the second answer leads back, since the choice between it and the first one is
hidden; an answer that there is not comes before it, and the first answer after it. -/
theorem log_exact_crossroads :
    let s : Session := { engine := Engine.asking }
    let calls : List Call := [.play (.choose "one" 2), .play (.choose "two" 1), .setAssets [],
      .play (.choose "three" 0)]
    (∃ records, s.Logs calls records ∧ (s.serveAll calls).engine.state.history = records) ∧
    (s.serveAll calls).engine.state.history =
      [⟨"back", "start", some "two"⟩, ⟨"left", "start", some "three"⟩] ∧
    s.engine.Accepts 1 ⟨1, "back", some "start"⟩ ⟨"back", some "start", none, []⟩ [] ∧
    s.engine.Reveals 1 ⟨1, "back", some "start"⟩ ⟨"back", some "start", none, []⟩ := by
  intro s calls
  have haccepts :
      s.engine.Accepts 1 ⟨1, "back", some "start"⟩ ⟨"back", some "start", none, []⟩ [] :=
    ⟨rfl, ⟨_, rfl, rfl, rfl⟩, .nil, fun target htarget => by cases htarget; rfl⟩
  obtain ⟨hlog, hanswers⟩ := log_exact (s := s) Engine.reachable_asking
  obtain ⟨-, -, haccepted⟩ := hanswers "two" 1
  exact ⟨hlog calls, by decide +kernel, haccepts, (haccepted _ _ _ haccepts).1⟩

end Session

end BranchingStory
