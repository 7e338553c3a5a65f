import BranchingStory.Proofs.Engine.Coherence
import BranchingStory.Session

/-!
What a host does with a session while a game goes on. It makes moves, exchanges scenes and assets,
and tries to load texts; a load that fails is told to the host and leaves the engine alone. So a
session is served as its engine is.
-/

namespace BranchingStory

theorem Engine.Reachable.serve {helpers : Template.Registry} {e : Engine}
    (h : e.Reachable helpers) (request : Engine.Request) : (e.serve request).Reachable helpers := by
  obtain ⟨scenes, assets, initial, requests, rfl⟩ := h
  exact ⟨scenes, assets, initial, requests ++ [request], by simp⟩

namespace Session

/-- What a host asks of a session. Loads stand here only where their texts cannot be read. -/
inductive Call where
  | play (m : Engine.Move)
  | setScenes (scenes : List Scene)
  | setAssets (assets : List Asset)
  | loadScript (file text : String) (fails : (Script.readSource file text).toOption = none)
  | loadScripts (sources : List (String × String))
      (fails : (Script.readSources sources).toOption = none)
  | loadText (now text : String) (fails : (Json.parse text).toOption = none)

def serve (s : Session) : Call → Session
  | .play (.start scene) => (s.start scene).2
  | .play .proceed => s.proceed.2
  | .play (.choose now index) => (s.choose now index).2
  | .setScenes scenes => { s with engine := s.engine.setScenes scenes }
  | .setAssets assets => { s with engine := s.engine.setAssets assets }
  | .loadScript file text _ => (s.loadScript file text).2
  | .loadScripts sources _ => (s.loadScripts sources).2
  | .loadText now text _ => (s.loadText now text).2

def serveAll (s : Session) (calls : List Call) : Session := calls.foldl serve s

@[simp] theorem serveAll_nil (s : Session) : s.serveAll [] = s := rfl

@[simp] theorem serveAll_cons (s : Session) (call : Call) (rest : List Call) :
    s.serveAll (call :: rest) = (s.serve call).serveAll rest := rfl

/-- What a call asks of the engine; a load that fails asks nothing. -/
def Call.request? : Call → Option Engine.Request
  | .play m => some (.play m)
  | .setScenes scenes => some (.setScenes scenes)
  | .setAssets assets => some (.setAssets assets)
  | .loadScript _ _ _ => none
  | .loadScripts _ _ => none
  | .loadText _ _ _ => none

/-- What cannot be read is not installed. -/
theorem engine_install (s : Session) {result : Except Fault (List Scene)}
    (h : result.toOption = none) : (s.install result).2.engine = s.engine := by
  cases result with
  | error fault => rfl
  | ok scenes => simp [Except.toOption] at h

theorem engine_serve (s : Session) (call : Call) :
    (s.serve call).engine =
      match call.request? with
      | some request => s.engine.serve request
      | none => s.engine := by
  cases call with
  | play m => cases m <;> rfl
  | setScenes scenes => rfl
  | setAssets assets => rfl
  | loadScript file text fails => exact engine_install s fails
  | loadScripts sources fails => exact engine_install s fails
  | loadText now text fails =>
      simp only [serve, loadText, Call.request?]
      split
      · rfl
      · rename_i tree htree
        simp [htree, Except.toOption] at fails

theorem reachable_serve {helpers : Template.Registry} {s : Session}
    (h : s.engine.Reachable helpers) (call : Call) :
    (s.serve call).engine.Reachable helpers := by
  rw [engine_serve]
  split
  · exact h.serve _
  · exact h

end Session

end BranchingStory
