import BranchingStory.Proofs.Engine.Choosing
import BranchingStory.Proofs.Script.Table
import BranchingStory.Proofs.Session

/-!
Calls that a session refuses. The reasons are said by conditions on the session and on what is
asked: a scene that is not there, nothing to go on with, an answer that cannot be taken, texts that
are no scripts or make no table, a text that is no data tree. A refused call reports a fault and
leaves the engine as it was, so that a game with refused calls is the game without them.
-/

namespace BranchingStory.Session

inductive Ask where
  | start (scene : String)
  | proceed
  | choose (now : String) (index : Nat)
  | loadScript (file text : String)
  | loadScripts (sources : List (String × String))
  | loadText (now text : String)

inductive Answer where
  | step (step : Step)
  | loaded (done : Bool)

def ask (s : Session) : Ask → Answer × Session
  | .start scene => (s.start scene).map .step id
  | .proceed => s.proceed.map .step id
  | .choose now index => (s.choose now index).map .step id
  | .loadScript file text => (s.loadScript file text).map .loaded id
  | .loadScripts sources => (s.loadScripts sources).map .loaded id
  | .loadText now text => (s.loadText now text).map .loaded id

def askAll (s : Session) (asks : List Ask) : Session := asks.foldl (fun s a => (s.ask a).2) s

/-! ### Refusals -/

inductive Refuses (s : Session) : Ask → Prop
  | start {name : String} (hname : name ∉ s.engine.sceneNames) : Refuses s (.start name)
  | proceed (hscene : s.engine.state.scene = none) (hwaiting : s.engine.status ≠ .awaitingChoice)
      (hcomplete : s.engine.status ≠ .sceneComplete) : Refuses s .proceed
  | nothingWaits {now : String} {index : Nat} (hpending : s.engine.pending = none) :
      Refuses s (.choose now index)
  | outOfRange {now : String} {index : Nat} {p : Pending} (hp : s.engine.pending = some p)
      (hindex : p.presented.length ≤ index) : Refuses s (.choose now index)
  | action {now : String} {index : Nat} {p : Pending} {option : ChoiceOption} {descriptor : Json}
      (hp : s.engine.pending = some p) (hoption : p.options[index]? = some option)
      (hmem : descriptor ∈ option.actions)
      (hinvalid : ∀ action, Action.ofDescriptor descriptor ≠ .ok action) :
      Refuses s (.choose now index)
  | target {now : String} {index : Nat} {p : Pending} {option : ChoiceOption} {target : String}
      (hp : s.engine.pending = some p) (hoption : p.options[index]? = some option)
      (htarget : option.target = some target) (hmissing : target ∉ s.engine.sceneNames) :
      Refuses s (.choose now index)
  | script {file text : String} (h : Script.Unusable file text) : Refuses s (.loadScript file text)
  | scripts {sources : List (String × String)} (h : Script.Broken (Keyed.ascending sources)) :
      Refuses s (.loadScripts sources)
  | text {now text : String} (h : ∀ tree, Json.parse text ≠ .ok tree) :
      Refuses s (.loadText now text)

/-- How a refusal looks: a move shows the fault and changes nothing, a load keeps the fault. -/
def refusal (s : Session) (fault : Fault) : Ask → Answer × Session
  | .start _ => (.step (.fault fault), s)
  | .proceed => (.step (.fault fault), s)
  | .choose _ _ => (.step (.fault fault), s)
  | .loadScript _ _ => (.loaded false, { s with lastFault := some fault })
  | .loadScripts _ => (.loaded false, { s with lastFault := some fault })
  | .loadText _ _ => (.loaded false, { s with lastFault := some fault })

theorem engine_refusal (s : Session) (fault : Fault) (a : Ask) :
    (s.refusal fault a).2.engine = s.engine := by
  cases a <;> rfl

theorem hasScene_eq_false {e : Engine} {name : String} (h : name ∉ e.sceneNames) :
    e.hasScene name = false := by
  rw [Bool.eq_false_iff]
  intro hscene
  obtain ⟨body, hbody⟩ := Engine.hasScene_iff.mp hscene
  exact h (List.mem_map.mpr ⟨_, Keyed.mem_of_get?_eq_some hbody, rfl⟩)

theorem Refuses.not_accepts {s : Session} {now : String} {index : Nat}
    (h : s.Refuses (.choose now index)) (shown : PresentedChoice) (option : ChoiceOption)
    (actions : List Action) : ¬ s.engine.Accepts index shown option actions := by
  intro haccepts
  obtain ⟨p, hp, hshown, hoption⟩ := haccepts.offered
  cases h with
  | nothingWaits hpending => cases hpending.symm.trans hp
  | outOfRange hp' hindex =>
      obtain rfl := Option.some.inj (hp.symm.trans hp')
      exact absurd (List.getElem?_eq_some_iff.mp hshown).1 (Nat.not_lt.mpr hindex)
  | action hp' hoption' hmem hinvalid =>
      obtain rfl := Option.some.inj (hp.symm.trans hp')
      obtain rfl := Option.some.inj (hoption.symm.trans hoption')
      obtain ⟨action, haction⟩ := Script.exists_forall₂_iff.mp ⟨actions, haccepts.checked⟩ _ hmem
      exact hinvalid action haction
  | target hp' hoption' htarget hmissing =>
      obtain rfl := Option.some.inj (hp.symm.trans hp')
      obtain rfl := Option.some.inj (hoption.symm.trans hoption')
      have hscene := haccepts.target _ htarget
      rw [hasScene_eq_false hmissing] at hscene
      cases hscene

/-- What is refused is reported, and nothing else happens. -/
theorem Refuses.ask_eq {s : Session} (hcoherent : s.engine.Coherent) {a : Ask} (h : s.Refuses a) :
    ∃ fault, s.ask a = s.refusal fault a := by
  have hchoose : ∀ now index, s.Refuses (.choose now index) →
      ∃ fault, s.ask (.choose now index) = s.refusal fault (.choose now index) := by
    -- Every reason to refuse an answer contradicts one of the conditions to accept it.
    intro now index h
    obtain ⟨fault, hfault⟩ := hcoherent.choose_of_not_accepts h.not_accepts now
    refine ⟨fault, ?_⟩
    simp only [ask, Session.choose, onEngine, hfault]
    rfl
  cases h with
  | @start name hname =>
      refine ⟨.engine (.sceneNotFound name), ?_⟩
      simp only [ask, Session.start, onEngine, Engine.start, hasScene_eq_false hname]
      rfl
  | proceed hscene hwaiting hcomplete =>
      refine ⟨.engine .noActiveScene, ?_⟩
      have hproceed : s.engine.proceed = (.fault (.engine .noActiveScene), s.engine) := by
        unfold Engine.proceed
        split
        · exact absurd ‹_› hwaiting
        · exact absurd ‹_› hcomplete
        · rw [hscene]
      simp only [ask, Session.proceed, onEngine, hproceed]
      rfl
  | nothingWaits hpending => exact hchoose _ _ (.nothingWaits hpending)
  | outOfRange hp hindex => exact hchoose _ _ (.outOfRange hp hindex)
  | action hp hoption hmem hinvalid => exact hchoose _ _ (.action hp hoption hmem hinvalid)
  | target hp hoption htarget hmissing => exact hchoose _ _ (.target hp hoption htarget hmissing)
  | script hunusable =>
      obtain ⟨fault, hread⟩ := Script.readSource_eq_error_iff.mpr hunusable
      refine ⟨fault, ?_⟩
      simp only [ask, loadScript, hread]
      rfl
  | scripts hbroken =>
      obtain ⟨fault, hread⟩ := Script.readSources_eq_error_iff.mpr hbroken
      refine ⟨fault, ?_⟩
      simp only [ask, loadScripts, hread]
      rfl
  | @text now text hnot =>
      refine ⟨.stateNotJson, ?_⟩
      cases hparse : Json.parse text with
      | error line =>
          simp only [ask, loadText, hparse]
          rfl
      | ok tree => exact absurd hparse (hnot tree)

/-- A load is refused for these reasons only. -/
theorem refuses_of_not_loaded {s : Session} {a : Ask} (h : (s.ask a).1 = .loaded false) :
    s.Refuses a := by
  cases a with
  | start name => cases h
  | proceed => cases h
  | choose now index => cases h
  | loadScript file text =>
      cases hread : Script.readSource file text with
      | error fault => exact .script (Script.readSource_eq_error_iff.mp ⟨fault, hread⟩)
      | ok scenes =>
          simp only [ask, loadScript, hread] at h
          cases h
  | loadScripts sources =>
      cases hread : Script.readSources sources with
      | error fault => exact .scripts (Script.readSources_eq_error_iff.mp ⟨fault, hread⟩)
      | ok scenes =>
          simp only [ask, loadScripts, hread] at h
          cases h
  | loadText now text =>
      cases hparse : Json.parse text with
      | error line => exact .text fun tree htree => by cases hparse.symm.trans htree
      | ok tree =>
          simp only [ask, loadText, hparse] at h
          cases h

/-! ### Games with refusals -/

/-- The second list is the first without some calls, each of which was refused at its turn. -/
inductive Heeds : Session → List Ask → List Ask → Prop
  | nil (s : Session) : Heeds s [] []
  | refused {s : Session} {a : Ask} {rest kept : List Ask} (h : s.Refuses a)
      (hrest : Heeds (s.ask a).2 rest kept) : Heeds s (a :: rest) kept
  | heard {s : Session} {a : Ask} {rest kept : List Ask} (hrest : Heeds (s.ask a).2 rest kept) :
      Heeds s (a :: rest) (a :: kept)

/-- The answer and the engine after it depend on the engine alone. -/
theorem ask_congr {s t : Session} (h : s.engine = t.engine) (a : Ask) :
    (s.ask a).1 = (t.ask a).1 ∧ (s.ask a).2.engine = (t.ask a).2.engine := by
  cases a with
  | start name => simp [ask, Session.start, onEngine, h]
  | proceed => simp [ask, Session.proceed, onEngine, h]
  | choose now index => simp [ask, Session.choose, onEngine, h]
  | loadScript file text =>
      simp only [ask, loadScript]
      cases Script.readSource file text <;> simp [install, h]
  | loadScripts sources =>
      simp only [ask, loadScripts]
      cases Script.readSources sources <;> simp [install, h]
  | loadText now text =>
      simp only [ask, loadText]
      cases Json.parse text <;> simp [load, h]

theorem reachable_ask {helpers : Template.Registry} {s : Session}
    (h : s.engine.Reachable helpers) (a : Ask) : (s.ask a).2.engine.Reachable helpers := by
  cases a with
  | start name => exact h.serve (.play (.start name))
  | proceed => exact h.serve (.play .proceed)
  | choose now index => exact h.serve (.play (.choose now index))
  | loadScript file text =>
      simp only [ask, loadScript]
      cases Script.readSource file text with
      | error fault => exact h
      | ok scenes => exact h.serve (.setScenes scenes)
  | loadScripts sources =>
      simp only [ask, loadScripts]
      cases Script.readSources sources with
      | error fault => exact h
      | ok scenes => exact h.serve (.setScenes scenes)
  | loadText now text =>
      simp only [ask, loadText]
      cases Json.parse text with
      | error line => exact h
      | ok tree => exact h.serve (.restore (Save.recover now tree))

/-- A game with refused calls ends in the same engine as the game without them. -/
theorem engine_askAll_of_heeds {helpers : Template.Registry} {s : Session}
    (hreach : s.engine.Reachable helpers) {asks kept : List Ask} (h : Heeds s asks kept)
    {t : Session} (hengine : s.engine = t.engine) :
    (s.askAll asks).engine = (t.askAll kept).engine := by
  -- A refused load leaves another last fault, so the sessions agree in their engines only.
  induction h generalizing t with
  | nil s => exact hengine
  | @refused s a rest kept hrefuses hrest ih =>
      refine ih (reachable_ask hreach a) ?_
      obtain ⟨fault, hask⟩ := hrefuses.ask_eq hreach.coherent
      rw [hask, engine_refusal, hengine]
  | @heard s a rest kept hrest ih =>
      exact ih (reachable_ask hreach a) (ask_congr hengine a).2

/-- A refused call reports a fault and changes nothing, save for the last fault of a load; loads are
refused for no other reasons; and however many refused calls there were in a game, the engine is
where it would be without them. -/
theorem refused_calls_change_nothing {helpers : Template.Registry} {s : Session}
    (hreach : s.engine.Reachable helpers) :
    (∀ a, s.Refuses a → ∃ fault, s.ask a = s.refusal fault a) ∧
    (∀ a, (s.ask a).1 = .loaded false → s.Refuses a) ∧
    ∀ asks kept, Heeds s asks kept → (s.askAll asks).engine = (s.askAll kept).engine :=
  ⟨fun _ h => h.ask_eq hreach.coherent, fun _ => refuses_of_not_loaded,
    fun _ _ h => engine_askAll_of_heeds hreach h rfl⟩

/-- A gate with a price whose second action is none, with a way to a scene that is not there, and
with a way back. -/
def tollgate : List Scene :=
  let location : Location := ⟨"gate.json", 1, "gate"⟩
  let paid : Json := .object [("type", .text "setFlag"), ("flag", .text "paid")]
  [⟨"gate", [.dialogue none "Halt!" [] (some [⟨"pay", none, none, [paid, .bool true]⟩,
    ⟨"run", some "fields", none, []⟩, ⟨"wait", some "gate", none, []⟩]) location]⟩]

def rivals : List (String × String) :=
  [("b.json", "\x7b\"a\":[]\x7d"), ("a.json", "\x7b\"a\":[]\x7d")]

/-- A host that is refused five times at the gate. -/
theorem refused_calls_change_nothing_tollgate :
    let engine := (Engine.new tollgate [] [] none).serve (.play (.start "gate"))
    let s : Session := { engine }
    engine.Reachable [] ∧ engine.status = .awaitingChoice ∧
      (∃ fault, s.ask (.choose "noon" 0) = (.step (.fault fault), s)) ∧
      (s.askAll [.choose "noon" 0, .choose "noon" 1, .choose "noon" 3, .loadText "noon" "\x7b",
        .loadScripts rivals, .choose "noon" 2]).engine = (s.askAll [.choose "noon" 2]).engine := by
  intro engine s
  have hreach : s.engine.Reachable [] := ⟨tollgate, [], none, [.play (.start "gate")], rfl⟩
  obtain ⟨hrefused, -, hgame⟩ := refused_calls_change_nothing hreach
  have hpay : s.Refuses (.choose "noon" 0) :=
    .action rfl rfl (List.mem_cons_of_mem _ List.mem_cons_self) (fun action h => by cases h)
  have hrun : s.Refuses (.choose "noon" 1) := .target rfl rfl rfl (by decide +kernel)
  have hrange : s.Refuses (.choose "noon" 3) := .outOfRange rfl (by decide +kernel)
  have htext : ∀ tree, Json.parse "\x7b" ≠ .ok tree := by
    intro tree htree
    have hnone : (Json.parse "\x7b").toOption.isNone = true := by decide +kernel
    rw [htree] at hnone
    cases hnone
  have hbroken : Script.Broken (Keyed.ascending rivals) := by
    rw [← Script.readSources_eq_error_iff]
    have hnone : (Script.readSources rivals).toOption.isNone = true := by decide +kernel
    cases hread : Script.readSources rivals with
    | error fault => exact ⟨fault, rfl⟩
    | ok scenes =>
        rw [hread] at hnone
        cases hnone
  obtain ⟨fault, hfault⟩ := hrefused _ hpay
  refine ⟨hreach, rfl, ⟨fault, hfault⟩, hgame _ _ ?_⟩
  exact .refused hpay (.refused hrun (.refused hrange (.refused (.text htext)
    (.refused (.scripts hbroken) (.heard (.nil _))))))

end BranchingStory.Session
