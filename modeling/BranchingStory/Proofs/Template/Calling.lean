import BranchingStory.Proofs.GameState.Cells
import BranchingStory.Proofs.Keyed
import BranchingStory.Proofs.Template.Evaluation
import Mathlib.Data.List.Forall2

/-!
Calls of helpers by their names. A registry is asked for a helper by its name, but an expression
asks by the symbol of the name, in which all characters are alike that are no letters or digits of
ASCII.
Several helpers may share a symbol, and then the last of them in the order of names answers to all
their names. Where no other helper has its symbol, a call in an expression gives what the registry
gives for that helper.
-/

namespace BranchingStory

namespace Template

namespace Registry

/-- Of the helpers that have the symbol of `name`, the last in the order of names is `called`. -/
structure Answers (r : Registry) (name called : String) : Prop where
  registered : r.contains called = true
  symbol_eq : symbol called = symbol name
  last : ∀ other, r.contains other = true → symbol other = symbol name → other ≤ called

theorem sorted_extend {r : Registry} (h : Keyed.Sorted r) (other : Registry) :
    Keyed.Sorted (r.extend other) := by
  unfold extend
  induction other generalizing r with
  | nil => exact h
  | cons first rest ih => exact ih (h.insert _ _)

theorem sorted_standard_extend (host : Registry) : Keyed.Sorted (Standard.registry.extend host) :=
  sorted_extend (sorted_extend Keyed.sorted_nil _) host

theorem mem_names {r : Registry} {name : String} (h : r.contains name = true) :
    name ∈ r.names := by
  obtain ⟨helper, hhelper⟩ := Option.isSome_iff_exists.mp h
  exact List.mem_map_of_mem (Keyed.mem_of_get?_eq_some hhelper)

/-- A helper that is alone with its symbol answers to its name. -/
theorem Answers.eq_of_unshared {r : Registry} {name called : String} (h : r.Answers name called)
    (hunshared : ∀ other, r.contains other = true → symbol other = symbol name → other = name) :
    called = name :=
  hunshared called h.registered h.symbol_eq

/-- What an expression calls under the name of a helper is the helper that answers to it. -/
theorem exists_answers {r : Registry} (hr : Keyed.Sorted r) {name : String}
    (hname : r.contains name = true) :
    ∃ called helper, r.resolve? name = some (called, helper) ∧ r.Answers name called ∧
      Keyed.get? called r = some helper := by
  obtain ⟨own, hown⟩ := hr.contains_iff.mp hname
  obtain ⟨⟨called, helper⟩, hfound⟩ : ∃ entry, r.resolve? name = some entry := by
    rw [← Option.isSome_iff_exists, resolve?, List.find?_isSome]
    exact ⟨(name, own), List.mem_reverse.mpr hown, beq_self_eq_true _⟩
  obtain ⟨hsymbol, above, below, hsplit, habove⟩ := List.find?_eq_some_iff_append.mp hfound
  have hmem : (called, helper) ∈ r := List.mem_reverse.mp (List.mem_of_find?_eq_some hfound)
  have hentries : r = below.reverse ++ (called, helper) :: above.reverse := by
    rw [← List.reverse_reverse r, hsplit]
    simp
  refine ⟨called, helper, hfound, ⟨hr.contains_iff.mpr ⟨_, hmem⟩, eq_of_beq hsymbol, ?_⟩,
    hr.get?_eq_some hmem⟩
  intro other hother hshared
  obtain ⟨helper', hmem'⟩ := hr.contains_iff.mp hother
  have hplace := hmem'
  rw [hentries] at hr hplace
  -- The search starts at the end, so what it passed has another symbol and what it left is below.
  rcases List.mem_append.mp hplace with hbelow | hrest
  · exact ((List.pairwise_append.mp hr).2.2 _ hbelow _ List.mem_cons_self).le
  · rcases List.mem_cons.mp hrest with heq | hpassed
    · cases heq
      exact le_rfl
    · have hdiffers := habove _ (List.mem_reverse.mp hpassed)
      simp [hshared] at hdiffers

end Registry

open Expression

/-! ### Calls with variables for arguments -/

def callText (helper : String) (names : List String) : String :=
  helper ++ String.join (names.map (" " ++ ·))

/-- The text calls a helper: the name is a bare word and no literal, what follows are names of
variables, and without any of them the text is no expression in braces. -/
structure Calls (helper : String) (names : List String) : Prop where
  bare : Bare helper
  named : Named helper
  identifiers : ∀ name ∈ names, isIdentifier name = true
  unbraced : names = [] → withoutBraces helper = helper

section call

variable {r : Registry} {context : Context} {helper : String} {names : List String}

theorem toList_join_names_cons (name : String) (names : List String) :
    (String.join ((name :: names).map (" " ++ ·))).toList =
      ' ' :: (name.toList ++ (String.join (names.map (" " ++ ·))).toList) := by
  simp

theorem isBoundary_join_names {c : Char} {rest : List Char}
    (h : (String.join (names.map (" " ++ ·))).toList = c :: rest) : isBoundary c = true := by
  cases names with
  | nil => simp at h
  | cons name names =>
      rw [toList_join_names_cons] at h
      cases h
      rfl

theorem spells_names (h : ∀ name ∈ names, isIdentifier name = true) :
    Spells (tokensOf (names.map Item.word)) (String.join (names.map (" " ++ ·))).toList := by
  induction names with
  | nil => exact .nil
  | cons name names ih =>
      obtain ⟨hname, hrest⟩ := List.forall_mem_cons.mp h
      rw [toList_join_names_cons]
      exact .blank rfl (.word_cons (bare_of_isIdentifier hname)
        (fun _ _ => isBoundary_join_names) (ih hrest))

theorem readAll_names {isHelper : String → Bool}
    (h : ∀ name ∈ names, isIdentifier name = true) :
    readAll isHelper (names.map Item.word) = .ok (names.map Expression.path) := by
  induction names with
  | nil => rfl
  | cons name names ih =>
      obtain ⟨hname, hrest⟩ := List.forall_mem_cons.mp h
      rw [List.map_cons, readAll, Item.read, (named_of_isIdentifier hname).ofWord, ih hrest]
      rfl

theorem Calls.parse {isHelper : String → Bool} (h : Calls helper names)
    (hhelper : isHelper helper = true) :
    Expression.parse isHelper (callText helper names) =
      .ok (.call helper (names.map Expression.path)) := by
  have hspells : Spells (tokensOf (.word helper :: names.map Item.word))
      (callText helper names).toList := by
    rw [callText, String.toList_append]
    exact .word_cons h.bare (fun _ _ => isBoundary_join_names) (spells_names h.identifiers)
  rw [Tree.parse_of_spells hspells, Item.read, readAll, readAll_names h.identifiers, Item.read,
    h.named.ofWord]
  simp [Except.bind, ofItems, hhelper]

theorem exists_getLast?_join_names (h : ∀ name ∈ names, isIdentifier name = true)
    (hnames : names ≠ []) : ∃ name ∈ names, ∃ c ∈ name.toList,
      (String.join (names.map (" " ++ ·))).toList.getLast? = some c := by
  induction names with
  | nil => exact absurd rfl hnames
  | cons name names ih =>
      obtain ⟨hname, hrest⟩ := List.forall_mem_cons.mp h
      rw [toList_join_names_cons]
      by_cases hempty : names = []
      · subst hempty
        obtain ⟨c, cs, hcs⟩ := (bare_of_isIdentifier hname).exists_cons
        refine ⟨name, List.mem_cons_self, name.toList.getLast (by simp [hcs]),
          List.getLast_mem _, ?_⟩
        simp [List.getLast?_eq_some_getLast, hcs]
      · obtain ⟨last, hlast, c, hc, heq⟩ := ih hrest hempty
        refine ⟨last, List.mem_cons_of_mem _ hlast, c, hc, ?_⟩
        rw [List.getLast?_cons, List.getLast?_append, heq]
        rfl

theorem Calls.withoutBraces_callText (h : Calls helper names) :
    withoutBraces (callText helper names) = callText helper names := by
  by_cases hnames : names = []
  · subst hnames
    have htext : callText helper [] = helper := by simp [callText]
    rw [htext, h.unbraced rfl]
  · obtain ⟨name, hname, last, hmem, hlast⟩ := exists_getLast?_join_names h.identifiers hnames
    have hrange := toNat_of_isIdentifier (h.identifiers name hname) last hmem
    obtain ⟨first, rest, hhelper, hfirst, -⟩ := h.bare.exists_cons
    apply withoutBraces_eq_self
    · rw [callText, String.toList_append, hhelper]
      rintro c ⟨⟩
      exact isBlank_of_isBoundary_eq_false hfirst
    · rw [callText, String.toList_append, List.getLast?_append, hlast]
      rintro c ⟨⟩
      constructor
      · exact isBlank_of_isBoundary_eq_false (isBoundary_eq_false hrange)
      · rintro rfl
        revert hrange
        decide

theorem depthOfAll_paths (names : List String) :
    depthOfAll (names.map Expression.path) = 0 := by
  induction names with
  | nil => rfl
  | cons name names ih =>
      rw [List.map_cons, depthOfAll, ih]
      rfl

theorem values_paths {values : List Value}
    (h : List.Forall₂ (fun name v => context.state.get? name = some v) names values) :
    Template.values r context (names.map Expression.path) = .ok (values.map some) := by
  induction h with
  | nil => rfl
  | cons hname _ ih =>
      rw [List.map_cons, Template.values, value, GameState.lookup?_of_get? hname]
      simp only [ih, List.map_cons]

/-- Evaluating a call is calling what the name is resolved to. -/
theorem Calls.evaluate_eq (h : Calls helper names) (hhelper : r.contains helper = true)
    {called : String} {body : Helper} (hresolve : r.resolve? helper = some (called, body))
    {values : List Value}
    (hvalues : List.Forall₂ (fun name v => context.state.get? name = some v) names values) :
    evaluate r context (callText helper names) =
      (body context (values.map some)).mapError
        (fun cause => .template (callText helper names) (.helper called cause)) := by
  have hdepth : ¬ maxDepth < (Expression.call helper (names.map Expression.path)).depth := by
    rw [depth, depthOfAll_paths]
    decide
  rw [evaluate, h.withoutBraces_callText, valueOfText, h.parse hhelper]
  simp only [hdepth, ↓reduceIte, value, values_paths hvalues, hresolve]
  cases body context (values.map some) <;> rfl

end call

/-- A call in an expression is a call of the helper that answers to the name: of those with its
symbol the last in the order of names, hence the helper itself if no other has its symbol. The value
is what the registry gives for that helper, and a fault is told with the name of that helper. -/
theorem evaluate_callText (host : Registry) (context : Context) {helper : String}
    {names : List String} {values : List Value} (hcalls : Calls helper names)
    (hhelper : (Standard.registry.extend host).contains helper = true)
    (hvalues : List.Forall₂ (fun name v => context.state.get? name = some v) names values) :
    ∃ called, (Standard.registry.extend host).Answers helper called ∧
      ((∀ other, (Standard.registry.extend host).contains other = true →
        Registry.symbol other = Registry.symbol helper → other = helper) → called = helper) ∧
      (∀ v, (Standard.registry.extend host).call called context (values.map some) = .ok v →
        evaluate (Standard.registry.extend host) context (callText helper names) = .ok v) ∧
      ∀ cause, (Standard.registry.extend host).call called context (values.map some) =
          .error cause →
        ∃ fault, evaluate (Standard.registry.extend host) context (callText helper names) =
            .error (.template (callText helper names) fault) ∧
          fault.message = called ++ ": " ++ cause.message := by
  have hsorted := Registry.sorted_standard_extend host
  -- Nothing but the order of names is needed of the registry from here on.
  generalize Standard.registry.extend host = r at hhelper hsorted ⊢
  obtain ⟨called, body, hresolve, hanswers, hget⟩ := Registry.exists_answers hsorted hhelper
  have hcall : r.call called context (values.map some) = body context (values.map some) := by
    rw [Registry.call, hget]
  refine ⟨called, hanswers, hanswers.eq_of_unshared, fun v hv => ?_, fun cause hcause => ?_⟩
  · rw [hcalls.evaluate_eq hhelper hresolve hvalues, ← hcall, hv]
    rfl
  · refine ⟨.helper called cause, ?_, rfl⟩
    rw [hcalls.evaluate_eq hhelper hresolve hvalues, ← hcall, hcause]
    rfl

/-- Helpers whose names have one symbol, each of which tells its own name. -/
def alike : Registry :=
  [("a-b", fun _ _ => .ok (some (.text "a-b"))), ("a_b", fun _ _ => .ok (some (.text "a_b")))]

theorem evaluate_callText_alike :
    let context : Context := ⟨{ vars := [("x", .text "iron")] }, []⟩
    evaluate (Standard.registry.extend alike) context "a-b x" = .ok (some (.text "a_b")) ∧
      ∃ fault, evaluate (Standard.registry.extend alike) context "divide x" =
          .error (.template "divide x" fault) ∧
        fault.message = "divide: Helper \"divide\" expects numeric arguments, got string." := by
  intro context
  have hvalues : List.Forall₂ (fun name v => context.state.get? name = some v) ["x"]
      [.text "iron"] := .cons rfl .nil
  have hnames : ∀ name ∈ ["x"], isIdentifier name = true := by decide
  constructor
  · obtain ⟨called, hanswers, -, hvalue, -⟩ := evaluate_callText alike context
      (⟨by decide, by decide +kernel, hnames, by simp⟩ : Calls "a-b" ["x"])
      (by decide +kernel) hvalues
    have hshared : ∀ name ∈ (Standard.registry.extend alike).names,
        Registry.symbol name = Registry.symbol "a-b" → name = "a-b" ∨ name = "a_b" := by
      decide +kernel
    rcases hshared called (Registry.mem_names hanswers.registered) hanswers.symbol_eq with rfl | rfl
    · exact absurd (hanswers.last "a_b" (by decide +kernel) (by decide)) (by decide)
    · exact hvalue _ rfl
  · obtain ⟨called, -, hunshared, -, hfault⟩ := evaluate_callText alike context
      (⟨by decide, by decide +kernel, hnames, by simp⟩ : Calls "divide" ["x"])
      (by decide +kernel) hvalues
    have hown : ∀ name ∈ (Standard.registry.extend alike).names,
        Registry.symbol name = Registry.symbol "divide" → name = "divide" := by
      decide +kernel
    obtain rfl := hunshared fun other hother => hown other (Registry.mem_names hother)
    exact hfault (.notNumeric "divide" (some "string")) rfl

/-- A call in an expression is not always a call of the helper that it names. -/
theorem not_called_by_name : ¬ ∀ (host : Registry) (context : Context) (helper : String)
    (names : List String) (values : List Value), Calls helper names →
    (Standard.registry.extend host).contains helper = true →
    (∀ name ∈ names, (Standard.registry.extend host).contains name = false) →
    List.Forall₂ (fun name v => context.state.get? name = some v) names values →
    ∀ v, (Standard.registry.extend host).call helper context (values.map some) = .ok v →
      evaluate (Standard.registry.extend host) context (callText helper names) = .ok v := by
  intro h
  have hcalls : Calls "a-b" ["x"] := ⟨by decide, by decide +kernel, by decide, by simp⟩
  have hhelper : (Standard.registry.extend alike).contains "a-b" = true := by decide +kernel
  have hvalues : List.Forall₂ (fun name v => ({ vars := [("x", .text "iron")] } : GameState).get?
      name = some v) ["x"] [.text "iron"] := .cons rfl .nil
  have hvalue := h alike ⟨_, []⟩ "a-b" ["x"] _ hcalls hhelper (by decide +kernel) hvalues
    (some (.text "a-b")) rfl
  rw [hcalls.evaluate_eq hhelper rfl hvalues] at hvalue
  have htext : "a_b" = "a-b" := Value.text.inj (Option.some.inj (Except.ok.inj hvalue))
  exact absurd htext (by decide)

end Template

end BranchingStory
