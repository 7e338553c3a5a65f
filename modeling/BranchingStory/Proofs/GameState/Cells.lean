import BranchingStory.GameState.Basic
import BranchingStory.Proofs.Value.Path
import Mathlib.Data.List.Infix

/-!
Cells of variables. A key of several names addresses a place inside the variable of its first name
when a number is added there, and any other key addresses the variable of its own name. Setting a
variable always takes the key as a name, and looking one up does so first.

The three go to the same place but for two exceptions. A variable that has a whole path for its name
hides the place at that path. And looking up goes through a list at the root of a path, and leaves
out white space and points around a single name, where adding begins anew.
-/

namespace BranchingStory.GameState

/-! ### Variables -/

@[simp] theorem get?_setVariable_self (s : GameState) (key : String) (v : Value) :
    (s.setVariable key v).get? key = some v :=
  Keyed.get?_insert_self key v s.vars

theorem get?_setVariable_of_ne (s : GameState) {key other : String} (h : other ≠ key) (v : Value) :
    (s.setVariable key v).get? other = s.get? other :=
  Keyed.get?_insert_of_ne h v s.vars

theorem lookup?_of_get? {s : GameState} {key : String} {v : Value} (h : s.get? key = some v) :
    s.lookup? key = some v := by
  rw [lookup?, h]

theorem lookup?_of_names {s : GameState} {key root name : String} {rest : List String}
    (hnames : Path.names key = root :: name :: rest) (hnone : s.get? key = none) :
    s.lookup? key = (s.get? root).bind (Path.read? (name :: rest)) := by
  simp only [lookup?, hnone, hnames]
  cases s.get? root <;> rfl

/-! ### Adding -/

theorem cell_of_names {key root name : String} {rest : List String}
    (hnames : Path.names key = root :: name :: rest) : cell key = (root, name :: rest) := by
  have hpoint : Path.separator ∈ key.toList := Path.separator_mem_of_names (by simp [hnames])
  rw [cell, if_pos (by simpa using hpoint), hnames]

theorem cell_of_length {key : String} (h : (Path.names key).length < 2) : cell key = (key, []) := by
  unfold cell
  split
  · split
    · rename_i root name rest hnames
      rw [hnames, List.length_cons, List.length_cons] at h
      omega
    · rfl
  · rfl

theorem addToVariable_of_names {key root name : String} {rest : List String}
    (hnames : Path.names key = root :: name :: rest) (s : GameState) (delta : Float) :
    s.addToVariable key delta =
      (Path.numberAt (name :: rest) (s.rootMap root) + delta,
        s.setVariable root (Path.assign
          (.number (Path.numberAt (name :: rest) (s.rootMap root) + delta)) (name :: rest)
          (s.rootMap root))) := by
  rw [addToVariable, cell_of_names hnames]

theorem addToVariable_of_length {key : String} (h : (Path.names key).length < 2) (s : GameState)
    (delta : Float) :
    s.addToVariable key delta =
      (((s.get? key).bind Value.number?).getD 0 + delta,
        s.setVariable key (.number (((s.get? key).bind Value.number?).getD 0 + delta))) := by
  rw [addToVariable, cell_of_length h]

theorem names_cases (key : String) :
    (∃ root name rest, Path.names key = root :: name :: rest) ∨ (Path.names key).length < 2 := by
  match Path.names key with
  | [] => exact .inr (by simp)
  | [name] => exact .inr (by simp)
  | root :: name :: rest => exact .inl ⟨root, name, rest, rfl⟩

/-- What was written into the root of a path is a map already. -/
theorem rootMap_setVariable_assign (s : GameState) (root name : String) (rest : List String)
    (new v : Value) :
    (s.setVariable root (Path.assign new (name :: rest) v)).rootMap root =
      Path.assign new (name :: rest) v := by
  rw [rootMap, get?_setVariable_self]
  rfl

/-- Adding to a cell again goes on from the sum. -/
theorem addToVariable_again (s : GameState) (key : String) (first second : Float) :
    ((s.addToVariable key first).2.addToVariable key second).1 =
      (s.addToVariable key first).1 + second := by
  obtain ⟨root, name, rest, hnames⟩ | hlength := names_cases key
  · simp only [addToVariable_of_names hnames, rootMap_setVariable_assign]
    rw [Path.numberAt, Path.read?_assign]
    rfl
  · simp only [addToVariable_of_length hlength, get?_setVariable_self]
    rfl

/-- Adding writes into the variable of the first name of several, or of the key itself. -/
theorem get?_addToVariable_of_ne (s : GameState) {key other : String}
    (h : other ≠ (cell key).1) (delta : Float) :
    (s.addToVariable key delta).2.get? other = s.get? other := by
  obtain ⟨root, name, rest, hnames⟩ | hlength := names_cases key
  · rw [cell_of_names hnames] at h
    rw [addToVariable_of_names hnames]
    exact get?_setVariable_of_ne s h _
  · rw [cell_of_length hlength] at h
    rw [addToVariable_of_length hlength]
    exact get?_setVariable_of_ne s h _

/-- Adding changes variables alone. -/
theorem addToVariable_eq_with (s : GameState) (key : String) (delta : Float) :
    (s.addToVariable key delta).2 = { s with vars := (s.addToVariable key delta).2.vars } := by
  obtain ⟨root, name, rest, hnames⟩ | hlength := names_cases key
  · rw [addToVariable_of_names hnames]
    rfl
  · rw [addToVariable_of_length hlength]
    rfl

/-- Writing at a path is a lens, and so are sums in cells of variables: a second sum goes on from
the first, and nothing else in the state is touched but the variable that the key names first. -/
theorem assign_lens_and_addToVariable_frame :
    (∀ (t v w : Value) (p : List String),
      Path.read? p (Path.assign v p t) = some v ∧
      Path.assign w p (Path.assign v p t) = Path.assign w p t ∧
      ∀ q, ¬ p <+: q → ¬ q <+: p →
        (∀ before, before <+: p → before ≠ p →
          ∀ items, Path.read? before t ≠ some (.list items)) →
        Path.read? q (Path.assign v p t) = Path.read? q t) ∧
    ∀ (s : GameState) (key : String) (d₁ d₂ : Float),
      ((s.addToVariable key d₁).2.addToVariable key d₂).1 = (s.addToVariable key d₁).1 + d₂ ∧
      (∀ root name rest, Path.names key = root :: name :: rest →
        ∀ other, other ≠ root → (s.addToVariable key d₁).2.get? other = s.get? other) ∧
      ((Path.names key).length < 2 →
        ∀ other, other ≠ key → (s.addToVariable key d₁).2.get? other = s.get? other) ∧
      (s.addToVariable key d₁).2.flags = s.flags ∧
      (s.addToVariable key d₁).2.history = s.history ∧
      (s.addToVariable key d₁).2.scene = s.scene ∧
      (s.addToVariable key d₁).2.index = s.index := by
  refine ⟨fun t v w p => ⟨Path.read?_assign v p t, Path.assign_assign v w p t,
    fun q hpq hqp hfree => Path.read?_assign_of_apart v ⟨hpq, hqp⟩ hfree⟩, ?_⟩
  intro s key d₁ d₂
  have hwith := addToVariable_eq_with s key d₁
  refine ⟨addToVariable_again s key d₁ d₂, ?_, ?_, ?_, ?_, ?_, ?_⟩
  · intro root name rest hnames other hother
    exact get?_addToVariable_of_ne s (by rwa [cell_of_names hnames]) d₁
  · intro hlength other hother
    exact get?_addToVariable_of_ne s (by rwa [cell_of_length hlength]) d₁
  · rw [hwith]
  · rw [hwith]
  · rw [hwith]
  · rw [hwith]

theorem assign_lens_and_addToVariable_frame_player :
    let bag : Value := .list [.text "rope"]
    let player : Value := .map [("bag", bag), ("stats", .map [("hp", .number 7)])]
    let s : GameState := { vars := [("gold", .number 3), ("player", player)] }
    Path.read? ["bag", "0"] (Path.assign (.number 1) ["stats", "hp"] player) =
        some (.text "rope") ∧
      Path.names "player.stats.hp" = ["player", "stats", "hp"] ∧
      (s.addToVariable "player.stats.hp" 1).2.get? "gold" = some (.number 3) ∧
      (Path.names "gold").length < 2 ∧
      (s.addToVariable "gold" 1).2.get? "player" = some player := by
  intro bag player s
  obtain ⟨hlens, hframe⟩ := assign_lens_and_addToVariable_frame
  have hnames : Path.names "player.stats.hp" = ["player", "stats", "hp"] := by decide +kernel
  have hlength : (Path.names "gold").length < 2 := by decide +kernel
  refine ⟨?_, hnames, ?_, hlength, ?_⟩
  · refine (hlens player (.number 1) (.number 1) ["stats", "hp"]).2.2 ["bag", "0"] (by decide)
      (by decide) ?_
    intro before hbefore hne items
    have hmem : before ∈ [[], ["stats"], ["stats", "hp"]] :=
      (List.mem_inits before ["stats", "hp"]).mpr hbefore
    simp only [List.mem_cons, List.not_mem_nil, or_false] at hmem
    rcases hmem with rfl | rfl | rfl
    · simp [Path.read?, player]
    · simp [Path.read?, Path.child?, Keyed.get?, player]
    · exact absurd rfl hne
  · exact (hframe s "player.stats.hp" 1 1).2.1 "player" "stats" ["hp"] hnames "gold" (by decide)
  · exact (hframe s "gold" 1 1).2.2.1 hlength "player" (by decide)

/-! ### Setting, adding and looking up -/

def lookupNumber (s : GameState) (key : String) : Float :=
  ((s.lookup? key).bind Value.number?).getD 0

structure OneCell (s : GameState) (key : String) (delta : Float) (v : Value) : Prop where
  set : (s.setVariable key v).lookup? key = some v
  sum : (s.addToVariable key delta).1 = s.lookupNumber key + delta
  added : (s.addToVariable key delta).2.lookup? key = some (.number (s.addToVariable key delta).1)

/-- A variable has the whole of a key of several names for its name. -/
def Hidden (s : GameState) (key : String) : Prop :=
  2 ≤ (Path.names key).length ∧ (s.get? key).isSome

instance (s : GameState) (key : String) : Decidable (s.Hidden key) :=
  inferInstanceAs (Decidable (_ ∧ _))

/-- Looking the key up goes where adding begins anew: through a list at the root of a path, or to a
variable whose name is not quite the key. -/
inductive Strays (s : GameState) (key : String) : Prop
  | list {root name : String} {rest : List String} {items : List Value}
      (hnames : Path.names key = root :: name :: rest) (hroot : s.get? root = some (.list items)) :
      Strays s key
  | trimmed {name : String} (hnames : Path.names key = [name]) (hname : name ≠ key)
      (hnone : s.get? key = none) : Strays s key

theorem get?_of_not_hidden {s : GameState} {key root name : String} {rest : List String}
    (hnames : Path.names key = root :: name :: rest) (h : ¬ s.Hidden key) : s.get? key = none := by
  by_contra hsome
  exact h ⟨by simp [hnames], Option.isSome_iff_ne_none.mpr hsome⟩

theorem ne_root {key root name : String} {rest : List String}
    (hnames : Path.names key = root :: name :: rest) : key ≠ root :=
  Path.ne_of_mem_names (by simp [hnames]) (by simp [hnames])

theorem lookup?_setVariable (s : GameState) (key : String) (v : Value) :
    (s.setVariable key v).lookup? key = some v :=
  lookup?_of_get? (get?_setVariable_self s key v)

/-- The sum is found where it was made, unless it is hidden. -/
theorem lookup?_addToVariable {s : GameState} {key : String} (h : ¬ s.Hidden key) (delta : Float) :
    (s.addToVariable key delta).2.lookup? key = some (.number (s.addToVariable key delta).1) := by
  obtain ⟨root, name, rest, hnames⟩ | hlength := names_cases key
  · have hnone := get?_of_not_hidden hnames h
    rw [addToVariable_of_names hnames, lookup?_of_names hnames, get?_setVariable_self,
      Option.bind_some, Path.read?_assign]
    rw [get?_setVariable_of_ne s (ne_root hnames), hnone]
  · rw [addToVariable_of_length hlength]
    exact lookup?_setVariable s key _

/-- A variable that hides a cell is still what is looked up. -/
theorem lookup?_addToVariable_of_hidden {s : GameState} {key : String} (h : s.Hidden key)
    (delta : Float) : (s.addToVariable key delta).2.lookup? key = s.lookup? key := by
  obtain ⟨hlength, hsome⟩ := h
  obtain ⟨v, hv⟩ := Option.isSome_iff_exists.mp hsome
  obtain ⟨root, name, rest, hnames⟩ | hshort := names_cases key
  · rw [lookup?_of_get? hv, addToVariable_of_names hnames]
    exact lookup?_of_get? ((get?_setVariable_of_ne s (ne_root hnames) _).trans hv)
  · omega

/-- Adding to a path finds the number that looking it up finds, unless the root is a list. -/
theorem read?_rootMap {s : GameState} {root : String}
    (h : ∀ items, s.get? root ≠ some (.list items)) (name : String) (rest : List String) :
    Path.read? (name :: rest) (s.rootMap root) =
      (s.get? root).bind (Path.read? (name :: rest)) := by
  unfold rootMap
  cases hroot : s.get? root with
  | none => rfl
  | some v =>
      cases v with
      | list items => exact absurd hroot (h items)
      | _ => rfl

theorem addToVariable_fst_of_names {s : GameState} {key root name : String} {rest : List String}
    (hnames : Path.names key = root :: name :: rest) (hstrays : ¬ s.Strays key) (delta : Float) :
    (s.addToVariable key delta).1 =
      (((s.get? root).bind (Path.read? (name :: rest))).bind Value.number?).getD 0 + delta := by
  have hlist : ∀ items, s.get? root ≠ some (.list items) :=
    fun items hroot => hstrays (.list hnames hroot)
  rw [addToVariable_of_names hnames, Path.numberAt, read?_rootMap hlist]

/-- The sum goes on from the number that is looked up, if looking up does not stray. -/
theorem addToVariable_fst {s : GameState} {key : String} (hhidden : ¬ s.Hidden key)
    (hstrays : ¬ s.Strays key) (delta : Float) :
    (s.addToVariable key delta).1 = s.lookupNumber key + delta := by
  obtain ⟨root, name, rest, hnames⟩ | hlength := names_cases key
  · rw [addToVariable_fst_of_names hnames hstrays, lookupNumber,
      lookup?_of_names hnames (get?_of_not_hidden hnames hhidden)]
  · have hlookup : s.lookup? key = s.get? key := by
      cases hget : s.get? key with
      | some v => exact lookup?_of_get? hget
      | none =>
          match hnames : Path.names key with
          | [] => simp only [lookup?, hget, hnames]
          | [name] =>
              have hname : name = key := by
                by_contra hne
                exact hstrays (.trimmed hnames hne hget)
              subst hname
              simp only [lookup?, hget, hnames]
          | root :: name :: rest =>
              rw [hnames, List.length_cons, List.length_cons] at hlength
              omega
    rw [addToVariable_of_length hlength, lookupNumber, hlookup]

/-- Where looking up strays, adding begins with zero. -/
theorem Strays.addToVariable_fst {s : GameState} {key : String} (h : s.Strays key)
    (delta : Float) : (s.addToVariable key delta).1 = 0 + delta := by
  cases h with
  | list hnames hroot =>
      rw [addToVariable_of_names hnames, rootMap, hroot]
      rfl
  | trimmed hnames hname hnone =>
      rw [addToVariable_of_length (by simp [hnames]), hnone]
      rfl

/-- What is set is looked up. What is added is looked up, too, and the sum goes on from what was
looked up before, unless a variable hides the place or looking up strays. A variable that hides the
place stays what is looked up, while the sum goes on from the number that it hides. Where looking up
strays the sum begins with zero. -/
theorem oneCell_unless_hidden_or_strays (s : GameState) (key : String) (delta : Float) (v : Value) :
    (s.setVariable key v).lookup? key = some v ∧
    (¬ s.Hidden key → ¬ s.Strays key → s.OneCell key delta v) ∧
    (¬ s.Hidden key → (s.addToVariable key delta).2.lookup? key =
      some (.number (s.addToVariable key delta).1)) ∧
    (s.Hidden key → (s.addToVariable key delta).2.lookup? key = s.lookup? key) ∧
    (s.Strays key → (s.addToVariable key delta).1 = 0 + delta) ∧
    ∀ root name rest, Path.names key = root :: name :: rest → ¬ s.Strays key →
      (s.addToVariable key delta).1 =
        (((s.get? root).bind (Path.read? (name :: rest))).bind Value.number?).getD 0 + delta := by
  have hset := lookup?_setVariable s key v
  refine ⟨hset, ?_, fun hhidden => lookup?_addToVariable hhidden delta,
    fun hhidden => lookup?_addToVariable_of_hidden hhidden delta,
    fun hstrays => hstrays.addToVariable_fst delta,
    fun root name rest hnames hstrays => addToVariable_fst_of_names hnames hstrays delta⟩
  intro hhidden hstrays
  exact ⟨hset, addToVariable_fst hhidden hstrays delta, lookup?_addToVariable hhidden delta⟩

/-- A level inside the player, one that is hidden, and a bag that is looked into. -/
theorem oneCell_unless_hidden_or_strays_level :
    let nested : GameState := { vars := [("player", .map [("level", .number 5)])] }
    let hidden : GameState := { vars := [("player.level", .number 5)] }
    let bag : GameState := { vars := [("bag", .list [.number 10])] }
    (¬ nested.Hidden "player.level" ∧ ¬ nested.Strays "player.level" ∧
      nested.OneCell "player.level" 3 (.number 1)) ∧
    (hidden.Hidden "player.level" ∧
      (hidden.addToVariable "player.level" 1).2.lookup? "player.level" =
        hidden.lookup? "player.level") ∧
    (bag.Strays "bag.0" ∧ (bag.addToVariable "bag.0" 1).1 = 0 + 1) := by
  intro nested hidden bag
  have hnames : Path.names "player.level" = ["player", "level"] := by decide +kernel
  have hplain : ¬ nested.Hidden "player.level" := by decide +kernel
  have hmap : ¬ nested.Strays "player.level" := by
    rintro (⟨hlist, hroot⟩ | ⟨htrimmed, -, -⟩)
    · obtain ⟨rfl, -⟩ := List.cons.inj (hnames.symm.trans hlist)
      simp [nested, get?, Keyed.get?] at hroot
    · simp [hnames] at htrimmed
  have hhidden : hidden.Hidden "player.level" := by decide +kernel
  have hbag : Path.names "bag.0" = ["bag", "0"] := by decide +kernel
  have hlist : bag.Strays "bag.0" := .list hbag rfl
  refine ⟨⟨hplain, hmap, ?_⟩, ⟨hhidden, ?_⟩, hlist, ?_⟩
  · exact (oneCell_unless_hidden_or_strays nested "player.level" 3 _).2.1 hplain hmap
  · exact (oneCell_unless_hidden_or_strays hidden "player.level" 1 (.number 1)).2.2.2.1 hhidden
  · exact (oneCell_unless_hidden_or_strays bag "bag.0" 1 (.number 1)).2.2.2.2.1 hlist

/-- Each exception is one: a hidden level, a number in a list, and a name with a blank before it. -/
theorem not_oneCell :
    ¬ OneCell { vars := [("player.level", .number 5)] } "player.level" 1 (.number 5) ∧
    ¬ OneCell { vars := [("bag", .list [.number 10])] } "bag.0" 1 (.number 5) ∧
    ¬ OneCell { vars := [("gold", .number 7)] } " gold" 1 (.number 5) := by
  refine ⟨fun h => ?_, fun h => ?_, fun h => ?_⟩
  · exact absurd h.sum (by decide +kernel)
  · exact absurd h.sum (by decide +kernel)
  · exact absurd h.sum (by decide +kernel)

end BranchingStory.GameState
