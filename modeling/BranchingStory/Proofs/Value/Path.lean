import BranchingStory.Proofs.Keyed
import BranchingStory.Value.Path

/-!
Paths into values. The names of a path have no points in them, so a path of several names is never
itself a name. Reading and writing at a path are a lens: what is written is read, what is written
twice is written once, and elsewhere nothing is noticed. Elsewhere has one exception, since writing
makes maps on its way and reading also goes through lists: a list on the way to the place of writing
is lost.
-/

namespace BranchingStory.Path

/-! ### The names of a path -/

theorem mem_of_mem_trimChars {c : Char} {cs : List Char} (h : c ∈ Text.trimChars cs) : c ∈ cs := by
  have hinner := (List.dropWhile_sublist _).mem (List.mem_reverse.mp h)
  exact (List.dropWhile_sublist _).mem (List.mem_reverse.mp hinner)

theorem separator_notMem_splitFrom {piece cs : List Char} (hpiece : separator ∉ piece) :
    ∀ p ∈ splitFrom piece cs, separator ∉ p := by
  induction cs generalizing piece with
  | nil =>
      intro p hp
      rw [splitFrom, List.mem_singleton] at hp
      simpa [hp] using hpiece
  | cons c rest ih =>
      intro p hp
      rw [splitFrom] at hp
      split at hp
      · rcases List.mem_cons.mp hp with rfl | hp
        · simpa using hpiece
        · exact ih List.not_mem_nil p hp
      · rename_i hc
        refine ih ?_ p hp
        rw [List.mem_cons, not_or]
        exact ⟨Ne.symm hc, hpiece⟩

theorem separator_notMem_of_mem_names {path name : String} (h : name ∈ names path) :
    separator ∉ name.toList := by
  obtain ⟨trimmed, htrimmed, rfl⟩ := List.mem_map.mp h
  obtain ⟨piece, hpiece, rfl⟩ := List.mem_map.mp (List.mem_of_mem_filter htrimmed)
  intro hmem
  rw [String.toList_ofList] at hmem
  exact separator_notMem_splitFrom List.not_mem_nil piece hpiece (mem_of_mem_trimChars hmem)

theorem splitFrom_of_notMem {piece cs : List Char} (h : separator ∉ cs) :
    splitFrom piece cs = [piece.reverse ++ cs] := by
  induction cs generalizing piece with
  | nil => simp [splitFrom]
  | cons c rest ih =>
      rw [List.mem_cons, not_or] at h
      rw [splitFrom, if_neg (Ne.symm h.1), ih h.2]
      simp

theorem separator_mem_of_names {path : String} (h : 2 ≤ (names path).length) :
    separator ∈ path.toList := by
  by_contra hmem
  have hlength : (names path).length ≤ 1 := by
    unfold names
    rw [splitFrom_of_notMem hmem, List.length_map]
    exact List.length_filter_le _ _
  omega

theorem ne_of_mem_names {path name : String} (hname : name ∈ names path)
    (h : 2 ≤ (names path).length) : path ≠ name := by
  rintro rfl
  exact separator_notMem_of_mem_names hname (separator_mem_of_names h)

/-! ### Reading what was written -/

theorem read?_cons (name : String) (rest : List String) (v : Value) :
    read? (name :: rest) v = (child? name v).bind (read? rest) := by
  rw [read?]
  cases child? name v <;> rfl

theorem assign_cons (new : Value) (name : String) (rest : List String) (v : Value) :
    assign new (name :: rest) v =
      .map (Keyed.insert name
        (assign new rest ((Keyed.get? name (entries v)).getD (.map []))) (entries v)) := rfl

/-- What was written at a path is read there. -/
theorem read?_assign (new : Value) (path : List String) (v : Value) :
    read? path (assign new path v) = some new := by
  induction path generalizing v with
  | nil => rfl
  | cons name rest ih =>
      rw [assign_cons, read?_cons, child?, Keyed.get?_insert_self, Option.bind_some, ih]

/-- Of two values that are written at one path the second remains. -/
theorem assign_assign (first second : Value) (path : List String) (v : Value) :
    assign second path (assign first path v) = assign second path v := by
  induction path generalizing v with
  | nil => rfl
  | cons name rest ih =>
      rw [assign_cons first, assign_cons second, entries, Keyed.get?_insert_self, Option.getD_some,
        Keyed.insert_insert, ih, ← assign_cons second]

/-! ### Reading elsewhere -/

/-- Neither of the paths leads to a place inside the other. -/
def Apart (p q : List String) : Prop := ¬ p <+: q ∧ ¬ q <+: p

theorem Apart.of_cons {name : String} {p q : List String} (h : Apart (name :: p) (name :: q)) :
    Apart p q :=
  ⟨fun hp => h.1 (List.cons_prefix_cons.mpr ⟨rfl, hp⟩),
    fun hq => h.2 (List.cons_prefix_cons.mpr ⟨rfl, hq⟩)⟩

/-- Nothing on the way to the end of the path is a list. -/
def ListFree (path : List String) (v : Value) : Prop :=
  ∀ before, before <+: path → before ≠ path → ∀ items, read? before v ≠ some (.list items)

theorem ListFree.ne_list {name : String} {rest : List String} {v : Value}
    (h : ListFree (name :: rest) v) (items : List Value) : v ≠ .list items := by
  rintro rfl
  exact h [] List.nil_prefix (List.cons_ne_nil name rest).symm items rfl

theorem ListFree.child {name : String} {rest : List String} {v w : Value}
    (h : ListFree (name :: rest) v) (hchild : child? name v = some w) : ListFree rest w := by
  intro before hbefore hne items hread
  refine h (name :: before) (List.cons_prefix_cons.mpr ⟨rfl, hbefore⟩) (by simpa using hne) items ?_
  rw [read?_cons, hchild, Option.bind_some, hread]

/-- What stands under a name in a value that is no list is what stands among its entries. -/
theorem child?_eq_get? {v : Value} (h : ∀ items, v ≠ .list items) (name : String) :
    child? name v = Keyed.get? name (entries v) := by
  cases v with
  | list items => exact absurd rfl (h items)
  | _ => rfl

theorem read?_empty {path : List String} (h : path ≠ []) : read? path (.map []) = none := by
  cases path with
  | nil => exact absurd rfl h
  | cons name rest => rfl

theorem listFree_empty (path : List String) : ListFree path (.map []) := by
  intro before hbefore hne items hread
  cases before with
  | nil => cases hread
  | cons name rest => rw [read?_empty (List.cons_ne_nil name rest)] at hread; cases hread

/-- Writing at a path is not noticed at paths apart from it, if no list is on the way. -/
theorem read?_assign_of_apart (new : Value) {p q : List String} {v : Value} (hapart : Apart p q)
    (hfree : ListFree p v) : read? q (assign new p v) = read? q v := by
  induction p generalizing q v with
  | nil => exact absurd List.nil_prefix hapart.1
  | cons name rest ih =>
      cases q with
      | nil => exact absurd List.nil_prefix hapart.2
      | cons other others =>
          have hchild := child?_eq_get? hfree.ne_list
          rw [assign_cons, read?_cons, read?_cons, child?, hchild]
          by_cases hname : other = name
          · subst hname
            have hapart' := hapart.of_cons
            rw [Keyed.get?_insert_self, Option.bind_some]
            cases hget : Keyed.get? other (entries v) with
            | some w => exact ih hapart' (hfree.child ((hchild other).trans hget))
            | none =>
                -- The map that is made here has nothing in it but what is written.
                have hne : others ≠ [] := by
                  rintro rfl
                  exact hapart'.2 List.nil_prefix
                exact (ih hapart' (listFree_empty rest)).trans (read?_empty hne)
          · rw [Keyed.get?_insert_of_ne hname]

end BranchingStory.Path
