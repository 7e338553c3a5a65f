import BranchingStory.Json.Reader

/-!
Trees that are read from text hold no integer beyond 64 bits: where the digits do not fit, the
number is a double. So an index that is found again in a text fits 64 bits too.

What a reader can yield is followed through its steps, whatever it reads.
-/

namespace BranchingStory.Json

mutual

def Narrow : Json → Prop
  | .number (.int i) => i < (Decimal.twoTo 64 : Int)
  | .list items => NarrowItems items
  | .object fields => NarrowFields fields
  | _ => True

def NarrowItems : List Json → Prop
  | [] => True
  | item :: rest => item.Narrow ∧ NarrowItems rest

def NarrowFields : List (String × Json) → Prop
  | [] => True
  | (_, value) :: rest => value.Narrow ∧ NarrowFields rest

end

theorem narrowItems_iff {items : List Json} : NarrowItems items ↔ ∀ item ∈ items, item.Narrow := by
  induction items with
  | nil => simp [NarrowItems]
  | cons item rest ih => simp [NarrowItems, ih]

theorem narrowFields_iff {fields : List (String × Json)} :
    NarrowFields fields ↔ ∀ field ∈ fields, field.2.Narrow := by
  induction fields with
  | nil => simp [NarrowFields]
  | cons field rest ih => simp [NarrowFields, ih]

namespace Reader

/-! ### What a reader can yield -/

variable {α β : Type}

def Yields (P : α → Prop) (r : Reader α) : Prop := ∀ c a c', r c = .ok (a, c') → P a

theorem yields_pure {P : α → Prop} {a : α} (h : P a) : Yields P (pure a) := by
  intro c b c' hrun
  cases hrun
  exact h

theorem yields_fail {P : α → Prop} : Yields P fail := by
  intro c a c' hrun
  cases hrun

theorem yields_failNext {P : α → Prop} : Yields P failNext := by
  intro c a c' hrun
  cases hrun

theorem Yields.bind {P : α → Prop} {Q : β → Prop} {r : Reader α} {f : α → Reader β}
    (hr : Yields P r) (hf : ∀ a, P a → Yields Q (f a)) : Yields Q (r >>= f) := by
  intro c b c' hrun
  cases hfirst : r c with
  | error line => simp [Bind.bind, StateT.bind, Except.bind, hfirst] at hrun
  | ok result =>
      obtain ⟨a, c₁⟩ := result
      simp only [Bind.bind, StateT.bind, Except.bind, hfirst] at hrun
      exact hf a (hr c a c₁ hfirst) c₁ b c' hrun

/-- A reader whose own result does not matter. -/
theorem yields_bind {Q : β → Prop} {r : Reader α} {f : α → Reader β}
    (hf : ∀ a, Yields Q (f a)) : Yields Q (r >>= f) :=
  Yields.bind (P := fun _ => True) (fun _ _ _ _ => trivial) fun a _ => hf a

/-! ### Numbers -/

theorem Significand.push_lt {s : Significand} (h : s.value < Decimal.twoTo 64) (digit : Char) :
    (s.push digit).value < Decimal.twoTo 64 := by
  simp only [Significand.push]
  split
  · rename_i hfits
    simp only [Bool.and_eq_true, decide_eq_true_eq] at hfits
    exact hfits.2
  · exact h

theorem Significand.foldl_push_lt {s : Significand} (h : s.value < Decimal.twoTo 64)
    (digits : List Char) : (digits.foldl Significand.push s).value < Decimal.twoTo 64 := by
  induction digits generalizing s with
  | nil => exact h
  | cons digit rest ih => exact ih (Significand.push_lt h digit)

theorem yields_float (negative : Bool) (significand : Nat) (exponent : Int) :
    Yields Narrow (float negative significand exponent) := by
  unfold float
  split
  · exact yields_pure trivial
  · exact yields_fail

theorem yields_exponentPart (negative : Bool) (significand : Nat) (start : Int) :
    Yields Narrow (exponentPart negative significand start) := by
  unfold exponentPart
  refine yields_bind fun _ => yields_bind fun sign => ?_
  extract_lets negativeExponent digitsPart
  have hdigits : ∀ u, Yields Narrow (digitsPart u) := by
    intro u
    refine yields_bind fun first => ?_
    split
    · exact yields_fail
    · split
      · exact yields_fail
      · refine yields_bind fun more => ?_
        extract_lets size
        split
        · split
          · exact yields_fail
          · exact yields_pure trivial
        · exact yields_float _ _ _
  split
  · exact yields_bind fun _ => hdigits ()
  · exact hdigits ()

theorem yields_floatTail (negative : Bool) (significand : Nat) (exponent : Int) :
    Yields Narrow (floatTail negative significand exponent) := by
  unfold floatTail
  refine yields_bind fun following => ?_
  split
  · exact yields_exponentPart negative significand exponent
  · exact yields_exponentPart negative significand exponent
  · exact yields_float negative significand exponent

theorem yields_fraction (negative : Bool) (significand before : Nat) :
    Yields Narrow (fraction negative significand before) := by
  unfold fraction
  refine yields_bind fun _ => yields_bind fun ds => ?_
  split
  · exact yields_failNext
  · exact yields_floatTail _ _ _

theorem narrow_integer (negative : Bool) {n : Nat} (h : n < Decimal.twoTo 64) :
    Narrow (.number (integer negative n)) := by
  unfold integer
  split
  · exact Int.ofNat_lt.mpr h
  · split
    · change -(n : Int) < (Decimal.twoTo 64 : Int)
      omega
    · trivial

theorem yields_number (negative : Bool) : Yields Narrow (number negative) := by
  unfold number
  refine yields_bind fun first => ?_
  split
  · exact yields_fail
  · split
    · exact yields_fail
    · refine yields_bind fun more => ?_
      split
      · exact yields_fail
      · refine yields_bind fun following => ?_
        split
        · exact yields_fraction _ _ _
        · exact yields_exponentPart _ _ _
        · exact yields_exponentPart _ _ _
        · split
          · refine yields_pure (narrow_integer negative ?_)
            exact Significand.foldl_push_lt (by decide) _
          · exact yields_float _ _ _

/-! ### Trees

The readers of trees and of their parts call each other, always with less fuel. Each is followed
through one call, and the induction on the fuel only puts the four together. -/

section step

variable {fuel : Nat}

theorem yields_tree_succ (hitems : ∀ levels first, Yields NarrowItems (items fuel levels first))
    (hfields : ∀ levels first, Yields NarrowFields (fields fuel levels first)) (levels : Nat) :
    Yields Narrow (tree (fuel + 1) levels) := by
  rw [tree]
  refine yields_bind fun following => ?_
  split
  · exact yields_fail
  · split
    · exact yields_bind fun _ => yields_pure trivial
    · exact yields_bind fun _ => yields_pure trivial
    · exact yields_bind fun _ => yields_pure trivial
    · exact yields_bind fun _ => yields_number true
    · exact yields_bind fun _ => yields_bind fun _ => yields_pure trivial
    · split
      · exact yields_fail
      · exact yields_bind fun _ => (hitems _ _).bind fun _ h => yields_pure h
    · split
      · exact yields_fail
      · exact yields_bind fun _ => (hfields _ _).bind fun _ h => yields_pure h
    · split
      · exact yields_number false
      · exact yields_fail

theorem yields_items_succ (htree : ∀ levels, Yields Narrow (tree fuel levels))
    (hitems : ∀ levels first, Yields NarrowItems (items fuel levels first)) (levels : Nat)
    (first : Bool) : Yields NarrowItems (items (fuel + 1) levels first) := by
  have hcons : Yields NarrowItems
      (do return (← tree fuel levels) :: (← items fuel levels false)) :=
    (htree _).bind fun _ h => (hitems _ _).bind fun _ hrest => yields_pure ⟨h, hrest⟩
  rw [items]
  refine yields_bind fun following => ?_
  split
  · exact yields_bind fun _ => yields_pure trivial
  · split
    · exact yields_fail
    · refine yields_bind fun _ => yields_bind fun closing => ?_
      split
      · exact yields_fail
      · exact hcons
  · split
    · exact hcons
    · exact yields_fail
  · exact yields_fail

theorem yields_fields_succ (hfield : ∀ levels, Yields NarrowFields (field fuel levels))
    (levels : Nat) (first : Bool) : Yields NarrowFields (fields (fuel + 1) levels first) := by
  rw [fields]
  refine yields_bind fun following => ?_
  split
  · exact yields_bind fun _ => yields_pure trivial
  · split
    · exact yields_fail
    · exact yields_bind fun _ => hfield _
  · split
    · exact hfield _
    · exact yields_fail
  · exact yields_fail

theorem yields_field_succ (htree : ∀ levels, Yields Narrow (tree fuel levels))
    (hfields : ∀ levels first, Yields NarrowFields (fields fuel levels first)) (levels : Nat) :
    Yields NarrowFields (field (fuel + 1) levels) := by
  rw [field]
  refine yields_bind fun quote => ?_
  split
  · exact yields_fail
  · refine yields_bind fun _ => yields_bind fun key => yields_bind fun colon => ?_
    split
    · exact yields_fail
    · refine yields_bind fun _ => (htree _).bind fun _ h => ?_
      exact (hfields _ _).bind fun _ hrest => yields_pure ⟨h, hrest⟩

end step

theorem yields_tree (fuel : Nat) :
    (∀ levels, Yields Narrow (tree fuel levels)) ∧
    (∀ levels first, Yields NarrowItems (items fuel levels first)) ∧
    (∀ levels first, Yields NarrowFields (fields fuel levels first)) ∧
    ∀ levels, Yields NarrowFields (field fuel levels) := by
  induction fuel with
  | zero =>
      refine ⟨fun levels => ?_, fun levels first => ?_, fun levels first => ?_, fun levels => ?_⟩
      · rw [tree]
        exact yields_fail
      · rw [items]
        exact yields_fail
      · rw [fields]
        exact yields_fail
      · rw [field]
        exact yields_fail
  | succ fuel ih =>
      obtain ⟨htree, hitems, hfields, hfield⟩ := ih
      exact ⟨yields_tree_succ hitems hfields, yields_items_succ htree hitems,
        yields_fields_succ hfield, yields_field_succ htree hfields⟩

end Reader

/-- What is read from a text is narrow. -/
theorem narrow_of_scan {text : String} {tree : Json} (h : scan text = .ok tree) :
    tree.Narrow := by
  unfold scan at h
  extract_lets cs at h
  have hdocument : ∀ fuel, Reader.Yields Narrow (Reader.document fuel) := by
    intro fuel
    unfold Reader.document
    refine ((Reader.yields_tree fuel).1 _).bind fun _ htree => Reader.yields_bind fun _ => ?_
    split
    · exact Reader.yields_fail
    · exact Reader.yields_pure htree
  cases hread : Reader.document (2 * cs.length + 2) ⟨1, cs⟩ with
  | error line => simp [hread, Except.map] at h
  | ok result =>
      simp only [hread, Except.map, Except.ok.injEq] at h
      exact h ▸ hdocument _ _ _ _ hread

end BranchingStory.Json
