import BranchingStory.Keyed
import BranchingStory.TextSet
import Mathlib.Data.List.Sort
import Mathlib.Data.String.Basic

/-!
Entries and sets of texts in ascending order. A list that stands in strictly ascending order is what
the builders make of it, so that writing it down and building it again gives the same list.
-/

namespace BranchingStory.Keyed

variable {α : Type}

def Sorted (entries : List (String × α)) : Prop := entries.Pairwise (fun a b => a.1 < b.1)

instance (entries : List (String × α)) : Decidable (Sorted entries) :=
  inferInstanceAs (Decidable (entries.Pairwise fun a b => a.1 < b.1))

theorem sorted_nil : Sorted ([] : List (String × α)) := List.Pairwise.nil

theorem mem_of_get?_eq_some {key : String} {v : α} {entries : List (String × α)}
    (h : get? key entries = some v) : (key, v) ∈ entries := by
  induction entries with
  | nil => cases h
  | cons entry rest ih =>
      obtain ⟨k, w⟩ := entry
      rw [get?] at h
      split at h
      · rename_i hk
        cases h
        exact hk ▸ List.mem_cons_self
      · exact List.mem_cons_of_mem _ (ih h)

theorem get?_append (key : String) (entries more : List (String × α)) :
    get? key (entries ++ more) = (get? key entries).or (get? key more) := by
  induction entries with
  | nil => rfl
  | cons first rest ih =>
      rw [List.cons_append, get?, get?]
      split
      · rfl
      · exact ih

theorem get?_eq_none_iff {key : String} {entries : List (String × α)} :
    get? key entries = none ↔ key ∉ keys entries := by
  induction entries with
  | nil => simp [get?, keys]
  | cons first rest ih =>
      obtain ⟨k, v⟩ := first
      by_cases hk : k = key
      · simp [get?, keys, hk]
      · simp only [get?, if_neg hk, ih, keys, List.map_cons, List.mem_cons, not_or]
        exact ⟨fun h => ⟨Ne.symm hk, h⟩, And.right⟩

theorem get?_of_mem {entries : List (String × α)} (h : (keys entries).Nodup) {key : String} {v : α}
    (hmem : (key, v) ∈ entries) : get? key entries = some v := by
  cases hget : get? key entries with
  | none => exact absurd (List.mem_map_of_mem (f := Prod.fst) hmem) (get?_eq_none_iff.mp hget)
  | some w =>
      have hsame := List.inj_on_of_nodup_map h (mem_of_get?_eq_some hget) hmem rfl
      exact congrArg some (congrArg Prod.snd hsame)

/-- Leaving out keys leaves out their entries and no others. -/
theorem get?_filter (keep : String → Bool) (key : String) (entries : List (String × α)) :
    get? key (entries.filter fun entry => keep entry.1) =
      if keep key then get? key entries else none := by
  induction entries with
  | nil => simp [get?]
  | cons first rest ih =>
      obtain ⟨k, v⟩ := first
      by_cases hk : k = key
      · subst hk
        by_cases hkeep : keep k
        · simp [get?, hkeep]
        · simp [hkeep, ih]
      · rw [get?, if_neg hk, ← ih]
        by_cases hkeep : keep k
        · simp [hkeep, get?, hk]
        · simp [hkeep]

theorem mem_insert {key : String} {value : α} {entry : String × α}
    {entries : List (String × α)} (h : entry ∈ insert key value entries) :
    entry = (key, value) ∨ entry ∈ entries := by
  induction entries with
  | nil => exact .inl (List.mem_singleton.mp h)
  | cons first rest ih =>
      obtain ⟨k, w⟩ := first
      rw [insert] at h
      split_ifs at h with hlt heq
      · exact List.mem_cons.mp h
      · rcases List.mem_cons.mp h with h | h
        · exact .inl h
        · exact .inr (List.mem_cons_of_mem _ h)
      · rcases List.mem_cons.mp h with h | h
        · exact .inr (h ▸ List.mem_cons_self)
        · exact (ih h).imp_right (List.mem_cons_of_mem _)

theorem get?_insert (key other : String) (value : α) (entries : List (String × α)) :
    get? other (insert key value entries) =
      if key = other then some value else get? other entries := by
  induction entries with
  | nil => rfl
  | cons first rest ih =>
      obtain ⟨k, w⟩ := first
      by_cases hlt : key < k
      · rw [insert, if_pos hlt, get?]
      · by_cases heq : key = k
        · subst heq
          by_cases hsame : key = other <;> simp [insert, get?, hsame]
        · rw [insert, if_neg hlt, if_neg heq, get?, get?, ih]
          by_cases hsame : key = other
          · subst hsame
            simp [Ne.symm heq]
          · simp [hsame]

@[simp] theorem get?_insert_self (key : String) (value : α) (entries : List (String × α)) :
    get? key (insert key value entries) = some value := by
  rw [get?_insert, if_pos rfl]

theorem get?_insert_of_ne {key other : String} (h : other ≠ key) (value : α)
    (entries : List (String × α)) : get? other (insert key value entries) = get? other entries := by
  rw [get?_insert, if_neg (Ne.symm h)]

/-- Of two entries that are written under one key the second remains. -/
theorem insert_insert (key : String) (first second : α) (entries : List (String × α)) :
    insert key second (insert key first entries) = insert key second entries := by
  induction entries with
  | nil => simp [insert]
  | cons entry rest ih =>
      obtain ⟨k, w⟩ := entry
      by_cases hlt : key < k
      · simp [insert, hlt]
      · by_cases heq : key = k
        · simp [insert, heq]
        · simp [insert, hlt, heq, ih]

theorem Sorted.insert {entries : List (String × α)} (h : Sorted entries) (key : String)
    (value : α) : Sorted (insert key value entries) := by
  induction entries with
  | nil => exact List.pairwise_singleton _ _
  | cons first rest ih =>
      obtain ⟨k, w⟩ := first
      have hrest := List.pairwise_cons.mp h
      rw [Keyed.insert]
      split_ifs with hlt heq
      · refine List.pairwise_cons.mpr ⟨?_, h⟩
        intro entry hentry
        rcases List.mem_cons.mp hentry with rfl | hentry
        · exact hlt
        · exact hlt.trans (hrest.1 entry hentry)
      · exact List.pairwise_cons.mpr ⟨fun entry hentry => heq ▸ hrest.1 entry hentry, hrest.2⟩
      · refine List.pairwise_cons.mpr ⟨?_, ih hrest.2⟩
        intro entry hentry
        rcases mem_insert hentry with rfl | hentry
        · exact lt_of_le_of_ne (not_lt.mp hlt) (Ne.symm heq)
        · exact hrest.1 entry hentry

theorem insert_eq_cons {key : String} {value : α} {entries : List (String × α)}
    (h : ∀ entry ∈ entries, key < entry.1) :
    insert key value entries = (key, value) :: entries := by
  cases entries with
  | nil => rfl
  | cons first rest => rw [insert, if_pos (h first List.mem_cons_self)]

theorem contains_eq_false {key : String} {entries : List (String × α)}
    (h : ∀ entry ∈ entries, key < entry.1) : contains key entries = false := by
  rw [contains, Option.isSome_eq_false_iff, Option.isNone_iff_eq_none]
  cases hget : get? key entries with
  | none => rfl
  | some v => exact absurd (h _ (mem_of_get?_eq_some hget)) (lt_irrefl key)

/-- In ascending order every entry is found under its key. -/
theorem Sorted.get?_eq_some {entries : List (String × α)} (h : Sorted entries) {key : String}
    {v : α} (hmem : (key, v) ∈ entries) : get? key entries = some v := by
  have hnodup : (keys entries).Nodup := List.pairwise_map.mpr (h.imp ne_of_lt)
  exact get?_of_mem hnodup hmem

theorem Sorted.contains_iff {entries : List (String × α)} (h : Sorted entries) {key : String} :
    contains key entries = true ↔ ∃ v, (key, v) ∈ entries := by
  rw [contains, Option.isSome_iff_exists]
  exact exists_congr fun v => ⟨mem_of_get?_eq_some, h.get?_eq_some⟩

theorem sorted_ascending (entries : List (String × α)) : Sorted (ascending entries) := by
  induction entries with
  | nil => exact sorted_nil
  | cons first rest ih =>
      rw [ascending]
      split
      · exact ih
      · exact ih.insert _ _

theorem mem_ascending {entry : String × α} {entries : List (String × α)}
    (h : entry ∈ ascending entries) : entry ∈ entries := by
  induction entries with
  | nil => exact h
  | cons first rest ih =>
      obtain ⟨k, v⟩ := first
      rw [ascending] at h
      split at h
      · exact List.mem_cons_of_mem _ (ih h)
      · rcases mem_insert h with rfl | h
        · exact List.mem_cons_self
        · exact List.mem_cons_of_mem _ (ih h)

theorem ascending_eq_self {entries : List (String × α)} (h : Sorted entries) :
    ascending entries = entries := by
  induction entries with
  | nil => rfl
  | cons first rest ih =>
      obtain ⟨hfirst, hrest⟩ := List.pairwise_cons.mp h
      simp only [ascending, ih hrest, contains_eq_false hfirst, insert_eq_cons hfirst]
      simp

/-- Entries in ascending order are known by what stands under each key. -/
theorem Sorted.ext {entries others : List (String × α)} (h : Sorted entries)
    (hothers : Sorted others) (hget : ∀ key, get? key entries = get? key others) :
    entries = others := by
  have hasymm : ∀ a b : String × α, a.1 < b.1 → b.1 < a.1 → a = b :=
    fun _ _ hab hba => absurd hba (not_lt_of_gt hab)
  have : Std.Antisymm fun a b : String × α => a.1 < b.1 := ⟨hasymm⟩
  have : Std.Irrefl fun a b : String × α => a.1 < b.1 := ⟨fun a => lt_irrefl a.1⟩
  refine List.Pairwise.eq_of_mem_iff h hothers fun entry => ?_
  constructor
  · intro hmem
    exact mem_of_get?_eq_some ((hget entry.1).symm.trans (h.get?_eq_some hmem))
  · intro hmem
    exact mem_of_get?_eq_some ((hget entry.1).trans (hothers.get?_eq_some hmem))

theorem perm_insert {key : String} (value : α) {entries : List (String × α)}
    (h : key ∉ keys entries) : (insert key value entries).Perm ((key, value) :: entries) := by
  induction entries with
  | nil => exact List.Perm.refl _
  | cons first rest ih =>
      obtain ⟨k, w⟩ := first
      obtain ⟨hk, hrest⟩ := not_or.mp (List.mem_cons.not.mp h)
      rw [insert, if_neg hk]
      split
      · exact List.Perm.refl _
      · exact ((ih hrest).cons _).trans (List.Perm.swap ..)

/-- Entries with distinct keys are all there in ascending order. -/
theorem perm_ascending {entries : List (String × α)} (h : (keys entries).Nodup) :
    (ascending entries).Perm entries := by
  induction entries with
  | nil => exact List.Perm.refl _
  | cons first rest ih =>
      obtain ⟨k, v⟩ := first
      obtain ⟨hk, hrest⟩ := List.nodup_cons.mp h
      have hperm := ih hrest
      have hnew : k ∉ keys (ascending rest) :=
        fun hmem => hk ((hperm.map Prod.fst).mem_iff.mp hmem)
      have hcontains : contains k (ascending rest) = false := by
        rw [contains, get?_eq_none_iff.mpr hnew]
        rfl
      simp only [ascending, hcontains, Bool.false_eq_true, if_false]
      exact (perm_insert v hnew).trans (hperm.cons _)

/-- The ascending order does not depend on the order in which distinct entries are given. -/
theorem ascending_eq_of_perm {entries others : List (String × α)} (h : (keys entries).Nodup)
    (hperm : others.Perm entries) : ascending others = ascending entries := by
  have hothers : (keys others).Nodup := (hperm.map Prod.fst).nodup_iff.mpr h
  refine List.Perm.eq_of_pairwise ?_ (sorted_ascending others) (sorted_ascending entries)
    ((perm_ascending hothers).trans (hperm.trans (perm_ascending h).symm))
  intro a b _ _ hab hba
  exact absurd hba (not_lt_of_gt hab)

/-! ### Order of appearance -/

theorem mem_put {key : String} {value : α} {entry : String × α} {entries : List (String × α)}
    (h : entry ∈ put key value entries) : entry = (key, value) ∨ entry ∈ entries := by
  induction entries with
  | nil => exact .inl (List.mem_singleton.mp h)
  | cons first rest ih =>
      obtain ⟨k, w⟩ := first
      rw [put] at h
      split_ifs at h with hk
      · rcases List.mem_cons.mp h with h | h
        · exact .inl (hk ▸ h)
        · exact .inr (List.mem_cons_of_mem _ h)
      · rcases List.mem_cons.mp h with h | h
        · exact .inr (h ▸ List.mem_cons_self)
        · exact (ih h).imp_right (List.mem_cons_of_mem _)

theorem mem_distinct {entry : String × α} {entries : List (String × α)}
    (h : entry ∈ distinct entries) : entry ∈ entries := by
  have hfold : ∀ (entries done : List (String × α)),
      entry ∈ entries.foldl (fun done entry => put entry.1 entry.2 done) done →
        entry ∈ done ∨ entry ∈ entries := by
    intro entries
    induction entries with
    | nil => exact fun done h => .inl h
    | cons first rest ih =>
        intro done h
        rcases ih _ h with h | h
        · rcases mem_put h with rfl | h
          · exact .inr List.mem_cons_self
          · exact .inl h
        · exact .inr (List.mem_cons_of_mem _ h)
  rcases hfold entries [] h with h | h
  · cases h
  · exact h

/-- A new key comes last. -/
theorem put_of_notMem {key : String} (value : α) {entries : List (String × α)}
    (h : key ∉ keys entries) : put key value entries = entries ++ [(key, value)] := by
  induction entries with
  | nil => rfl
  | cons first rest ih =>
      obtain ⟨k, v⟩ := first
      obtain ⟨hk, hrest⟩ := not_or.mp (List.mem_cons.not.mp h)
      rw [put, if_neg (Ne.symm hk), ih hrest, List.cons_append]

/-- A known key keeps its place. -/
theorem keys_put_of_mem {key : String} (value : α) {entries : List (String × α)}
    (h : key ∈ keys entries) : keys (put key value entries) = keys entries := by
  induction entries with
  | nil => cases h
  | cons first rest ih =>
      obtain ⟨k, v⟩ := first
      rw [put]
      split_ifs with hk
      · rfl
      · have hrest : key ∈ keys rest := (List.mem_cons.mp h).resolve_left (Ne.symm hk)
        exact congrArg (k :: ·) (ih hrest)

theorem nodup_keys_put {entries : List (String × α)} (h : (keys entries).Nodup) (key : String)
    (value : α) : (keys (put key value entries)).Nodup := by
  by_cases hkey : key ∈ keys entries
  · rwa [keys_put_of_mem value hkey]
  · rw [put_of_notMem value hkey, keys, List.map_append, List.map_singleton, List.nodup_append]
    refine ⟨h, List.nodup_singleton _, fun k hk other hother => ?_⟩
    obtain rfl := List.mem_singleton.mp hother
    exact fun heq => hkey (heq ▸ hk)

/-- No key stands twice where what is written again was left out. -/
theorem nodup_keys_distinct (entries : List (String × α)) : (keys (distinct entries)).Nodup := by
  have hfold : ∀ (entries done : List (String × α)), (keys done).Nodup →
      (keys (entries.foldl (fun done entry => put entry.1 entry.2 done) done)).Nodup := by
    intro entries
    induction entries with
    | nil => exact fun _ h => h
    | cons first rest ih => exact fun done h => ih _ (nodup_keys_put h _ _)
  exact hfold entries [] List.nodup_nil

theorem distinct_eq_self {entries : List (String × α)} (h : (keys entries).Nodup) :
    distinct entries = entries := by
  have hfold : ∀ (entries done : List (String × α)), (keys (done ++ entries)).Nodup →
      entries.foldl (fun done entry => put entry.1 entry.2 done) done = done ++ entries := by
    intro entries
    induction entries with
    | nil => exact fun done _ => (List.append_nil done).symm
    | cons first rest ih =>
        intro done h
        have hnew : first.1 ∉ keys done := by
          rw [keys, List.map_append, List.map_cons] at h
          exact fun hmem => (List.nodup_append.mp h).2.2 _ hmem _ List.mem_cons_self rfl
        rw [List.foldl_cons, put_of_notMem _ hnew, ih _ (by rwa [List.append_assoc]),
          List.append_assoc]
        rfl
  exact hfold entries [] h

end BranchingStory.Keyed

namespace BranchingStory.TextSet

theorem mem_insert {text t : String} {set : List String} (h : t ∈ insert text set) :
    t = text ∨ t ∈ set := by
  induction set with
  | nil => exact .inl (List.mem_singleton.mp h)
  | cons first rest ih =>
      rw [insert] at h
      split_ifs at h with hlt heq
      · exact List.mem_cons.mp h
      · exact .inr h
      · rcases List.mem_cons.mp h with rfl | h
        · exact .inr List.mem_cons_self
        · exact (ih h).imp_right (List.mem_cons_of_mem _)

theorem pairwise_insert {set : List String} (h : set.Pairwise (· < ·)) (text : String) :
    (insert text set).Pairwise (· < ·) := by
  induction set with
  | nil => exact List.pairwise_singleton _ _
  | cons first rest ih =>
      obtain ⟨hfirst, hrest⟩ := List.pairwise_cons.mp h
      rw [insert]
      split_ifs with hlt heq
      · refine List.pairwise_cons.mpr ⟨?_, h⟩
        intro t ht
        rcases List.mem_cons.mp ht with rfl | ht
        · exact hlt
        · exact hlt.trans (hfirst t ht)
      · exact h
      · refine List.pairwise_cons.mpr ⟨?_, ih hrest⟩
        intro t ht
        rcases mem_insert ht with rfl | ht
        · exact lt_of_le_of_ne (not_lt.mp hlt) (Ne.symm heq)
        · exact hfirst t ht

theorem pairwise_erase {set : List String} (h : set.Pairwise (· < ·)) (text : String) :
    (erase text set).Pairwise (· < ·) :=
  h.sublist List.filter_sublist

theorem pairwise_ofList (texts : List String) : (ofList texts).Pairwise (· < ·) := by
  induction texts with
  | nil => exact List.Pairwise.nil
  | cons first rest ih => exact pairwise_insert ih first

theorem ofList_eq_self {set : List String} (h : set.Pairwise (· < ·)) : ofList set = set := by
  induction set with
  | nil => rfl
  | cons first rest ih =>
      obtain ⟨hfirst, hrest⟩ := List.pairwise_cons.mp h
      rw [ofList, ih hrest]
      cases rest with
      | nil => rfl
      | cons second others => rw [insert, if_pos (hfirst second List.mem_cons_self)]

theorem mem_insert_iff {text t : String} {set : List String} :
    t ∈ insert text set ↔ t = text ∨ t ∈ set := by
  refine ⟨mem_insert, fun h => ?_⟩
  induction set with
  | nil => exact List.mem_singleton.mpr (h.resolve_right List.not_mem_nil)
  | cons first rest ih =>
      rw [insert]
      split_ifs with hlt heq
      · exact List.mem_cons.mpr h
      · exact h.elim (fun ht => List.mem_cons.mpr (.inl (ht.trans heq))) id
      · rcases h with h | h
        · exact List.mem_cons_of_mem _ (ih (.inl h))
        · rcases List.mem_cons.mp h with h | h
          · exact List.mem_cons.mpr (.inl h)
          · exact List.mem_cons_of_mem _ (ih (.inr h))

theorem mem_erase_iff {text t : String} {set : List String} :
    t ∈ erase text set ↔ t ∈ set ∧ t ≠ text := by
  rw [erase, List.mem_filter]
  simp

/-- Sets are known by their members. -/
theorem ext {set other : List String} (h : set.Pairwise (· < ·)) (hother : other.Pairwise (· < ·))
    (hmem : ∀ t, t ∈ set ↔ t ∈ other) : set = other :=
  List.Pairwise.eq_of_mem_iff h hother hmem

end BranchingStory.TextSet
