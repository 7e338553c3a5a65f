import BranchingStory.Asset
import Mathlib.Data.List.Basic

/-!
The search for an asset by key. Normal forms of keys are texts of small letters, digits and
underscores, and stay as they are when they are put into normal form again. Of the assets that a key
matches the search takes one that passes the best test, and of these the first in the list.
-/

namespace BranchingStory

namespace Text

/-- Among the ASCII characters only capital letters change in lower case. -/
theorem lowerChar_eq_self {c : Char} (hascii : c.toNat < 0x80)
    (hsmall : c.toNat < 65 ∨ 90 < c.toNat) : lowerChar c = [c] := by
  have hlower : c.toLower = c := by
    refine dif_neg fun hcapital => ?_
    have hrange : 65 ≤ c.toNat ∧ c.toNat ≤ 90 :=
      ⟨UInt32.le_iff_toNat_le.mp hcapital.1, UInt32.le_iff_toNat_le.mp hcapital.2⟩
    omega
  rw [lowerChar, if_pos hascii, hlower]

theorem lowerFrom_eq_self {cs : List Char}
    (h : ∀ c ∈ cs, c.toNat < 0x80 ∧ (c.toNat < 65 ∨ 90 < c.toNat)) (before : List Char) :
    lowerFrom before cs = cs := by
  induction cs generalizing before with
  | nil => rfl
  | cons c rest ih =>
      obtain ⟨hc, hrest⟩ := List.forall_mem_cons.mp h
      have hsigma : c ≠ 'Σ' := by
        rintro rfl
        exact absurd hc.1 (by decide)
      rw [lowerFrom, if_neg hsigma, lowerChar_eq_self hc.1 hc.2, ih hrest]
      rfl

end Text

namespace Asset

/-! ### Normal forms of keys -/

/-- The characters of normal forms: small letters, digits and the underscore. -/
def IsKeyChar (c : Char) : Prop :=
  ('a' ≤ c ∧ c ≤ 'z') ∨ ('0' ≤ c ∧ c ≤ '9') ∨ c = '_'

theorem toNat_of_isKeyChar {c : Char} (h : IsKeyChar c) :
    97 ≤ c.toNat ∧ c.toNat ≤ 122 ∨ 48 ≤ c.toNat ∧ c.toNat ≤ 57 ∨ c.toNat = 95 := by
  rcases h with hletter | hdigit | rfl
  · exact .inl hletter
  · exact .inr (.inl hdigit)
  · exact .inr (.inr rfl)

theorem isKeyChar_keyChar (c : Char) : IsKeyChar (keyChar c) := by
  unfold keyChar
  split
  · rename_i h
    simp only [Bool.or_eq_true, Bool.and_eq_true, decide_eq_true_eq] at h
    exact h.imp_right .inl
  · exact .inr (.inr rfl)

theorem keyChar_eq_self {c : Char} (h : IsKeyChar c) : keyChar c = c := by
  unfold keyChar
  split
  · rfl
  · rename_i hother
    simp only [Bool.or_eq_true, Bool.and_eq_true, decide_eq_true_eq] at hother
    rcases h with hletter | hdigit | rfl
    · exact absurd (.inl hletter) hother
    · exact absurd (.inr hdigit) hother
    · rfl

theorem dropExtension_eq_self {cs : List Char} (h : '.' ∉ cs) : dropExtension cs = cs := by
  unfold dropExtension
  dsimp only
  split
  · rename_i stem hstem
    have hmem : '.' ∈ cs.reverse :=
      (List.dropWhile_sublist _).subset (hstem ▸ List.mem_cons_self)
    exact absurd (List.mem_reverse.mp hmem) h
  · rfl

theorem isKeyChar_of_mem_normalizeKey {key : String} {c : Char}
    (h : c ∈ (normalizeKey key).toList) : IsKeyChar c := by
  rw [normalizeKey, String.toList_ofList] at h
  obtain ⟨d, -, rfl⟩ := List.mem_map.mp h
  exact isKeyChar_keyChar d

/-- A key in normal form stays as it is: there is no extension to take off, no capital letter and no
other character. -/
theorem normalizeKey_eq_self {key : String} (h : ∀ c ∈ key.toList, IsKeyChar c) :
    normalizeKey key = key := by
  have hpoint : '.' ∉ key.toList := by
    intro hmem
    have := toNat_of_isKeyChar (h '.' hmem)
    revert this
    decide
  have hlower : Text.lower key = key := by
    rw [Text.lower, Text.lowerFrom_eq_self, String.ofList_toList]
    intro c hc
    have := toNat_of_isKeyChar (h c hc)
    omega
  have hchars : key.toList.map keyChar = key.toList :=
    (List.map_congr_left fun c hc => keyChar_eq_self (h c hc)).trans (List.map_id' _)
  rw [normalizeKey, dropExtension_eq_self hpoint, String.ofList_toList, hlower, hchars,
    String.ofList_toList]

theorem normalizeKey_normalizeKey (key : String) :
    normalizeKey (normalizeKey key) = normalizeKey key :=
  normalizeKey_eq_self fun _ hc => isKeyChar_of_mem_normalizeKey hc

/-! ### Best matches

What the search should find is said without it: by what the tests ask of an asset and how they are
ranked. -/

inductive Test where
  | sameId
  | alikeId
  | sameName
  | samePath
  | alikeName
  | alikePath
  deriving Repr, DecidableEq

namespace Test

def Passes (key : String) (a : Asset) : Test → Prop
  | .sameId => a.id = some key
  | .alikeId => a.id.map normalizeKey = some (normalizeKey key)
  | .sameName => a.name = some key
  | .samePath => a.path = some key
  | .alikeName => a.name.map normalizeKey = some (normalizeKey key)
  | .alikePath => a.path.map normalizeKey = some (normalizeKey key)

instance (key : String) (a : Asset) (test : Test) : Decidable (test.Passes key a) :=
  match test with
  | .sameId => inferInstanceAs (Decidable (a.id = some key))
  | .alikeId => inferInstanceAs (Decidable (a.id.map normalizeKey = some (normalizeKey key)))
  | .sameName => inferInstanceAs (Decidable (a.name = some key))
  | .samePath => inferInstanceAs (Decidable (a.path = some key))
  | .alikeName => inferInstanceAs (Decidable (a.name.map normalizeKey = some (normalizeKey key)))
  | .alikePath => inferInstanceAs (Decidable (a.path.map normalizeKey = some (normalizeKey key)))

def rank : Test → Nat
  | .sameId => 0
  | .alikeId => 1
  | .sameName => 2
  | .samePath => 3
  | .alikeName => 4
  | .alikePath => 5

def ranked : List Test := [.sameId, .alikeId, .sameName, .samePath, .alikeName, .alikePath]

theorem ranked_rank (test : Test) : ranked[test.rank]? = some test := by
  cases test <;> rfl

theorem mem_ranked (test : Test) : test ∈ ranked := List.mem_of_getElem? (ranked_rank test)

theorem eq_of_rank_eq {test other : Test} (h : test.rank = other.rank) : test = other := by
  refine Option.some.inj ?_
  rw [← ranked_rank test, h, ranked_rank]

theorem mem_before_iff {before after : List Test} {test other : Test}
    (h : ranked = before ++ test :: after) : other ∈ before ↔ other.rank < test.rank := by
  have hsorted : ranked.Pairwise fun x y => x.rank < y.rank := by decide
  rw [h, List.pairwise_append, List.pairwise_cons] at hsorted
  obtain ⟨-, ⟨hafter, -⟩, hbefore⟩ := hsorted
  refine ⟨fun hmem => hbefore other hmem test List.mem_cons_self, fun hlt => ?_⟩
  have hmem := mem_ranked other
  rw [h, List.mem_append, List.mem_cons] at hmem
  rcases hmem with hmem | rfl | hmem
  · exact hmem
  · exact absurd hlt (Nat.lt_irrefl _)
  · exact absurd hlt (Nat.lt_asymm (hafter other hmem))

end Test

structure Earliest (key : String) (a : Asset) (test : Test) : Prop where
  passes : test.Passes key a
  least : ∀ other : Test, other.Passes key a → test.rank ≤ other.rank

/-- The asset at a place of the list is the best match: no asset of the list passes a better test
than it does, and no asset before it has the same earliest test. -/
structure Best (assets : List Asset) (key : String) (test : Test) (place : Nat) (a : Asset) :
    Prop where
  found : assets[place]? = some a
  earliest : Earliest key a test
  minimal : ∀ b ∈ assets, ∀ other : Test, other.Passes key b → test.rank ≤ other.rank
  first : ∀ before < place, ∀ b, assets[before]? = some b → ¬ Earliest key b test

variable {assets : List Asset} {key : String}

theorem Best.place_le {test test' : Test} {place place' : Nat} {a a' : Asset}
    (h : Best assets key test place a) (h' : Best assets key test' place' a') :
    place ≤ place' := by
  have hle := h.minimal a' (List.mem_of_getElem? h'.found) test' h'.earliest.passes
  have hge := h'.minimal a (List.mem_of_getElem? h.found) test h.earliest.passes
  have htest : test = test' := Test.eq_of_rank_eq (Nat.le_antisymm hle hge)
  subst htest
  exact Nat.le_of_not_lt fun hlt => h.first place' hlt a' h'.found h'.earliest

/-- There is one best match at most. -/
theorem Best.unique {test test' : Test} {place place' : Nat} {a a' : Asset}
    (h : Best assets key test place a) (h' : Best assets key test' place' a') :
    place = place' ∧ a = a' := by
  have hplace : place = place' := Nat.le_antisymm (h.place_le h') (h'.place_le h)
  subst hplace
  exact ⟨rfl, Option.some.inj (h.found.symm.trans h'.found)⟩

/-- Keys that match the same assets in the same ways have the same best match. -/
theorem Best.congr {other : String} {test : Test} {place : Nat} {a : Asset}
    (hkeys : ∀ b ∈ assets, ∀ t : Test, t.Passes key b ↔ t.Passes other b)
    (h : Best assets key test place a) : Best assets other test place a := by
  have hearliest : ∀ b ∈ assets, Earliest other b test → Earliest key b test := fun b hb hb' =>
    ⟨(hkeys b hb test).mpr hb'.passes, fun t ht => hb'.least t ((hkeys b hb t).mp ht)⟩
  have ha : a ∈ assets := List.mem_of_getElem? h.found
  exact
    { found := h.found
      earliest := ⟨(hkeys a ha test).mp h.earliest.passes, fun t ht =>
        h.earliest.least t ((hkeys a ha t).mpr ht)⟩
      minimal := fun b hb t ht => h.minimal b hb t ((hkeys b hb t).mpr ht)
      first := fun before hlt b hb hb' =>
        h.first before hlt b hb (hearliest b (List.mem_of_getElem? hb) hb') }

/-! ### What the search finds -/

theorem exact_eq_decide (part : Asset → Option String) (key : String) (a : Asset) :
    exact part key a = decide (part a = some key) := by
  rw [Bool.eq_iff_iff, exact]
  cases part a <;> simp

theorem alike_eq_decide (part : Asset → Option String) (key : String) (a : Asset) :
    alike part key a = decide ((part a).map normalizeKey = some (normalizeKey key)) := by
  rw [Bool.eq_iff_iff, alike]
  cases part a <;> simp

/-- The tests of the search are the six tests by rank. -/
theorem tests_eq (key : String) :
    tests key = Test.ranked.map fun test a => decide (test.Passes key a) := by
  have hexact : ∀ part, exact part key = fun a => decide (part a = some key) :=
    fun part => funext (exact_eq_decide part key)
  have halike : ∀ part, alike part key =
      fun a => decide ((part a).map normalizeKey = some (normalizeKey key)) :=
    fun part => funext (alike_eq_decide part key)
  simp only [tests, hexact, halike]
  rfl

theorem findIndex?_eq (assets : List Asset) (key : String) :
    findIndex? assets key =
      Test.ranked.findSome? fun test => assets.findIdx? fun a => decide (test.Passes key a) := by
  rw [findIndex?, tests_eq, List.findSome?_map]
  rfl

theorem findIndex?_eq_none_iff :
    findIndex? assets key = none ↔ ∀ a ∈ assets, ∀ test : Test, ¬ test.Passes key a := by
  rw [findIndex?_eq, List.findSome?_eq_none_iff]
  simp only [List.findIdx?_eq_none_iff, decide_eq_false_iff_not]
  exact ⟨fun h a ha test => h test test.mem_ranked a ha, fun h test _ a ha => h a ha test⟩

theorem best_of_findIndex? {place : Nat} (h : findIndex? assets key = some place) :
    ∃ test a, Best assets key test place a := by
  rw [findIndex?_eq, List.findSome?_eq_some_iff] at h
  obtain ⟨before, test, after, hranked, hplace, hbefore⟩ := h
  obtain ⟨hlt, hpasses, hfirst⟩ := List.findIdx?_eq_some_iff_getElem.mp hplace
  -- no asset passes a test of smaller rank, since the search came to this test
  have hminimal : ∀ b ∈ assets, ∀ other : Test, other.Passes key b → test.rank ≤ other.rank := by
    intro b hb other hother
    refine Nat.le_of_not_lt fun hrank => ?_
    have hnone := hbefore other ((Test.mem_before_iff hranked).mpr hrank)
    exact of_decide_eq_false (List.findIdx?_eq_none_iff.mp hnone b hb) hother
  refine ⟨test, assets[place], List.getElem?_eq_getElem hlt,
    ⟨of_decide_eq_true hpasses, hminimal _ (List.getElem_mem hlt)⟩, hminimal, ?_⟩
  intro earlier hearlier b hb hb'
  obtain ⟨hlt', rfl⟩ := List.getElem?_eq_some_iff.mp hb
  exact hfirst earlier hearlier (decide_eq_true hb'.passes)

theorem findIndex?_eq_some_iff {place : Nat} :
    findIndex? assets key = some place ↔ ∃ test a, Best assets key test place a := by
  refine ⟨best_of_findIndex?, ?_⟩
  rintro ⟨test, a, hbest⟩
  cases hfound : findIndex? assets key with
  | none =>
      exact absurd hbest.earliest.passes
        (findIndex?_eq_none_iff.mp hfound a (List.mem_of_getElem? hbest.found) test)
  | some place' =>
      obtain ⟨test', a', hbest'⟩ := best_of_findIndex? hfound
      rw [(hbest'.unique hbest).1]

/-- The asset that is found stands at the place that is found. -/
theorem find?_eq_bind (assets : List Asset) (key : String) :
    find? assets key = (findIndex? assets key).bind fun place => assets[place]? := by
  rw [find?, findIndex?]
  induction tests key with
  | nil => rfl
  | cons test rest ih =>
      rw [List.findSome?_cons, List.findSome?_cons, List.find?_eq_bind_findIdx?_getElem?]
      cases hplace : assets.findIdx? test with
      | none => exact ih
      | some place =>
          obtain ⟨hlt, -⟩ := List.findIdx?_eq_some_iff_getElem.mp hplace
          simp [List.getElem?_eq_getElem hlt]

theorem find?_eq_none_iff :
    find? assets key = none ↔ ∀ a ∈ assets, ∀ test : Test, ¬ test.Passes key a := by
  rw [← findIndex?_eq_none_iff, find?_eq_bind]
  cases hplace : findIndex? assets key with
  | none => simp
  | some place =>
      obtain ⟨test, a, hbest⟩ := best_of_findIndex? hplace
      simp [hbest.found]

theorem find?_eq_some_iff {a : Asset} :
    find? assets key = some a ↔
      ∃ test place, Best assets key test place a ∧ findIndex? assets key = some place := by
  rw [find?_eq_bind, Option.bind_eq_some_iff]
  constructor
  · rintro ⟨place, hplace, ha⟩
    obtain ⟨test, a', hbest⟩ := best_of_findIndex? hplace
    obtain rfl : a' = a := Option.some.inj (hbest.found.symm.trans ha)
    exact ⟨test, place, hbest, hplace⟩
  · rintro ⟨test, place, hbest, hplace⟩
    exact ⟨place, hplace, hbest.found⟩

/-- No part by which assets are found is the key itself. -/
def Unlisted (assets : List Asset) (key : String) : Prop :=
  ∀ a ∈ assets, a.id ≠ some key ∧ a.name ≠ some key ∧ a.path ≠ some key

instance (assets : List Asset) (key : String) : Decidable (Unlisted assets key) :=
  inferInstanceAs (Decidable (∀ a ∈ assets, _))

/-- Keys that are no parts of assets pass the same tests if they have the same normal form. -/
theorem Unlisted.passes_iff {other : String} (hkey : Unlisted assets key)
    (hother : Unlisted assets other) (h : normalizeKey key = normalizeKey other) :
    ∀ a ∈ assets, ∀ test : Test, test.Passes key a ↔ test.Passes other a := by
  intro a ha test
  obtain ⟨hid, hname, hpath⟩ := hkey a ha
  obtain ⟨hid', hname', hpath'⟩ := hother a ha
  cases test with
  | sameId => exact iff_of_false hid hid'
  | sameName => exact iff_of_false hname hname'
  | samePath => exact iff_of_false hpath hpath'
  | alikeId | alikeName | alikePath => simp only [Test.Passes, h]

theorem findIndex?_congr {other : String}
    (h : ∀ a ∈ assets, ∀ test : Test, test.Passes key a ↔ test.Passes other a) :
    findIndex? assets key = findIndex? assets other := by
  refine Option.ext fun place => ?_
  rw [findIndex?_eq_some_iff, findIndex?_eq_some_iff]
  constructor
  · rintro ⟨test, a, hbest⟩
    exact ⟨test, a, hbest.congr h⟩
  · rintro ⟨test, a, hbest⟩
    exact ⟨test, a, hbest.congr fun b hb t => (h b hb t).symm⟩

/-- The search takes the best match. Normal forms have only small letters, digits and underscores
and are their own normal forms; nothing is found just if no asset passes a test; what is found is
the best match, at its place; and keys of one normal form that are no parts of assets find the same
asset. -/
theorem search_takes_best_match (assets : List Asset) (key : String) :
    normalizeKey (normalizeKey key) = normalizeKey key ∧
    (∀ c ∈ (normalizeKey key).toList, IsKeyChar c) ∧
    (find? assets key = none ↔ ∀ a ∈ assets, ∀ test : Test, ¬ test.Passes key a) ∧
    (∀ a, find? assets key = some a ↔
      ∃ test place, Best assets key test place a ∧ findIndex? assets key = some place) ∧
    (∀ other, normalizeKey key = normalizeKey other → Unlisted assets key → Unlisted assets other →
      find? assets key = find? assets other ∧
        findIndex? assets key = findIndex? assets other) := by
  refine ⟨normalizeKey_normalizeKey key, fun c hc => isKeyChar_of_mem_normalizeKey hc,
    find?_eq_none_iff, fun a => find?_eq_some_iff, fun other h hkey hother => ?_⟩
  have hplace := findIndex?_congr (hkey.passes_iff hother h)
  exact ⟨by rw [find?_eq_bind, hplace, find?_eq_bind], hplace⟩

def heroes : List Asset :=
  [{ name := some "Hero.png" }, { path := some "img/hero.png" }, { id := some "hero" }]

theorem search_takes_best_match_heroes :
    normalizeKey "HERO.png" = normalizeKey "Hero.gif" ∧ Unlisted heroes "HERO.png" ∧
    Unlisted heroes "Hero.gif" ∧ findIndex? heroes "Hero.gif" = some 2 ∧
    find? heroes "HERO.png" = find? heroes "Hero.gif" ∧
    findIndex? heroes "HERO.png" = findIndex? heroes "Hero.gif" := by
  have hform : normalizeKey "HERO.png" = normalizeKey "Hero.gif" := by decide +kernel
  have hpng : Unlisted heroes "HERO.png" := by decide
  have hgif : Unlisted heroes "Hero.gif" := by decide
  obtain ⟨-, -, -, -, hsame⟩ := search_takes_best_match heroes "HERO.png"
  exact ⟨hform, hpng, hgif, by decide +kernel, hsame "Hero.gif" hform hpng hgif⟩

end Asset

end BranchingStory
