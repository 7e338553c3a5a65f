import BranchingStory.Proofs.Template.Trees
import BranchingStory.Template.Render

/-!
Values of expressions that are given as text: what white space and braces around the text do to it,
and the words that stand for variables.
-/

namespace BranchingStory

namespace Expression

/-! ### Identifiers -/

def isLetter (c : Char) : Bool := c.isAlpha || c = '_'

/-- A plain name of a variable: letters, digits and underscores of ASCII, with no digit first, and
none of the words that stand for something else. -/
def isIdentifier (word : String) : Bool :=
  match word.toList with
  | [] => false
  | c :: rest =>
    isLetter c && rest.all (fun d => isLetter d || d.isDigit) && !literalWords.contains word

theorem toNat_of_isLetter {c : Char} (h : isLetter c = true) :
    65 ≤ c.toNat ∧ c.toNat ≤ 90 ∨ 97 ≤ c.toNat ∧ c.toNat ≤ 122 ∨ c.toNat = 95 := by
  change ((decide (65 ≤ c.val ∧ c.val ≤ 90) || (decide (97 ≤ c.val) && decide (c.val ≤ 122))) ||
    decide (c = '_')) = true at h
  simp only [Bool.or_eq_true, Bool.and_eq_true, decide_eq_true_eq, UInt32.le_iff_toNat_le] at h
  change ((65 ≤ c.toNat ∧ c.toNat ≤ 90) ∨ 97 ≤ c.toNat ∧ c.toNat ≤ 122) ∨ c = '_' at h
  rcases h with (h | h) | rfl
  · exact .inl h
  · exact .inr (.inl h)
  · exact .inr (.inr rfl)

theorem toNat_of_isDigit {c : Char} (h : c.isDigit = true) : 48 ≤ c.toNat ∧ c.toNat ≤ 57 := by
  simp only [Char.isDigit, Bool.and_eq_true, decide_eq_true_eq, ge_iff_le,
    UInt32.le_iff_toNat_le] at h
  exact h

theorem isBoundary_eq_false {c : Char}
    (h : 48 ≤ c.toNat ∧ c.toNat ≤ 57 ∨ 65 ≤ c.toNat ∧ c.toNat ≤ 122) : isBoundary c = false := by
  have hne : ∀ d : Char, d.toNat < 48 → c ≠ d := by
    rintro d hd rfl
    omega
  have hblank : Text.isBlank c = false := by
    simp only [Text.isBlank, Bool.or_eq_false_iff, Bool.and_eq_false_iff, decide_eq_false_iff_not,
      beq_eq_false_iff_ne]
    omega
  simp [isBoundary, isQuote, hblank, hne]

theorem isIdentifier_eq_true {word : String} (h : isIdentifier word = true) :
    ∃ c rest, word.toList = c :: rest ∧ isLetter c = true ∧
      (∀ d ∈ rest, isLetter d = true ∨ d.isDigit = true) ∧ word ∉ literalWords := by
  unfold isIdentifier at h
  split at h
  · cases h
  · rename_i c rest hword
    simp only [Bool.and_eq_true, List.all_eq_true, Bool.or_eq_true, Bool.not_eq_true',
      List.contains_eq_mem, decide_eq_false_iff_not] at h
    exact ⟨c, rest, hword, h.1.1, h.1.2, h.2⟩

theorem toNat_of_isIdentifier {word : String} (h : isIdentifier word = true) :
    ∀ c ∈ word.toList, 48 ≤ c.toNat ∧ c.toNat ≤ 57 ∨ 65 ≤ c.toNat ∧ c.toNat ≤ 122 := by
  obtain ⟨first, rest, hword, hfirst, hrest, -⟩ := isIdentifier_eq_true h
  rw [hword, List.forall_mem_cons]
  constructor
  · have := toNat_of_isLetter hfirst
    omega
  · intro c hc
    rcases hrest c hc with hletter | hdigit
    · have := toNat_of_isLetter hletter
      omega
    · exact .inl (toNat_of_isDigit hdigit)

theorem bare_of_isIdentifier {word : String} (h : isIdentifier word = true) : Bare word := by
  refine ⟨?_, fun c hc => isBoundary_eq_false (toNat_of_isIdentifier h c hc)⟩
  rintro rfl
  cases h

/-- A number that begins with a letter is an infinity or no number at all. -/
theorem isFinite_of_isLetter {word : String} {c : Char} {rest : List Char}
    (hword : word.toList = c :: rest) (hc : isLetter c = true) {x : Float}
    (h : Decimal.float? word = some x) : x.isFinite = false := by
  have hrange := toNat_of_isLetter hc
  have hne : ∀ d : Char, d.toNat < 58 → c ≠ d := by
    rintro d hd rfl
    omega
  have hminus := hne '-' (by decide)
  have hplus := hne '+' (by decide)
  have hpoint := hne '.' (by decide)
  have hdigit : Decimal.isDigit c = false := by
    simp only [Decimal.isDigit, Bool.and_eq_false_iff, decide_eq_false_iff_not, Char.le_def,
      UInt32.le_iff_toNat_le]
    right
    change ¬ c.toNat ≤ 57
    omega
  have hunsigned : Decimal.unsigned? (c :: rest) = none := by
    simp [Decimal.unsigned?, hdigit, hpoint]
  unfold Decimal.float? at h
  rw [hword] at h
  split at h
  rename_i negative body hsign
  obtain ⟨rfl, rfl⟩ : negative = false ∧ body = c :: rest := by
    split at hsign
    · rename_i heq
      cases heq
      exact absurd rfl hminus
    · rename_i heq
      cases heq
      exact absurd rfl hplus
    · cases hsign
      exact ⟨rfl, rfl⟩
  simp only [hunsigned, Bool.false_eq_true, ↓reduceIte] at h
  split_ifs at h with hinfinite hnan
  · cases h
    decide +kernel
  · cases h
    decide +kernel

theorem named_of_isIdentifier {word : String} (h : isIdentifier word = true) : Named word := by
  obtain ⟨c, rest, hword, hc, -, hliteral⟩ := isIdentifier_eq_true h
  exact ⟨hliteral, fun x hx => isFinite_of_isLetter hword hc hx⟩

/-! ### White space -/

/-- White space around a text does not change what it parses to. -/
theorem parse_trim {isHelper : String → Bool} {text : String} {e : Expression} :
    parse isHelper (Text.trim text) = .ok e ↔ parse isHelper text = .ok e := by
  rw [parse, parse, tokens?_trim]
  cases tokens? text <;> simp

end Expression

namespace Template

open Expression

variable {r : Registry} {context : Context}

theorem valueOfText_eq_ok_iff {text : String} {v : Option Value} :
    valueOfText r context text = .ok v ↔ ∃ e, parse r.contains text = .ok e ∧
      e.depth ≤ maxDepth ∧ value r context e = .ok v := by
  rw [valueOfText]
  cases parse r.contains text with
  | error fault => simp
  | ok e =>
      by_cases hdepth : maxDepth < e.depth
      · simp [hdepth, Nat.not_le.mpr hdepth]
      · simp [hdepth, Nat.not_lt.mp hdepth]

theorem valueOfText_trim {text : String} {v : Option Value} :
    valueOfText r context (Text.trim text) = .ok v ↔ valueOfText r context text = .ok v := by
  simp only [valueOfText_eq_ok_iff, parse_trim]

/-- A bare word that is no literal and names no helper is a variable. -/
theorem valueOfText_word {word : String} (hbare : Bare word) (hnamed : Named word)
    (hfree : r.contains word = false) :
    valueOfText r context word = .ok (context.state.lookup? word) := by
  have hspells : Spells (tokensOf [.word word]) word.toList := by
    have h := Spells.word_cons hbare (by simp) .nil
    rwa [List.append_nil] at h
  have hparse : parse r.contains word = .ok (.path word) := by
    rw [Tree.parse_of_spells hspells]
    simp [Item.read, readAll, hnamed.ofWord, Except.bind, ofItems, hfree]
  rw [valueOfText_eq_ok_iff]
  exact ⟨.path word, hparse, Nat.zero_le _, rfl⟩

theorem valueOfText_identifier {word : String} (hword : isIdentifier word = true)
    (hfree : r.contains word = false) :
    valueOfText r context word = .ok (context.state.lookup? word) :=
  valueOfText_word (bare_of_isIdentifier hword) (named_of_isIdentifier hword) hfree

/-! ### Braces around a text -/

/-- Two braces on either side are taken off, with the white space around them. -/
theorem withoutBraces_of_braced {text : String} {inner : List Char}
    (h : Text.trimChars text.toList = '\x7b' :: '\x7b' :: (inner ++ ['\x7d', '\x7d'])) :
    withoutBraces text = String.ofList inner := by
  simp [withoutBraces, h]

/-- Without braces on both sides only the white space is taken off. -/
theorem withoutBraces_of_not_braced {text : String}
    (h : ∀ inner, Text.trimChars text.toList ≠ '\x7b' :: '\x7b' :: (inner ++ ['\x7d', '\x7d'])) :
    withoutBraces text = Text.trim text := by
  rw [withoutBraces, Text.trim]
  split
  · rename_i rest hopen
    split
    · rename_i inner hclose
      refine absurd ?_ (h inner.reverse)
      rw [hopen, ← List.reverse_reverse rest, hclose]
      simp
    · rfl
  · rfl

theorem trimChars_eq_self {cs : List Char} (hfirst : ∀ c ∈ cs.head?, Text.isBlank c = false)
    (hlast : ∀ c ∈ cs.getLast?, Text.isBlank c = false) : Text.trimChars cs = cs := by
  have hdrop : ∀ {ds : List Char}, (∀ c ∈ ds.head?, Text.isBlank c = false) →
      ds.dropWhile Text.isBlank = ds := by
    intro ds hds
    cases ds with
    | nil => rfl
    | cons d ds => rw [List.dropWhile_cons_of_neg (by simp [hds d rfl])]
  rw [Text.trimChars, hdrop hfirst, hdrop (by rwa [List.head?_reverse]), List.reverse_reverse]

theorem withoutBraces_eq_self {text : String}
    (hfirst : ∀ c ∈ text.toList.head?, Text.isBlank c = false)
    (hlast : ∀ c ∈ text.toList.getLast?, Text.isBlank c = false ∧ c ≠ '\x7d') :
    withoutBraces text = text := by
  have htrim := trimChars_eq_self hfirst fun c hc => (hlast c hc).1
  rw [withoutBraces_of_not_braced, Text.trim, htrim, String.ofList_toList]
  intro inner hinner
  refine (hlast '\x7d' ?_).2 rfl
  rw [← htrim, hinner]
  simp [List.getLast?_cons]

end Template

end BranchingStory
