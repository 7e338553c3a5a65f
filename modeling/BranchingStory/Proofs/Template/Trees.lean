import BranchingStory.Proofs.Template.Grouping
import BranchingStory.Proofs.Template.Spelling

/-!
Trees of calls, and all the texts that write one. Leaves are quoted texts and bare words; a call
that is an argument stands in parentheses, and further parentheses may stand around any item.
Parsing such a text gives back the tree, whichever way it is written. A text that cannot be parsed
has one of four defects, each said of the text alone.
-/

namespace BranchingStory.Expression

inductive Tree where
  | quoted (text : String)
  | word (text : String)
  | call (helper : String) (arguments : List Tree)

namespace Tree

mutual

def meaning : Tree → Expression
  | .quoted text => .literal (.text text)
  | .word text => ofWord text
  | .call helper arguments => .call helper (meanings arguments)

def meanings : List Tree → List Expression
  | [] => []
  | tree :: rest => tree.meaning :: meanings rest

end

inductive WellFormed (isHelper : String → Bool) : Tree → Prop
  | quoted (text : String) : WellFormed isHelper (.quoted text)
  | word {word : String} (hbare : Bare word) (hfree : isHelper word = false) :
      WellFormed isHelper (.word word)
  | call {helper : String} {arguments : List Tree} (hbare : Bare helper) (hnamed : Named helper)
      (hhelper : isHelper helper = true)
      (harguments : ∀ tree ∈ arguments, WellFormed isHelper tree) :
      WellFormed isHelper (.call helper arguments)

inductive Writes : Tree → Item → Prop
  | quoted (text : String) : Writes (.quoted text) (.quoted text)
  | word (word : String) : Writes (.word word) (.word word)
  | parentheses {tree : Tree} {item : Item} (hitem : Writes tree item) :
      Writes tree (.group [item])
  | call {helper : String} {arguments : List Tree} {items : List Item}
      (hlength : arguments.length = items.length)
      (harguments : ∀ written ∈ arguments.zip items, Writes written.1 written.2) :
      Writes (.call helper arguments) (.group (.word helper :: items))

/-- The text writes the tree. Around the whole of a text no parentheses are needed. -/
def Renders (tree : Tree) (text : String) : Prop :=
  ∃ items, Writes tree (.group items) ∧ Spells (tokensOf items) text.toList

variable {isHelper : String → Bool}

/-! ### What a text that writes a tree parses to -/

/-- Alone in a group, the meaning of a tree stays what it is. -/
theorem WellFormed.ofItems_meaning {tree : Tree} (h : WellFormed isHelper tree) :
    ofItems isHelper [tree.meaning] = .ok tree.meaning := by
  cases hmeaning : tree.meaning with
  | path name =>
      cases h with
      | quoted text => simp [meaning] at hmeaning
      | word hbare hfree =>
          rw [meaning, ofWord_eq_path_iff] at hmeaning
          obtain ⟨rfl, -⟩ := hmeaning
          simp [ofItems, hfree]
      | call => simp [meaning] at hmeaning
  | _ => rfl

theorem readAll_eq_ok {arguments : List Tree} {items : List Item}
    (hlength : arguments.length = items.length)
    (h : ∀ written ∈ arguments.zip items, written.2.read isHelper = .ok written.1.meaning) :
    readAll isHelper items = .ok (meanings arguments) := by
  induction arguments generalizing items with
  | nil =>
      obtain rfl := List.length_eq_zero_iff.mp hlength.symm
      rfl
  | cons tree arguments ih =>
      cases items with
      | nil => cases hlength
      | cons item items =>
          rw [List.zip_cons_cons, List.forall_mem_cons] at h
          rw [readAll, h.1, ih (Nat.succ.inj hlength) h.2, meanings]
          rfl

/-- An item reads as the tree that it writes. -/
theorem Writes.read {tree : Tree} {item : Item} (h : Writes tree item)
    (hwell : WellFormed isHelper tree) : item.read isHelper = .ok tree.meaning := by
  induction h with
  | quoted text => rfl
  | word word => rfl
  | parentheses _ ih =>
      rw [Item.read, readAll, ih hwell]
      exact hwell.ofItems_meaning
  | @call helper arguments items hlength _ ih =>
      cases hwell with
      | call hbare hnamed hhelper harguments =>
          have hall : readAll isHelper items = .ok (meanings arguments) := by
            refine readAll_eq_ok hlength fun written hwritten => ih written hwritten ?_
            exact harguments _ (List.of_mem_zip hwritten).1
          simp only [Item.read, readAll, hnamed.ofWord, hall, Except.bind, ofItems, hhelper,
            ↓reduceIte, meaning]

theorem parse_of_spells {items : List Item} {text : String}
    (h : Spells (tokensOf items) text.toList) :
    parse isHelper text = (Item.group items).read isHelper := by
  rw [parse, tokens?_eq_some_iff.mpr h]
  exact group_tokensOf items

/-! ### Every tree can be written -/

theorem exists_escaped (mark : Char) (meant : List Char) :
    ∃ written, Escaped mark written meant := by
  induction meant with
  | nil => exact ⟨[], .nil⟩
  | cons c meant ih =>
      obtain ⟨written, hwritten⟩ := ih
      exact ⟨'\\' :: c :: written, .escaped hwritten⟩

theorem exists_spells {tokens : List Token} (h : ∀ word, .word word ∈ tokens → Bare word) :
    ∃ cs, Spells tokens cs := by
  induction tokens with
  | nil => exact ⟨[], .nil⟩
  | cons token tokens ih =>
      obtain ⟨cs, hcs⟩ := ih fun word hword => h word (List.mem_cons_of_mem _ hword)
      cases token with
      | openGroup => exact ⟨_, .openGroup hcs⟩
      | closeGroup => exact ⟨_, .closeGroup hcs⟩
      | quoted text =>
          obtain ⟨written, hwritten⟩ := exists_escaped '"' text.toList
          exact ⟨_, .quoted rfl hwritten hcs⟩
      | word word =>
          refine ⟨word.toList ++ ' ' :: cs, .word (h word List.mem_cons_self) ?_ (.blank rfl hcs)⟩
          exact fun next later _ => ⟨' ', cs, rfl, rfl⟩

theorem exists_items {arguments : List Tree}
    (h : ∀ tree ∈ arguments, ∃ item, Writes tree item ∧
      ∀ word, .word word ∈ item.tokens → Bare word) :
    ∃ items, arguments.length = items.length ∧
      (∀ written ∈ arguments.zip items, Writes written.1 written.2) ∧
      ∀ word, .word word ∈ tokensOf items → Bare word := by
  induction arguments with
  | nil => exact ⟨[], rfl, by simp, by simp [tokensOf]⟩
  | cons tree arguments ih =>
      obtain ⟨⟨item, hitem, hbare⟩, hrest⟩ := List.forall_mem_cons.mp h
      obtain ⟨items, hlength, hitems, hbares⟩ := ih hrest
      refine ⟨item :: items, congrArg Nat.succ hlength, ?_, fun word hword => ?_⟩
      · rw [List.zip_cons_cons, List.forall_mem_cons]
        exact ⟨hitem, hitems⟩
      · rcases List.mem_append.mp hword with hword | hword
        · exact hbare word hword
        · exact hbares word hword

theorem WellFormed.exists_item {tree : Tree} (h : WellFormed isHelper tree) :
    ∃ item, Writes tree item ∧ ∀ word, .word word ∈ item.tokens → Bare word := by
  induction h with
  | quoted text => exact ⟨.quoted text, .quoted text, by simp [Item.tokens]⟩
  | @word word hbare => exact ⟨.word word, .word word, by simp [Item.tokens, hbare]⟩
  | @call helper arguments hbare _ _ _ ih =>
      obtain ⟨items, hlength, hitems, hbares⟩ := exists_items ih
      refine ⟨.group (.word helper :: items), .call hlength hitems, fun word hword => ?_⟩
      simp only [Item.tokens, tokensOf, List.cons_append, List.nil_append, List.mem_cons,
        List.mem_append, reduceCtorEq, false_or, Token.word.injEq, List.not_mem_nil,
        or_false] at hword
      rcases hword with rfl | hword
      · exact hbare
      · exact hbares word hword

theorem WellFormed.exists_renders {tree : Tree} (h : WellFormed isHelper tree) :
    ∃ text, Renders tree text := by
  obtain ⟨item, hitem, hbare⟩ := h.exists_item
  obtain ⟨cs, hcs⟩ := exists_spells hbare
  refine ⟨String.ofList cs, [item], .parentheses hitem, ?_⟩
  simpa [tokensOf] using hcs

/-! ### Which texts cannot be parsed -/

theorem not_proper_iff {items : List Item} :
    ¬ Proper isHelper items ↔ items = [] ∨
      ∃ first second rest, items = first :: second :: rest ∧ ¬ first.Callable isHelper := by
  match items with
  | [] => simp [Proper]
  | [item] => simp [Proper]
  | first :: second :: rest => simp [Proper]

/-- Items fail to be read exactly if one of their groups is empty, or has two items or more of which
the first cannot be called. -/
theorem read_fails_iff (item : Item) :
    (∃ fault, item.read isHelper = .error fault) ↔ [] ∈ item.groups ∨
      ∃ first second rest, first :: second :: rest ∈ item.groups ∧
        ¬ first.Callable isHelper := by
  have hread : (∃ fault, item.read isHelper = .error fault) ↔
      ¬ ∃ e, item.read isHelper = .ok e := by
    cases item.read isHelper <;> simp
  rw [hread, Item.exists_read_iff]
  simp only [not_forall]
  constructor
  · rintro ⟨items, hitems, hproper⟩
    rcases not_proper_iff.mp hproper with rfl | ⟨first, second, rest, rfl, hfirst⟩
    · exact .inl hitems
    · exact .inr ⟨first, second, rest, hitems, hfirst⟩
  · rintro (hempty | ⟨first, second, rest, hitems, hfirst⟩)
    · exact ⟨[], hempty, not_proper_iff.mpr (.inl rfl)⟩
    · exact ⟨_, hitems, not_proper_iff.mpr (.inr ⟨first, second, rest, rfl, hfirst⟩)⟩

theorem parse_of_unterminated {text : String} (h : Unterminated text.toList) :
    parse isHelper text = .error (.unterminatedText text) := by
  rw [parse, tokens?_eq_none_iff.mpr h]

theorem parse_of_not_balanced {tokens : List Token} {text : String}
    (h : Spells tokens text.toList) (hbalanced : ¬ Balanced tokens) :
    ∃ fault, parse isHelper text = .error fault := by
  rw [parse, tokens?_eq_some_iff.mpr h]
  cases hgroup : group isHelper [] [] tokens with
  | error fault => exact ⟨fault, hgroup⟩
  | ok e => exact absurd (closes_of_group_eq_ok hgroup) hbalanced

/-- Every tree can be written, and every text that writes a tree parses to it. A text fails to parse
exactly if a quoted text in it does not end, if its parentheses outside quoted texts do not balance,
if one of its groups is empty, or if one has two items or more and does not begin with the name of
a helper. -/
theorem parse_exact (isHelper : String → Bool) :
    (∀ tree, WellFormed isHelper tree → (∃ text, Renders tree text) ∧
      ∀ text, Renders tree text → parse isHelper text = .ok tree.meaning) ∧
    ∀ text : String, (∃ fault, parse isHelper text = .error fault) ↔
      Unterminated text.toList ∨
      (∃ tokens, Spells tokens text.toList ∧ ¬ Balanced tokens) ∨
      ∃ items, Spells (tokensOf items) text.toList ∧
        ([] ∈ (Item.group items).groups ∨
          ∃ first second rest, first :: second :: rest ∈ (Item.group items).groups ∧
            ¬ first.Callable isHelper) := by
  refine ⟨fun tree hwell => ⟨hwell.exists_renders, ?_⟩, fun text => ⟨?_, ?_⟩⟩
  · rintro text ⟨items, hwrites, hspells⟩
    rw [parse_of_spells hspells, hwrites.read hwell]
  · rintro ⟨fault, hfault⟩
    rcases spells_or_unterminated text.toList with ⟨tokens, hspells⟩ | hunterminated
    · by_cases hbalanced : Balanced tokens
      · obtain ⟨items, rfl⟩ := hbalanced.exists_items
        rw [parse_of_spells hspells] at hfault
        exact .inr (.inr ⟨items, hspells, (read_fails_iff _).mp ⟨fault, hfault⟩⟩)
      · exact .inr (.inl ⟨tokens, hspells, hbalanced⟩)
    · exact .inl hunterminated
  · rintro (hunterminated | ⟨tokens, hspells, hbalanced⟩ | ⟨items, hspells, hgroups⟩)
    · exact ⟨_, parse_of_unterminated hunterminated⟩
    · exact parse_of_not_balanced hspells hbalanced
    · rw [parse_of_spells hspells]
      exact (read_fails_iff _).mpr hgroups

/-- A call in parentheses, with both quotes and a backslash in its quoted text, a call in
parentheses twice, and white space only where two words meet; then a parenthesis that only a quoted
text closes. -/
theorem parse_exact_concat :
    parse (· == "concat") "(concat'it\\'s \\\\ \"so\"'((concat\u3000items))true)" =
        .ok (.call "concat" [.literal (.text "it's \\ \"so\""), .call "concat" [.path "items"],
          .literal (.bool true)]) ∧
      ∃ fault, parse (· == "concat") "concat (items 'all)'" = .error fault := by
  have hconcat : Named "concat" := by decide +kernel
  have hitems : Named "items" := by decide +kernel
  have hwell : WellFormed (· == "concat") (.call "concat" [.quoted "it's \\ \"so\"",
      .call "concat" [.word "items"], .word "true"]) := by
    refine .call (by decide) hconcat rfl ?_
    simp only [List.mem_cons, List.not_mem_nil, or_false, forall_eq_or_imp, forall_eq]
    refine ⟨.quoted _, .call (by decide) hconcat rfl ?_, .word (by decide) (by decide)⟩
    simp only [List.mem_singleton, forall_eq]
    exact .word (by decide) (by decide)
  have hwrites : Writes (.call "concat" [.quoted "it's \\ \"so\"",
      .call "concat" [.word "items"], .word "true"])
      (.group [.group [.word "concat", .quoted "it's \\ \"so\"",
        .group [.group [.word "concat", .word "items"]], .word "true"]]) := by
    refine .parentheses (.call rfl ?_)
    simp only [List.zip_cons_cons, List.zip_nil_left, List.mem_cons, List.not_mem_nil, or_false,
      forall_eq_or_imp, forall_eq]
    refine ⟨.quoted _, .parentheses (.call rfl ?_), .word _⟩
    simp only [List.zip_cons_cons, List.zip_nil_left, List.mem_singleton, forall_eq]
    exact .word _
  constructor
  · have hparse := ((parse_exact (· == "concat")).1 _ hwell).2
      "(concat'it\\'s \\\\ \"so\"'((concat\u3000items))true)"
      ⟨_, hwrites, tokens?_eq_some_iff.mp (by decide +kernel)⟩
    rw [hparse]
    simp only [meaning, meanings, hitems.ofWord]
    rfl
  · refine ((parse_exact (· == "concat")).2 "concat (items 'all)'").mpr (.inr (.inl ?_))
    refine ⟨[.word "concat", .openGroup, .word "items", .quoted "all)"],
      tokens?_eq_some_iff.mp (by decide +kernel), fun hbalanced => ?_⟩
    have hsettled := hbalanced.settled
    revert hsettled
    decide

end Tree

end BranchingStory.Expression
