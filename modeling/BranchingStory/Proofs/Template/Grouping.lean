import BranchingStory.Template.Expression
import Mathlib.Data.List.Infix

/-!
Tokens in groups. Tokens whose parentheses balance are the tokens of items, where an item is a
quoted text, a word, or a group of items in parentheses. Grouping them reads the items one by one,
so what it gives is a matter of each group for itself: a group fails if it is empty, or if it has
two items or more and does not begin with the name of a helper.
-/

namespace BranchingStory.Expression

/-! ### Items -/

/-- An item of an expression. The whole expression counts as a group without its parentheses. -/
inductive Item where
  | quoted (text : String)
  | word (text : String)
  | group (items : List Item)

mutual

def Item.tokens : Item → List Token
  | .quoted text => [.quoted text]
  | .word text => [.word text]
  | .group items => .openGroup :: (tokensOf items ++ [.closeGroup])

def tokensOf : List Item → List Token
  | [] => []
  | item :: rest => item.tokens ++ tokensOf rest

end

mutual

/-- The groups that an item has: itself, if it is one, and those inside it. -/
def Item.groups : Item → List (List Item)
  | .quoted _ => []
  | .word _ => []
  | .group items => items :: groupsOf items

def groupsOf : List Item → List (List Item)
  | [] => []
  | item :: rest => item.groups ++ groupsOf rest

end

mutual

def Item.read (isHelper : String → Bool) : Item → Except ExpressionFault Expression
  | .quoted text => .ok (.literal (.text text))
  | .word word => .ok (ofWord word)
  | .group items => (readAll isHelper items).bind (ofItems isHelper)

def readAll (isHelper : String → Bool) : List Item → Except ExpressionFault (List Expression)
  | [] => .ok []
  | item :: rest =>
    (item.read isHelper).bind fun e => (readAll isHelper rest).bind fun es => .ok (e :: es)

end

variable {isHelper : String → Bool}

mutual

/-- Grouping the tokens of an item puts what the item reads behind the items before it. -/
theorem group_item (item : Item) (done : List Expression) (outer : List (List Expression))
    (rest : List Token) :
    group isHelper done outer (item.tokens ++ rest) =
      (item.read isHelper).bind fun e => group isHelper (e :: done) outer rest := by
  cases item with
  | quoted text => rfl
  | word word => rfl
  | group items =>
      have hitems := group_items items [] (done :: outer) (.closeGroup :: rest)
      simp only [Item.tokens, List.cons_append, List.append_assoc, List.nil_append, group,
        hitems, Item.read]
      cases readAll isHelper items with
      | error fault => rfl
      | ok es =>
          simp only [Except.bind, List.append_nil, List.reverse_reverse]
          cases ofItems isHelper es <;> rfl

theorem group_items (items : List Item) (done : List Expression) (outer : List (List Expression))
    (rest : List Token) :
    group isHelper done outer (tokensOf items ++ rest) =
      (readAll isHelper items).bind fun es => group isHelper (es.reverse ++ done) outer rest := by
  cases items with
  | nil => rfl
  | cons item more =>
      rw [tokensOf, List.append_assoc, group_item item done outer, readAll]
      cases item.read isHelper with
      | error fault => rfl
      | ok e =>
          simp only [Except.bind]
          rw [group_items more (e :: done) outer rest]
          cases readAll isHelper more with
          | error fault => rfl
          | ok es => simp [Except.bind]

end

theorem group_tokensOf (items : List Item) :
    group isHelper [] [] (tokensOf items) = (Item.group items).read isHelper := by
  calc
    group isHelper [] [] (tokensOf items) = group isHelper [] [] (tokensOf items ++ []) := by
      rw [List.append_nil]
    _ = (Item.group items).read isHelper := by
      rw [group_items, Item.read]
      simp [group]

/-! ### Balance -/

/-- The parentheses close `depth` groups that are open before them and all that they open: nowhere
have more been closed than were open, and in the end none is left. -/
structure Closes (depth : Nat) (tokens : List Token) : Prop where
  sane : ∀ taken, taken <+: tokens →
    taken.count .closeGroup ≤ depth + taken.count .openGroup
  settled : tokens.count .closeGroup = depth + tokens.count .openGroup

def Balanced (tokens : List Token) : Prop := Closes 0 tokens

theorem closes_nil {depth : Nat} : Closes depth [] ↔ depth = 0 := by
  constructor
  · intro h
    simpa using h.settled.symm
  · rintro rfl
    refine ⟨fun taken htaken => ?_, rfl⟩
    rw [List.prefix_nil.mp htaken]
    simp

/-- A token shifts the number of open groups by what it opens and closes. -/
theorem closes_cons_iff {depth next : Nat} {token : Token} {tokens : List Token}
    (hnext : depth + [token].count .openGroup = next + [token].count .closeGroup) :
    Closes depth (token :: tokens) ↔ Closes next tokens := by
  have hcount : ∀ (kind : Token) (taken : List Token),
      (token :: taken).count kind = [token].count kind + taken.count kind := by
    intro kind taken
    rw [← List.count_append, List.singleton_append]
  constructor
  · rintro ⟨hsane, hsettled⟩
    rw [hcount _ tokens, hcount _ tokens] at hsettled
    refine ⟨fun taken htaken => ?_, by omega⟩
    have htoken := hsane (token :: taken) (List.cons_prefix_cons.mpr ⟨rfl, htaken⟩)
    rw [hcount _ taken, hcount _ taken] at htoken
    omega
  · rintro ⟨hsane, hsettled⟩
    refine ⟨fun taken htaken => ?_, ?_⟩
    · rcases List.prefix_cons_iff.mp htaken with rfl | ⟨more, rfl, hmore⟩
      · simp
      · have hrest := hsane more hmore
        rw [hcount _ more, hcount _ more]
        omega
    · rw [hcount _ tokens, hcount _ tokens]
      omega

theorem closes_openGroup {depth : Nat} {tokens : List Token} :
    Closes depth (.openGroup :: tokens) ↔ Closes (depth + 1) tokens :=
  closes_cons_iff rfl

theorem closes_closeGroup {depth : Nat} {tokens : List Token} :
    Closes (depth + 1) (.closeGroup :: tokens) ↔ Closes depth tokens :=
  closes_cons_iff rfl

theorem not_closes_zero_closeGroup {tokens : List Token} :
    ¬ Closes 0 (.closeGroup :: tokens) := by
  intro h
  have hfirst := h.sane [.closeGroup] (List.cons_prefix_cons.mpr ⟨rfl, List.nil_prefix⟩)
  cases hfirst

theorem closes_quoted {depth : Nat} {text : String} {tokens : List Token} :
    Closes depth (.quoted text :: tokens) ↔ Closes depth tokens :=
  closes_cons_iff (by simp)

theorem closes_word {depth : Nat} {text : String} {tokens : List Token} :
    Closes depth (.word text :: tokens) ↔ Closes depth tokens :=
  closes_cons_iff (by simp)

/-- Between the parentheses that close what was open before stand tokens of items. -/
theorem Closes.exists_items {depth : Nat} {tokens : List Token} (h : Closes depth tokens) :
    ∃ (first : List Item) (others : List (List Item)), others.length = depth ∧
      tokens = tokensOf first ++ others.flatMap fun items => .closeGroup :: tokensOf items := by
  induction tokens generalizing depth with
  | nil => exact ⟨[], [], (closes_nil.mp h).symm, rfl⟩
  | cons token tokens ih =>
      cases token with
      | openGroup =>
          obtain ⟨inner, others, hlength, rfl⟩ := ih (closes_openGroup.mp h)
          cases others with
          | nil => simp at hlength
          | cons next others =>
              refine ⟨.group inner :: next, others, by simpa using hlength, ?_⟩
              simp [tokensOf, Item.tokens]
      | closeGroup =>
          cases depth with
          | zero => exact absurd h not_closes_zero_closeGroup
          | succ depth =>
              obtain ⟨first, others, rfl, rfl⟩ := ih (closes_closeGroup.mp h)
              exact ⟨[], first :: others, rfl, rfl⟩
      | quoted text =>
          obtain ⟨first, others, hlength, rfl⟩ := ih (closes_quoted.mp h)
          exact ⟨.quoted text :: first, others, hlength, rfl⟩
      | word text =>
          obtain ⟨first, others, hlength, rfl⟩ := ih (closes_word.mp h)
          exact ⟨.word text :: first, others, hlength, rfl⟩

theorem Balanced.exists_items {tokens : List Token} (h : Balanced tokens) :
    ∃ items, tokens = tokensOf items := by
  obtain ⟨items, others, hlength, rfl⟩ := Closes.exists_items h
  rw [List.length_eq_zero_iff.mp hlength]
  exact ⟨items, by simp⟩

/-- Grouping succeeds only if every group that is open is closed. -/
theorem closes_of_group_eq_ok {done : List Expression} {outer : List (List Expression)}
    {tokens : List Token} {e : Expression} (h : group isHelper done outer tokens = .ok e) :
    Closes outer.length tokens := by
  induction tokens generalizing done outer with
  | nil =>
      cases outer with
      | nil => exact closes_nil.mpr rfl
      | cons around outer => cases h
  | cons token tokens ih =>
      cases token with
      | openGroup => exact closes_openGroup.mpr (ih h)
      | closeGroup =>
          cases outer with
          | nil => cases h
          | cons around outer =>
              simp only [group] at h
              split at h
              · cases h
              · exact closes_closeGroup.mpr (ih h)
      | quoted text => exact closes_quoted.mpr (ih h)
      | word text => exact closes_word.mpr (ih h)

/-! ### Which groups have an expression -/

def literalWords : List String := ["true", "false", "null", "undefined"]

/-- A word that is none of the literals: neither a truth value nor nothing nor a finite number. -/
def Named (word : String) : Prop :=
  word ∉ literalWords ∧ ∀ x ∈ Decimal.float? word, x.isFinite = false

instance (word : String) : Decidable (Named word) :=
  inferInstanceAs (Decidable (word ∉ literalWords ∧ ∀ x ∈ Decimal.float? word, x.isFinite = false))

def Item.Callable (isHelper : String → Bool) (item : Item) : Prop :=
  ∃ helper, item = .word helper ∧ Named helper ∧ isHelper helper = true

/-- The group is one item, or begins with what can be called. -/
def Proper (isHelper : String → Bool) : List Item → Prop
  | [] => False
  | [_] => True
  | first :: _ :: _ => first.Callable isHelper

theorem ofWord_eq_path_iff {word name : String} :
    ofWord word = .path name ↔ word = name ∧ Named word := by
  unfold ofWord Named literalWords
  split_ifs with htrue hfalse hnull
  · simp [htrue]
  · simp [hfalse]
  · rcases Bool.or_eq_true_iff.mp hnull with h | h
    · simp [of_decide_eq_true h]
    · simp [of_decide_eq_true h]
  · simp only [Bool.or_eq_true, decide_eq_true_eq, not_or] at hnull
    cases Decimal.float? word with
    | none => simp [htrue, hfalse, hnull]
    | some x =>
        by_cases hx : x.isFinite = true
        · simp [hx]
        · simp [hx, htrue, hfalse, hnull]

theorem Named.ofWord {word : String} (h : Named word) : ofWord word = .path word :=
  ofWord_eq_path_iff.mpr ⟨rfl, h⟩

/-- A group never stands for the bare name of a helper: alone in it, the name is a call. -/
theorem isHelper_of_ofItems {es : List Expression} {name : String}
    (h : ofItems isHelper es = .ok (.path name)) : isHelper name = false := by
  unfold ofItems at h
  split at h
  · cases h
  · split_ifs at h with hhelper halone
    · cases h
    · obtain rfl := Expression.path.inj (Except.ok.inj h)
      simpa using hhelper
  · rename_i item hnotPath
    cases h
    exact absurd rfl (hnotPath name)
  · cases h

theorem Item.callable_of_read {item : Item} {name : String}
    (h : item.read isHelper = .ok (.path name)) (hhelper : isHelper name = true) :
    item.Callable isHelper := by
  cases item with
  | quoted text => simp [Item.read] at h
  | word word =>
      rw [Item.read, Except.ok.injEq, ofWord_eq_path_iff] at h
      obtain ⟨rfl, hnamed⟩ := h
      exact ⟨word, rfl, hnamed, hhelper⟩
  | group items =>
      rw [Item.read] at h
      cases hall : readAll isHelper items with
      | error fault => simp [hall, Except.bind] at h
      | ok es =>
          rw [hall] at h
          rw [isHelper_of_ofItems h] at hhelper
          cases hhelper

theorem exists_ofItems_singleton (e : Expression) : ∃ e', ofItems isHelper [e] = .ok e' := by
  cases e with
  | path name => by_cases h : isHelper name = true <;> simp [ofItems, h]
  | _ => simp [ofItems]

theorem exists_ofItems_cons_cons_iff {first second : Expression} {rest : List Expression} :
    (∃ e, ofItems isHelper (first :: second :: rest) = .ok e) ↔
      ∃ name, first = .path name ∧ isHelper name = true := by
  cases first with
  | path name => by_cases h : isHelper name = true <;> simp [ofItems, h]
  | _ => simp [ofItems]

theorem readAll_cons_eq_ok_iff {item : Item} {rest : List Item} {es : List Expression} :
    readAll isHelper (item :: rest) = .ok es ↔ ∃ e others, item.read isHelper = .ok e ∧
      readAll isHelper rest = .ok others ∧ es = e :: others := by
  rw [readAll]
  cases item.read isHelper with
  | error fault => simp [Except.bind]
  | ok e => cases readAll isHelper rest <;> simp [Except.bind, eq_comm]

/-- If all its items have expressions, a group has one exactly if it is proper. -/
theorem exists_ofItems_iff {items : List Item} {es : List Expression}
    (h : readAll isHelper items = .ok es) :
    (∃ e, ofItems isHelper es = .ok e) ↔ Proper isHelper items := by
  match items with
  | [] =>
      cases h
      simp [ofItems, Proper]
  | [item] =>
      obtain ⟨e, others, -, hnil, rfl⟩ := readAll_cons_eq_ok_iff.mp h
      cases hnil
      simpa [Proper] using exists_ofItems_singleton e
  | first :: second :: rest =>
      obtain ⟨e, others, hfirst, hothers, rfl⟩ := readAll_cons_eq_ok_iff.mp h
      obtain ⟨e', later, -, -, rfl⟩ := readAll_cons_eq_ok_iff.mp hothers
      rw [exists_ofItems_cons_cons_iff, Proper]
      constructor
      · rintro ⟨name, rfl, hhelper⟩
        exact Item.callable_of_read hfirst hhelper
      · rintro ⟨helper, rfl, hnamed, hhelper⟩
        rw [Item.read, hnamed.ofWord] at hfirst
        cases hfirst
        exact ⟨helper, rfl, hhelper⟩

mutual

/-- An item has an expression exactly if all its groups are proper. -/
theorem Item.exists_read_iff (item : Item) :
    (∃ e, item.read isHelper = .ok e) ↔ ∀ items ∈ item.groups, Proper isHelper items := by
  cases item with
  | quoted text => simp [Item.read, Item.groups]
  | word word => simp [Item.read, Item.groups]
  | group items =>
      have hall := exists_readAll_iff items
      rw [Item.groups, List.forall_mem_cons, ← hall, Item.read]
      cases hread : readAll isHelper items with
      | error fault => simp [Except.bind]
      | ok es =>
          rw [← exists_ofItems_iff hread]
          simp [Except.bind]

theorem exists_readAll_iff (items : List Item) :
    (∃ es, readAll isHelper items = .ok es) ↔ ∀ group ∈ groupsOf items, Proper isHelper group := by
  cases items with
  | nil => simp [readAll, groupsOf]
  | cons item rest =>
      have hitem := Item.exists_read_iff item
      have hrest := exists_readAll_iff rest
      rw [groupsOf, List.forall_mem_append, ← hitem, ← hrest]
      constructor
      · rintro ⟨es, hes⟩
        obtain ⟨e, others, he, hothers, -⟩ := readAll_cons_eq_ok_iff.mp hes
        exact ⟨⟨e, he⟩, others, hothers⟩
      · rintro ⟨⟨e, he⟩, others, hothers⟩
        exact ⟨_, readAll_cons_eq_ok_iff.mpr ⟨e, others, he, hothers, rfl⟩⟩

end

end BranchingStory.Expression
