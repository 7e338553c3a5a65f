import BranchingStory.Proofs.Template.Slots

/-!
Conditions in braces. A condition may have its expression in braces as a template has. With two
braces on either side, the template and the condition are read alike. Three braces make a slot of a
template as well, but a condition loses only two of them, so that the third belongs to what is
evaluated.
-/

namespace BranchingStory.Template

variable {r : Registry} {context : Context}

structure ReadsAlike (r : Registry) (context : Context) (written expression : String) : Prop where
  succeeds : (∃ text, render r context written = .ok text) ↔
    ∃ v, evaluate r context written = .ok v
  text : ∀ v, evaluate r context written = .ok v → render r context written = .ok (slotText v)
  value : ∀ v, evaluate r context written = .ok v ↔ evaluate r context expression = .ok v
  condition : ∀ v, evaluate r context written = .ok v →
    holds r context written = .ok (Standard.truthy v)

/-- What a condition in braces leaves to be evaluated. -/
def Braces.evaluated : Braces → String → String
  | .double, expression => expression
  | .triple, expression => "\x7b" ++ expression ++ "\x7d"

theorem evaluate_eq_ok_iff {text : String} {v : Option Value} :
    evaluate r context text = .ok v ↔ valueOfText r context (withoutBraces text) = .ok v := by
  rw [evaluate]
  cases valueOfText r context (withoutBraces text) <;> simp

theorem holds_of_evaluate {text : String} {v : Option Value}
    (h : evaluate r context text = .ok v) : holds r context text = .ok (Standard.truthy v) := by
  rw [holds, h]

theorem render_wrap_eq_ok_iff (b : Braces) {expression text : String}
    (hexpression : Braceless expression) :
    render r context (b.wrap expression) = .ok text ↔
      ∃ v, valueOfText r context expression = .ok v ∧ text = slotText v := by
  have hsegments : segments (b.wrap expression) = [.slot expression] := by
    rw [segments, ← List.append_nil (b.wrap expression).toList, segmentsAfter_wrap b hexpression]
    · rfl
    · simp
  rw [render, hsegments, renderSegments]
  cases valueOfText r context expression <;> simp [renderSegments, eq_comm]

/-- Whatever the expression is, two braces on either side of it are taken off. -/
theorem withoutBraces_wrap (b : Braces) (expression : String) :
    withoutBraces (b.wrap expression) = b.evaluated expression := by
  have hwrap : (b.wrap expression).toList =
      '\x7b' :: '\x7b' :: ((b.evaluated expression).toList ++ ['\x7d', '\x7d']) := by
    cases b <;> simp [toList_wrap, Braces.opening, Braces.closing, Braces.evaluated]
  have htrim : Text.trimChars (b.wrap expression).toList = (b.wrap expression).toList := by
    rw [hwrap]
    apply trimChars_eq_self
    · rintro c ⟨⟩
      decide
    · have hlast : ('\x7b' :: '\x7b' :: ((b.evaluated expression).toList ++
          ['\x7d', '\x7d'])).getLast? = some '\x7d' := by simp [List.getLast?_cons]
      rw [hlast]
      rintro c ⟨⟩
      decide
  rw [withoutBraces_of_braced (htrim.trans hwrap), String.ofList_toList]

/-- An expression that has no braces is evaluated as it is. -/
theorem evaluate_braceless {expression : String} (hexpression : Braceless expression)
    {v : Option Value} :
    evaluate r context expression = .ok v ↔ valueOfText r context expression = .ok v := by
  have hbraces : withoutBraces expression = Text.trim expression := by
    apply withoutBraces_of_not_braced
    intro inner hinner
    obtain ⟨before, after, htext, -, -⟩ := Expression.exists_trimChars expression.toList
    have hmem : '\x7b' ∈ expression.toList := by
      rw [htext, hinner]
      simp
    cases hexpression _ hmem
  rw [evaluate_eq_ok_iff, hbraces, valueOfText_trim]

/-- In two braces, templates and conditions read an expression alike. In three, a template still
has the value of the expression, and a condition that of the expression in single braces. -/
theorem braces_read_alike (r : Registry) (context : Context) {expression : String}
    (hexpression : Braceless expression) :
    ReadsAlike r context (Braces.double.wrap expression) expression ∧
    (∀ text, render r context (Braces.triple.wrap expression) = .ok text ↔
      ∃ v, evaluate r context expression = .ok v ∧ text = slotText v) ∧
    ∀ v, (evaluate r context (Braces.triple.wrap expression) = .ok v ↔
        valueOfText r context ("\x7b" ++ expression ++ "\x7d") = .ok v) ∧
      (evaluate r context (Braces.triple.wrap expression) = .ok v →
        holds r context (Braces.triple.wrap expression) = .ok (Standard.truthy v)) := by
  have hvalue : ∀ v, evaluate r context (Braces.double.wrap expression) = .ok v ↔
      valueOfText r context expression = .ok v := by
    intro v
    rw [evaluate_eq_ok_iff, withoutBraces_wrap, Braces.evaluated]
  refine ⟨⟨?_, ?_, ?_, fun v => holds_of_evaluate⟩, ?_, ?_⟩
  · simp only [render_wrap_eq_ok_iff _ hexpression, hvalue]
    constructor
    · rintro ⟨_, v, hv, -⟩
      exact ⟨v, hv⟩
    · rintro ⟨v, hv⟩
      exact ⟨_, v, hv, rfl⟩
  · intro v hv
    rw [render_wrap_eq_ok_iff _ hexpression]
    exact ⟨v, (hvalue v).mp hv, rfl⟩
  · intro v
    rw [hvalue, evaluate_braceless hexpression]
  · intro text
    simp only [render_wrap_eq_ok_iff _ hexpression, evaluate_braceless hexpression]
  · intro v
    refine ⟨?_, holds_of_evaluate⟩
    rw [evaluate_eq_ok_iff, withoutBraces_wrap, Braces.evaluated]

/-- A key in three braces: the template has its value, the condition looks for another variable. -/
theorem braces_read_alike_key :
    let context : Context := ⟨{ vars := [("key", .text "iron")] }, []⟩
    Braceless "key" ∧ evaluate [] context "key" = .ok (some (.text "iron")) ∧
      holds [] context "\x7b\x7bkey\x7d\x7d" = .ok true ∧
      render [] context "\x7b\x7b\x7bkey\x7d\x7d\x7d" = .ok "iron" ∧
      holds [] context "\x7b\x7b\x7bkey\x7d\x7d\x7d" = .ok false := by
  intro context
  have hkey : Braceless "key" := by decide
  have hvalue : evaluate [] context "key" = .ok (some (.text "iron")) :=
    (evaluate_braceless hkey).mpr (valueOfText_identifier (by decide) rfl)
  obtain ⟨hdouble, hrender, htriple⟩ := braces_read_alike [] context hkey
  refine ⟨hkey, hvalue, hdouble.condition _ ((hdouble.value _).mpr hvalue),
    (hrender _).mpr ⟨_, hvalue, rfl⟩, (htriple none).2 ((htriple none).1.mpr ?_)⟩
  exact valueOfText_word (by decide) (by decide +kernel) rfl

theorem not_readsAlike_triple : ¬ ∀ (r : Registry) (context : Context) (expression : String)
    (b : Braces), expression ≠ "" → Braceless expression →
      ReadsAlike r context (b.wrap expression) expression := by
  intro h
  have hread := h [] ⟨{ vars := [("key", .text "iron")] }, []⟩ "key" .triple (by decide) (by decide)
  have hvalue := (hread.value (some (.text "iron"))).mpr
    ((evaluate_braceless (by decide)).mpr (valueOfText_identifier (by decide) rfl))
  rw [evaluate_eq_ok_iff, withoutBraces_wrap, Braces.evaluated,
    valueOfText_word (by decide) (by decide +kernel) rfl] at hvalue
  cases hvalue

end BranchingStory.Template
