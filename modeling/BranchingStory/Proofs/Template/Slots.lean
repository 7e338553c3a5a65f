import BranchingStory.Proofs.Template.Evaluation
import Mathlib.Data.List.Forall2

/-!
Templates as texts with slots in them. A template that is written as chunks without braces and slots
between them has exactly these slots, however they follow each other and whether a slot has two or
three braces on either side. Rendering it puts the text of each value in the place of its slot, with
all chunks as they are, so that braces in a value have no meaning.
-/

namespace BranchingStory.Template

/-! ### Templates from their parts -/

inductive Braces where
  | double
  | triple
  deriving Repr, DecidableEq

def Braces.opening : Braces → String
  | .double => "\x7b\x7b"
  | .triple => "\x7b\x7b\x7b"

def Braces.closing : Braces → String
  | .double => "\x7d\x7d"
  | .triple => "\x7d\x7d\x7d"

def Braces.wrap (b : Braces) (expression : String) : String :=
  b.opening ++ expression ++ b.closing

def Braceless (text : String) : Prop := ∀ c ∈ text.toList, isBrace c = false

instance (text : String) : Decidable (Braceless text) :=
  decidable_of_iff (text.toList.all (fun c => !isBrace c) = true) (by simp [Braceless])

structure Part where
  braces : Braces
  expression : String
  chunk : String
  deriving Repr, DecidableEq

namespace Part

def text (p : Part) : String := p.braces.wrap p.expression ++ p.chunk

def Plain (p : Part) : Prop := Braceless p.expression ∧ Braceless p.chunk

instance (p : Part) : Decidable p.Plain :=
  inferInstanceAs (Decidable (Braceless p.expression ∧ Braceless p.chunk))

def segments (p : Part) : List Segment :=
  .slot p.expression :: p.chunk.toList.map Segment.literal

end Part

/-- The template of a first chunk and the parts that follow it. -/
def templateOf (lead : String) (parts : List Part) : String :=
  lead ++ String.join (parts.map Part.text)

def filled (parts : List Part) (values : List (Option Value)) : String :=
  String.join (List.zipWith (fun p v => slotText v ++ p.chunk) parts values)

/-! ### Pieces -/

theorem segmentsAfter_eq_drop (taken : Nat) (cs : List Char) :
    segmentsAfter taken cs = segmentsAfter 0 (cs.drop taken) := by
  induction taken generalizing cs with
  | zero => rfl
  | succ taken ih =>
      cases cs with
      | nil => rfl
      | cons c cs => rw [segmentsAfter, ih, List.drop_succ_cons]

/-- Outside a slot, everything but an opening brace stands for itself. -/
theorem segmentsAfter_cons {c : Char} (hc : c ≠ '\x7b') (rest : List Char) :
    segmentsAfter 0 (c :: rest) = .literal c :: segmentsAfter 0 rest := by
  have hslot : slot? (c :: rest) = none := by
    unfold slot?
    split
    · rename_i heq
      cases heq
      exact absurd rfl hc
    · rename_i heq
      cases heq
      exact absurd rfl hc
    · rfl
  rw [segmentsAfter, hslot]

theorem segmentsAfter_chunk {chunk : List Char} (h : ∀ c ∈ chunk, isBrace c = false)
    (rest : List Char) :
    segmentsAfter 0 (chunk ++ rest) = chunk.map Segment.literal ++ segmentsAfter 0 rest := by
  induction chunk with
  | nil => rfl
  | cons c chunk ih =>
      obtain ⟨hc, hchunk⟩ := List.forall_mem_cons.mp h
      have hopen : c ≠ '\x7b' := by
        rintro rfl
        cases hc
      rw [List.cons_append, segmentsAfter_cons hopen, ih hchunk, List.map_cons, List.cons_append]

/-- A slot ends at the first braces after its expression. A third closing brace would belong to it
as well, so none may follow. -/
theorem slotBody?_closing (b : Braces) {body : List Char} (hbody : ∀ c ∈ body, isBrace c = false)
    {rest : List Char} (hrest : ∀ more, rest ≠ '\x7d' :: more) :
    slotBody? (body ++ (b.closing.toList ++ rest)) =
      some (body, body.length + b.closing.toList.length) := by
  have hplain : ∀ c ∈ body, (!isBrace c) = true := by
    intro c hc
    rw [hbody c hc]
    rfl
  have htake : ∀ more, (body ++ '\x7d' :: more).takeWhile (fun c => !isBrace c) = body := by
    intro more
    rw [List.takeWhile_append_of_pos hplain, List.takeWhile_cons_of_neg (by decide),
      List.append_nil]
  have hdrop : ∀ more, (body ++ '\x7d' :: more).dropWhile (fun c => !isBrace c) =
      '\x7d' :: more := by
    intro more
    rw [List.dropWhile_append_of_pos hplain, List.dropWhile_cons_of_neg (by decide)]
  cases b with
  | double =>
      have hclosing : Braces.double.closing.toList ++ rest = '\x7d' :: '\x7d' :: rest := by
        simp [Braces.closing]
      simp only [hclosing, slotBody?, htake, hdrop]
      rfl
  | triple =>
      have hclosing : Braces.triple.closing.toList ++ rest =
          '\x7d' :: '\x7d' :: '\x7d' :: rest := by
        simp [Braces.closing]
      simp only [hclosing, slotBody?, htake, hdrop]
      rfl

theorem toList_wrap (b : Braces) (expression : String) : (b.wrap expression).toList =
    b.opening.toList ++ (expression.toList ++ b.closing.toList) := by
  rw [Braces.wrap, String.toList_append, String.toList_append, List.append_assoc]

theorem slot?_wrap (b : Braces) {expression : String} (hexpression : Braceless expression)
    {rest : List Char} (hrest : ∀ more, rest ≠ '\x7d' :: more) :
    slot? ((b.wrap expression).toList ++ rest) =
      some (expression.toList, (b.wrap expression).toList.length) := by
  have hbody := slotBody?_closing b hexpression hrest
  rw [toList_wrap, List.append_assoc, List.append_assoc]
  generalize hinner : expression.toList ++ (b.closing.toList ++ rest) = inner at hbody ⊢
  cases b with
  | double =>
      -- A third opening brace would belong to the slot, but the expression does not begin with one.
      have hhead : ∀ more, inner ≠ '\x7b' :: more := by
        rintro more rfl
        cases hcs : expression.toList with
        | nil => simp [hcs, Braces.closing] at hinner
        | cons c cs =>
            have hc := hexpression c (hcs ▸ List.mem_cons_self)
            rw [hcs] at hinner
            cases hinner
            cases hc
      have hopening : Braces.double.opening.toList ++ inner = '\x7b' :: '\x7b' :: inner := by
        simp [Braces.opening]
      rw [hopening, slot?, hbody]
      · simp [Braces.opening]
      · exact hhead
  | triple =>
      have hopening : Braces.triple.opening.toList ++ inner =
          '\x7b' :: '\x7b' :: '\x7b' :: inner := by
        simp [Braces.opening]
      rw [hopening, slot?, hbody]
      simp [Braces.opening]

theorem segmentsAfter_wrap (b : Braces) {expression : String} (hexpression : Braceless expression)
    {rest : List Char} (hrest : ∀ more, rest ≠ '\x7d' :: more) :
    segmentsAfter 0 ((b.wrap expression).toList ++ rest) =
      .slot expression :: segmentsAfter 0 rest := by
  have hslot := slot?_wrap b hexpression hrest
  obtain ⟨tail, htail⟩ : ∃ tail, (b.wrap expression).toList = '\x7b' :: tail := by
    rw [toList_wrap]
    cases b <;> simp [Braces.opening]
  rw [htail, List.cons_append] at hslot ⊢
  rw [segmentsAfter]
  simp only [hslot, String.ofList_toList, List.length_cons, Nat.add_sub_cancel]
  rw [segmentsAfter_eq_drop, List.drop_left]

/-- What follows a slot of a template does not begin with a closing brace. -/
theorem parts_ne_closing {parts : List Part} {chunk : String} (hchunk : Braceless chunk)
    (more : List Char) :
    chunk.toList ++ (String.join (parts.map Part.text)).toList ≠ '\x7d' :: more := by
  intro heq
  cases hcs : chunk.toList with
  | nil =>
      cases parts with
      | nil => simp [hcs] at heq
      | cons p parts =>
          obtain ⟨b, expression, chunk'⟩ := p
          cases b <;> simp [hcs, Part.text, Braces.wrap, Braces.opening] at heq
  | cons c cs =>
      have hc := hchunk c (hcs ▸ List.mem_cons_self)
      rw [hcs] at heq
      cases heq
      cases hc

/-- The pieces of a template are those of its parts. -/
theorem segments_templateOf {lead : String} {parts : List Part} (hlead : Braceless lead)
    (hparts : ∀ p ∈ parts, p.Plain) :
    segments (templateOf lead parts) =
      lead.toList.map Segment.literal ++ parts.flatMap Part.segments := by
  rw [segments, templateOf, String.toList_append, segmentsAfter_chunk hlead]
  congr 1
  induction parts with
  | nil => rfl
  | cons p parts ih =>
      obtain ⟨⟨hexpression, hchunk⟩, hrest⟩ := List.forall_mem_cons.mp hparts
      rw [List.map_cons, String.join_cons, Part.text, String.toList_append, String.toList_append,
        List.append_assoc, segmentsAfter_wrap p.braces hexpression (parts_ne_closing hchunk),
        segmentsAfter_chunk hchunk, ih hrest, List.flatMap_cons, Part.segments, List.cons_append]

/-! ### Rendering -/

variable {r : Registry} {context : Context}

theorem renderSegments_literals (chunk : List Char) (rest : List Segment) :
    renderSegments r context (chunk.map Segment.literal ++ rest) =
      (renderSegments r context rest).map (chunk ++ ·) := by
  induction chunk with
  | nil =>
      rw [List.map_nil, List.nil_append]
      cases renderSegments r context rest <;> rfl
  | cons c chunk ih =>
      rw [List.map_cons, List.cons_append, renderSegments, ih]
      cases renderSegments r context rest <;> rfl

theorem renderSegments_parts {parts : List Part} {values : List (Option Value)}
    (h : List.Forall₂ (fun p v => valueOfText r context p.expression = .ok v) parts values) :
    renderSegments r context (parts.flatMap Part.segments) = .ok (filled parts values).toList := by
  induction h with
  | nil => rfl
  | cons hvalue _ ih =>
      rw [List.flatMap_cons, Part.segments, List.cons_append, renderSegments, hvalue]
      simp only [renderSegments_literals, ih, Except.map]
      simp [filled]

/-- The first expression that has no value stops the rendering. -/
theorem renderSegments_failing {before later : List Part} {failing : Part}
    {cause : ExpressionFault}
    (hbefore : ∀ p ∈ before, ∃ v, valueOfText r context p.expression = .ok v)
    (hfailing : valueOfText r context failing.expression = .error cause) :
    renderSegments r context ((before ++ failing :: later).flatMap Part.segments) =
      .error cause := by
  induction before with
  | nil =>
      rw [List.nil_append, List.flatMap_cons, Part.segments, List.cons_append, renderSegments,
        hfailing]
  | cons p before ih =>
      obtain ⟨⟨v, hv⟩, hrest⟩ := List.forall_mem_cons.mp hbefore
      rw [List.cons_append, List.flatMap_cons, Part.segments, List.cons_append, renderSegments, hv]
      simp only [renderSegments_literals, ih hrest, Except.map]

/-- A template renders each slot for itself: the chunks as they are and the text of each value in
the place of its slot, or else the fault of the first slot that has no value, told of the whole
template. -/
theorem render_templateOf (r : Registry) (context : Context) {lead : String} {parts : List Part}
    (hlead : Braceless lead) (hparts : ∀ p ∈ parts, p.Plain) :
    (∀ values, List.Forall₂ (fun p v => valueOfText r context p.expression = .ok v) parts values →
      render r context (templateOf lead parts) = .ok (lead ++ filled parts values)) ∧
    ∀ before failing later cause, parts = before ++ failing :: later →
      (∀ p ∈ before, ∃ v, valueOfText r context p.expression = .ok v) →
      valueOfText r context failing.expression = .error cause →
      render r context (templateOf lead parts) =
        .error (.template (templateOf lead parts) cause) := by
  constructor
  · intro values hvalues
    rw [render, segments_templateOf hlead hparts, renderSegments_literals,
      renderSegments_parts hvalues]
    simp [Except.map]
  · rintro before failing later cause rfl hbefore hfailing
    rw [render, segments_templateOf hlead hparts, renderSegments_literals,
      renderSegments_failing hbefore hfailing]
    rfl

/-- A value with braces and quotes in it stays as it is, also between slots that touch; and of two
slots that have no value the first is told. -/
theorem render_templateOf_braces :
    render [] ⟨{ vars := [("echo", .text "\x7b\x7bname\x7d\x7d '\x7d"),
        ("name", .text "Mira")] }, []⟩
        "\x7b\x7b\x7becho\x7d\x7d\x7d\x7b\x7bname\x7d\x7d, \x7b\x7bnobody\x7d\x7d!" =
        .ok "\x7b\x7bname\x7d\x7d '\x7dMira, !" ∧
      render [] ⟨{ vars := [("name", .text "Mira")] }, []⟩
          "To \x7b\x7bname\x7d\x7d: \x7b\x7b\x7b(\x7d\x7d\x7d\x7b\x7b\x7d\x7d" =
        .error (.template "To \x7b\x7bname\x7d\x7d: \x7b\x7b\x7b(\x7d\x7d\x7d\x7b\x7b\x7d\x7d"
          .missingClosing) := by
  constructor
  · have hlead : Braceless "" := by decide
    have hparts : ∀ p ∈ ([⟨.triple, "echo", ""⟩, ⟨.double, "name", ", "⟩,
        ⟨.double, "nobody", "!"⟩] : List Part), p.Plain := by decide
    refine (render_templateOf [] _ hlead hparts).1
      [some (.text "\x7b\x7bname\x7d\x7d '\x7d"), some (.text "Mira"), none] ?_
    refine .cons ?_ (.cons ?_ (.cons ?_ .nil))
    all_goals exact valueOfText_identifier (by decide) rfl
  · have hlead : Braceless "To " := by decide
    have hparts : ∀ p ∈ ([⟨.double, "name", ": "⟩, ⟨.triple, "(", ""⟩,
        ⟨.double, "", ""⟩] : List Part), p.Plain := by decide
    refine (render_templateOf [] _ hlead hparts).2 [⟨.double, "name", ": "⟩] ⟨.triple, "(", ""⟩
      [⟨.double, "", ""⟩] .missingClosing rfl ?_ rfl
    simp only [List.mem_singleton, forall_eq]
    exact ⟨_, valueOfText_identifier (by decide) rfl⟩

end BranchingStory.Template
