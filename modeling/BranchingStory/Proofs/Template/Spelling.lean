import BranchingStory.Template.Expression
import Mathlib.Data.List.Basic

/-!
How the tokens of an expression are spelled. The rules speak of texts alone: white space may stand
anywhere between tokens and must stand between two words, and a backslash in a quoted text stands
for the character after it. Every text either spells tokens or has a quoted text that does not end.
Scanning gives the tokens that a text spells, and nothing exactly if a quoted text does not end.
-/

namespace BranchingStory.Expression

/-! ### The rules -/

/-- A word as it stands in a text: not empty, and without white space, parentheses and quotes. -/
def Bare (word : String) : Prop := word ≠ "" ∧ ∀ c ∈ word.toList, isBoundary c = false

instance (word : String) : Decidable (Bare word) :=
  decidable_of_iff (word ≠ "" ∧ word.toList.all (fun c => !isBoundary c) = true) (by simp [Bare])

/-- The characters `written` between two marks stand for `meant`. The mark and the backslash need a
backslash before them; any other character may have one. -/
inductive Escaped (mark : Char) : List Char → List Char → Prop
  | nil : Escaped mark [] []
  | plain {c : Char} {written meant : List Char} (hslash : c ≠ '\\') (hmark : c ≠ mark)
      (hrest : Escaped mark written meant) : Escaped mark (c :: written) (c :: meant)
  | escaped {c : Char} {written meant : List Char} (hrest : Escaped mark written meant) :
      Escaped mark ('\\' :: c :: written) (c :: meant)

inductive Spells : List Token → List Char → Prop
  | nil : Spells [] []
  | blank {c : Char} {tokens : List Token} {rest : List Char} (hblank : Text.isBlank c = true)
      (hrest : Spells tokens rest) : Spells tokens (c :: rest)
  | openGroup {tokens : List Token} {rest : List Char} (hrest : Spells tokens rest) :
      Spells (.openGroup :: tokens) ('(' :: rest)
  | closeGroup {tokens : List Token} {rest : List Char} (hrest : Spells tokens rest) :
      Spells (.closeGroup :: tokens) (')' :: rest)
  | quoted {mark : Char} {written : List Char} {text : String} {tokens : List Token}
      {rest : List Char} (hmark : isQuote mark = true) (htext : Escaped mark written text.toList)
      (hrest : Spells tokens rest) :
      Spells (.quoted text :: tokens) (mark :: (written ++ mark :: rest))
  /-- White space must follow only where another word follows. -/
  | word {word : String} {tokens : List Token} {rest : List Char} (hword : Bare word)
      (hapart : ∀ next later, tokens = .word next :: later →
        ∃ c more, rest = c :: more ∧ Text.isBlank c = true)
      (hrest : Spells tokens rest) : Spells (.word word :: tokens) (word.toList ++ rest)

def NeverCloses (mark : Char) (cs : List Char) : Prop :=
  ∀ written meant rest, cs = written ++ mark :: rest → ¬ Escaped mark written meant

/-- A quoted text begins, after tokens that are complete, and does not end. -/
def Unterminated (cs : List Char) : Prop :=
  ∃ before tokens mark after, cs = before ++ mark :: after ∧ Spells tokens before ∧
    isQuote mark = true ∧ NeverCloses mark after

/-! ### Characters -/

theorem isBoundary_of_isBlank {c : Char} (h : Text.isBlank c = true) : isBoundary c = true := by
  simp [isBoundary, h]

theorem isBlank_of_isBoundary_eq_false {c : Char} (h : isBoundary c = false) :
    Text.isBlank c = false := by
  simp only [isBoundary, Bool.or_eq_false_iff] at h
  exact h.1.1.1

theorem isBoundary_of_isQuote {c : Char} (h : isQuote c = true) : isBoundary c = true := by
  simp [isBoundary, h]

theorem isQuote_iff {c : Char} : isQuote c = true ↔ c = '"' ∨ c = '\x27' := by
  simp [isQuote]

theorem isBlank_of_isQuote {c : Char} (h : isQuote c = true) : Text.isBlank c = false := by
  rcases isQuote_iff.mp h with rfl | rfl <;> decide

theorem ne_backslash_of_isQuote {c : Char} (h : isQuote c = true) : c ≠ '\\' := by
  rcases isQuote_iff.mp h with rfl | rfl <;> decide

theorem Bare.exists_cons {word : String} (h : Bare word) :
    ∃ c rest, word.toList = c :: rest ∧ isBoundary c = false ∧
      ∀ d ∈ rest, isBoundary d = false := by
  cases hword : word.toList with
  | nil => exact absurd (String.toList_eq_nil_iff.mp hword) h.1
  | cons c rest =>
      have hall := h.2
      rw [hword, List.forall_mem_cons] at hall
      exact ⟨c, rest, rfl, hall⟩

/-! ### What a text begins with -/

theorem Spells.eq_nil {tokens : List Token} (h : Spells tokens []) : tokens = [] := by
  generalize hcs : [] = cs at h
  cases h with
  | nil => rfl
  | word hword hapart hrest =>
      obtain ⟨c, rest, hc, -⟩ := hword.exists_cons
      simp [hc] at hcs
  | _ => cases hcs

/-- After a word comes nothing, or a character that ends it. -/
theorem Spells.isBoundary_head {tokens : List Token} {c : Char} {rest : List Char}
    (h : Spells tokens (c :: rest))
    (hapart : ∀ next later, tokens = .word next :: later → Text.isBlank c = true) :
    isBoundary c = true := by
  generalize hcs : c :: rest = cs at h
  cases h with
  | nil => cases hcs
  | blank hblank =>
      cases hcs
      exact isBoundary_of_isBlank hblank
  | openGroup =>
      cases hcs
      rfl
  | closeGroup =>
      cases hcs
      rfl
  | quoted hmark =>
      cases hcs
      exact isBoundary_of_isQuote hmark
  | word => exact isBoundary_of_isBlank (hapart _ _ rfl)

/-- A word does not begin with a character that ends one, so white space stands before it. -/
theorem Spells.isBlank_head {word : String} {tokens : List Token} {c : Char} {rest : List Char}
    (h : Spells (.word word :: tokens) (c :: rest)) (hc : isBoundary c = true) :
    Text.isBlank c = true := by
  generalize hcs : c :: rest = cs at h
  generalize htokens : Token.word word :: tokens = all at h
  cases h with
  | blank hblank =>
      cases hcs
      exact hblank
  | word hword =>
      obtain ⟨d, more, hd, hboundary, -⟩ := hword.exists_cons
      rw [hd] at hcs
      cases hcs
      rw [hc] at hboundary
      cases hboundary
  | _ => cases htokens

theorem Spells.word_cons {word : String} {tokens : List Token} {cs : List Char} (hword : Bare word)
    (hcs : ∀ c rest, cs = c :: rest → isBoundary c = true) (h : Spells tokens cs) :
    Spells (.word word :: tokens) (word.toList ++ cs) := by
  refine .word hword ?_ h
  rintro next later rfl
  cases cs with
  | nil => cases h.eq_nil
  | cons c rest => exact ⟨c, rest, rfl, h.isBlank_head (hcs c rest rfl)⟩

/-! ### Every text is of one kind or the other -/

/-- Tokens in front of a text keep its kind, if they can stand in front of whatever the text begins
with. -/
theorem spells_or_unterminated_append (front : List Char) {cs : List Char}
    (hfront : ∀ tokens before after, cs = before ++ after → Spells tokens before →
      ∃ more, Spells more (front ++ before))
    (h : (∃ tokens, Spells tokens cs) ∨ Unterminated cs) :
    (∃ tokens, Spells tokens (front ++ cs)) ∨ Unterminated (front ++ cs) := by
  rcases h with ⟨tokens, h⟩ | ⟨before, tokens, mark, after, rfl, hbefore, hmark, hafter⟩
  · exact .inl (hfront tokens cs [] (by simp) h)
  · obtain ⟨more, hmore⟩ := hfront tokens before _ rfl hbefore
    exact .inr ⟨front ++ before, more, mark, after, by simp, hmore, hmark, hafter⟩

theorem exists_word {c : Char} (cs : List Char) (hc : isBoundary c = false) :
    ∃ word rest, c :: cs = String.toList word ++ rest ∧ Bare word ∧
      ∀ d more, rest = d :: more → isBoundary d = true := by
  refine ⟨String.ofList ((c :: cs).takeWhile fun d => !isBoundary d),
    (c :: cs).dropWhile fun d => !isBoundary d, ?_, ⟨?_, ?_⟩, ?_⟩
  · rw [String.toList_ofList, List.takeWhile_append_dropWhile]
  · intro hempty
    have := congrArg String.toList hempty
    simp [hc] at this
  · intro d hd
    rw [String.toList_ofList] at hd
    have hall := List.all_takeWhile (l := c :: cs) (p := fun d => !isBoundary d)
    simpa using List.all_eq_true.mp hall d hd
  · intro d more hrest
    have hhead := List.head?_dropWhile_not (fun d => !isBoundary d) (c :: cs)
    rw [hrest] at hhead
    simpa using hhead

/-- A text spells tokens unless a quoted text in it does not end. -/
theorem spells_or_unterminated (cs : List Char) :
    (∃ tokens, Spells tokens cs) ∨ Unterminated cs := by
  induction hlength : cs.length using Nat.strongRecOn generalizing cs with
  | ind length ih =>
      subst hlength
      cases cs with
      | nil => exact .inl ⟨[], .nil⟩
      | cons c cs =>
          by_cases hblank : Text.isBlank c = true
          · exact spells_or_unterminated_append [c]
              (fun _ _ _ _ h => ⟨_, .blank hblank h⟩) (ih cs.length (by simp) cs rfl)
          by_cases hopen : c = '('
          · subst hopen
            exact spells_or_unterminated_append ['(']
              (fun _ _ _ _ h => ⟨_, .openGroup h⟩) (ih cs.length (by simp) cs rfl)
          by_cases hclose : c = ')'
          · subst hclose
            exact spells_or_unterminated_append [')']
              (fun _ _ _ _ h => ⟨_, .closeGroup h⟩) (ih cs.length (by simp) cs rfl)
          by_cases hquote : isQuote c = true
          · by_cases hends : NeverCloses c cs
            · exact .inr ⟨[], [], c, cs, rfl, .nil, hquote, hends⟩
            · simp only [NeverCloses, not_forall, not_not] at hends
              obtain ⟨written, meant, rest, rfl, hwritten⟩ := hends
              have hshorter : rest.length < (c :: (written ++ c :: rest)).length := by
                simp only [List.length_cons, List.length_append]
                omega
              have hsplit : ∀ more,
                  c :: (written ++ c :: more) = c :: (written ++ [c]) ++ more := by simp
              rw [← String.toList_ofList (l := meant)] at hwritten
              rw [hsplit]
              refine spells_or_unterminated_append _ (fun tokens before _ _ h => ?_)
                (ih rest.length hshorter rest rfl)
              rw [← hsplit]
              exact ⟨_, .quoted hquote hwritten h⟩
          · have hc : isBoundary c = false := by simp [isBoundary, hblank, hopen, hclose, hquote]
            obtain ⟨word, rest, hcs, hword, hrest⟩ := exists_word cs hc
            have hshorter : rest.length < (c :: cs).length := by
              obtain ⟨d, more, hd, -⟩ := hword.exists_cons
              rw [hcs, hd]
              simp only [List.cons_append, List.length_cons, List.length_append]
              omega
            rw [hcs]
            refine spells_or_unterminated_append _ (fun tokens before after hbefore h => ?_)
              (ih rest.length hshorter rest rfl)
            refine ⟨_, .word_cons hword ?_ h⟩
            rintro d more rfl
            exact hrest d _ hbefore

/-! ### Scanning -/

theorem tokensFrom_blank {c : Char} (h : Text.isBlank c = true) (rest : List Char) :
    tokensFrom .between (c :: rest) = tokensFrom .between rest := by
  simp [tokensFrom, advance, begin, h]

theorem tokensFrom_openGroup (rest : List Char) :
    tokensFrom .between ('(' :: rest) = (tokensFrom .between rest).map (.openGroup :: ·) := rfl

theorem tokensFrom_closeGroup (rest : List Char) :
    tokensFrom .between (')' :: rest) = (tokensFrom .between rest).map (.closeGroup :: ·) := rfl

theorem tokensFrom_quote {mark : Char} (h : isQuote mark = true) (rest : List Char) :
    tokensFrom .between (mark :: rest) = tokensFrom (.quoted mark []) rest := by
  have hbegin : begin mark = ([], .quoted mark []) := by
    rcases isQuote_iff.mp h with rfl | rfl <;> rfl
  simp [tokensFrom, advance, hbegin]

theorem tokensFrom_quoted_plain {c mark : Char} (hslash : c ≠ '\\') (hmark : c ≠ mark)
    (read rest : List Char) :
    tokensFrom (.quoted mark read) (c :: rest) = tokensFrom (.quoted mark (c :: read)) rest := by
  simp [tokensFrom, advance, hslash, hmark]

theorem tokensFrom_quoted_escaped (mark c : Char) (read rest : List Char) :
    tokensFrom (.quoted mark read) ('\\' :: c :: rest) =
      tokensFrom (.quoted mark (c :: read)) rest := by
  simp [tokensFrom, advance]

theorem tokensFrom_word_append (read : List Char) {cs : List Char}
    (h : ∀ c ∈ cs, isBoundary c = false) (rest : List Char) :
    tokensFrom (.word read) (cs ++ rest) = tokensFrom (.word (cs.reverse ++ read)) rest := by
  induction cs generalizing read with
  | nil => rfl
  | cons c cs ih =>
      obtain ⟨hc, hcs⟩ := List.forall_mem_cons.mp h
      simp [tokensFrom, advance, hc, ih (c :: read) hcs]

theorem tokensFrom_word_end (read : List Char) {rest : List Char}
    (h : ∀ c more, rest = c :: more → isBoundary c = true) :
    tokensFrom (.word read) rest =
      (tokensFrom .between rest).map (.word (String.ofList read.reverse) :: ·) := by
  cases rest with
  | nil => rfl
  | cons c more =>
      simp [tokensFrom, advance, h c more rfl, Function.comp_def]

theorem tokensFrom_bare {word : String} (hword : Bare word) {rest : List Char}
    (h : ∀ c more, rest = c :: more → isBoundary c = true) :
    tokensFrom .between (word.toList ++ rest) =
      (tokensFrom .between rest).map (.word word :: ·) := by
  obtain ⟨c, cs, hcs, hc, hall⟩ := hword.exists_cons
  have hbegin : begin c = ([], .word [c]) := by
    simp only [isBoundary, Bool.or_eq_false_iff, decide_eq_false_iff_not] at hc
    simp [begin, hc]
  calc
    tokensFrom .between (word.toList ++ rest) = tokensFrom (.word [c]) (cs ++ rest) := by
      simp [hcs, tokensFrom, advance, hbegin]
    _ = tokensFrom (.word (cs.reverse ++ [c])) rest := tokensFrom_word_append [c] hall rest
    _ = (tokensFrom .between rest).map (.word word :: ·) := by
      rw [tokensFrom_word_end _ h]
      simp [← hcs]

theorem tokensFrom_escaped {mark : Char} (hmark : isQuote mark = true) {written meant : List Char}
    (h : Escaped mark written meant) (read rest : List Char) :
    tokensFrom (.quoted mark read) (written ++ mark :: rest) =
      (tokensFrom .between rest).map (.quoted (String.ofList (read.reverse ++ meant)) :: ·) := by
  induction h generalizing read with
  | nil => simp [tokensFrom, advance, ne_backslash_of_isQuote hmark]
  | plain hslash hc hrest ih => simp [tokensFrom_quoted_plain hslash hc, ih]
  | escaped hrest ih => simp [tokensFrom_quoted_escaped, ih]

/-- Scanning a text that spells tokens gives these, and goes on with what follows it. -/
theorem Spells.tokensFrom_append {tokens : List Token} {cs rest : List Char} (h : Spells tokens cs)
    (hrest : ∀ c more, rest = c :: more → isBoundary c = true) :
    tokensFrom .between (cs ++ rest) = (tokensFrom .between rest).map (tokens ++ ·) := by
  induction h with
  | nil => simp
  | blank hblank _ ih => rw [List.cons_append, tokensFrom_blank hblank, ih]
  | openGroup _ ih => simp [tokensFrom_openGroup, ih, Function.comp_def]
  | closeGroup _ ih => simp [tokensFrom_closeGroup, ih, Function.comp_def]
  | quoted hmark htext _ ih =>
      simp [tokensFrom_quote hmark, tokensFrom_escaped hmark htext, ih, Function.comp_def]
  | @word word tokens more hword hapart hmore ih =>
      have hnext : ∀ c others, more ++ rest = c :: others → isBoundary c = true := by
        intro c others heq
        cases more with
        | nil => exact hrest c others heq
        | cons d others' =>
            cases heq
            refine hmore.isBoundary_head fun next later htokens => ?_
            obtain ⟨e, _, he, hblank⟩ := hapart next later htokens
            cases he
            exact hblank
      rw [List.append_assoc, tokensFrom_bare hword hnext, ih]
      simp [Function.comp_def]

/-- Scanning comes to the end of a quoted text only if its mark closes it. -/
theorem not_neverCloses {mark : Char} (hmark : isQuote mark = true) {read cs : List Char}
    {tokens : List Token} (h : tokensFrom (.quoted mark read) cs = some tokens) :
    ¬ NeverCloses mark cs := by
  intro hnever
  induction hlength : cs.length using Nat.strongRecOn generalizing read cs tokens with
  | ind length ih =>
      subst hlength
      cases cs with
      | nil => cases h
      | cons c cs =>
          by_cases hslash : c = '\\'
          · subst hslash
            cases cs with
            | nil => simp [tokensFrom, advance] at h
            | cons d cs =>
                rw [tokensFrom_quoted_escaped] at h
                refine ih cs.length (by simp only [List.length_cons]; omega) h ?_ rfl
                rintro written meant rest rfl hwritten
                exact hnever ('\\' :: d :: written) (d :: meant) rest rfl (.escaped hwritten)
          by_cases hc : c = mark
          · subst hc
            exact hnever [] [] cs rfl .nil
          · rw [tokensFrom_quoted_plain hslash hc] at h
            refine ih cs.length (by simp) h ?_ rfl
            rintro written meant rest rfl hwritten
            exact hnever (c :: written) (c :: meant) rest rfl (.plain hslash hc hwritten)

theorem Spells.tokensFrom_eq_some {tokens : List Token} {cs : List Char} (h : Spells tokens cs) :
    tokensFrom .between cs = some tokens := by
  have hend : ∀ c more, ([] : List Char) = c :: more → isBoundary c = true := by simp
  have hscan := h.tokensFrom_append hend
  simpa [tokensFrom] using hscan

theorem Unterminated.tokensFrom_eq_none {cs : List Char} (h : Unterminated cs) :
    tokensFrom .between cs = none := by
  obtain ⟨before, tokens, mark, after, rfl, hbefore, hmark, hafter⟩ := h
  have hnext : ∀ c more, mark :: after = c :: more → isBoundary c = true := by
    rintro c more heq
    cases heq
    exact isBoundary_of_isQuote hmark
  rw [hbefore.tokensFrom_append hnext, tokensFrom_quote hmark, Option.map_eq_none_iff]
  cases hscan : tokensFrom (.quoted mark []) after with
  | none => rfl
  | some later => exact absurd hafter (not_neverCloses hmark hscan)

theorem tokens?_eq_some_iff {text : String} {tokens : List Token} :
    tokens? text = some tokens ↔ Spells tokens text.toList := by
  refine ⟨fun h => ?_, Spells.tokensFrom_eq_some⟩
  rw [tokens?] at h
  rcases spells_or_unterminated text.toList with ⟨others, hothers⟩ | hunterminated
  · rw [hothers.tokensFrom_eq_some] at h
    cases h
    exact hothers
  · rw [hunterminated.tokensFrom_eq_none] at h
    cases h

/-- Scanning gives nothing exactly if a quoted text does not end. -/
theorem tokens?_eq_none_iff {text : String} : tokens? text = none ↔ Unterminated text.toList := by
  refine ⟨fun h => ?_, Unterminated.tokensFrom_eq_none⟩
  rw [tokens?] at h
  rcases spells_or_unterminated text.toList with ⟨others, hothers⟩ | hunterminated
  · rw [hothers.tokensFrom_eq_some] at h
    cases h
  · exact hunterminated

/-! ### White space around a text -/

theorem tokensFrom_blanks_append {blanks : List Char} (h : ∀ c ∈ blanks, Text.isBlank c = true)
    (rest : List Char) : tokensFrom .between (blanks ++ rest) = tokensFrom .between rest := by
  induction blanks with
  | nil => rfl
  | cons c blanks ih =>
      obtain ⟨hc, hblanks⟩ := List.forall_mem_cons.mp h
      rw [List.cons_append, tokensFrom_blank hc, ih hblanks]

theorem Unterminated.append_blanks {cs blanks : List Char}
    (hblanks : ∀ c ∈ blanks, Text.isBlank c = true) (h : Unterminated cs) :
    Unterminated (cs ++ blanks) := by
  obtain ⟨before, tokens, mark, after, rfl, hbefore, hmark, hafter⟩ := h
  refine ⟨before, tokens, mark, after ++ blanks, by simp, hbefore, hmark, ?_⟩
  intro written meant rest hwritten
  have hmem : mark ∉ blanks := by
    intro hmem
    have hblank := hblanks mark hmem
    rw [isBlank_of_isQuote hmark] at hblank
    cases hblank
  -- The closing mark is no white space, so it stands in what comes before the white space.
  rcases List.append_eq_append_iff.mp hwritten with ⟨more, -, rfl⟩ | ⟨more, hafter', hrest⟩
  · simp at hmem
  · cases more with
    | nil =>
        rw [List.nil_append] at hrest
        rw [← hrest] at hmem
        simp at hmem
    | cons c more =>
        cases hrest
        exact hafter written meant more hafter'

theorem tokensFrom_append_blanks (cs : List Char) {blanks : List Char}
    (h : ∀ c ∈ blanks, Text.isBlank c = true) :
    tokensFrom .between (cs ++ blanks) = tokensFrom .between cs := by
  rcases spells_or_unterminated cs with ⟨tokens, hspells⟩ | hunterminated
  · have hnext : ∀ c more, blanks = c :: more → isBoundary c = true := by
      rintro c more rfl
      exact isBoundary_of_isBlank (h c List.mem_cons_self)
    have hend := tokensFrom_blanks_append h []
    rw [List.append_nil] at hend
    rw [hspells.tokensFrom_append hnext, hend]
    simpa [tokensFrom] using hspells.tokensFrom_eq_some.symm
  · rw [hunterminated.tokensFrom_eq_none, (hunterminated.append_blanks h).tokensFrom_eq_none]

theorem exists_trimChars (cs : List Char) :
    ∃ before after, cs = before ++ Text.trimChars cs ++ after ∧
      (∀ c ∈ before, Text.isBlank c = true) ∧ ∀ c ∈ after, Text.isBlank c = true := by
  refine ⟨cs.takeWhile Text.isBlank,
    ((cs.dropWhile Text.isBlank).reverse.takeWhile Text.isBlank).reverse, ?_,
    List.all_eq_true.mp List.all_takeWhile, fun c hc => ?_⟩
  · rw [List.append_assoc, Text.trimChars, ← List.reverse_append, List.takeWhile_append_dropWhile,
      List.reverse_reverse, List.takeWhile_append_dropWhile]
  · exact List.all_eq_true.mp List.all_takeWhile c (List.mem_reverse.mp hc)

/-- White space around a text does not count. -/
theorem tokens?_trim (text : String) : tokens? (Text.trim text) = tokens? text := by
  obtain ⟨before, after, htext, hbefore, hafter⟩ := exists_trimChars text.toList
  calc
    tokens? (Text.trim text) = tokensFrom .between (Text.trimChars text.toList) := by
      rw [tokens?, Text.trim, String.toList_ofList]
    _ = tokensFrom .between (before ++ Text.trimChars text.toList ++ after) := by
      rw [tokensFrom_append_blanks _ hafter, tokensFrom_blanks_append hbefore]
    _ = tokens? text := by rw [← htext, tokens?]

end BranchingStory.Expression
