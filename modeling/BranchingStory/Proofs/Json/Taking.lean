import BranchingStory.Json.Printer
import BranchingStory.Json.Reader
import Mathlib.Data.List.Basic

/-!
What each reader takes. A reader takes a text for a value if it yields the value and leaves just
what stands behind the text, whatever that is. This is shown for words, quoted texts and natural
numbers as they are written, and for items and fields from what the tree reader takes for each.
-/

namespace BranchingStory.Json

namespace Reader

/-! ### Taking a text -/

section

variable {α β : Type}

/-- A reader takes characters off the front of a text, leaves the rest, and yields a value. -/
def Takes (r : Reader α) (cs : List Char) (a : α) (rest : List Char) : Prop :=
  ∀ line, ∃ line', r ⟨line, cs ++ rest⟩ = .ok (a, ⟨line', rest⟩)

theorem takes_pure (a : α) (rest : List Char) : Takes (pure a) [] a rest :=
  fun line => ⟨line, rfl⟩

theorem Takes.bind {x : Reader α} {f : α → Reader β} {cs ds rest : List Char} {a : α} {b : β}
    (hx : Takes x cs a (ds ++ rest)) (hf : Takes (f a) ds b rest) :
    Takes (x >>= f) (cs ++ ds) b rest := by
  intro line
  obtain ⟨line', hx⟩ := hx line
  obtain ⟨line'', hf⟩ := hf line'
  refine ⟨line'', ?_⟩
  rw [List.append_assoc]
  change Except.bind (x ⟨line, cs ++ (ds ++ rest)⟩) (fun result => f result.1 result.2) = _
  rw [hx]
  exact hf

theorem Takes.map {x : Reader α} {cs rest : List Char} {a : α} (hx : Takes x cs a rest)
    (f : α → β) : Takes (x >>= fun a => pure (f a)) cs (f a) rest := by
  have hbind : Takes (x >>= fun a => pure (f a)) (cs ++ []) (f a) rest :=
    hx.bind (takes_pure (f a) rest)
  rwa [List.append_nil] at hbind

theorem takes_next (c : Char) (rest : List Char) : Takes next [c] (some c) rest :=
  fun _ => ⟨_, rfl⟩

theorem Takes.next {f : Option Char → Reader β} {c : Char} {cs rest : List Char} {b : β}
    (hf : Takes (f (some c)) cs b rest) : Takes (next >>= f) (c :: cs) b rest :=
  (takes_next c (cs ++ rest)).bind hf

def Blank (cs : List Char) : Prop := ∀ c ∈ cs, c = '\n' ∨ c = ' '

theorem blank_nil : Blank [] := fun _ hc => by cases hc

def isToken (c : Char) : Bool := !(c = '\n' || c = ' ' || c = '\t' || c = '\r')

theorem skipBlanks_append {blanks : List Char} (hblank : Blank blanks) {c : Char}
    (htoken : isToken c) (rest : List Char) (line : Nat) :
    ∃ line', skipBlanks line (blanks ++ c :: rest) = ⟨line', c :: rest⟩ := by
  induction blanks generalizing line with
  | nil =>
      have hne : (c ≠ '\n' ∧ c ≠ ' ') ∧ c ≠ '\t' ∧ c ≠ '\r' := by
        simpa [isToken, and_assoc] using htoken
      exact ⟨line, by simp [skipBlanks, hne]⟩
  | cons b blanks ih =>
      have hrest : Blank blanks := fun c hc => hblank c (List.mem_cons_of_mem b hc)
      obtain rfl | rfl := hblank b List.mem_cons_self
      · exact ih hrest (line + 1)
      · exact ih hrest line

theorem Takes.peekToken {f : Option Char → Reader β} {blanks cs rest : List Char} {c : Char} {b : β}
    (hblank : Blank blanks) (htoken : isToken c) (hf : Takes (f (some c)) (c :: cs) b rest) :
    Takes (peekToken >>= f) (blanks ++ c :: cs) b rest := by
  intro line
  obtain ⟨line', hskip⟩ := skipBlanks_append hblank htoken (cs ++ rest) line
  obtain ⟨line'', hf⟩ := hf line'
  refine ⟨line'', ?_⟩
  rw [List.append_assoc, List.cons_append]
  change f (skipBlanks line (blanks ++ c :: (cs ++ rest))).rest.head?
    (skipBlanks line (blanks ++ c :: (cs ++ rest))) = _
  rw [hskip]
  exact hf

end

/-! ### Words and texts -/

theorem takes_word (cs rest : List Char) : Takes (word cs) cs () rest := by
  induction cs with
  | nil => exact takes_pure () rest
  | cons c cs ih =>
      rw [word, expect, bind_assoc]
      refine Takes.next ?_
      rw [if_pos rfl, pure_bind]
      exact ih

theorem Takes.takeBytes {c : Char} (hsize : c.utf8Size = 1) {bytes : Nat} {cs ds rest : List Char}
    (h : Takes (takeBytes bytes) cs ds rest) :
    Takes (Reader.takeBytes (bytes + 1)) (c :: cs) (c :: ds) rest := by
  rw [Reader.takeBytes]
  refine Takes.next ?_
  simp only [hsize, Nat.add_sub_cancel]
  exact h.map (c :: ·)

/-- A control character has two digits of its own. -/
theorem takes_hexEscape {n : Nat} (hn : n < 0x20) (rest : List Char) :
    Takes hexEscape ['0', '0', Nat.digitChar (n / 16), Nat.digitChar (n % 16)] n rest := by
  have hsizes : ∀ n < 0x20, (Nat.digitChar (n / 16)).utf8Size = 1 ∧
      (Nat.digitChar (n % 16)).utf8Size = 1 := by decide
  have hvalues : ∀ n < 0x20,
      hexValue? ['0', '0', Nat.digitChar (n / 16), Nat.digitChar (n % 16)] = some n := by decide
  obtain ⟨hhigh, hlow⟩ := hsizes n hn
  have hnone : Takes (takeBytes 0) [] [] rest := by
    rw [Reader.takeBytes]
    exact takes_pure [] rest
  have htake := ((((hnone.takeBytes hlow).takeBytes hhigh).takeBytes
    (show '0'.utf8Size = 1 from rfl)).takeBytes (show '0'.utf8Size = 1 from rfl))
  have hescape : Takes hexEscape (_ ++ []) n rest := htake.bind (by
    simp only [hvalues n hn]
    exact takes_pure n rest)
  exact hescape

theorem takes_unicodeEscape {c : Char} (hc : c.toNat < 0x20) (rest : List Char) :
    Takes escape ['u', '0', '0', Nat.digitChar (c.toNat / 16), Nat.digitChar (c.toNat % 16)] c
      rest := by
  have hlow : (decide (0xDC00 ≤ c.toNat) && decide (c.toNat ≤ 0xDFFF)) = false := by
    rw [decide_eq_false (show ¬ 0xDC00 ≤ c.toNat by omega), Bool.false_and]
  have hhigh : (decide (c.toNat < 0xD800) || decide (0xDBFF < c.toNat)) = true := by
    rw [decide_eq_true (show c.toNat < 0xD800 by omega), Bool.true_or]
  have hunicode : Takes unicodeEscape (_ ++ []) c rest := (takes_hexEscape hc rest).bind (by
    simp only [hlow, hhigh, Bool.false_eq_true, if_false, if_true, Char.ofNat_toNat]
    exact takes_pure c rest)
  exact Takes.next hunicode

/-- A character is written as it is, or as an escape that stands for it. -/
theorem escapeChar_cases (c : Char) :
    (escapeChar c = [c] ∧ c ≠ '"' ∧ c ≠ '\\' ∧ ¬ c.toNat < 0x20) ∨
      ∃ e, escapeChar c = '\\' :: e ∧ ∀ rest, Takes escape e c rest := by
  by_cases hquote : c = '"'
  · subst hquote
    exact .inr ⟨['"'], rfl, fun rest line => ⟨line, rfl⟩⟩
  by_cases hslash : c = '\\'
  · subst hslash
    exact .inr ⟨['\\'], rfl, fun rest line => ⟨line, rfl⟩⟩
  by_cases hplain : 0x20 ≤ c.toNat
  · exact .inl ⟨by rw [escapeChar, if_neg hquote, if_neg hslash, if_pos hplain], hquote, hslash,
      Nat.not_lt.mpr hplain⟩
  refine .inr ?_
  by_cases hline : c = '\n'
  · subst hline
    exact ⟨['n'], rfl, fun rest line => ⟨line, rfl⟩⟩
  by_cases hreturn : c = '\r'
  · subst hreturn
    exact ⟨['r'], rfl, fun rest line => ⟨line, rfl⟩⟩
  by_cases htab : c = '\t'
  · subst htab
    exact ⟨['t'], rfl, fun rest line => ⟨line, rfl⟩⟩
  by_cases hback : c.toNat = 8
  · obtain rfl : c = Char.ofNat 8 := by rw [← hback, Char.ofNat_toNat]
    exact ⟨['b'], rfl, fun rest line => ⟨line, rfl⟩⟩
  by_cases hfeed : c.toNat = 12
  · obtain rfl : c = Char.ofNat 12 := by rw [← hfeed, Char.ofNat_toNat]
    exact ⟨['f'], rfl, fun rest line => ⟨line, rfl⟩⟩
  refine ⟨_, ?_, takes_unicodeEscape (Nat.lt_of_not_le hplain)⟩
  rw [escapeChar, if_neg hquote, if_neg hslash, if_neg hplain, if_neg hline, if_neg hreturn,
    if_neg htab, if_neg hback, if_neg hfeed]

theorem takes_textBody (cs : List Char) {fuel : Nat} (hfuel : cs.length < fuel)
    (done rest : List Char) :
    Takes (textBody fuel done) (cs.flatMap escapeChar ++ ['"'])
      (String.ofList (done.reverse ++ cs)) rest := by
  induction cs generalizing fuel done with
  | nil =>
      obtain ⟨fuel, rfl⟩ := Nat.exists_eq_add_one_of_ne_zero (Nat.ne_of_gt hfuel)
      rw [textBody, List.append_nil]
      exact Takes.next (takes_pure _ rest)
  | cons c cs ih =>
      obtain ⟨fuel, rfl⟩ := Nat.exists_eq_add_one_of_ne_zero (Nat.ne_zero_of_lt hfuel)
      have hrest := ih (Nat.lt_of_succ_lt_succ hfuel) (c :: done)
      rw [List.reverse_cons, List.append_assoc] at hrest
      rw [List.flatMap_cons, List.append_assoc, textBody]
      obtain ⟨hplain, hquote, hslash, hcontrol⟩ | ⟨e, hescape, htakes⟩ := escapeChar_cases c
      · rw [hplain]
        refine Takes.next ?_
        split
        · contradiction
        · rename_i hsame
          exact absurd (Option.some.inj hsame) hquote
        · rename_i hsame
          exact absurd (Option.some.inj hsame) hslash
        · rename_i hsame
          obtain rfl := Option.some.inj hsame
          rw [if_neg hcontrol]
          exact hrest
      · rw [hescape]
        exact Takes.next ((htakes _).bind hrest)

/-! ### Natural numbers -/

def Ends (rest : List Char) : Prop :=
  ∀ c ∈ rest.head?, Decimal.isDigit c = false ∧ c ≠ '.' ∧ c ≠ 'e' ∧ c ≠ 'E'

theorem isDigit_of_mem_toDigits {n : Nat} {c : Char} (hc : c ∈ Nat.toDigits 10 n) :
    Decimal.isDigit c := by
  have hdigit := Nat.isDigit_of_mem_toDigits (by decide) (Nat.le_refl 10) hc
  simpa [Char.isDigit, Decimal.isDigit, Char.le_def] using hdigit

theorem le_ofDigitChars (cs : List Char) (n : Nat) : n ≤ Nat.ofDigitChars 10 cs n := by
  induction cs generalizing n with
  | nil => exact Nat.le_refl n
  | cons c cs ih =>
      rw [Nat.ofDigitChars_cons]
      exact Nat.le_trans (by omega) (ih _)

/-- Digits that fit 64 bits are all taken. -/
theorem foldl_push (cs : List Char) {n : Nat} (h : Nat.ofDigitChars 10 cs n < Decimal.twoTo 64)
    (taken : Nat) :
    cs.foldl Significand.push ⟨n, taken, 0⟩ =
      ⟨Nat.ofDigitChars 10 cs n, taken + cs.length, 0⟩ := by
  induction cs generalizing n taken with
  | nil => rfl
  | cons c cs ih =>
      rw [Nat.ofDigitChars_cons, Nat.mul_comm] at h ⊢
      have hpush : Significand.push ⟨n, taken, 0⟩ c =
          ⟨n * 10 + (c.toNat - '0'.toNat), taken + 1, 0⟩ := by
        have hlt := Nat.lt_of_le_of_lt (le_ofDigitChars cs _) h
        simp only [Significand.push, hlt, decide_true, Bool.and_self, if_true]
      rw [List.foldl_cons, hpush, ih h, List.length_cons]
      congr 1
      omega

/-- A number other than zero does not start with a zero. -/
theorem head?_toDigits {n : Nat} (h : n ≠ 0) : (Nat.toDigits 10 n).head? ≠ some '0' := by
  induction n using Nat.strongRecOn with
  | ind n ih =>
      by_cases hlt : n < 10
      · have hall : ∀ n < 10, n ≠ 0 → n.digitChar ≠ '0' := by decide
        rw [Nat.toDigits_of_lt_base hlt]
        simpa using hall n hlt h
      · have hne : n / 10 ≠ 0 := by omega
        rw [Nat.toDigits_of_base_le (by decide) (Nat.le_of_not_lt hlt),
          List.head?_append_of_ne_nil _ Nat.toDigits_ne_nil]
        exact ih (n / 10) (by omega) hne

theorem takes_digits {cs rest : List Char} (hdigits : ∀ c ∈ cs, Decimal.isDigit c)
    (hends : Ends rest) : Takes digits cs cs rest := by
  have htake : rest.takeWhile Decimal.isDigit = [] ∧ rest.dropWhile Decimal.isDigit = rest := by
    cases rest with
    | nil => exact ⟨rfl, rfl⟩
    | cons c rest => simp [hends c rfl]
  refine fun line => ⟨line, ?_⟩
  rw [digits, List.takeWhile_append_of_pos hdigits, List.dropWhile_append_of_pos hdigits,
    htake.1, htake.2, List.append_nil]

/-- Looking at what comes next takes nothing. -/
theorem Takes.peek {β : Type} {f : Option Char → Reader β} {rest : List Char} {b : β}
    (hf : Takes (f rest.head?) [] b rest) : Takes (peek >>= f) [] b rest := hf

theorem takes_number {n : Nat} (hn : n < Decimal.twoTo 64) {rest : List Char} (hends : Ends rest) :
    Takes (number false) (Nat.toDigits 10 n) (.number (.int n)) rest := by
  cases hdigits : Nat.toDigits 10 n with
  | nil => exact absurd hdigits Nat.toDigits_ne_nil
  | cons c more =>
      have hall : ∀ d ∈ c :: more, Decimal.isDigit d := by
        intro d hd
        exact isDigit_of_mem_toDigits (hdigits ▸ hd)
      have hzero : (decide (c = '0') && !more.isEmpty) = false := by
        by_cases hn0 : n = 0
        · subst hn0
          cases hdigits
          rfl
        · have hhead := head?_toDigits hn0
          rw [hdigits] at hhead
          simp [show c ≠ '0' from fun hc => hhead (congrArg some hc)]
      have hvalue : Nat.ofDigitChars 10 (c :: more) 0 = n := by
        rw [← hdigits]
        exact Nat.ofDigitChars_ten_toDigits
      have hpush := foldl_push (c :: more) (hvalue.symm ▸ hn) 0
      rw [number]
      refine Takes.next ?_
      simp only [hall c List.mem_cons_self, Bool.not_true, Bool.false_eq_true, if_false]
      have hmore : Takes digits more more ([] ++ rest) :=
        takes_digits (fun d hd => hall d (List.mem_cons_of_mem c hd)) hends
      rw [← List.append_nil more]
      refine hmore.bind ?_
      simp only [hzero, Bool.false_eq_true, if_false, hpush, hvalue]
      refine Takes.peek ?_
      -- What follows is neither a point nor an exponent.
      split
      · rename_i hpoint
        exact absurd rfl (hends _ hpoint).2.1
      · rename_i hexponent
        exact absurd rfl (hends _ hexponent).2.2.1
      · rename_i hexponent
        exact absurd rfl (hends _ hexponent).2.2.2
      · exact takes_pure _ rest

/-! ### Items and fields -/

def isHead (c : Char) : Bool := isToken c && c != ']' && c != ','

theorem isToken_of_isHead {c : Char} (h : isHead c) : isToken c := by
  simp only [isHead, Bool.and_eq_true] at h
  exact h.1.1

section

variable {fuel levels : Nat} {blanks text more rest : List Char}

theorem takes_items_nil (hblank : Blank blanks) (first : Bool) :
    Takes (items (fuel + 1) levels first) (blanks ++ [']']) [] rest := by
  rw [items]
  exact Takes.peekToken hblank rfl (Takes.next (takes_pure [] rest))

theorem takes_items_first {c : Char} {t : Json} {ts : List Json} (hblank : Blank blanks)
    (hhead : isHead c) (htree : Takes (tree fuel levels) (c :: text) t (more ++ rest))
    (hmore : Takes (items fuel levels false) more ts rest) :
    Takes (items (fuel + 1) levels true) (blanks ++ (c :: text ++ more)) (t :: ts) rest := by
  rw [items]
  refine Takes.peekToken hblank (isToken_of_isHead hhead) ?_
  split
  · rename_i hsame
    cases hsame
    cases hhead
  · rename_i hsame
    cases hsame
    cases hhead
  · exact htree.bind (hmore.map (t :: ·))
  · contradiction

theorem takes_items_next {c : Char} {t : Json} {ts : List Json} (hblank : Blank blanks)
    (hhead : isHead c) (htree : Takes (tree fuel levels) (c :: text) t (more ++ rest))
    (hmore : Takes (items fuel levels false) more ts rest) :
    Takes (items (fuel + 1) levels false) (',' :: (blanks ++ (c :: text ++ more))) (t :: ts)
      rest := by
  have hnot : some c ≠ some ']' := by
    rintro hsame
    cases hsame
    cases hhead
  rw [items]
  refine Takes.peekToken blank_nil rfl (Takes.next ?_)
  refine Takes.peekToken hblank (isToken_of_isHead hhead) ?_
  rw [if_neg hnot]
  exact htree.bind (hmore.map (t :: ·))

theorem takes_fields_nil (hblank : Blank blanks) (first : Bool) :
    Takes (fields (fuel + 1) levels first) (blanks ++ ['\x7d']) [] rest := by
  rw [fields]
  exact Takes.peekToken hblank rfl (Takes.next (takes_pure [] rest))

theorem toList_quote (s : String) :
    (quote s).toList = '"' :: (s.toList.flatMap escapeChar ++ ['"']) := by
  rw [quote, String.toList_ofList, List.cons_append]

theorem takes_quote (s : String) (hfuel : s.toList.length < fuel) :
    Takes (textBody fuel []) (s.toList.flatMap escapeChar ++ ['"']) s rest := by
  have htext := takes_textBody s.toList hfuel [] rest
  rwa [List.reverse_nil, List.nil_append, String.ofList_toList] at htext

theorem takes_field {key : String} {t : Json} {fs : List (String × Json)} (hblank : Blank blanks)
    (hkey : key.toList.length < fuel)
    (htree : Takes (tree fuel levels) ([' '] ++ text) t (more ++ rest))
    (hmore : Takes (fields fuel levels false) more fs rest) :
    Takes (field (fuel + 1) levels)
      (blanks ++ ((quote key).toList ++ (':' :: ([' '] ++ text ++ more)))) ((key, t) :: fs)
      rest := by
  rw [field, toList_quote]
  refine Takes.peekToken hblank rfl ?_
  rw [if_neg (by simp)]
  refine Takes.next ((takes_quote key hkey).bind ?_)
  refine Takes.peekToken blank_nil rfl ?_
  rw [if_neg (by simp)]
  exact Takes.next (htree.bind (hmore.map ((key, t) :: ·)))

theorem takes_fields_first {fs : List (String × Json)} (hblank : Blank blanks)
    (hfield : Takes (field fuel levels) ('"' :: text) fs rest) :
    Takes (fields (fuel + 1) levels true) (blanks ++ '"' :: text) fs rest := by
  rw [fields]
  exact Takes.peekToken hblank rfl hfield

theorem takes_fields_next {fs : List (String × Json)}
    (hfield : Takes (field fuel levels) text fs rest) :
    Takes (fields (fuel + 1) levels false) (',' :: text) fs rest := by
  rw [fields]
  exact Takes.peekToken blank_nil rfl (Takes.next hfield)

end

end Reader

end BranchingStory.Json
