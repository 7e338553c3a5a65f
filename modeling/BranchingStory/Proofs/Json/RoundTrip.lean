import BranchingStory.Proofs.Json.Taking

/-!
What is written is read back. A tree that is written over several lines is read as it was, if its
numbers are natural numbers of 64 bits and it opens no more levels than reading allows. The
induction is on the levels; within a level it goes along the items or fields.
-/

namespace BranchingStory.Json

/-! ### Trees as they are written -/

mutual

/-- Whether a tree nests at most so many levels deep, with natural numbers of 64 bits only. -/
def plain : Nat → Json → Bool
  | _, .null => true
  | _, .bool _ => true
  | _, .text _ => true
  | _, .number (.int (.ofNat n)) => decide (n < Decimal.twoTo 64)
  | _, .number _ => false
  | 0, .list _ => false
  | levels + 1, .list items => plainItems levels items
  | 0, .object _ => false
  | levels + 1, .object fields => plainFields levels fields

def plainItems : Nat → List Json → Bool
  | _, [] => true
  | levels, t :: rest => t.plain levels && plainItems levels rest

def plainFields : Nat → List (String × Json) → Bool
  | _, [] => true
  | levels, (_, t) :: rest => t.plain levels && plainFields levels rest

end

/-- The characters of lines that follow another one between brackets. -/
def following (depth : Nat) (lines : List String) : List Char :=
  lines.flatMap fun line => ',' :: ((newLine depth).toList ++ line.toList)

theorem following_cons (depth : Nat) (line : String) (lines : List String) (rest : List Char) :
    following depth (line :: lines) ++ rest =
      ',' :: ((newLine depth).toList ++ (line.toList ++ (following depth lines ++ rest))) := by
  simp [following]

theorem toList_newLine (depth : Nat) :
    (newLine depth).toList = '\n' :: List.replicate (2 * depth) ' ' := by
  simp [newLine]

theorem blank_newLine (depth : Nat) : Reader.Blank (newLine depth).toList := by
  intro c hc
  rw [toList_newLine, List.mem_cons] at hc
  exact hc.imp_right List.eq_of_mem_replicate

theorem toList_intercalate_cons (depth : Nat) (line : String) (lines : List String) :
    (String.intercalate ("," ++ newLine depth) (line :: lines)).toList =
      line.toList ++ following depth lines := by
  induction lines generalizing line with
  | nil => simp [following]
  | cons next lines ih =>
      rw [String.intercalate_cons_cons, String.toList_append, ih, following, following,
        List.flatMap_cons]
      simp

theorem toList_bracketed {opening closing : String} {o c : Char} (ho : opening.toList = [o])
    (hc : closing.toList = [c]) (depth : Nat) (line : String) (lines : List String) :
    (bracketed opening closing depth (line :: lines)).toList =
      o :: ((newLine (depth + 1)).toList ++ (line.toList ++
        (following (depth + 1) lines ++ ((newLine depth).toList ++ [c])))) := by
  rw [bracketed, if_neg (by simp)]
  simp only [String.toList_append, toList_intercalate_cons, ho, hc, List.append_assoc,
    List.cons_append, List.nil_append]

theorem toList_squares (depth : Nat) (line : String) (lines : List String) :
    (bracketed "[" "]" depth (line :: lines)).toList =
      '[' :: ((newLine (depth + 1)).toList ++ (line.toList ++
        (following (depth + 1) lines ++ ((newLine depth).toList ++ [']'])))) :=
  toList_bracketed rfl rfl depth line lines

theorem toList_braces (depth : Nat) (line : String) (lines : List String) :
    (bracketed "\x7b" "\x7d" depth (line :: lines)).toList =
      '\x7b' :: ((newLine (depth + 1)).toList ++ (line.toList ++
        (following (depth + 1) lines ++ ((newLine depth).toList ++ ['\x7d'])))) :=
  toList_bracketed rfl rfl depth line lines

theorem ends_following (depth depth' : Nat) (lines : List String) (closing rest : List Char) :
    Reader.Ends (following depth lines ++ ((newLine depth').toList ++ closing) ++ rest) := by
  cases lines with
  | nil =>
      rw [toList_newLine]
      rintro c hc
      cases hc
      decide
  | cons line lines =>
      rintro c hc
      cases hc
      decide

theorem toList_toText (n : Nat) : (Number.toText (.int n)).toList = Nat.toDigits 10 n := by
  rw [Number.toText, Int.toString_eq_repr, Int.repr_eq_if, if_pos (Int.natCast_nonneg n),
    Int.toNat_natCast, Nat.toList_repr]

theorem eq_int_of_plain {n : Number} {levels : Nat} (h : plain levels (.number n)) :
    ∃ k : Nat, n = .int k ∧ k < Decimal.twoTo 64 := by
  cases n with
  | int i =>
      cases i with
      | ofNat k => exact ⟨k, rfl, by simpa [plain] using h⟩
      | negSucc k => simp [plain] at h
  | float x => simp [plain] at h

theorem isHead_of_isDigit {c : Char} (h : Decimal.isDigit c) : Reader.isHead c := by
  have hne : ∀ d, Decimal.isDigit d = false → c ≠ d := by
    rintro d hd rfl
    simp [h] at hd
  simp [Reader.isHead, Reader.isToken, hne '\n' rfl, hne ' ' rfl, hne '\t' rfl, hne '\r' rfl,
    hne ']' rfl, hne ',' rfl]

/-- A tree begins with a character of its own. -/
theorem prettyAt_head {t : Json} {levels : Nat} (h : t.plain levels) (depth : Nat) :
    ∃ c cs, (t.prettyAt depth).toList = c :: cs ∧ Reader.isHead c := by
  cases t with
  | null => exact ⟨'n', ['u', 'l', 'l'], by simp [prettyAt], rfl⟩
  | bool b =>
      cases b with
      | false => exact ⟨'f', ['a', 'l', 's', 'e'], by simp [prettyAt, boolText], rfl⟩
      | true => exact ⟨'t', ['r', 'u', 'e'], by simp [prettyAt, boolText], rfl⟩
  | number n =>
      obtain ⟨k, rfl, -⟩ := eq_int_of_plain h
      cases hdigits : Nat.toDigits 10 k with
      | nil => exact absurd hdigits Nat.toDigits_ne_nil
      | cons c more =>
          refine ⟨c, more, by rw [prettyAt, toList_toText, hdigits], ?_⟩
          exact isHead_of_isDigit (Reader.isDigit_of_mem_toDigits (hdigits ▸ List.mem_cons_self))
  | text s => exact ⟨'"', _, by rw [prettyAt, Reader.toList_quote], rfl⟩
  | list items =>
      cases items with
      | nil => exact ⟨'[', [']'], by simp [prettyAt, prettyItems, bracketed], rfl⟩
      | cons t rest =>
          exact ⟨'[', _, by rw [prettyAt, prettyItems, toList_squares], rfl⟩
  | object fields =>
      cases fields with
      | nil => exact ⟨'\x7b', ['\x7d'], by simp [prettyAt, prettyFields, bracketed], rfl⟩
      | cons field rest =>
          exact ⟨'\x7b', _, by rw [prettyAt, prettyFields, toList_braces], rfl⟩

/-! ### Items and fields -/

theorem plainItems_iff {levels : Nat} {items : List Json} :
    plainItems levels items ↔ ∀ t ∈ items, t.plain levels := by
  induction items with
  | nil => simp [plainItems]
  | cons t rest ih => simp [plainItems, ih]

theorem plainFields_iff {levels : Nat} {fields : List (String × Json)} :
    plainFields levels fields ↔ ∀ f ∈ fields, f.2.plain levels := by
  induction fields with
  | nil => simp [plainFields]
  | cons f rest ih => simp [plainFields, ih]

/-- A tree is read back from its text, within so many levels and wherever the text stands. -/
def ReadBack (levels : Nat) (t : Json) : Prop :=
  ∀ (fuel depth : Nat) (blanks rest : List Char), Reader.Blank blanks → Reader.Ends rest →
    2 * (t.prettyAt depth).toList.length ≤ fuel →
      Reader.Takes (Reader.tree fuel (levels + 1)) (blanks ++ (t.prettyAt depth).toList) t rest

theorem takes_items {levels : Nat} {ts : List Json}
    (hts : ∀ t ∈ ts, t.plain levels ∧ t.ReadBack levels) {fuel depth depth' : Nat}
    {rest : List Char}
    (hfuel : 2 * (following depth (prettyItems depth ts) ++
      ((newLine depth').toList ++ [']'])).length ≤ fuel) :
    Reader.Takes (Reader.items fuel (levels + 1) false)
      (following depth (prettyItems depth ts) ++ ((newLine depth').toList ++ [']'])) ts rest := by
  induction ts generalizing fuel with
  | nil =>
      rw [List.length_append, List.length_append, List.length_singleton] at hfuel
      obtain ⟨fuel, rfl⟩ : ∃ n, fuel = n + 1 := ⟨fuel - 1, by omega⟩
      exact Reader.takes_items_nil (blank_newLine depth') false
  | cons t ts ih =>
      obtain ⟨hplain, hread⟩ := hts t List.mem_cons_self
      obtain ⟨c, cs, htext, hhead⟩ := prettyAt_head hplain depth
      rw [prettyItems, following_cons] at hfuel ⊢
      rw [List.length_cons, List.length_append, List.length_append] at hfuel
      obtain ⟨fuel, rfl⟩ : ∃ n, fuel = n + 1 := ⟨fuel - 1, by omega⟩
      have htree := hread fuel depth [] _ Reader.blank_nil
        (ends_following depth depth' (prettyItems depth ts) [']'] rest) (by omega)
      rw [htext] at htree ⊢
      exact Reader.takes_items_next (blank_newLine depth) hhead htree
        (ih (fun t ht => hts t (List.mem_cons_of_mem _ ht)) (by omega))

theorem blank_space : Reader.Blank [' '] := fun _ hc => .inr (List.mem_singleton.mp hc)

theorem toList_fieldLine (key : String) (t : Json) (depth : Nat) :
    (quote key ++ ": " ++ t.prettyAt depth).toList =
      (quote key).toList ++ ':' :: ([' '] ++ (t.prettyAt depth).toList) := by
  simp

theorem length_lt_length_quote (s : String) : s.toList.length < (quote s).toList.length := by
  have hescaped : ∀ cs : List Char, cs.length ≤ (cs.flatMap escapeChar).length := by
    intro cs
    induction cs with
    | nil => exact Nat.le_refl 0
    | cons c cs ih =>
        have hchar : 1 ≤ (escapeChar c).length := by
          obtain ⟨hplain, -⟩ | ⟨e, hescape, -⟩ := Reader.escapeChar_cases c
          · exact Nat.le_of_eq (congrArg List.length hplain).symm
          · rw [hescape, List.length_cons]
            exact Nat.le_add_left 1 e.length
        rw [List.flatMap_cons, List.length_append, List.length_cons]
        omega
  have hle := hescaped s.toList
  rw [Reader.toList_quote, List.length_cons, List.length_append]
  omega

theorem takes_fields {levels : Nat} {fs : List (String × Json)}
    (hfs : ∀ f ∈ fs, f.2.ReadBack levels) {fuel depth depth' : Nat} {rest : List Char}
    (hfuel : 2 * (following depth (prettyFields depth fs) ++
      ((newLine depth').toList ++ ['\x7d'])).length ≤ fuel) :
    Reader.Takes (Reader.fields fuel (levels + 1) false)
      (following depth (prettyFields depth fs) ++ ((newLine depth').toList ++ ['\x7d'])) fs
      rest := by
  induction fs generalizing fuel with
  | nil =>
      rw [List.length_append, List.length_append, List.length_singleton] at hfuel
      obtain ⟨fuel, rfl⟩ : ∃ n, fuel = n + 1 := ⟨fuel - 1, by omega⟩
      exact Reader.takes_fields_nil (blank_newLine depth') false
  | cons f fs ih =>
      obtain ⟨key, t⟩ := f
      have hkey := length_lt_length_quote key
      rw [prettyFields, following_cons, toList_fieldLine, List.append_assoc (quote key).toList,
        List.cons_append] at hfuel ⊢
      rw [List.length_cons, List.length_append, List.length_append, List.length_cons,
        List.length_append, List.length_append] at hfuel
      obtain ⟨fuel, rfl⟩ : ∃ n, fuel = n + 2 := ⟨fuel - 2, by omega⟩
      have hfits : key.toList.length < fuel ∧ 2 * (t.prettyAt depth).toList.length ≤ fuel := by
        omega
      have htree := hfs (key, t) List.mem_cons_self fuel depth [' '] _ blank_space
        (ends_following depth depth' (prettyFields depth fs) ['\x7d'] rest) hfits.2
      exact Reader.takes_fields_next (Reader.takes_field (blank_newLine depth) hfits.1 htree
        (ih (fun f hf => hfs f (List.mem_cons_of_mem _ hf)) (by omega)))

/-! ### Reading back -/

theorem takes_tree_number {n fuel levels : Nat} (hn : n < Decimal.twoTo 64)
    {blanks rest : List Char} (hblank : Reader.Blank blanks) (hends : Reader.Ends rest) :
    Reader.Takes (Reader.tree (fuel + 1) levels) (blanks ++ Nat.toDigits 10 n) (.number (.int n))
      rest := by
  have hnumber := Reader.takes_number hn hends
  cases hdigits : Nat.toDigits 10 n with
  | nil => exact absurd hdigits Nat.toDigits_ne_nil
  | cons c more =>
      have hdigit : Decimal.isDigit c :=
        Reader.isDigit_of_mem_toDigits (hdigits ▸ List.mem_cons_self)
      rw [hdigits] at hnumber
      rw [Reader.tree]
      refine Reader.Takes.peekToken hblank (Reader.isToken_of_isHead (isHead_of_isDigit hdigit)) ?_
      simp only
      -- None of the letters and brackets that a tree may begin with is a digit.
      split <;> first
        | exact absurd hdigit (by decide)
        | rw [if_pos hdigit]; exact hnumber

theorem takes_tree_list {items : List Json} {fuel levels depth : Nat}
    (hitems : ∀ t ∈ items, t.plain levels ∧ t.ReadBack levels) {blanks rest : List Char}
    (hblank : Reader.Blank blanks)
    (hfuel : 2 * (prettyAt depth (.list items)).toList.length ≤ fuel + 2) :
    Reader.Takes (Reader.tree (fuel + 2) (levels + 2))
      (blanks ++ (prettyAt depth (.list items)).toList) (.list items) rest := by
  cases items with
  | nil =>
      rw [show (prettyAt depth (.list [])).toList = ['[', ']'] by
        simp [prettyAt, prettyItems, bracketed], Reader.tree]
      refine Reader.Takes.peekToken hblank rfl (Reader.Takes.next ?_)
      exact (Reader.takes_items_nil Reader.blank_nil true).map Json.list
  | cons t ts =>
      obtain ⟨hplain, hread⟩ := hitems t List.mem_cons_self
      obtain ⟨c, cs, htext, hhead⟩ := prettyAt_head hplain (depth + 1)
      rw [prettyAt, prettyItems, toList_squares] at hfuel ⊢
      rw [List.length_cons, List.length_append, List.length_append] at hfuel
      have hfits : 2 * (t.prettyAt (depth + 1)).toList.length ≤ fuel ∧
          2 * (following (depth + 1) (prettyItems (depth + 1) ts) ++
            ((newLine depth).toList ++ [']'])).length ≤ fuel := by omega
      have htree := hread fuel (depth + 1) [] _ Reader.blank_nil
        (ends_following (depth + 1) depth (prettyItems (depth + 1) ts) [']'] rest) hfits.1
      rw [htext] at htree ⊢
      rw [Reader.tree]
      refine Reader.Takes.peekToken hblank rfl (Reader.Takes.next ?_)
      exact (Reader.takes_items_first (blank_newLine _) hhead htree
        (takes_items (fun t ht => hitems t (List.mem_cons_of_mem _ ht)) hfits.2)).map Json.list

theorem takes_tree_object {fs : List (String × Json)} {fuel levels depth : Nat}
    (hfs : ∀ f ∈ fs, f.2.ReadBack levels) {blanks rest : List Char} (hblank : Reader.Blank blanks)
    (hfuel : 2 * (prettyAt depth (.object fs)).toList.length ≤ fuel + 2) :
    Reader.Takes (Reader.tree (fuel + 2) (levels + 2))
      (blanks ++ (prettyAt depth (.object fs)).toList) (.object fs) rest := by
  cases fs with
  | nil =>
      rw [show (prettyAt depth (.object [])).toList = ['\x7b', '\x7d'] by
        simp [prettyAt, prettyFields, bracketed], Reader.tree]
      refine Reader.Takes.peekToken hblank rfl (Reader.Takes.next ?_)
      exact (Reader.takes_fields_nil Reader.blank_nil true).map Json.object
  | cons f fs =>
      obtain ⟨key, t⟩ := f
      have hkey := length_lt_length_quote key
      rw [prettyAt, prettyFields, toList_braces, toList_fieldLine,
        List.append_assoc (quote key).toList, List.cons_append] at hfuel ⊢
      rw [List.length_cons, List.length_append, List.length_append, List.length_cons,
        List.length_append, List.length_append] at hfuel
      obtain ⟨fuel, rfl⟩ : ∃ n, fuel = n + 1 := ⟨fuel - 1, by omega⟩
      have hfits : key.toList.length < fuel ∧ 2 * (t.prettyAt (depth + 1)).toList.length ≤ fuel ∧
          2 * (following (depth + 1) (prettyFields (depth + 1) fs) ++
            ((newLine depth).toList ++ ['\x7d'])).length ≤ fuel := by omega
      have htree := hfs (key, t) List.mem_cons_self fuel (depth + 1) [' '] _ blank_space
        (ends_following (depth + 1) depth (prettyFields (depth + 1) fs) ['\x7d'] rest) hfits.2.1
      have hfield := Reader.takes_field Reader.blank_nil hfits.1 htree
        (takes_fields (fun f hf => hfs f (List.mem_cons_of_mem _ hf)) hfits.2.2)
      rw [Reader.toList_quote] at hfield ⊢
      rw [Reader.tree]
      refine Reader.Takes.peekToken hblank rfl (Reader.Takes.next ?_)
      exact (Reader.takes_fields_first (blank_newLine _) hfield).map Json.object

/-- A plain tree is read back, by induction on the levels that it may open. -/
theorem readBack_of_plain {levels : Nat} {t : Json} (h : t.plain levels) : t.ReadBack levels := by
  induction levels using Nat.strongRecOn generalizing t with
  | ind levels ih =>
      intro fuel depth blanks rest hblank hends hfuel
      -- No text is empty, so there is fuel for the first character.
      obtain ⟨c, cs, htext, -⟩ := prettyAt_head h depth
      have hlength := congrArg List.length htext
      rw [List.length_cons] at hlength
      cases t with
      | null =>
          obtain ⟨fuel, rfl⟩ : ∃ n, fuel = n + 1 := ⟨fuel - 1, by omega⟩
          rw [prettyAt, Reader.tree]
          exact Reader.Takes.peekToken hblank rfl
            ((Reader.takes_word "null".toList rest).map fun _ => Json.null)
      | bool b =>
          obtain ⟨fuel, rfl⟩ : ∃ n, fuel = n + 1 := ⟨fuel - 1, by omega⟩
          rw [prettyAt, Reader.tree]
          cases b with
          | false =>
              exact Reader.Takes.peekToken hblank rfl
                ((Reader.takes_word "false".toList rest).map fun _ => Json.bool false)
          | true =>
              exact Reader.Takes.peekToken hblank rfl
                ((Reader.takes_word "true".toList rest).map fun _ => Json.bool true)
      | number n =>
          obtain ⟨fuel, rfl⟩ : ∃ n, fuel = n + 1 := ⟨fuel - 1, by omega⟩
          obtain ⟨k, rfl, hk⟩ := eq_int_of_plain h
          rw [prettyAt, toList_toText]
          exact takes_tree_number hk hblank hends
      | text s =>
          have hquote := length_lt_length_quote s
          rw [prettyAt] at hfuel ⊢
          obtain ⟨fuel, rfl⟩ : ∃ n, fuel = n + 1 := ⟨fuel - 1, by omega⟩
          rw [Reader.toList_quote, Reader.tree]
          refine Reader.Takes.peekToken hblank rfl (Reader.Takes.next ?_)
          exact (Reader.takes_quote s (by omega)).map Json.text
      | list items =>
          cases levels with
          | zero => simp [plain] at h
          | succ levels =>
              obtain ⟨fuel, rfl⟩ : ∃ n, fuel = n + 2 := ⟨fuel - 2, by omega⟩
              rw [plain, plainItems_iff] at h
              exact takes_tree_list (fun t ht => ⟨h t ht, ih levels (Nat.lt_succ_self _) (h t ht)⟩)
                hblank hfuel
      | object fields =>
          cases levels with
          | zero => simp [plain] at h
          | succ levels =>
              obtain ⟨fuel, rfl⟩ : ∃ n, fuel = n + 2 := ⟨fuel - 2, by omega⟩
              rw [plain, plainFields_iff] at h
              exact takes_tree_object (fun f hf => ih levels (Nat.lt_succ_self _) (h f hf))
                hblank hfuel

/-- What is written over several lines is read back. -/
theorem scan_pretty {t : Json} (h : t.plain 127) : scan t.pretty = .ok t := by
  have hread := readBack_of_plain h (2 * t.pretty.toList.length + 2) 0 [] [] Reader.blank_nil
    (fun c hc => by cases hc) (Nat.le_add_right _ 2)
  obtain ⟨line, hread⟩ := hread 1
  rw [List.nil_append, List.append_nil] at hread
  have hdocument : Reader.document (2 * t.pretty.toList.length + 2) ⟨1, t.pretty.toList⟩ =
      .ok (t, ⟨line, []⟩) := by
    change Except.bind (Reader.tree (2 * t.pretty.toList.length + 2) 128
      ⟨1, t.pretty.toList⟩) _ = _
    rw [show Reader.tree (2 * t.pretty.toList.length + 2) 128 ⟨1, t.pretty.toList⟩ = _ from hread]
    rfl
  simp only [scan, hdocument]
  rfl

end BranchingStory.Json
