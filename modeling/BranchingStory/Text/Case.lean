import BranchingStory.Text.CaseTable

/-!
Upper and lower case of whole texts. A character may become several, and a capital sigma at the end
of a word has its own lower-case form.
-/

namespace BranchingStory.Text

/-- The image of a code point under the runs of a one-to-one mapping. -/
def CaseRun.find? (runs : List CaseRun) (n : Nat) : Option Nat :=
  match runs.find? (fun r => r.first ≤ n && n ≤ r.last && (n - r.first) % r.step == 0) with
  | some r => some (Int.toNat (n + r.shift))
  | none => none

/-- The image of a code point under a mapping given by sequences and runs. -/
def mapCodePoint (sequences : List (Nat × List Nat)) (runs : List CaseRun) (n : Nat) : List Nat :=
  match sequences.find? (fun s => s.1 == n) with
  | some s => s.2
  | none =>
    match CaseRun.find? runs n with
    | some m => [m]
    | none => [n]

/-- The upper-case form of one character. -/
def upperChar (c : Char) : List Char :=
  if c.toNat < 0x80 then [c.toUpper]
  else (mapCodePoint upperSequences upperRuns c.toNat).map Char.ofNat

/-- The lower-case form of one character on its own. -/
def lowerChar (c : Char) : List Char :=
  if c.toNat < 0x80 then [c.toLower]
  else (mapCodePoint lowerSequences lowerRuns c.toNat).map Char.ofNat

def inRanges (ranges : List (Nat × Nat)) (c : Char) : Bool :=
  ranges.any (fun r => r.1 ≤ c.toNat && c.toNat ≤ r.2)

/-- Whether the first character that counts has a case. -/
def startsCased (cs : List Char) : Bool :=
  match cs.dropWhile (inRanges caseIgnorableRanges) with
  | c :: _ => inRanges casedRanges c
  | [] => false

/-- Lower case from left to right; `before` holds the characters already passed, last first. -/
def lowerFrom (before : List Char) : List Char → List Char
  | [] => []
  | c :: rest =>
    let image :=
      if c = 'Σ' then
        [if startsCased before && !startsCased rest then 'ς' else 'σ']
      else lowerChar c
    image ++ lowerFrom (c :: before) rest

/-- The text in upper case. -/
def upper (text : String) : String :=
  String.ofList (text.toList.flatMap upperChar)

/-- The text in lower case. -/
def lower (text : String) : String :=
  String.ofList (lowerFrom [] text.toList)

end BranchingStory.Text
