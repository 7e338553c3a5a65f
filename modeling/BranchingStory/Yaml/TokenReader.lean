import BranchingStory.Yaml.Token

/-!
Reading the tokens of a YAML text, one after the other. The reader keeps track of indentation, of
how deep it is in flow collections, and of the place where a key may have begun whose colon is still
to come.
-/

namespace BranchingStory.Yaml

/-- A place where a key may have begun: where it is, which token it is, and whether it must be a key
because it stands where the keys of a block mapping stand. -/
structure KeyPlace where
  position : Position
  number : Nat
  required : Bool

/-- The state of the reader. Tokens stand last first. There is one possible key for the innermost
collection and one for each around it. -/
structure TokenReader where
  cursor : Cursor
  tokens : List Token := []
  count : Nat := 0
  indent : Int := -1
  outerIndents : List Int := []
  key : Option KeyPlace := none
  outerKeys : List (Option KeyPlace) := []
  keyAllowed : Bool := true

namespace TokenReader

/-- Whether reading stands in a flow collection. -/
def inFlow (r : TokenReader) : Bool := !r.outerKeys.isEmpty

def column (r : TokenReader) : Nat := r.cursor.column

def push (r : TokenReader) (token : Token) : TokenReader :=
  { r with tokens := token :: r.tokens, count := r.count + 1 }

/-- Puts a token in before the one with a number. -/
def insert (r : TokenReader) (number : Nat) (token : Token) : TokenReader :=
  let later := r.count - number
  { r with tokens := r.tokens.take later ++ token :: r.tokens.drop later, count := r.count + 1 }

/-- Moves past `n` characters. -/
def skip (r : TokenReader) (n : Nat) : TokenReader := { r with cursor := r.cursor.skip n }

def allowKey (r : TokenReader) (allowed : Bool) : TokenReader := { r with keyAllowed := allowed }

/-! ### White space and comments -/

/-- Moves to the next token over white space, comments and breaks. After a break in a block a key
may begin. -/
def gapFrom (flow : Bool) (comment : Bool) (allowed : Bool) (p : Position) :
    List Char → Bool × Cursor
  | [] => (allowed, ⟨p, []⟩)
  | c :: rest =>
    if isBreak c then gapFrom flow false (allowed || !flow) (p.past c) rest
    else if comment then gapFrom flow true allowed (p.past c) rest
    else if c = '#' then gapFrom flow true allowed (p.past c) rest
    else if c = ' ' || (c = '\t' && (flow || !allowed)) || (c = byteOrderMark && p.index = 0) then
      gapFrom flow false allowed (p.past c) rest
    else (allowed, ⟨p, c :: rest⟩)

def skipGap (r : TokenReader) : TokenReader :=
  let (keyAllowed, cursor) :=
    gapFrom r.inFlow false r.keyAllowed r.cursor.position r.cursor.rest
  { r with keyAllowed, cursor }

/-! ### Possible keys -/

/-- How many characters a key may have whose colon is still to come. -/
def maxKeyLength : Nat := 1024

/-- Whether a possible key lies too far back: on another line, or too many characters away. -/
def isStale (now : Position) (key : KeyPlace) : Bool :=
  decide (key.position.line < now.line) || decide (key.position.index + maxKeyLength < now.index)

/-- A possible key if it does not lie too far back. A key that is required must not. -/
def fresh? (now : Position) : Option KeyPlace → Option (Option KeyPlace)
  | none => some none
  | some key =>
    if isStale now key then if key.required then none else some none
    else some (some key)

def dropStaleKeys? (r : TokenReader) : Option TokenReader := do
  let key ← fresh? r.cursor.position r.key
  let outerKeys ← r.outerKeys.mapM (fresh? r.cursor.position)
  some { r with key, outerKeys }

/-- Gives up a possible key. A key that is required cannot be given up. -/
def dropKey? (r : TokenReader) : Option TokenReader :=
  match r.key with
  | some key => if key.required then none else some { r with key := none }
  | none => some r

/-- Notes that a key may begin here. -/
def noteKey? (r : TokenReader) : Option TokenReader :=
  if r.keyAllowed then
    (r.dropKey?).map fun r =>
      { r with
        key := some
          { position := r.cursor.position
            number := r.count
            required := !r.inFlow && decide (r.indent = r.column) } }
  else some r

/-! ### Indentation -/

/-- Starts a block collection if the column is further in than the block around it. -/
def indentTo (r : TokenReader) (column : Nat) (start : TokenReader → TokenReader) : TokenReader :=
  if !r.inFlow && decide (r.indent < column) then
    start { r with outerIndents := r.indent :: r.outerIndents, indent := column }
  else r

/-- Ends block collections down to a column; `outer` holds the indents of the blocks around. -/
def endBlocks (column : Int) (r : TokenReader) : List Int → TokenReader
  | [] => { r with outerIndents := [] }
  | around :: outer =>
    if column < r.indent then
      endBlocks column ({ r with indent := around, outerIndents := outer }.push .blockEnd) outer
    else { r with outerIndents := around :: outer }

/-- Ends the block collections that are further in than a column. -/
def unindentTo (r : TokenReader) (column : Int) : TokenReader :=
  if r.inFlow then r else endBlocks column r r.outerIndents

/-! ### Tokens -/

/-- Leaves all blocks before a directive or a mark between documents. -/
def leaveBlocks? (r : TokenReader) : Option TokenReader :=
  ((r.unindentTo (-1)).dropKey?).map (allowKey · false)

def readDocumentMark? (r : TokenReader) (token : Token) : Option TokenReader :=
  (r.leaveBlocks?).map fun r => (r.skip 3).push token

def readDirectiveLine? (r : TokenReader) : Option TokenReader := do
  let r ← r.leaveBlocks?
  let (token, cursor) ← readDirective? r.cursor
  some ({ r with cursor }.push token)

def readFlowStart? (r : TokenReader) (token : Token) : Option TokenReader :=
  (r.noteKey?).map fun r =>
    (({ r with key := none, outerKeys := r.key :: r.outerKeys }.allowKey true).skip 1).push token

def readFlowEnd? (r : TokenReader) (token : Token) : Option TokenReader :=
  (r.dropKey?).map fun r =>
    let r := match r.outerKeys with
      | key :: outerKeys => { r with key, outerKeys }
      | [] => r
    ((r.allowKey false).skip 1).push token

def readFlowEntry? (r : TokenReader) : Option TokenReader :=
  (r.dropKey?).map fun r => ((r.allowKey true).skip 1).push .flowEntry

/-- Starts a block collection where an entry or a key stands without a key before it. -/
def startBlock? (r : TokenReader) (token : Token) : Option TokenReader :=
  if r.inFlow then some r
  else if r.keyAllowed then some (r.indentTo r.column (·.push token))
  else none

def readBlockEntry? (r : TokenReader) : Option TokenReader := do
  let r ← r.startBlock? .blockSequenceStart
  let r ← r.dropKey?
  some (((r.allowKey true).skip 1).push .blockEntry)

def readKey? (r : TokenReader) : Option TokenReader := do
  let r ← r.startBlock? .blockMappingStart
  let r ← r.dropKey?
  some (((r.allowKey !r.inFlow).skip 1).push .key)

/-- Reads the colon before a value. If a key may have begun before it, that is marked now. -/
def readValue? (r : TokenReader) : Option TokenReader := do
  let r ← match r.key with
    | some key =>
      let marked := { r with key := none }.insert key.number .key
      let started :=
        marked.indentTo key.position.column (fun r => r.insert key.number .blockMappingStart)
      some (started.allowKey false)
    | none => (r.startBlock? .blockMappingStart).map fun r => r.allowKey !r.inFlow
  some ((r.skip 1).push .value)

def readAnchor? (r : TokenReader) (token : String → Token) : Option TokenReader := do
  let r ← r.noteKey?
  let (name, cursor) ← readAnchorName? r.cursor
  some (({ r with cursor }.allowKey false).push (token name))

def readTagToken? (r : TokenReader) : Option TokenReader := do
  let r ← r.noteKey?
  let (token, cursor) ← readTag? r.inFlow r.cursor
  some (({ r with cursor }.allowKey false).push token)

def readBlock? (r : TokenReader) (folded : Bool) : Option TokenReader := do
  let r ← r.dropKey?
  let (header, length) := blockHeader (r.cursor.skip 1).rest
  let cursor ← ((r.cursor.skip 1).skip length).finishLine?
  let indent := header.increment.map fun n => (max r.indent 0).toNat + n
  let least := max (r.indent + 1).toNat 1
  let (text, cursor) ←
    blockFrom folded header.chomping least indent false {} cursor.position cursor.rest
  some (({ r with cursor }.allowKey true).push (.scalar false text))

def readApostrophed? (r : TokenReader) : Option TokenReader := do
  let r ← r.noteKey?
  let start := r.cursor.skip 1
  let (text, cursor) ← apostrophedFrom [] .none start.position start.rest
  some (({ r with cursor }.allowKey false).push (.scalar false text))

def readQuoted? (r : TokenReader) : Option TokenReader := do
  let r ← r.noteKey?
  let start := r.cursor.skip 1
  let (text, cursor) ← quotedFrom .plain [] .none start.position start.rest
  some (({ r with cursor }.allowKey false).push (.scalar false text))

def readPlain? (r : TokenReader) : Option TokenReader := do
  let r ← r.noteKey?
  let plain ← plainFrom r.inFlow (r.indent + 1) [] .none r.cursor.position r.cursor.rest
  let r := { r with cursor := plain.cursor }.allowKey plain.crossesLines
  some (r.push (.scalar true plain.text))

/-- Characters with a meaning of their own, with which no plain scalar begins. -/
def isIndicator (c : Char) : Bool :=
  "-?:,[]\x7b\x7d#&*!|>\x27\x22%@\x60".toList.contains c

/-- Whether a plain scalar may begin here. -/
def beginsPlain (flow : Bool) : List Char → Bool
  | [] => false
  | c :: rest =>
    !(isSpace c || isBreak c || isIndicator c) ||
      (c = '-' && !(rest.head?.any isSpace)) ||
      (!flow && (c = '?' || c = ':') && !endsWord rest)

/-- Reads the token that begins with the next character. -/
def readToken? (r : TokenReader) : Option TokenReader :=
  match r.cursor.rest with
  | [] => none
  | c :: rest =>
    if r.column = 0 && c = '%' then r.readDirectiveLine?
    else if atDocumentMark r.column (c :: rest) then
      r.readDocumentMark? (if c = '-' then .documentStart else .documentEnd)
    else if c = '[' then r.readFlowStart? .flowSequenceStart
    else if c = '\x7b' then r.readFlowStart? .flowMappingStart
    else if c = ']' then r.readFlowEnd? .flowSequenceEnd
    else if c = '\x7d' then r.readFlowEnd? .flowMappingEnd
    else if c = ',' then r.readFlowEntry?
    else if c = '-' && endsWord rest then r.readBlockEntry?
    else if c = '?' && (r.inFlow || endsWord rest) then r.readKey?
    else if c = ':' && (r.inFlow || endsWord rest) then r.readValue?
    else if c = '*' then r.readAnchor? .alias
    else if c = '&' then r.readAnchor? .anchor
    else if c = '!' then r.readTagToken?
    else if c = '|' && !r.inFlow then r.readBlock? false
    else if c = '>' && !r.inFlow then r.readBlock? true
    else if c = '\x27' then r.readApostrophed?
    else if c = '\x22' then r.readQuoted?
    else if beginsPlain r.inFlow (c :: rest) then r.readPlain?
    else none

/-- Reads tokens to the end of the text; `fuel` bounds their number. -/
def readAll? : Nat → TokenReader → Option TokenReader
  | 0, _ => none
  | fuel + 1, r =>
    match r.skipGap.dropStaleKeys? with
    | none => none
    | some r =>
      let r := r.unindentTo r.column
      match r.cursor.rest with
      | [] => r.leaveBlocks?
      | _ :: _ =>
        match r.readToken? with
        | none => none
        | some r => readAll? fuel r

end TokenReader

/-- The tokens of a text, or nothing if it has a fault. Every token takes at least one character. -/
def tokens? (text : String) : Option (List Token) :=
  if text.toList.all isAllowed then
    let cs := normalizeBreaks text.toList
    ((TokenReader.readAll? (cs.length + 1) { cursor := ⟨{}, cs⟩ }).map (·.tokens.reverse))
  else none

end BranchingStory.Yaml
