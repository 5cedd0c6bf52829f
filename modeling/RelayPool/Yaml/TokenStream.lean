import RelayPool.Yaml.Token.Property

/-!
# Token streams

The tokens of a whole text.  Indentation opens and closes blocks.  A key may
stand before its colon without a sign of its own, so the place before a token
that could be a key is remembered for the rest of its line, at most 1024
characters, and the key is put there when the colon comes.
-/

namespace RelayPool.Yaml

/-- A place before which a key may turn out to stand: the number of tokens
before it, whether a colon must come, and where it is. -/
structure Candidate where
  token : Nat
  required : Bool
  index : Nat
  line : Nat
  column : Nat
  deriving Repr

/-- The state of reading: the place in the text, the depth of brackets, the
indentation of the current block and of those around it, whether a key may
start here, the candidates by the depth of their brackets, and the tokens so
far in reverse order with their number. -/
structure Scanner where
  cursor : Cursor
  depth : Nat
  indent : Int
  outer : List Int
  keyAllowed : Bool
  candidates : List (Nat × Candidate)
  tokens : List Token
  count : Nat
  deriving Repr

/-- The tokens of a text, and the fault that ended them early. -/
structure TokenStream where
  tokens : List Token
  fault : Option Fault
  deriving Repr

namespace Scanner

/-- The state before the first token. -/
def start (source : Source) : Scanner :=
  { cursor := .start source
    depth := 0
    indent := -1
    outer := []
    keyAllowed := true
    candidates := []
    tokens := []
    count := 0 }

/-- The state after one more token. -/
def push (scanner : Scanner) (token : Token) : Scanner :=
  { scanner with tokens := token :: scanner.tokens, count := scanner.count + 1 }

/-- The state with a token put before the last `depth` tokens. -/
def insertBack (scanner : Scanner) (depth : Nat) (token : Token) : Scanner :=
  { scanner with
    tokens := scanner.tokens.take depth ++ token :: scanner.tokens.drop depth
    count := scanner.count + 1 }

/-- The state at a later place. -/
def moveTo (scanner : Scanner) (cursor : Cursor) : Scanner :=
  { scanner with cursor }

/-- The state with keys allowed or not. -/
def allowKey (scanner : Scanner) (allowed : Bool) : Scanner :=
  { scanner with keyAllowed := allowed }

/-- The column of the current place. -/
def column (scanner : Scanner) : Int :=
  scanner.cursor.column

/-- The place after white space and comments up to the next token.  In a block
a key may start on a new line. -/
def skipToToken : Nat → Scanner → Scanner
  | 0, scanner => scanner
  | fuel + 1, scanner =>
      let spaced := scanner.cursor.skipSpaces
      let next := if spaced.peek == '#' then spaced.skipLine else spaced
      match next.lineBreak? with
      | none => scanner.moveTo next
      | some (_, afterBreak) =>
          let moved := scanner.moveTo afterBreak
          skipToToken fuel (if scanner.depth = 0 then moved.allowKey true else moved)

/-- The state without a byte order mark at the start of the text. -/
def skipOrderMark (scanner : Scanner) : Scanner :=
  if scanner.cursor.index = 0 && scanner.cursor.peek == '\uFEFF' then
    scanner.moveTo scanner.cursor.forward
  else scanner

/-- The candidate can no longer be a key. -/
def isStale (cursor : Cursor) (candidate : Candidate) : Bool :=
  candidate.line != cursor.line || 1024 < cursor.index - candidate.index

/-- The state without the candidates that can no longer be keys. -/
def dropStale (scanner : Scanner) : Except Fault Scanner :=
  let (stale, kept) :=
    scanner.candidates.partition fun entry => isStale scanner.cursor entry.2
  if stale.any fun entry => entry.2.required then .error .malformed
  else .ok { scanner with candidates := kept }

/-- The state without the candidate at the current depth. -/
def dropCandidate (scanner : Scanner) : Except Fault Scanner :=
  match scanner.candidates.lookup scanner.depth with
  | none => .ok scanner
  | some candidate =>
      if candidate.required then .error .malformed
      else
        .ok { scanner with
          candidates := scanner.candidates.filter fun entry => entry.1 != scanner.depth }

/-- The state with the current place as a candidate, if a key is allowed. -/
def saveCandidate (scanner : Scanner) : Except Fault Scanner := do
  if !scanner.keyAllowed then return scanner
  let scanner ← scanner.dropCandidate
  let candidate : Candidate :=
    { token := scanner.count
      required := scanner.depth = 0 && scanner.indent = scanner.column
      index := scanner.cursor.index
      line := scanner.cursor.line
      column := scanner.cursor.column }
  return { scanner with
    candidates := (scanner.depth, candidate) :: scanner.candidates }

/-- The state after the ends of the blocks that are indented deeper than a
column.  Inside brackets indentation does not count. -/
def closeBlocksFrom (column : Int) (scanner : Scanner) : List Int → Scanner
  | [] => scanner
  | indent :: outer =>
      if column < scanner.indent then
        closeBlocksFrom column { scanner.push .blockEnd with indent, outer } outer
      else scanner

/-- The state after the ends of the blocks that are indented deeper than a
column. -/
def closeBlocks (scanner : Scanner) (column : Int) : Scanner :=
  if scanner.depth = 0 then closeBlocksFrom column scanner scanner.outer else scanner

/-- The state with a block opened at a column, if it is indented deeper than
the current block. -/
def openBlock? (scanner : Scanner) (column : Int) : Option Scanner :=
  if scanner.indent < column then
    some { scanner with outer := scanner.indent :: scanner.outer, indent := column }
  else none

/-- The state after the start of a block of the given kind at the current
column, if one starts here. -/
def startBlock (scanner : Scanner) (token : Token) : Scanner :=
  match scanner.openBlock? scanner.column with
  | some opened => opened.push token
  | none => scanner

/-- The state after a token of `length` characters. -/
def pushSign (scanner : Scanner) (length : Nat) (token : Token) : Scanner :=
  (scanner.push token).moveTo (scanner.cursor.forwardBy length)

/-- The state after what was read at the current place. -/
def pushRead (scanner : Scanner) (read : Except Fault (Token × Cursor)) :
    Except Fault Scanner := do
  let (token, cursor) ← read
  return (scanner.push token).moveTo cursor

/-- The end of the text. -/
def fetchEnd (scanner : Scanner) : Except Fault Scanner := do
  let closed ← (scanner.closeBlocks (-1)).dropCandidate
  return { (closed.allowKey false).push .streamEnd with candidates := [] }

/-- A directive. -/
def fetchDirective (fuel : Nat) (scanner : Scanner) : Except Fault Scanner := do
  let closed ← (scanner.closeBlocks (-1)).dropCandidate
  (closed.allowKey false).pushRead (readDirective fuel closed.cursor)

/-- A mark between documents. -/
def fetchSeparator (scanner : Scanner) (token : Token) : Except Fault Scanner := do
  let closed ← (scanner.closeBlocks (-1)).dropCandidate
  return (closed.allowKey false).pushSign 3 token

/-- An opening bracket. -/
def fetchOpening (scanner : Scanner) (token : Token) : Except Fault Scanner := do
  let saved ← scanner.saveCandidate
  return { (saved.allowKey true).pushSign 1 token with depth := saved.depth + 1 }

/-- A closing bracket, which needs an open one.  The character behind it is
asked for before it is refused. -/
def fetchClosing (scanner : Scanner) (token : Token) : Except Fault Scanner := do
  let dropped ← scanner.dropCandidate
  if dropped.depth = 0 then throw dropped.cursor.lateRefusal
  return { (dropped.allowKey false).pushSign 1 token with depth := dropped.depth - 1 }

/-- A comma inside brackets. -/
def fetchFlowEntry (scanner : Scanner) : Except Fault Scanner := do
  let dropped ← (scanner.allowKey true).dropCandidate
  return dropped.pushSign 1 .flowEntry

/-- The sign of an item of a block. -/
def fetchBlockEntry (scanner : Scanner) : Except Fault Scanner := do
  if scanner.depth = 0 && !scanner.keyAllowed then throw scanner.cursor.lateRefusal
  let started :=
    if scanner.depth = 0 then scanner.startBlock .blockSequenceStart else scanner
  let dropped ← (started.allowKey true).dropCandidate
  return dropped.pushSign 1 .blockEntry

/-- The sign of a key. -/
def fetchKey (scanner : Scanner) : Except Fault Scanner := do
  if scanner.depth = 0 && !scanner.keyAllowed then throw scanner.cursor.lateRefusal
  let started :=
    if scanner.depth = 0 then scanner.startBlock .blockMappingStart else scanner
  let dropped ← (started.allowKey (scanner.depth = 0)).dropCandidate
  return dropped.pushSign 1 .key

/-- The state with a key put at a candidate, and before it the start of a
block, if one starts there. -/
def insertKey (scanner : Scanner) (candidate : Candidate) : Scanner :=
  let behind := scanner.count - candidate.token
  let keyed := scanner.insertBack behind .key
  if keyed.depth = 0 then
    match keyed.openBlock? candidate.column with
    | some opened => opened.insertBack (behind + 1) .blockMappingStart
    | none => keyed
  else keyed

/-- The sign of a value, after a key that was not marked or one that was. -/
def fetchValue (scanner : Scanner) : Except Fault Scanner := do
  match scanner.candidates.lookup scanner.depth with
  | some candidate =>
      let kept := scanner.candidates.filter fun entry => entry.1 != scanner.depth
      let keyed := { scanner with candidates := kept }.insertKey candidate
      return (keyed.allowKey false).pushSign 1 .value
  | none => do
      if scanner.depth = 0 && !scanner.keyAllowed then throw scanner.cursor.lateRefusal
      let started :=
        if scanner.depth = 0 then scanner.startBlock .blockMappingStart else scanner
      let dropped ← (started.allowKey (scanner.depth = 0)).dropCandidate
      return dropped.pushSign 1 .value

/-- A token that may be a key and after which none may start. -/
def fetchKeyLike (scanner : Scanner) (read : Cursor → Except Fault (Token × Cursor)) :
    Except Fault Scanner := do
  let saved ← scanner.saveCandidate
  (saved.allowKey false).pushRead (read saved.cursor)

/-- A block scalar. -/
def fetchBlockScalar (fuel : Nat) (folded : Bool) (scanner : Scanner) :
    Except Fault Scanner := do
  let dropped ← (scanner.allowKey true).dropCandidate
  dropped.pushRead (readBlock fuel folded dropped.indent dropped.cursor)

/-- A plain scalar.  A key may start after it when a line break came last. -/
def fetchPlain (fuel : Nat) (scanner : Scanner) : Except Fault Scanner := do
  let saved ← scanner.saveCandidate
  let (token, brokeLine, cursor) ←
    readPlain fuel (saved.depth != 0) (saved.indent + 1) saved.cursor
  return ((saved.allowKey brokeLine).push token).moveTo cursor

/-- The character can begin a plain scalar by itself. -/
def startsPlain (character : Char) : Bool :=
  !(endsWord character ||
    ['-', '?', ':', ',', '[', ']', '\x7b', '\x7d', '#', '&', '*', '!', '|', '>',
      '\'', '"', '%', '@', '\x60'].contains character)

/-- A plain scalar begins here.  A hyphen, and in a block a question mark or a
colon, begins one before a character that is not white space. -/
def atPlain (scanner : Scanner) : Bool :=
  let character := scanner.cursor.peek
  startsPlain character ||
    (!endsWord (scanner.cursor.peekAt 1) &&
      (character == '-' ||
        (scanner.depth = 0 && (character == '?' || character == ':'))))

/-- Asks for the three characters of a mark between documents where one may
begin. -/
def demandMark (cursor : Cursor) : Except Fault Unit :=
  if cursor.column = 0 && (cursor.peek == '-' || cursor.peek == '.') then
    cursor.demand 3
  else .ok ()

/-- Reads the next token.  The state is at its first character. -/
def fetchToken (fuel : Nat) (scanner : Scanner) : Except Fault Scanner :=
  let cursor := scanner.cursor
  let character := cursor.peek
  let atLineStart := cursor.column = 0
  let inBlock := scanner.depth = 0
  let beforeSpace := endsWord (cursor.peekAt 1)
  if character == '\x00' then scanner.fetchEnd
  else if character == '%' && atLineStart then scanner.fetchDirective fuel
  else if let .error fault := demandMark cursor then .error fault
  else if atLineStart && cursor.atMark '-' then scanner.fetchSeparator .documentStart
  else if atLineStart && cursor.atMark '.' then scanner.fetchSeparator .documentEnd
  else if character == '[' then scanner.fetchOpening .flowSequenceStart
  else if character == '\x7b' then scanner.fetchOpening .flowMappingStart
  else if character == ']' then scanner.fetchClosing .flowSequenceEnd
  else if character == '\x7d' then scanner.fetchClosing .flowMappingEnd
  else if character == ',' then scanner.fetchFlowEntry
  else if character == '-' && beforeSpace then scanner.fetchBlockEntry
  else if character == '?' && (!inBlock || beforeSpace) then scanner.fetchKey
  else if character == ':' && (!inBlock || beforeSpace) then scanner.fetchValue
  else if character == '*' then
    scanner.fetchKeyLike fun place =>
      (readName place).map fun (name, last) => (.alias name, last)
  else if character == '&' then
    scanner.fetchKeyLike fun place =>
      (readName place).map fun (name, last) => (.anchor name, last)
  else if character == '!' then scanner.fetchKeyLike (readTag fuel)
  else if character == '|' && inBlock then scanner.fetchBlockScalar fuel false
  else if character == '>' && inBlock then scanner.fetchBlockScalar fuel true
  else if character == '\'' then scanner.fetchKeyLike (readQuoted fuel false)
  else if character == '"' then scanner.fetchKeyLike (readQuoted fuel true)
  else if scanner.atPlain then scanner.fetchPlain fuel
  else .error cursor.lateRefusal

/-- The state, unless a fault behind the text comes next. -/
def unblocked (scanner : Scanner) : Except Fault Scanner :=
  match scanner.cursor.blocked? with
  | some fault => .error fault
  | none => .ok scanner

/-- The state after the next token. -/
def next (fuel : Nat) (scanner : Scanner) : Except Fault Scanner := do
  let moved ← (scanner.skipOrderMark.skipToToken fuel).unblocked
  let ready ← moved.dropStale
  let fetched ← (ready.closeBlocks ready.column).fetchToken fuel
  fetched.unblocked

/-- The tokens that can be handed on before a fault: those before the first
candidate. -/
def settled (scanner : Scanner) : List Token :=
  let limit :=
    scanner.candidates.foldl (fun least entry => min least entry.2.token) scanner.count
  scanner.tokens.reverse.take limit

/-- Reads tokens to the end of the text. -/
def run (fuel : Nat) : Nat → Scanner → TokenStream
  | 0, scanner => ⟨scanner.settled, some .malformed⟩
  | steps + 1, scanner =>
      match scanner.dropStale with
      | .error fault => ⟨scanner.settled, some fault⟩
      | .ok current =>
          match current.next fuel with
          | .error fault => ⟨current.settled, some fault⟩
          | .ok next =>
              if next.tokens.head? = some .streamEnd then ⟨next.tokens.reverse, none⟩
              else run fuel steps next

end Scanner

/-- The tokens of a source.  Every token but the ends of blocks takes at least
a character, so the length of the text bounds the steps. -/
def TokenStream.ofSource (source : Source) : TokenStream :=
  let fuel := source.text.length + 2
  (Scanner.start source).run fuel fuel

end RelayPool.Yaml
