import GceMachines.Yaml.Scalar

/-!
# Tokens of a YAML text

A text is cut into tokens from the front. Indentation shows as tokens of its own, which begin and
end collections. A colon makes what stands before it on its line a key; a key is therefore found
only after the token that begins it, and its mark is put in before that token.

Where the text breaks the grammar the tokens end with a fault. As long as a token may still turn
out to begin a key, neither it nor any later token counts, so that the fault takes their place.

* `Token`, `Token.ofText`: the tokens of a text.
-/

namespace GceMachines.Yaml

/-- What a token is. -/
inductive Kind
  | textEnd
  | documentStart
  | documentEnd
  | blockSequenceStart
  | blockMappingStart
  | blockEnd
  | flowSequenceStart
  | flowSequenceEnd
  | flowMappingStart
  | flowMappingEnd
  /-- A hyphen before an item. -/
  | blockEntry
  /-- A comma between brackets. -/
  | flowEntry
  | key
  | value
  | scalar (text : String) (plain : Bool)
  /-- The text breaks the grammar here. -/
  | broken (f : Fault)
  deriving DecidableEq, Repr

/-- **A token** and the place at which it begins. -/
structure Token where
  kind : Kind
  start : Mark
  deriving DecidableEq, Repr

/-- A token that may begin a key. -/
structure PossibleKey where
  /-- How many tokens come before it. -/
  place : Nat
  mark : Mark
  /-- Whether the indentation leaves nothing but a key to begin here. -/
  required : Bool
  deriving DecidableEq, Repr

/-- **How far the cutting is.** -/
structure Cutting where
  cursor : Cursor
  tokens : Array Token
  /-- The indentation of the innermost block, or -1. -/
  indent : Int
  /-- The indentations around it, the innermost first. -/
  outer : List Int
  /-- The possible key of the innermost collection between brackets. -/
  here : Option PossibleKey
  /-- Those of the collections around it, the innermost first. -/
  around : List (Option PossibleKey)
  /-- Whether a key may begin here. -/
  keyAllowed : Bool

namespace Cutting

/-- Whether the cursor stands between brackets. -/
def flow (s : Cutting) : Bool := !s.around.isEmpty

/-- The place of the cursor. -/
def mark (s : Cutting) : Mark := s.cursor.mark

/-- One more token. -/
def emit (k : Kind) (at_ : Mark) (s : Cutting) : Cutting :=
  { s with tokens := s.tokens.push ⟨k, at_⟩ }

/-- The token of a sign of some characters. -/
def sign (k : Kind) (width : Nat) (s : Cutting) : Cutting :=
  { s.emit k s.mark with cursor := s.cursor.advance width }

/-! ### Possible keys -/

/-- The fault of a line that has to begin with a key and does not. -/
def noKeyFault (k : PossibleKey) (place : Mark) : Fault :=
  ⟨"could not find expected ':'", place, some ("while scanning a simple key", k.mark)⟩

/-- Whether a possible key is too far back: on another line, or over 1024 bytes away. -/
def isStale (now : Mark) (k : PossibleKey) : Bool :=
  k.mark.line < now.line || k.mark.index + 1024 < now.index

/-- A possible key that is dropped. -/
def drop (now : Mark) : Option PossibleKey → Except Fault (Option PossibleKey)
  | none => .ok none
  | some k => if k.required then .error (noKeyFault k now) else .ok none

/-- A possible key that is dropped if it is too far back. -/
def refresh (now : Mark) (k : Option PossibleKey) : Except Fault (Option PossibleKey) :=
  if k.any (isStale now) then drop now k else .ok k

/-- Without the possible keys that are too far back. -/
def dropStale (s : Cutting) : Except Fault Cutting := do
  let around ← s.around.reverse.mapM (refresh s.mark)
  let here ← refresh s.mark s.here
  return { s with here, around := around.reverse }

/-- Without the innermost possible key. -/
def dropKey (s : Cutting) : Except Fault Cutting :=
  (drop s.mark s.here).map fun here => { s with here }

/-- The next token may begin a key, if one may begin here at all. -/
def noteKey (s : Cutting) : Except Fault Cutting :=
  if s.keyAllowed then
    s.dropKey.map fun s =>
      { s with here := some ⟨s.tokens.size, s.mark, !s.flow && s.indent = s.mark.column⟩ }
  else .ok s

/-- The tokens that count: those before the first that may still begin a key. -/
def settled (s : Cutting) : Nat :=
  (s.here :: s.around).foldl (fun n k => match k with
    | some k => min n k.place
    | none => n) s.tokens.size

/-! ### Indentation -/

/-- A block collection that begins in a column, before the token at a place, unless one with that
indentation has begun already. -/
def openBlock (k : Kind) (column : Nat) (place : Nat) (at_ : Mark) (s : Cutting) : Cutting :=
  if s.flow || (column : Int) ≤ s.indent then s
  else
    { s with
      tokens := s.tokens.take place ++ #[⟨k, at_⟩] ++ s.tokens.drop place
      outer := s.indent :: s.outer
      indent := column }

/-- The ends of the block collections that are indented by more than `column`. -/
def closeBlocks (column : Int) (s : Cutting) : Cutting :=
  if s.flow then s else go s.outer s
where
  /-- Ends the innermost collection and goes on with those around it. -/
  go : List Int → Cutting → Cutting
    | [], s => s
    | i :: is, s =>
      if column < s.indent then
        go is { s.emit .blockEnd s.mark with indent := i, outer := is }
      else s

/-! ### Tokens -/

/-- The sign of a byte order. -/
def byteOrderMark : Char := '\uFEFF'

/-- The cursor behind blanks, comments and line ends, and behind a byte order mark at the beginning
of a line. A tab does not count as a blank where a key may begin. -/
def skipGap : (n : Nat) → Cutting → Cutting
  | 0, s => s
  | n + 1, s =>
    let isGap (c : Char) : Bool := c == ' ' || (c == '\t' && (s.flow || !s.keyAllowed))
    let c := s.cursor
    let c := if c.mark.column = 0 && c.peek? == some byteOrderMark then c.next else c
    let c := c.skipWhile isGap
    let c := if c.peek? == some '#' then c.skipWhile (!isBreak ·) else c
    if c.peek?.any isBreak then
      skipGap n { s with cursor := c.nextLine, keyAllowed := s.keyAllowed || !s.flow }
    else { s with cursor := c }

/-- The fault of a sign that may not stand here. -/
def misplaced (s : Cutting) (what : String) : Fault :=
  ⟨what ++ " are not allowed in this context", s.mark, none⟩

/-- The start or the end of a document. -/
def documentSign (k : Kind) (s : Cutting) : Except Fault Cutting :=
  (s.closeBlocks (-1)).dropKey.map fun s => { s.sign k 3 with keyAllowed := false }

/-- The end of the text. -/
def finish (s : Cutting) : Except Fault Cutting :=
  let m := s.mark
  let m := if m.column = 0 then m else ⟨m.index, m.line + 1, 0⟩
  let s : Cutting := { s with cursor := ⟨[], m⟩ }
  (s.closeBlocks (-1)).dropKey.map fun s => { s.emit .textEnd s.mark with keyAllowed := false }

/-- An opening bracket. -/
def openFlow (k : Kind) (s : Cutting) : Except Fault Cutting :=
  s.noteKey.map fun s =>
    { s.sign k 1 with around := s.here :: s.around, here := none, keyAllowed := true }

/-- A closing bracket. -/
def closeFlow (k : Kind) (s : Cutting) : Except Fault Cutting :=
  s.dropKey.map fun s =>
    let s : Cutting := match s.around with
      | [] => s
      | outer :: around => { s with here := outer, around }
    { s.sign k 1 with keyAllowed := false }

/-- A comma between brackets. -/
def flowEntry (s : Cutting) : Except Fault Cutting :=
  s.dropKey.map fun s => { s.sign .flowEntry 1 with keyAllowed := true }

/-- The hyphen of an item. -/
def blockEntry (s : Cutting) : Except Fault Cutting :=
  if !s.flow && !s.keyAllowed then .error (s.misplaced "block sequence entries")
  else
    let s := s.openBlock .blockSequenceStart s.mark.column s.tokens.size s.mark
    s.dropKey.map fun s => { s.sign .blockEntry 1 with keyAllowed := true }

/-- The question mark of a key. -/
def keySign (s : Cutting) : Except Fault Cutting :=
  if !s.flow && !s.keyAllowed then .error (s.misplaced "mapping keys")
  else
    let s := s.openBlock .blockMappingStart s.mark.column s.tokens.size s.mark
    s.dropKey.map fun s => { s.sign .key 1 with keyAllowed := !s.flow }

/-- The colon of a value. -/
def valueSign (s : Cutting) : Except Fault Cutting :=
  match s.here with
  | some k =>
    let tokens := s.tokens.take k.place ++ #[⟨.key, k.mark⟩] ++ s.tokens.drop k.place
    let s : Cutting := { s with tokens, here := none, keyAllowed := false }
    let s := s.openBlock .blockMappingStart k.mark.column k.place k.mark
    .ok (s.sign .value 1)
  | none =>
    if !s.flow && !s.keyAllowed then .error (s.misplaced "mapping values")
    else
      let s := s.openBlock .blockMappingStart s.mark.column s.tokens.size s.mark
      .ok { s.sign .value 1 with keyAllowed := !s.flow }

/-- A scalar that was read, and what follows it. -/
def withScalar (start : Mark) (isPlain : Bool) (text : List Char) (after : Cursor) (s : Cutting) :
    Cutting :=
  { s.emit (.scalar (String.ofList text) isPlain) start with cursor := after }

/-- A quoted scalar. -/
def quotedScalar (single : Bool) (s : Cutting) : Except Fault Cutting := do
  let s ← s.noteKey
  let (text, after) ← quoted single s.cursor
  return { s.withScalar s.mark false text after with keyAllowed := false }

/-- A plain scalar. -/
def plainScalar (s : Cutting) : Except Fault Cutting := do
  let s ← s.noteKey
  let (text, broken, after) ← plain s.flow (s.indent + 1).toNat s.cursor
  return { s.withScalar s.mark true text after with keyAllowed := broken }

/-- A block of lines. -/
def blockScalar (folded : Bool) (s : Cutting) : Except Fault Cutting := do
  let s ← s.dropKey
  let (text, after) ← block folded s.indent s.cursor
  return { s.withScalar s.mark false text after with keyAllowed := true }

/-- Signs with which no plain scalar begins. -/
def isSign (c : Char) : Bool :=
  isFlowSign c || c ∈ ['-', '?', ':', '#', '&', '*', '!', '|', '>', '\'', '"', '%', '@', '\x60']

/-- Whether a plain scalar begins with a character. -/
def beginsPlain (s : Cutting) (c : Char) : Bool :=
  (!isSign c && !isBlank c && !isBreak c) ||
    (c == '-' && !(s.cursor.peekAt? 1).any isBlank) ||
    (!s.flow && (c == '?' || c == ':') && !s.cursor.endsWordAt 1)

/-- The next token, behind gaps and the ends of blocks. -/
def token (s : Cutting) : Except Fault Cutting :=
  match s.cursor.peek? with
  | none => s.finish
  | some c =>
    if s.cursor.isMarker "---" then s.documentSign .documentStart
    else if s.cursor.isMarker "..." then s.documentSign .documentEnd
    else if c == '[' then s.openFlow .flowSequenceStart
    else if c == '\x7b' then s.openFlow .flowMappingStart
    else if c == ']' then s.closeFlow .flowSequenceEnd
    else if c == '\x7d' then s.closeFlow .flowMappingEnd
    else if c == ',' then s.flowEntry
    else if c == '-' && s.cursor.endsWordAt 1 then s.blockEntry
    else if c == '?' && (s.flow || s.cursor.endsWordAt 1) then s.keySign
    else if c == ':' && (s.flow || s.cursor.endsWordAt 1) then s.valueSign
    else if c == '|' && !s.flow then s.blockScalar false
    else if c == '>' && !s.flow then s.blockScalar true
    else if c == '\'' then s.quotedScalar true
    else if c == '"' then s.quotedScalar false
    else if s.beginsPlain c then s.plainScalar
    else .error ⟨"found character that cannot start any token", s.mark,
      some ("while scanning for the next token", s.mark)⟩

/-- One step: what stands before the next token, and that token. -/
def step (s : Cutting) : Except Fault Cutting :=
  (s.skipGap (s.cursor.rest.length + 1)).dropStale.bind fun s =>
    (s.closeBlocks s.mark.column).token

/-- Before the first token. -/
def start (cs : List Char) : Cutting := ⟨.start cs, #[], -1, [], none, [], true⟩

/-- The tokens of what is left, of which `asked` count already. -/
def run : (n : Nat) → (asked : Nat) → Cutting → List Token
  | 0, _, s => s.tokens.toList
  | n + 1, asked, s =>
    let broken (count : Nat) (f : Fault) : List Token :=
      (s.tokens.take count).toList ++ [⟨.broken f, f.place⟩]
    let checked := if asked < s.tokens.size then s.dropStale else .ok s
    match checked with
    | .error f => broken asked f
    | .ok s =>
      if (s.tokens.back?.map Token.kind) = some .textEnd then s.tokens.toList
      else
        let asked := max asked s.settled
        match s.step with
        | .error f => broken asked f
        | .ok s => run n asked s

end Cutting

/-- Whether a text may hold a character at all. -/
def isPrintable (c : Char) : Bool :=
  let n := c.toNat
  n == 0x09 || n == 0x0A || n == 0x0D || (0x20 ≤ n && n ≤ 0x7E) || n == 0x85 ||
    (0xA0 ≤ n && n ≤ 0xFFFD) || 0x10000 ≤ n

/-- The fault of the first character that a text may not hold, where it is `offset` bytes behind
the beginning. -/
def unprintable? (offset : Nat) : List Char → Option Fault
  | [] => none
  | c :: cs =>
    if isPrintable c then unprintable? (offset + c.utf8Size) cs
    else
      let place := if offset = 0 then "" else " at position " ++ toString offset
      some ⟨"control characters are not allowed" ++ place, .start, none⟩

/-- **The tokens of a text.** A byte order mark at the front does not count, but its bytes do where
a message tells how many come before a character. -/
def Token.ofText (text : String) : List Token :=
  let (skipped, cs) := match text.toList with
    | [] => (0, [])
    | c :: cs => if c = Cutting.byteOrderMark then (c.utf8Size, cs) else (0, c :: cs)
  match unprintable? skipped cs with
  | some f => [⟨.broken f, .start⟩]
  | none => Cutting.run (cs.length + 2) 0 (.start cs)

end GceMachines.Yaml
