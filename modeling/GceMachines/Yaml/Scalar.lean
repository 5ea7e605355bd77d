import GceMachines.Yaml.Cursor

/-!
# Scalars of a YAML text

A scalar is written plainly, between quotes, or as a block of lines. Inside a plain or a quoted
scalar a single line end stands for a space and further ones for themselves; a block keeps its
line ends or folds them in the same way.

* `quoted`, `plain`, `block`: the scalar that begins at a cursor, and what follows it.
-/

namespace GceMachines.Yaml

/-! ### Gaps -/

/-- What stands between two words of a scalar. -/
inductive Gap
  /-- Blanks, the last first. -/
  | blanks (cs : List Char)
  /-- A line end, if it counts, and those after it, the last first. -/
  | breaks (first : Option Char) (more : List Char)
  deriving DecidableEq, Repr

namespace Gap

/-- A gap that goes on with a line end. -/
def addBreak (c : Char) : Gap → Gap
  | blanks _ => breaks (some c) []
  | breaks first more => breaks first (c :: more)

/-- The characters that a gap stands for. -/
def chars : Gap → List Char
  | blanks cs => cs.reverse
  | breaks (some '\n') [] => [' ']
  | breaks (some '\n') more => more.reverse
  | breaks first more => first.toList ++ more.reverse

/-- Whether a gap holds a line end. -/
def isBroken : Gap → Bool
  | blanks _ => false
  | breaks _ _ => true

/-- The gap at a cursor. No tab may stand in a column below `indent` behind a line end. -/
def read (indent : Nat) (tab : Mark → Fault) :
    (n : Nat) → Gap → Cursor → Except Fault (Gap × Cursor)
  | 0, g, c => .ok (g, c)
  | n + 1, g, c =>
    match c.peek? with
    | none => .ok (g, c)
    | some x =>
      if isBlank x then
        match g with
        | blanks cs => read indent tab n (blanks (x :: cs)) c.next
        | breaks _ _ =>
          if x == '\t' && c.mark.column < indent then .error (tab c.mark)
          else read indent tab n g c.next
      else if isBreak x then read indent tab n (g.addBreak (breakChar x)) c.nextLine
      else .ok (g, c)

end Gap

/-! ### Quoted scalars -/

/-- A fault inside a quoted scalar. -/
def quotedFault (start : Mark) (problem : String) (place : Mark) : Fault :=
  ⟨problem, place, some ("while scanning a quoted scalar", start)⟩

/-- What an escape of one letter stands for. -/
def escaped? (c : Char) : Option Char :=
  match c with
  | '0' => some '\x00'
  | 'a' => some '\x07'
  | 'b' => some '\x08'
  | 't' => some '\t'
  | '\t' => some '\t'
  | 'n' => some '\n'
  | 'v' => some '\x0B'
  | 'f' => some '\x0C'
  | 'r' => some '\r'
  | 'e' => some '\x1B'
  | ' ' => some ' '
  | '"' => some '"'
  | '/' => some '/'
  | '\\' => some '\\'
  | 'N' => some '\u0085'
  | '_' => some '\u00A0'
  | 'L' => some '\u2028'
  | 'P' => some '\u2029'
  | _ => none

/-- How many hexadecimal digits follow an escape letter. -/
def hexCount? (c : Char) : Option Nat :=
  match c with
  | 'x' => some 2
  | 'u' => some 4
  | 'U' => some 8
  | _ => none

/-- The value of a hexadecimal digit. -/
def hexDigit? (c : Char) : Option Nat :=
  if '0' ≤ c && c ≤ '9' then some (c.toNat - 48)
  else if 'a' ≤ c && c ≤ 'f' then some (c.toNat - 87)
  else if 'A' ≤ c && c ≤ 'F' then some (c.toNat - 55)
  else none

/-- The number of hexadecimal digits at the front, if there are as many as wanted. -/
def hexNumber? : (count value : Nat) → List Char → Option Nat
  | 0, v, _ => some v
  | _ + 1, _, [] => none
  | k + 1, v, c :: cs => (hexDigit? c).bind fun d => hexNumber? k (v * 16 + d) cs

/-- The character of an escape at a cursor, and what follows it. -/
def readEscape (start : Mark) (c : Cursor) : Except Fault (Char × Cursor) :=
  let fault (problem : String) (place : Mark) : Except Fault (Char × Cursor) :=
    .error ⟨problem, place, some ("while parsing a quoted scalar", start)⟩
  match c.peekAt? 1 with
  | none => fault "found unknown escape character" c.mark
  | some x =>
    let after := c.next.next
    match escaped? x, hexCount? x with
    | some y, _ => .ok (y, after)
    | none, none => fault "found unknown escape character" c.mark
    | none, some k =>
      match hexNumber? k 0 after.rest with
      | none => fault "did not find expected hexadecimal number" after.mark
      | some v =>
        if (0xD800 ≤ v && v ≤ 0xDFFF) || 0x10FFFF < v then
          fault "found invalid Unicode character escape code" after.mark
        else .ok (Char.ofNat v, after.advance k)

/-- The rest of a quoted scalar, behind characters that stand in reverse. -/
def quotedRest (single : Bool) (start : Mark) :
    (n : Nat) → List Char → Cursor → Except Fault (List Char × Cursor)
  | 0, _, c => .error (quotedFault start "found unexpected end of stream" c.mark)
  | n + 1, done, c =>
    let gap (g : Gap) (c : Cursor) : Except Fault (List Char × Cursor) :=
      (g.read 0 (quotedFault start "") n c).bind fun (g, c) =>
        quotedRest single start n (g.chars.reverse ++ done) c
    if c.atDocument then .error (quotedFault start "found unexpected document indicator" c.mark)
    else
      match c.peek? with
      | none => .error (quotedFault start "found unexpected end of stream" c.mark)
      | some x =>
        if single && x == '\'' && c.peekAt? 1 == some '\'' then
          quotedRest single start n ('\'' :: done) c.next.next
        else if x == (if single then '\'' else '"') then .ok (done.reverse, c.next)
        else if !single && x == '\\' then
          if (c.peekAt? 1).any isBreak then gap (.breaks none []) c.next.nextLine
          else
            (readEscape start c).bind fun (y, c) => quotedRest single start n (y :: done) c
        else if isBlank x || isBreak x then gap (.blanks []) c
        else quotedRest single start n (x :: done) c.next

/-- **The quoted scalar at a cursor**, and what follows it. -/
def quoted (single : Bool) (c : Cursor) : Except Fault (List Char × Cursor) :=
  quotedRest single c.mark (c.rest.length + 1) [] c.next

/-! ### Plain scalars -/

/-- A fault inside a plain scalar. -/
def plainFault (start : Mark) (problem : String) (place : Mark) : Fault :=
  ⟨problem, place, some ("while scanning a plain scalar", start)⟩

/-- Whether a character has a meaning of its own between brackets. -/
def isFlowSign (c : Char) : Bool := c == ',' || c == '[' || c == ']' || c == '\x7b' || c == '\x7d'

/-- The word at a cursor, and what follows it. -/
def word (flow : Bool) (start : Mark) :
    (n : Nat) → List Char → Cursor → Except Fault (List Char × Cursor)
  | 0, done, c => .ok (done.reverse, c)
  | n + 1, done, c =>
    match c.peek? with
    | none => .ok (done.reverse, c)
    | some x =>
      if isBlank x || isBreak x then .ok (done.reverse, c)
      else if flow && x == ':' && (c.peekAt? 1).any fun y => isFlowSign y || y == '?' then
        .error (plainFault start "found unexpected ':'" c.mark)
      else if (x == ':' && c.endsWordAt 1) || (flow && isFlowSign x) then .ok (done.reverse, c)
      else word flow start n (x :: done) c.next

/-- The rest of a plain scalar behind characters that stand in reverse and a gap. Also whether
its last gap, which does not belong to it, holds a line end. -/
def plainRest (flow : Bool) (indent : Nat) (start : Mark) :
    (n : Nat) → List Char → Gap → Cursor → Except Fault (List Char × Bool × Cursor)
  | 0, done, g, c => .ok (done.reverse, g.isBroken, c)
  | n + 1, done, g, c =>
    if c.atDocument || c.peek? == some '#' then .ok (done.reverse, g.isBroken, c)
    else
      (word flow start (c.rest.length + 1) [] c).bind fun (w, c) =>
        if w.isEmpty then .ok (done.reverse, g.isBroken, c)
        else
          let done := w.reverse ++ (g.chars.reverse ++ done)
          let tab := plainFault start "found a tab character that violates indentation"
          ((Gap.blanks []).read indent tab (c.rest.length + 1) c).bind fun (g, c') =>
            if g = .blanks [] then .ok (done.reverse, false, c)
            else if !flow && c'.mark.column < indent then .ok (done.reverse, g.isBroken, c')
            else plainRest flow indent start n done g c'

/-- **The plain scalar at a cursor**, which between no brackets reaches as far as its lines are
indented; also whether a line end follows it. -/
def plain (flow : Bool) (indent : Nat) (c : Cursor) :
    Except Fault (List Char × Bool × Cursor) :=
  plainRest flow indent c.mark (c.rest.length + 1) [] (.blanks []) c

/-! ### Blocks of lines -/

/-- A fault inside a block. -/
def blockFault (start : Mark) (problem : String) (place : Mark) : Fault :=
  ⟨problem, place, some ("while scanning a block scalar", start)⟩

/-- What becomes of the line ends at the end of a block. -/
inductive Chomping
  | strip
  | clip
  | keep
  deriving DecidableEq, Repr

/-- The line ends and the indentation before the next line of a block: the line ends in reverse,
the widest indentation met, and what follows. With an indentation of zero it is not known yet. -/
def blockBreaks (start : Mark) (indent : Nat) :
    (n : Nat) → List Char → (widest : Nat) → Cursor → Except Fault (List Char × Nat × Cursor)
  | 0, done, widest, c => .ok (done, widest, c)
  | n + 1, done, widest, c =>
    let spaces := (c.rest.takeWhile (· == ' ')).length
    let c := c.advance (if indent = 0 then spaces else min spaces (indent - c.mark.column))
    let widest := max widest c.mark.column
    if (indent = 0 || c.mark.column < indent) && c.peek? == some '\t' then
      .error (blockFault start "found a tab character where an indentation space is expected"
        c.mark)
    else
      match c.peek? with
      | some x =>
        if isBreak x then blockBreaks start indent n (breakChar x :: done) widest c.nextLine
        else .ok (done, widest, c)
      | none => .ok (done, widest, c)

/-- The lines of a block behind characters that stand in reverse, with the line end before the
next line, those after that one, in reverse, and whether the line before began with a blank. -/
def blockLines (folded : Bool) (chomping : Chomping) (start : Mark) (indent : Nat) :
    (n : Nat) → List Char → Option Char → List Char → Bool → Cursor →
      Except Fault (List Char × Cursor)
  | 0, done, _, _, _, c => .ok (done.reverse, c)
  | n + 1, done, first, more, blankBefore, c =>
    if c.mark.column = indent && !c.rest.isEmpty then
      let blank := c.peek?.any isBlank
      let joined :=
        if folded && first == some '\n' && !blankBefore && !blank then
          (if more.isEmpty then [' '] else [])
        else first.toList
      let line := c.rest.takeWhile (!isBreak ·)
      let c := c.advance line.length
      let done := line.reverse ++ (more ++ (joined.reverse ++ done))
      let first := c.peek?.map breakChar
      (blockBreaks start indent (c.rest.length + 1) [] 0 c.nextLine).bind fun (more, _, c) =>
        blockLines folded chomping start indent n done first more blank c
    else
      let done := if chomping = .strip then done else first.toList ++ done
      let done := if chomping = .keep then more ++ done else done
      .ok (done.reverse, c)

/-- The signs behind the sign of a block, in either order: its chomping, and its indentation, or
zero. -/
def blockHeader (start : Mark) (c : Cursor) : Except Fault (Chomping × Nat × Cursor) :=
  let chomping (c : Cursor) : Chomping × Cursor := match c.peek? with
    | some '+' => (.keep, c.next)
    | some '-' => (.strip, c.next)
    | _ => (.clip, c)
  let width (c : Cursor) : Except Fault (Nat × Cursor) := match c.peek? with
    | some x =>
      if x == '0' then
        .error (blockFault start "found an indentation indicator equal to 0" c.mark)
      else if x.isDigit then .ok (x.toNat - 48, c.next)
      else .ok (0, c)
    | none => .ok (0, c)
  let (before, c) := chomping c
  (width c).map fun (k, c) =>
    if before = .clip then let (after, c) := chomping c; (after, k, c) else (before, k, c)

/-- **The block at a cursor** in a collection that is indented by `outer`, and what follows it. -/
def block (folded : Bool) (outer : Int) (c : Cursor) : Except Fault (List Char × Cursor) := do
  let start := c.mark
  let (chomping, width, c) ← blockHeader start c.next
  let c := c.skipWhile isBlank
  let c := if c.peek? == some '#' then c.skipWhile (!isBreak ·) else c
  if c.peek?.any (!isBreak ·) then
    throw (blockFault start "did not find expected comment or line break" c.mark)
  let c := c.nextLine
  let given := if width = 0 then 0 else (max outer 0).toNat + width
  let (more, widest, c) ← blockBreaks start given (c.rest.length + 1) [] 0 c
  let indent := if given = 0 then max (max widest (outer + 1).toNat) 1 else given
  blockLines folded chomping start indent (c.rest.length + 1) [] none more false c

end GceMachines.Yaml
