/-!
# Places in a YAML text

A text is read from the front. A cursor is what is left of it and the mark at which that begins:
how many bytes came before, and in which line and column it is. A carriage return and the line
feed behind it are one line end.

* `Mark`, `Cursor`: places.
* `Fault`: a broken rule and the places that its wording names.
* `isBreak`, `isBlank`: line ends and blanks.
-/

namespace GceMachines.Yaml

/-- **A place in a text**, counted from zero. -/
structure Mark where
  /-- How many bytes come before. -/
  index : Nat
  line : Nat
  column : Nat
  deriving DecidableEq, Repr

namespace Mark

/-- The beginning of a text. -/
def start : Mark := ⟨0, 0, 0⟩

/-- Whether a place is at the beginning of the first line. -/
def isOrigin (m : Mark) : Bool := m.line = 0 && m.column = 0

/-- How messages name a place: by line and column, counted from one. -/
def text (m : Mark) : String :=
  "line " ++ toString (m.line + 1) ++ " column " ++ toString (m.column + 1)

/-- How messages point at a place. They do not point at the beginning. -/
def pointer (m : Mark) : String := if m.isOrigin then "" else " at " ++ m.text

end Mark

/-- **Where and why a text breaks the grammar**, and perhaps what was being read there. -/
structure Fault where
  problem : String
  place : Mark
  context : Option (String × Mark)
  deriving DecidableEq, Repr

/-- The wording of a fault. One place is not pointed at twice. -/
def Fault.message (f : Fault) : String :=
  let context := match f.context with
    | none => ""
    | some (what, since) =>
      ", " ++ what ++
        (if since.line = f.place.line && since.column = f.place.column then "" else since.pointer)
  f.problem ++ f.place.pointer ++ context

/-- Whether a character ends a line. -/
def isBreak (c : Char) : Bool :=
  c == '\n' || c == '\r' || c == '\u0085' || c == '\u2028' || c == '\u2029'

/-- The character that a line end stands for. -/
def breakChar (c : Char) : Char := if c == '\u2028' || c == '\u2029' then c else '\n'

/-- Whether a character is a blank. -/
def isBlank (c : Char) : Bool := c == ' ' || c == '\t'

/-- **What is left of a text**, and where it begins. -/
structure Cursor where
  rest : List Char
  mark : Mark
  deriving DecidableEq, Repr

namespace Cursor

/-- The whole of a text. -/
def start (cs : List Char) : Cursor := ⟨cs, .start⟩

/-- The cursor behind the next character. -/
def next (c : Cursor) : Cursor :=
  match c.rest with
  | [] => c
  | x :: r => ⟨r, { c.mark with index := c.mark.index + x.utf8Size, column := c.mark.column + 1 }⟩

/-- The cursor behind the next line end. -/
def nextLine (c : Cursor) : Cursor :=
  match c.rest with
  | '\r' :: '\n' :: r => ⟨r, ⟨c.mark.index + 2, c.mark.line + 1, 0⟩⟩
  | x :: r => ⟨r, ⟨c.mark.index + x.utf8Size, c.mark.line + 1, 0⟩⟩
  | [] => c

/-- The cursor some characters further on. -/
def advance : Cursor → Nat → Cursor
  | c, 0 => c
  | c, n + 1 => c.next.advance n

/-- The cursor behind all characters of a kind. -/
def skipWhile (p : Char → Bool) (c : Cursor) : Cursor := c.advance (c.rest.takeWhile p).length

/-- The next character. -/
def peek? (c : Cursor) : Option Char := c.rest.head?

/-- The character some places on. -/
def peekAt? (c : Cursor) (n : Nat) : Option Char := c.rest[n]?

/-- Whether the character some places on ends a word: a blank, a line end or the end. -/
def endsWordAt (c : Cursor) (n : Nat) : Bool :=
  match c.peekAt? n with
  | none => true
  | some x => isBlank x || isBreak x

/-- Whether the characters at the front, at the beginning of a line, stand alone and are these. -/
def isMarker (c : Cursor) (marker : String) : Bool :=
  c.mark.column = 0 && marker.toList.isPrefixOf c.rest && c.endsWordAt marker.length

/-- Whether a document begins or ends here. -/
def atDocument (c : Cursor) : Bool := c.isMarker "---" || c.isMarker "..."

theorem length_next_le (c : Cursor) : c.next.rest.length ≤ c.rest.length := by
  unfold next
  split
  · exact Nat.le_refl _
  · rename_i h; simp [h]

end Cursor

end GceMachines.Yaml
