import GceMachines.Url.Name.Direction
import GceMachines.Url.Name.Fold
import GceMachines.Url.Name.Joiner
import GceMachines.Url.Punycode

/-!
# Names of hosts

A name is brought into ASCII and lower case: its characters are folded and composed, its labels
are taken between the points, and those beyond ASCII are encoded. A label that is encoded already
has to stand for what encoding would have begun with. A name with an unusable label is refused as a
whole.

* `Label.ofText?`: a label and its ASCII form.
* `ascii?`: a name in ASCII.
-/

namespace GceMachines.Url.Name

/-- ASCII characters that no name holds: controls, the space, and those that have a meaning in an
address. -/
def isReserved (c : Char) : Bool :=
  c.toNat ≤ 0x20 || c.toNat == 0x7F ||
    c ∈ ['%', '#', '/', ':', '<', '>', '?', '@', '[', '\\', ']', '^', '|']

/-- The mark in front of an encoded label. -/
def encodedMark : List Char := ['x', 'n', '-', '-']

/-- How long a label can be that is to be encoded. -/
def encodeLimit : Nat := 1000

/-- How long an encoded label can be, without its mark. -/
def decodeLimit : Nat := 2000

/-- **A label:** what it stands for and its ASCII form. -/
structure Label where
  plain : List Char
  ascii : List Char
  deriving DecidableEq, Repr

namespace Label

/-- The label that an encoded one stands for, without its mark. -/
def decoded? (text : List Char) : Option (List Char) :=
  if text.length ≤ decodeLimit && text.all (·.toNat < 128) && text.getLast?.all (· ≠ '-') then
    (Punycode.decode? text).bind fun plain =>
      if plain.any (128 ≤ ·.toNat) && plain.all (fun c => isFolded c && !isReserved c) &&
          composed plain == plain && Punycode.encode plain == text then
        some plain
      else none
  else none

/-- **A label of a folded name.** -/
def ofText? (text : List Char) : Option Label :=
  if encodedMark.isPrefixOf text then
    (decoded? (text.drop encodedMark.length)).map fun plain => ⟨plain, text⟩
  else if text.all (·.toNat < 128) then some ⟨text, text⟩
  else if text.length ≤ encodeLimit then some ⟨text, encodedMark ++ Punycode.encode text⟩
  else none

/-- Whether a label begins with no mark and holds joiners only where they show. -/
def isSound (l : Label) : Bool := !l.plain.head?.any isMark && joinersShow [] l.plain

end Label

/-- Whether labels can stand together in a name: if one of them turns the direction, all of them
go one way. -/
def agree (ls : List Label) : Bool :=
  !ls.any (·.plain.any turns) || ls.all (isOneWay ·.plain)

/-- **A name in ASCII**, if it can be the name of a host. -/
def ascii? (name : List Char) : Option (List Char) := do
  let folded ← name.mapM fold?
  let text := composed folded.flatten
  let labels ← (text.splitOn '.').mapM Label.ofText?
  if text.any isReserved || !labels.all (·.isSound) || !agree labels then none
  else return ['.'].intercalate (labels.map (·.ascii))

end GceMachines.Url.Name
