import GceMachines.Json.Fault

/-!
# Documents

A document is what the bytes of a JSON text show when they are read from the front, before anyone
says which values are wanted. It keeps the places at which the text breaks the grammar, because a
reader that goes through a document in order meets the first of its own refusals and of the text's
faults, whichever comes first.

A number or a string may be well written and still hold no value (a number beyond all doubles, a
string that is not Unicode). Whoever passes over it does not notice: a `Token` holds both views.

* `Document.skip`: reading past a document.
* `Document.found`: what a reader that wants something else reports.
-/

namespace GceMachines.Json

/-- A number or a string: its value, and what is wrong with how it is written. -/
structure Token (α : Type) where
  value : Except Fault α
  skip : Except Fault Unit

/-- How a list ends. -/
inductive ArrayClose
  /-- By its bracket. -/
  | closed
  /-- The text ends where an item, a comma or the bracket should stand. -/
  | cut
  /-- Something other than a comma or the bracket follows an item. -/
  | noComma
  /-- The bracket follows a comma. -/
  | danglingComma
  /-- The text ends after a comma. -/
  | cutAfterComma
  deriving DecidableEq, Repr

/-- How an object ends. -/
inductive ObjectClose
  /-- By its brace. -/
  | closed
  /-- The text ends where a key, a comma or the brace should stand. -/
  | cut
  /-- Something other than a comma or the brace follows a member. -/
  | noComma
  /-- The brace follows a comma. -/
  | danglingComma
  /-- The text ends after a comma. -/
  | cutAfterComma
  deriving DecidableEq, Repr

mutual

/-- **What the front of a text shows.** -/
inductive Document
  /-- No value starts here, for the reason given. -/
  | missing (fault : Fault)
  /-- A word that starts like `null`, `true` or `false` and does not end so. -/
  | misspelt (fault : Fault)
  | null
  | bool (b : Bool)
  | number (t : Token Number)
  | string (t : Token String)
  | array (items : Items)
  | object (members : Members)

/-- The items of a list, in order. -/
inductive Items
  | close (how : ArrayClose)
  | item (value : Document) (rest : Items)

/-- The members of an object, in order. A member without a colon has a missing value. -/
inductive Members
  | close (how : ObjectClose)
  /-- Something other than a string stands in the place of a key. -/
  | noKey (found : Document)
  | member (key : Token String) (value : Document) (rest : Members)

end

instance : Inhabited Document := ⟨.null⟩

/-- What the end of a list means to a reader that wants every item. -/
def ArrayClose.ending : ArrayClose → Except Fault Unit
  | .closed => .ok ()
  | .cut => .error .endInList
  | .noComma => .error .expectedCommaOrBracket
  | .danglingComma => .error .trailingComma
  | .cutAfterComma => .error .endInValue

/-- What is left of a list means to a reader that wants no further item. -/
def Items.surplus : Items → Except Fault Unit
  | .close .closed => .ok ()
  | .close .cut => .error .endInList
  | .close .danglingComma => .error .trailingComma
  | _ => .error .trailingCharacters

/-- What the end of a list means to a reader that passes over it. -/
def ArrayClose.skip : ArrayClose → Except Fault Unit
  | .closed => .ok ()
  | .cut => .error .endInList
  | .noComma => .error .expectedCommaOrBracket
  | .danglingComma => .error .expectedValue
  | .cutAfterComma => .error .endInValue

/-- What the end of an object means to a reader that wants every member. -/
def ObjectClose.ending : ObjectClose → Except Fault Unit
  | .closed => .ok ()
  | .cut => .error .endInObject
  | .noComma => .error .expectedCommaOrBrace
  | .danglingComma => .error .trailingComma
  | .cutAfterComma => .error .endInValue

/-- What the end of an object means to a reader that passes over it. -/
def ObjectClose.skip : ObjectClose → Except Fault Unit
  | .closed => .ok ()
  | .cut => .error .endInObject
  | .noComma => .error .expectedCommaOrBrace
  | .danglingComma => .error .keyMustBeString
  | .cutAfterComma => .error .endInObject

mutual

/-- **Reading past a document**: only the way it is written matters. -/
def Document.skip : Document → Except Fault Unit
  | .missing f => .error f
  | .misspelt f => .error f
  | .null => .ok ()
  | .bool _ => .ok ()
  | .number t => t.skip
  | .string t => t.skip
  | .array items => items.skip
  | .object members => members.skip

/-- Reading past the items of a list. -/
def Items.skip : Items → Except Fault Unit
  | .close how => how.skip
  | .item v rest => v.skip.bind fun _ => rest.skip

/-- Reading past the members of an object. -/
def Members.skip : Members → Except Fault Unit
  | .close how => how.skip
  | .noKey _ => .error .keyMustBeString
  | .member k v rest => k.skip.bind fun _ => v.skip.bind fun _ => rest.skip

end

/-- What a reader that wants something else finds, or the fault that it meets on looking. -/
def Document.found : Document → Except Fault Found
  | .missing f => .error f
  | .misspelt f => .error f
  | .null => .ok .null
  | .bool b => .ok (.bool b)
  | .number t => t.value.map Found.number
  | .string t => t.value.map Found.string
  | .array _ => .ok .sequence
  | .object _ => .ok .map

/-- The refusal of a document where something else is wanted. -/
def Document.mismatch (expected : String) (d : Document) : Fault :=
  match d.found with
  | .ok found => .invalidType found expected
  | .error f => f

end GceMachines.Json
