import GceMachines.Yaml.Node

/-!
# Refusals of a YAML text

A text may break the grammar, or may not give the wanted value. Reading goes through the tree from
the front, so that the first node of a wrong kind is reported before a fault of the grammar behind
it. A message names the node by the way that leads to it.

* `Path`: the way to a node.
* `Refusal`: why a text does not give the wanted value.
* `Document.finish`: what is said of a document only when its tree has been read.
-/

namespace GceMachines.Yaml

/-- A step from a collection to what is in it. -/
inductive Step
  /-- To the value of a key. -/
  | key (name : String)
  /-- To an item, by the number of items before it. -/
  | item (n : Nat)
  /-- To the value of a key that is itself a collection. -/
  | unnamed
  deriving DecidableEq, Repr

/-- The way from the root of a tree to a node, the last step first. -/
abbrev Path : Type := List Step

/-- How messages name a node, and nothing for the root. -/
def Path.text? : Path → Option String
  | [] => none
  | .key name :: up => some (((Path.text? up).map (· ++ ".")).getD "" ++ name)
  | .item n :: up => some ((Path.text? up).getD "." ++ "[" ++ toString n ++ "]")
  | .unnamed :: up => some (((Path.text? up).map (· ++ ".")).getD "" ++ "?")

/-- **Why a text does not give the wanted value.** -/
inductive Refusal
  | grammar (f : Fault)
  | unwanted (path : Path) (problem : String)
  | tooDeep
  | moreDocuments

/-- The wording of a refusal. -/
def Refusal.message : Refusal → String
  | .grammar f => f.message
  | .unwanted path problem => ((Path.text? path).map (· ++ ": ")).getD "" ++ problem
  | .tooDeep => "recursion limit exceeded"
  | .moreDocuments =>
    "deserializing from YAML containing more than one document is not supported"

/-- The wording of a value of one kind where another is wanted. -/
def wrongKindText (found expected : String) : String :=
  "invalid type: " ++ found ++ ", expected " ++ expected

/-- The refusal of a kind of node where another is wanted. -/
def wrongKind {α : Type} (path : Path) (found expected : String) : Except Refusal α :=
  .error (.unwanted path (wrongKindText found expected))

/-- How deep collections may stand in each other. -/
def depthLimit : Nat := 128

/-- The text of a node where a text is wanted. -/
def Node.text (path : Path) (expected : String) : Node → Except Refusal String
  | .scalar s _ => .ok s
  | .sequence _ => wrongKind path "sequence" expected
  | .mapping _ => wrongKind path "map" expected
  | .broken f => .error (.grammar f)

namespace Document

variable {α : Type}

/-- What a document holds, if nothing is wrong behind its tree. -/
def finish (d : Document) (a : α) : Except Refusal α :=
  match d.fault with
  | some f => .error (.grammar f)
  | none => .ok a

/-- What a text of one document holds, if `read` accepts the tree of the document. -/
def readOnly (read : Option Node → Except Refusal α) (text : String) : Except Refusal α :=
  match allOfText text with
  | [] => read none
  | d :: more => (read d.root).bind fun a => (d.finish a).bind fun a =>
    if more.isEmpty then .ok a else .error .moreDocuments

end Document

end GceMachines.Yaml
