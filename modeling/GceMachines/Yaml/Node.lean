import GceMachines.Yaml.Token

/-!
# Nodes of a YAML text

The tokens of a text form a tree of scalars, sequences and mappings. A fault takes the place of
the node that it keeps from being read, and nothing comes after it.

* `Node`: a tree.
* `Document.allOfText`: the documents of a text.
-/

namespace GceMachines.Yaml

/-- **A tree** of scalars. -/
inductive Node
  | scalar (text : String) (plain : Bool)
  | sequence (items : List Node)
  | mapping (entries : List (Node × Node))
  /-- The text breaks the grammar here. -/
  | broken (f : Fault)

namespace Node

instance : Inhabited Node := ⟨.sequence []⟩

/-- What stands where nothing is written. -/
def empty : Node := .scalar "" true

/-- A result and the tokens after it; none are left behind a fault. -/
abbrev Parsed (α : Type) : Type := α × Option (List Token)

/-- The fault of a token that may not stand in a collection, or the one that the tokens end with. -/
def unexpected (problem what : String) (since : Mark) (ts : List Token) : Node :=
  match ts with
  | ⟨.broken f, _⟩ :: _ => .broken f
  | t :: _ => .broken ⟨problem, t.start, some (what, since)⟩
  | [] => .broken ⟨problem, since, some (what, since)⟩

/-- The kind of the next token. -/
def nextKind (ts : List Token) : Kind := (ts.head?.map Token.kind).getD .textEnd

/-- The place of the next token. -/
def nextMark (ts : List Token) : Mark := (ts.head?.map Token.start).getD .start

/-- Whether nothing is written where a node of a block could stand. -/
def endsBlockNode (k : Kind) : Bool := k == .key || k == .value || k == .blockEnd

/-- Goes on behind a node, unless it is cut off by a fault. -/
def after {α : Type} (n : Parsed Node) (cut : Node → α)
    (next : Node → List Token → Parsed α) : Parsed α :=
  match n with
  | (v, some ts) => next v ts
  | (v, none) => (cut v, none)

mutual

/-- The node that begins with the next token. -/
def parse : (fuel : Nat) → (inBlock indentless : Bool) → List Token → Parsed Node
  | 0, _, _, ts => (.empty, some ts)
  | n + 1, inBlock, indentless, ts =>
    let since := nextMark ts
    let collected {α : Type} (f : List α → Node) (r : Parsed (List α)) : Parsed Node :=
      (f r.1, r.2)
    match nextKind ts with
    | .blockEntry =>
      if indentless then collected .sequence (parseItems n true since ts)
      else (misplaced inBlock since ts, none)
    | .scalar text isPlain => (.scalar text isPlain, some ts.tail)
    | .flowSequenceStart => collected .sequence (parseFlowItems n true since ts.tail)
    | .flowMappingStart => collected .mapping (parseFlowEntries n true since ts.tail)
    | .blockSequenceStart =>
      if inBlock then collected .sequence (parseItems n false since ts.tail)
      else (misplaced inBlock since ts, none)
    | .blockMappingStart =>
      if inBlock then collected .mapping (parseEntries n since ts.tail)
      else (misplaced inBlock since ts, none)
    | _ => (misplaced inBlock since ts, none)

/-- The fault of a token that begins no node. -/
def misplaced (inBlock : Bool) (since : Mark) (ts : List Token) : Node :=
  unexpected "did not find expected node content"
    (if inBlock then "while parsing a block node" else "while parsing a flow node") since ts

/-- The items behind hyphens. A sequence without an indentation of its own ends with the first
token that is none. -/
def parseItems : (fuel : Nat) → (indentless : Bool) → Mark → List Token → Parsed (List Node)
  | 0, _, _, ts => ([], some ts)
  | n + 1, indentless, since, ts =>
    match nextKind ts with
    | .blockEntry =>
      let ts := ts.tail
      let k := nextKind ts
      let isEmpty := k == .blockEntry || k == .blockEnd ||
        (indentless && (k == .key || k == .value))
      let item : Parsed Node := if isEmpty then (.empty, some ts) else parse n true false ts
      after item ([·]) fun v ts =>
        let rest := parseItems n indentless since ts
        (v :: rest.1, rest.2)
    | .blockEnd => ([], some (if indentless then ts else ts.tail))
    | _ =>
      if indentless then ([], some ts)
      else ([unexpected "did not find expected '-' indicator" "while parsing a block collection"
        since ts], none)

/-- The entries of a block. -/
def parseEntries : (fuel : Nat) → Mark → List Token → Parsed (List (Node × Node))
  | 0, _, ts => ([], some ts)
  | n + 1, since, ts =>
    match nextKind ts with
    | .blockEnd => ([], some ts.tail)
    | .key =>
      let ts := ts.tail
      let key : Parsed Node :=
        if endsBlockNode (nextKind ts) then (.empty, some ts) else parse n true true ts
      after key (fun k => [(k, k)]) fun k ts =>
        let ts' := ts.tail
        let value : Parsed Node :=
          if nextKind ts == .value then
            if endsBlockNode (nextKind ts') then (.empty, some ts') else parse n true true ts'
          else (.empty, some ts)
        after value (fun v => [(k, v)]) fun v ts =>
          let rest := parseEntries n since ts
          ((k, v) :: rest.1, rest.2)
    | _ =>
      let f := unexpected "did not find expected key" "while parsing a block mapping" since ts
      ([(f, f)], none)

/-- The items between square brackets. -/
def parseFlowItems : (fuel : Nat) → (first : Bool) → Mark → List Token → Parsed (List Node)
  | 0, _, _, ts => ([], some ts)
  | n + 1, first, since, ts =>
    if nextKind ts == .flowSequenceEnd then ([], some ts.tail)
    else if !first && nextKind ts != .flowEntry then
      ([unexpected "did not find expected ',' or ']'" "while parsing a flow sequence" since ts],
        none)
    else
      let ts := if first then ts else ts.tail
      match nextKind ts with
      | .flowSequenceEnd => ([], some ts.tail)
      | .key =>
        let pair := parsePair n ts.tail
        after (.mapping [pair.1], pair.2) ([·]) fun v ts =>
          let rest := parseFlowItems n false since ts
          (v :: rest.1, rest.2)
      | _ =>
        after (parse n false false ts) ([·]) fun v ts =>
          let rest := parseFlowItems n false since ts
          (v :: rest.1, rest.2)

/-- A key and a value that are one item between square brackets. -/
def parsePair : (fuel : Nat) → List Token → Parsed (Node × Node)
  | 0, ts => ((.empty, .empty), some ts)
  | n + 1, ts =>
    let ends (k : Kind) : Bool := k == .flowEntry || k == .flowSequenceEnd
    let key : Parsed Node :=
      if nextKind ts == .value || ends (nextKind ts) then (.empty, some ts)
      else parse n false false ts
    after key (fun k => (k, k)) fun k ts =>
      if nextKind ts == .value && !ends (nextKind ts.tail) then
        let value := parse n false false ts.tail
        ((k, value.1), value.2)
      else ((k, .empty), some (if nextKind ts == .value then ts.tail else ts))

/-- The entries between curly brackets. -/
def parseFlowEntries : (fuel : Nat) → (first : Bool) → Mark → List Token →
    Parsed (List (Node × Node))
  | 0, _, _, ts => ([], some ts)
  | n + 1, first, since, ts =>
    let ends (k : Kind) : Bool := k == .flowEntry || k == .flowMappingEnd
    if nextKind ts == .flowMappingEnd then ([], some ts.tail)
    else if !first && nextKind ts != .flowEntry then
      let f := unexpected "did not find expected ',' or '\x7d'" "while parsing a flow mapping"
        since ts
      ([(f, f)], none)
    else
      let ts := if first then ts else ts.tail
      if nextKind ts == .flowMappingEnd then ([], some ts.tail)
      else
        let marked := nextKind ts == .key
        let ts := if marked then ts.tail else ts
        let key : Parsed Node :=
          if marked && (nextKind ts == .value || ends (nextKind ts)) then (.empty, some ts)
          else parse n false false ts
        after key (fun k => [(k, k)]) fun k ts =>
          let value : Parsed Node :=
            if marked && nextKind ts == .value then
              if ends (nextKind ts.tail) then (.empty, some ts.tail)
              else parse n false false ts.tail
            else (.empty, some ts)
          after value (fun v => [(k, v)]) fun v ts =>
            let rest := parseFlowEntries n false since ts
            ((k, v) :: rest.1, rest.2)

end

end Node

/-- **A document** of a text. -/
structure Document where
  /-- Its tree, if there is anything in it. -/
  root : Option Node
  /-- The fault that follows the tree where the document should end. -/
  fault : Option Fault

namespace Document

/-- A document that cannot be read at all. -/
def broken (f : Fault) : Document := ⟨some (.broken f), none⟩

/-- The document whose tree begins with a token, and the tokens behind it. -/
def ofTree (ts : List Token) : Document × Option (List Token) :=
  match Node.parse (2 * ts.length + 2) true false ts with
  | (root, none) => (⟨some root, none⟩, none)
  | (root, some ts) => ended root ts
where
  /-- A document that ends before a token. -/
  ended (root : Node) (ts : List Token) : Document × Option (List Token) :=
    match Node.nextKind ts with
    | .broken f => (⟨some root, some f⟩, none)
    | _ => (⟨some root, none⟩, some ts)

/-- The document behind its sign, and the tokens behind it. -/
def ofBody (ts : List Token) : Document × Option (List Token) :=
  if Node.nextKind ts ∈ [.documentStart, .documentEnd, .textEnd] then ofTree.ended .empty ts
  else ofTree ts

/-- The documents that follow another one, of which there are not more than `n`. Each begins with
its sign. -/
def following : (n : Nat) → List Token → List Document
  | 0, _ => []
  | n + 1, ts =>
    let ts := ts.dropWhile (·.kind == .documentEnd)
    match Node.nextKind ts with
    | .textEnd => []
    | .documentStart =>
      let (d, rest) := ofBody ts.tail
      d :: (rest.map (following n)).getD []
    | .broken f => [broken f]
    | _ => [broken ⟨"did not find expected <document start>", Node.nextMark ts, none⟩]

/-- **The documents of a text**; an empty text has one. Nothing follows a document that ends with
a fault. -/
def allOfText (text : String) : List Document :=
  let ts := Token.ofText text
  let (first, rest) : Document × Option (List Token) := match Node.nextKind ts with
    | .textEnd => (⟨none, none⟩, some ts)
    | .documentStart => ofBody ts.tail
    | _ => ofTree ts
  first :: (rest.map (following ts.length)).getD []

end Document

end GceMachines.Yaml
