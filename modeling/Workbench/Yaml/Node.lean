import Workbench.Yaml.Tag
import Workbench.Yaml.Tokens

/-!
# Nodes of a document

A document is one node: a scalar, a sequence or a mapping, each with a tag. `Node.ofTokens` reads
the node out of the tokens. An alias stands for a copy of the node with its anchor.
-/
namespace Workbench.Yaml

/-- A node. -/
inductive Node where
  | scalar (tag : Tag) (text : String)
  | sequence (tag : Tag) (items : List Node)
  | mapping (tag : Tag) (pairs : List (Node × Node))
  deriving Repr

namespace Node

/-- The node where nothing is written. -/
def empty : Node := .scalar .null ""

/-- What is left to read, and the nodes that have anchors. -/
structure Source where
  tokens : List Token
  /-- What is wrong behind the tokens. -/
  fault : Fault
  anchors : List (String × Node) := []

abbrev Read := StateT Source (Except Fault)

/-- The next token. -/
def peek : Read Token := do
  match (← get).tokens with
  | t :: _ => pure t
  | [] => throw (← get).fault

/-- Pass over a token. -/
def drop : Read Unit := modify fun s => { s with tokens := s.tokens.drop 1 }

/-- Pass over a token of this kind, which must be there. -/
def expect (t : Token) : Read Unit := do
  if (← peek) = t then drop else throw .malformed

/-- Is the next token one of these? -/
def meets (ts : List Token) : Read Bool := do pure (ts.contains (← peek))

/-- What stands in front of a node. -/
structure Properties where
  anchor : Option String
  tag : Option WrittenTag

/-- The properties of a node: an anchor and a tag, in either order. -/
def properties : Read Properties := do
  let anchor : Read (Option String) := do
    match ← peek with
    | .anchor name => drop; pure (some name)
    | _ => pure none
  let tag : Read (Option WrittenTag) := do
    match ← peek with
    | .tag t => drop; pure (some t)
    | _ => pure none
  match ← anchor with
  | some name => pure ⟨some name, ← tag⟩
  | none =>
    match ← tag with
    | some t => pure ⟨← anchor, some t⟩
    | none => pure ⟨none, none⟩

/-- What the handles of tags stand for. -/
abbrev Handles := List (String × String)

/-- The handles of every document. -/
def commonHandles : Handles := [("!", "!"), ("!!", Tag.standard)]

/-- The full name of a tag, or none for the exclamation mark alone, which leaves the type open. -/
def fullTag (handles : Handles) (t : Option WrittenTag) : Except Fault (Option String × Bool) :=
  match t with
  | none => .ok (none, false)
  | some ⟨none, rest⟩ => .ok (if rest = "!" then (none, true) else (some rest, false))
  | some ⟨some handle, rest⟩ =>
    match handles.lookup handle with
    | some expansion => .ok (some (expansion ++ rest), false)
    | none => .error .malformed

/-- Give a node its anchor. -/
def register (anchor : Option String) (n : Node) : Read Node := do
  if let some name := anchor then
    modify fun s => { s with anchors := (name, n) :: s.anchors }
  pure n

/-- Collections nest no deeper. -/
def deepest : Nat := 480

mutual

/-- A node. `room` is how deep it may nest; in a `block` context it may be a block collection, and
as the value of a member the dashes of its items need not be indented. -/
def node (handles : Handles) : Nat → Nat → (block dashes : Bool) → Read Node
  | 0, _, _, _ => throw .malformed
  | _, 0, _, _ => throw .tooDeep
  | fuel + 1, room + 1, block, dashes => do
    if let .alias name := ← peek then
      match (← get).anchors.lookup name with
      | some n => do drop; pure n
      | none => throw .malformed
    else
      let p ← properties
      let (name, isOpen) ← fullTag handles p.tag
      if let some anchor := p.anchor then
        if ((← get).anchors.lookup anchor).isSome then throw .malformed
      let tag (otherwise : Tag) : Tag := (name.map Tag.ofName).getD otherwise
      let sequence (items : Read (List Node)) : Read Node := do
        let _ ← register p.anchor (.sequence (tag .sequence) [])
        register p.anchor (.sequence (tag .sequence) (← items))
      let mapping (pairs : Read (List (Node × Node))) : Read Node := do
        let _ ← register p.anchor (.mapping (tag .mapping) [])
        register p.anchor (.mapping (tag .mapping) (← pairs))
      match ← peek, block with
      | .item, _ =>
        if dashes then sequence (bareItems handles fuel room [])
        else if p.anchor.isSome || p.tag.isSome then register p.anchor (bare tag)
        else throw .malformed
      | .scalar plain text, _ =>
        drop
        let look := if (plain && p.tag.isNone) || isOpen then Tag.ofPlain text else .string
        register p.anchor (.scalar (tag look) text)
      | .flowSequenceStart, _ => drop; sequence (flowItems handles fuel room [])
      | .flowMappingStart, _ => drop; mapping (flowPairs handles fuel room [])
      | .blockSequenceStart, true => drop; sequence (blockItems handles fuel room [])
      | .blockMappingStart, true => drop; mapping (blockPairs handles fuel room [])
      | _, _ =>
        if p.anchor.isSome || p.tag.isSome then register p.anchor (bare tag)
        else throw .malformed
where
  /-- The scalar of properties alone. -/
  bare (tag : Tag → Tag) : Node := .scalar (tag .null) ""

/-- The items of a block sequence. -/
def blockItems (handles : Handles) : Nat → Nat → List Node → Read (List Node)
  | 0, _, _ => throw .malformed
  | fuel + 1, room, read => do
    match ← peek with
    | .item =>
      drop
      let n ← if ← meets [.item, .blockEnd] then pure empty else node handles fuel room true false
      blockItems handles fuel room (n :: read)
    | .blockEnd => drop; pure read.reverse
    | _ => throw .malformed

/-- The items of a sequence that is not indented: it ends with its last item. -/
def bareItems (handles : Handles) : Nat → Nat → List Node → Read (List Node)
  | 0, _, _ => throw .malformed
  | fuel + 1, room, read => do
    match ← peek with
    | .item =>
      drop
      let n ← if ← meets [.item, .key, .value, .blockEnd] then pure empty
        else node handles fuel room true false
      bareItems handles fuel room (n :: read)
    | _ => pure read.reverse

/-- The members of a block mapping. Either part of one may be left out. -/
def blockPairs (handles : Handles) : Nat → Nat → List (Node × Node) → Read (List (Node × Node))
  | 0, _, _ => throw .malformed
  | fuel + 1, room, read => do
    let part : Read Node := do
      drop
      if ← meets [.key, .value, .blockEnd] then pure empty else node handles fuel room true true
    match ← peek with
    | .key =>
      let k ← part
      let v ← if ← meets [.value] then part else pure empty
      blockPairs handles fuel room ((k, v) :: read)
    | .blockEnd => drop; pure read.reverse
    | _ => throw .malformed

/-- The items of a flow sequence; one may be a single member of a mapping. -/
def flowItems (handles : Handles) : Nat → Nat → List Node → Read (List Node)
  | 0, _, _ => throw .malformed
  | fuel + 1, room, read => do
    if ← meets [.flowSequenceEnd] then drop; pure read.reverse
    else
      if !read.isEmpty then expect .comma
      match ← peek with
      | .flowSequenceEnd => drop; pure read.reverse
      | .key =>
        drop
        let k ← if ← meets [.value, .comma, .flowSequenceEnd] then pure empty
          else node handles fuel (room - 1) false false
        let v ← if ← meets [.value] then do
            drop
            if ← meets [.comma, .flowSequenceEnd] then pure empty
              else node handles fuel (room - 1) false false
          else pure empty
        flowItems handles fuel room (.mapping .mapping [(k, v)] :: read)
      | _ =>
        let n ← node handles fuel room false false
        flowItems handles fuel room (n :: read)

/-- The members of a flow mapping. A key may stand alone. -/
def flowPairs (handles : Handles) : Nat → Nat → List (Node × Node) → Read (List (Node × Node))
  | 0, _, _ => throw .malformed
  | fuel + 1, room, read => do
    if ← meets [.flowMappingEnd] then drop; pure read.reverse
    else
      if !read.isEmpty then expect .comma
      match ← peek with
      | .flowMappingEnd => drop; pure read.reverse
      | .key =>
        drop
        let k ← if ← meets [.value, .comma, .flowMappingEnd] then pure empty
          else node handles fuel room false false
        let v ← if ← meets [.value] then do
            drop
            if ← meets [.comma, .flowMappingEnd] then pure empty
              else node handles fuel room false false
          else pure empty
        flowPairs handles fuel room ((k, v) :: read)
      | _ =>
        let k ← node handles fuel room false false
        flowPairs handles fuel room ((k, empty) :: read)

end

/-- The lines with a percent sign in front of a document: at most one version, which must be a
first one, and handles without repetition. -/
def declarations : Nat → Bool → Handles → Read Handles
  | 0, _, handles => pure (handles ++ commonHandles)
  | fuel + 1, versioned, handles => do
    match ← peek with
    | .declaration (.version major) =>
      if versioned || major ≠ 1 then throw .malformed
      drop
      declarations fuel true handles
    | .declaration (.handle name expansion) =>
      if (handles.lookup name).isSome then throw .malformed
      drop
      declarations fuel versioned ((name, expansion) :: handles)
    | .declaration .unknown => drop; declarations fuel versioned handles
    | _ => pure (handles ++ commonHandles)

/-- Pass over marks for the end of the document. -/
def documentEnds : Nat → Read Unit
  | 0 => pure ()
  | fuel + 1 => do
    if (← peek) = .documentEnd then
      drop
      documentEnds fuel

/-- The node of a text with one document, if there is one at all. -/
def document (fuel : Nat) : Read (Option Node) := do
  match ← peek with
  | .textEnd => pure none
  | .declaration _ | .documentStart =>
    let handles ← declarations fuel false []
    expect .documentStart
    let n ← match ← peek with
      | .declaration _ | .documentStart | .documentEnd | .textEnd => pure empty
      | _ => node handles fuel deepest true false
    finish n
  | _ => finish (← node commonHandles fuel deepest true false)
where
  /-- Nothing may follow the document. -/
  finish (n : Node) : Read (Option Node) := do
    documentEnds fuel
    expect .textEnd
    pure (some n)

/-- The node of a text. -/
def ofText? (text : List Char) : Except Fault (Option Node) :=
  if text.all isAllowed then
    let tokens := Tokens.ofText text
    ((document (2 * tokens.list.length + 4)).run
      { tokens := tokens.list, fault := tokens.fault.getD .malformed }).map Prod.fst
  else .error .malformed

end Node

end Workbench.Yaml
