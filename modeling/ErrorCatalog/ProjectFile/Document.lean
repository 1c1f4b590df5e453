import ErrorCatalog.ProjectFile.Scan
/-!
# From tokens to a document

A project file holds one document, which is empty or one mapping from texts to texts. An automaton
goes through the tokens once: each stage says what may come next, and a node that is left out,
before a token that ends its place or behind properties without content, is an empty plain text.

An alias stands for the node that has the number of its anchor. A new anchor takes as its number how
many names there are before it; so a name that is given again shares a number with the next new
name, and a number stands for the last node that took it.
-/

namespace ErrorCatalog

namespace ProjectFile

inductive Node where
  | scalar (text : Text) (isPlain : Bool) (tag : Option Bytes)
  -- The node with an anchor of this number.
  | alias (number : Nat)
  deriving DecidableEq, Repr

/-- A mapping with the nodes that have anchors. -/
structure Document where
  pairs : List (Node × Node) := []
  -- The numbers of anchors with their nodes, the last one first; the mapping itself is `none`.
  anchored : List (Nat × Option Node) := []

/-! ## Stages -/

/-- What stands before a node and belongs to it. -/
structure Properties where
  anchor : Option Text := none
  tag : Option Bytes := none

def Properties.isEmpty (properties : Properties) : Bool :=
  properties.anchor.isNone && properties.tag.isNone

inductive Slot where
  -- The content of the document; a marker may stand before it.
  | root (isMarked : Bool)
  -- A key in lines.
  | blockKey
  -- The value of a key in lines.
  | blockValue (key : Node)
  -- A key within braces; a sign or its colon may announce it.
  | flowKey (isAnnounced : Bool)
  -- The value of a key within braces.
  | flowValue (key : Node)

/-- Whether the node of a place may be left out before a token. -/
def Slot.allowsNone : Slot → Token → Bool
  | .root isMarked, token =>
      isMarked && match token with
        | .version .. | .tagHandle .. | .documentStart | .documentEnd | .fileEnd => true
        | _ => false
  | .blockKey, token | .blockValue _, token => [.key, .value, .blockEnd].contains token
  | .flowKey isAnnounced, token => isAnnounced && [.value, .flowEntry, .flowEnd].contains token
  | .flowValue _, token => [.flowEntry, .flowEnd].contains token

inductive Stage where
  -- Nothing of it.
  | start
  | directives
  -- All up to a node, and the properties of that node.
  | node (slot : Slot) (properties : Properties)
  -- All up to the next key in lines.
  | blockPair
  -- All up to the colon behind a key in lines.
  | blockColon (key : Node)
  -- All up to the next key within braces.
  | flowPair
  -- All up to the comma behind a value within braces.
  | flowComma
  -- All up to the colon behind a key within braces.
  | flowColon (key : Node)
  | closed

structure Draft where
  stage : Stage := .start
  -- The document so far, with the last pair first.
  document : Document := {}
  -- The names of anchors with their numbers, the last one first.
  names : List (Text × Nat) := []
  handles : List (Text × Bytes) := []
  isVersioned : Bool := false

def Node.missing (properties : Properties) : Node :=
  .scalar [] true properties.tag

def standardHandles : List (Text × Bytes) :=
  [("!", Text.encode "!"), ("!!", Text.encode "tag:yaml.org,2002:")]

namespace Draft

/-! ## Directives, tags and anchors -/

/-- A directive. A version is 1.1 or 1.2, and nothing is said twice. -/
def direct (draft : Draft) : Token → Except Fault Draft
  | .version major minor =>
      if draft.isVersioned || major != 1 || (minor != 1 && minor != 2) then .error .directive
      else .ok { draft with stage := .directives, isVersioned := true }
  | .tagHandle handle replacement =>
      if (draft.handles.lookup handle).isSome then .error .directive
      else .ok { draft with
        stage := .directives
        handles := draft.handles ++ [(handle, replacement)] }
  | _ => .error .unexpectedPart

/-- The whole tag that a handle and a rest stand for. -/
def wholeTag (draft : Draft) (handle : Text) (rest : Bytes) : Except Fault Bytes :=
  if handle.isEmpty then .ok rest
  else
    match (draft.handles ++ standardHandles).lookup handle with
    | some replacement => .ok (replacement ++ rest)
    | none => .error .tag

/-- Gives the next number to a node with an anchor. -/
def name (draft : Draft) (anchor : Option Text) (node : Option Node) : Draft :=
  match anchor with
  | none => draft
  | some name =>
    -- A name that is given again is counted once, so its number may have been given before.
    let number := draft.names.length
    { draft with
      names := (name, number) :: draft.names.filter fun entry => entry.1 != name
      document := { draft.document with
        anchored := (number, node) :: draft.document.anchored } }

/-! ## Nodes -/

/-- One more pair, and what may come next. -/
def add (draft : Draft) (key value : Node) (stage : Stage) : Draft :=
  { draft with
    stage := stage
    document := { draft.document with pairs := (key, value) :: draft.document.pairs } }

/-- Puts a node into its place. Where a mapping is needed only an empty plain text will do. -/
def fill (draft : Draft) (slot : Slot) (node : Node) : Except Fault Draft :=
  match slot with
  | .root _ =>
      match node with
      | .scalar [] true _ => .ok { draft with stage := .closed }
      | _ => .error .unexpectedPart
  | .blockKey => .ok { draft with stage := .blockColon node }
  | .blockValue key => .ok (draft.add key node .blockPair)
  | .flowKey true => .ok { draft with stage := .flowColon node }
  | .flowKey false => .ok (draft.add node (.missing {}) .flowComma)
  | .flowValue key => .ok (draft.add key node .flowComma)

/-- Puts the mapping into its place, which can only be the root. -/
def enter (draft : Draft) (slot : Slot) (properties : Properties) (stage : Stage) :
    Except Fault Draft :=
  match slot with
  | .root _ => .ok { draft.name properties.anchor none with stage := stage }
  | _ => .error .collection

def await (draft : Draft) (slot : Slot) : Except Fault Draft :=
  .ok { draft with stage := .node slot {} }

/-! ## Tokens -/

def separate (draft : Draft) (token : Token) : Except Fault Draft :=
  match draft.stage, token with
  | .blockPair, .key => draft.await .blockKey
  | .blockPair, .blockEnd => .ok { draft with stage := .closed }
  | .flowComma, .flowEntry => .ok { draft with stage := .flowPair }
  | .flowComma, .flowEnd => .ok { draft with stage := .closed }
  | .closed, .documentEnd | .closed, .fileEnd => .ok draft
  | _, _ => .error .unexpectedPart

/-- A token behind a node. A key without its colon has an empty value. -/
def follow (draft : Draft) (token : Token) : Except Fault Draft :=
  match draft.stage, token with
  | .blockColon key, .value => draft.await (.blockValue key)
  | .flowColon key, .value => draft.await (.flowValue key)
  | .blockColon key, token => (draft.add key (.missing {}) .blockPair).separate token
  | .flowColon key, token => (draft.add key (.missing {}) .flowComma).separate token
  | _, token => draft.separate token

/-- A token at the place of a node: its properties, its content, or what follows where there is
none. -/
def accept (draft : Draft) (slot : Slot) (properties : Properties) (token : Token) :
    Except Fault Draft :=
  match token, properties with
  | .anchor name, ⟨none, tag⟩ => .ok { draft with stage := .node slot ⟨some name, tag⟩ }
  | .tag handle rest, ⟨anchor, none⟩ => do
      let tag ← draft.wholeTag handle rest
      pure { draft with stage := .node slot ⟨anchor, some tag⟩ }
  | .alias name, ⟨none, none⟩ =>
      match draft.names.lookup name with
      | some number => draft.fill slot (.alias number)
      | none => .error .unknownAlias
  | .scalar text isPlain, ⟨anchor, tag⟩ =>
      let node := Node.scalar text isPlain tag
      (draft.name anchor (some node)).fill slot node
  | .blockStart, properties => draft.enter slot properties .blockPair
  | .flowStart, properties => draft.enter slot properties .flowPair
  -- Properties alone make an empty node, whatever follows them.
  | token, properties =>
      if properties.isEmpty && !slot.allowsNone token then .error .unexpectedPart
      else do
        let node := Node.missing properties
        let draft ← (draft.name properties.anchor (some node)).fill slot node
        draft.follow token

def step (draft : Draft) (token : Token) : Except Fault Draft :=
  match draft.stage, token with
  | .start, .version .. | .start, .tagHandle .. => draft.direct token
  | .start, .fileEnd => .ok { draft with stage := .closed }
  | .start, .documentStart | .directives, .documentStart => draft.await (.root true)
  | .start, token => draft.accept (.root false) {} token
  | .directives, token => draft.direct token
  | .node slot properties, token => draft.accept slot properties token
  | .flowPair, .flowEnd => .ok { draft with stage := .closed }
  | .flowPair, .key => draft.await (.flowKey true)
  | .flowPair, token => draft.accept (.flowKey false) {} token
  | _, token => draft.follow token

end Draft

def Document.ofTokens (tokens : List Token) : Except Fault Document := do
  let draft ← tokens.foldlM Draft.step {}
  pure { draft.document with pairs := draft.document.pairs.reverse }

end ProjectFile

end ErrorCatalog
