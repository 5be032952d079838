import CommandHost.Yaml.Kind
import CommandHost.Yaml.Tokens

/-!
# The node of a YAML document

A text holds at most one document, and a document one node. `Node.ofTokens?`
finds it. An alias stands for the node that its anchor was given to; inside that
very node it stands for an empty node of the same kind.
-/

namespace CommandHost.Yaml

/-- The nodes of a document. -/
inductive Node where
  | scalar (kind : Kind) (content : String)
  | sequence (kind : Kind) (items : List Node)
  | mapping (kind : Kind) (entries : List (Node × Node))

instance : Inhabited Node := ⟨.scalar .null ""⟩

/-- The node that stands where nothing is written. -/
def Node.missing : Node := .scalar .null ""

/-- What the tag handles stand for. -/
abbrev Handles := List (String × String)

/-- The handles that every document has. -/
def Handles.standard : Handles := [("!", "!"), ("!!", Kind.standardTag)]

/-- The tokens that are left and the anchors that were given so far. -/
structure Reading where
  tokens : List Token
  anchors : List (String × Node)

namespace Reading

/-- Gives an anchor, if there is one, to a node. -/
def bind (reading : Reading) (anchor : Option String) (node : Node) : Reading :=
  match anchor with
  | none => reading
  | some name => { reading with anchors := (name, node) :: reading.anchors }

/-- Takes one token away. -/
def next (reading : Reading) : Reading := { reading with tokens := reading.tokens.tail }

/-- The next token; past the end it is the end of the text. -/
def here (reading : Reading) : Token := reading.tokens.headD .streamEnd

end Reading

/-- The labels in front of a node, in either order. -/
def readLabels (tokens : List Token) : Option String × Option TagText × List Token :=
  match tokens with
  | .anchor name :: .tag tag :: rest => (some name, some tag, rest)
  | .anchor name :: rest => (some name, none, rest)
  | .tag tag :: .anchor name :: rest => (some name, some tag, rest)
  | .tag tag :: rest => (none, some tag, rest)
  | rest => (none, none, rest)

/-- The full text of a tag. -/
def fullTag (handles : Handles) (tag : TagText) : Except Fault String :=
  match tag.handle with
  | none => .ok tag.tail
  | some handle =>
    match handles.lookup handle with
    | some start => .ok (start ++ tag.tail)
    | none => .error .malformed

/-- The kind of a node: the one its tag names, or else the usual one. -/
def kindOf (tag : Option String) (usual : Kind) : Kind :=
  match tag with
  | none => usual
  | some tag => if tag = "!" then usual else .ofTag tag

/-- The kind of a scalar. -/
def scalarKind (tag : Option String) (content : String) (plain : Bool) : Kind :=
  match tag with
  | none => if plain then .ofPlain content else .text
  | some tag => if tag = "!" then .ofPlain content else .ofTag tag

mutual

/-- Reads a node. The flags say whether a block may begin here, and whether the
items of a sequence may stand here without a block of their own. -/
def readNode (handles : Handles) (block bare : Bool) :
    Nat → Reading → Except Fault (Node × Reading)
  | 0, _ => .error .malformed
  | fuel + 1, reading => do
    if let .alias name := reading.here then
      match reading.anchors.lookup name with
      | some node => return (node, reading.next)
      | none => throw .malformed
    let (anchor, written, tokens) := readLabels reading.tokens
    let tag ← written.mapM (fullTag handles)
    if anchor.any fun name => (reading.anchors.lookup name).isSome then throw .malformed
    let reading := { reading with tokens }
    let listKind := kindOf tag .sequence
    let mapKind := kindOf tag .mapping
    let close (reading : Reading) (node : Node) : Node × Reading := (node, reading.bind anchor node)
    match reading.here with
    | .blockEntry =>
      if bare then
        let (items, after) ←
          readBareItems handles fuel (reading.bind anchor (.sequence listKind []))
        return close after (.sequence listKind items)
      else emptyNode anchor tag reading
    | .scalar content plain =>
      return close reading.next (.scalar (scalarKind tag content plain) content)
    | .flowSequenceStart =>
      let (items, after) ←
        readFlowItems handles true fuel (reading.next.bind anchor (.sequence listKind []))
      return close after (.sequence listKind items)
    | .flowMappingStart =>
      let (entries, after) ←
        readFlowEntries handles true fuel (reading.next.bind anchor (.mapping mapKind []))
      return close after (.mapping mapKind entries)
    | .blockSequenceStart =>
      if block then
        let (items, after) ←
          readBlockItems handles fuel (reading.next.bind anchor (.sequence listKind []))
        return close after (.sequence listKind items)
      else emptyNode anchor tag reading
    | .blockMappingStart =>
      if block then
        let (entries, after) ←
          readBlockEntries handles fuel (reading.next.bind anchor (.mapping mapKind []))
        return close after (.mapping mapKind entries)
      else emptyNode anchor tag reading
    | _ => emptyNode anchor tag reading

/-- Labels may stand without a node; nothing at all may not. -/
def emptyNode (anchor tag : Option String) (reading : Reading) : Except Fault (Node × Reading) :=
  if anchor.isSome || tag.isSome then
    let node : Node := .scalar (scalarKind tag "" (tag.isNone)) ""
    .ok (node, reading.bind anchor node)
  else .error .malformed

/-- Reads a node, unless one of the given tokens comes first. -/
def readUnless (handles : Handles) (block bare : Bool) (ends : List Token) :
    Nat → Reading → Except Fault (Node × Reading)
  | 0, _ => .error .malformed
  | fuel + 1, reading =>
    if ends.contains reading.here then .ok (.missing, reading)
    else readNode handles block bare fuel reading

/-- The items of a sequence with a block of its own. -/
def readBlockItems (handles : Handles) : Nat → Reading → Except Fault (List Node × Reading)
  | 0, _ => .error .malformed
  | fuel + 1, reading => do
    match reading.here with
    | .blockEntry =>
      let (item, after) ←
        readUnless handles true false [.blockEntry, .blockEnd] fuel reading.next
      let (items, after) ← readBlockItems handles fuel after
      return (item :: items, after)
    | .blockEnd => return ([], reading.next)
    | _ => throw .malformed

/-- The items of a sequence without a block of its own. -/
def readBareItems (handles : Handles) : Nat → Reading → Except Fault (List Node × Reading)
  | 0, _ => .error .malformed
  | fuel + 1, reading => do
    match reading.here with
    | .blockEntry =>
      let (item, after) ←
        readUnless handles true false [.blockEntry, .key, .value, .blockEnd] fuel reading.next
      let (items, after) ← readBareItems handles fuel after
      return (item :: items, after)
    | _ => return ([], reading)

/-- The entries of a mapping with a block of its own. -/
def readBlockEntries (handles : Handles) :
    Nat → Reading → Except Fault (List (Node × Node) × Reading)
  | 0, _ => .error .malformed
  | fuel + 1, reading => do
    let ends : List Token := [.key, .value, .blockEnd]
    match reading.here with
    | .blockEnd => return ([], reading.next)
    | .key =>
      let (key, after) ← readUnless handles true true ends fuel reading.next
      let (value, after) ←
        if after.here = .value then readUnless handles true true ends fuel after.next
        else pure (Node.missing, after)
      let (entries, after) ← readBlockEntries handles fuel after
      return ((key, value) :: entries, after)
    | _ => throw .malformed

/-- The items of a sequence in brackets. -/
def readFlowItems (handles : Handles) (first : Bool) :
    Nat → Reading → Except Fault (List Node × Reading)
  | 0, _ => .error .malformed
  | fuel + 1, reading => do
    if reading.here = .flowSequenceEnd then return ([], reading.next)
    if !first && reading.here ≠ .flowEntry then throw .malformed
    let reading := if first then reading else reading.next
    match reading.here with
    | .flowSequenceEnd => return ([], reading.next)
    | .key =>
      let (key, after) ←
        readUnless handles false false [.value, .flowEntry, .flowSequenceEnd] fuel reading.next
      let (value, after) ←
        if after.here = .value then
          readUnless handles false false [.flowEntry, .flowSequenceEnd] fuel after.next
        else pure (Node.missing, after)
      let (items, after) ← readFlowItems handles false fuel after
      return (.mapping .mapping [(key, value)] :: items, after)
    | _ =>
      let (item, after) ← readNode handles false false fuel reading
      let (items, after) ← readFlowItems handles false fuel after
      return (item :: items, after)

/-- The entries of a mapping in braces. -/
def readFlowEntries (handles : Handles) (first : Bool) :
    Nat → Reading → Except Fault (List (Node × Node) × Reading)
  | 0, _ => .error .malformed
  | fuel + 1, reading => do
    if reading.here = .flowMappingEnd then return ([], reading.next)
    if !first && reading.here ≠ .flowEntry then throw .malformed
    let reading := if first then reading else reading.next
    match reading.here with
    | .flowMappingEnd => return ([], reading.next)
    | .key =>
      let (key, after) ←
        readUnless handles false false [.value, .flowEntry, .flowMappingEnd] fuel reading.next
      let (value, after) ←
        if after.here = .value then
          readUnless handles false false [.flowEntry, .flowMappingEnd] fuel after.next
        else pure (Node.missing, after)
      let (entries, after) ← readFlowEntries handles false fuel after
      return ((key, value) :: entries, after)
    | _ =>
      let (key, after) ← readNode handles false false fuel reading
      let (entries, after) ← readFlowEntries handles false fuel after
      return ((key, .missing) :: entries, after)

end

/-! ## Documents -/

/-- The directives in front of a document: whether a version was named, the handles
they give, and the tokens behind them. -/
def readDirectives (versioned : Bool) (handles : Handles) :
    List Token → Except Fault (Handles × List Token)
  | .directive (.version major _) :: rest =>
    if versioned || major ≠ 1 then .error .malformed else readDirectives true handles rest
  | .directive (.tag handle start) :: rest =>
    if (handles.lookup handle).isSome then .error .malformed
    else readDirectives versioned ((handle, start) :: handles) rest
  | .directive .other :: rest => readDirectives versioned handles rest
  | rest => .ok (handles ++ Handles.standard, rest)

/-- Passes over the marks that end a document. -/
def skipDocumentEnds (tokens : List Token) : List Token := tokens.dropWhile (· = .documentEnd)

/-- The node of a document that begins with a mark or with directives. -/
def readMarked (fuel : Nat) (tokens : List Token) : Except Fault (Option Node × List Token) := do
  let tokens := skipDocumentEnds tokens
  if tokens.headD .streamEnd = .streamEnd then return (none, tokens)
  let (handles, tokens) ← readDirectives false [] tokens
  match tokens with
  | .documentStart :: rest =>
    match rest with
    | .directive _ :: _ | .documentStart :: _ | .documentEnd :: _ | .streamEnd :: _ =>
      return (some .missing, rest)
    | _ =>
      let (node, after) ← readNode handles true false fuel ⟨rest, []⟩
      return (some node, after.tokens)
  | _ => throw .malformed

/-- The node of the only document of a text, if there is one. -/
def Node.ofTokens? (tokens : List Token) : Except Fault (Option Node) := do
  let fuel := 4 * tokens.length + 8
  let (node, rest) ←
    match tokens.headD .streamEnd with
    | .directive _ | .documentStart | .streamEnd => readMarked fuel tokens
    | _ =>
      let (node, after) ← readNode .standard true false fuel ⟨tokens, []⟩
      pure (some node, after.tokens)
  if (skipDocumentEnds rest).headD .streamEnd = .streamEnd then return node else throw .malformed

end CommandHost.Yaml
