import MetricFacade.Document
import MetricFacade.Yaml.Lexer

/-!
# Reading YAML

A text is read if every character in it is one that may stand in a text, and a byte order mark
at its start is passed over. Its tokens are read as nodes.

A node is a scalar, a sequence or a mapping, in block or in flow style, possibly with a tag
and an anchor before it; an alias stands for the node with that anchor. What is left out is
an empty plain scalar. Keys of mappings are scalars. Where the tokens end or do not fit,
reading comes to a halt, and the collections that are still open stay without an end.
-/
namespace MetricFacade.Yaml

/-- Where reading stands: the tokens left, the nodes with an anchor, and what the handles of
tags stand for. -/
structure Place where
  tokens : List Token
  anchors : List (String × Node) := []
  handles : List (String × String) := []

/-- What was read, and where reading goes on unless it came to a halt. -/
abbrev Progress (α : Type) := α × Option Place

namespace Place

/-- The place with these tokens left. -/
def goTo (s : Place) (tokens : List Token) : Place :=
  { s with tokens := tokens }

def anchored (s : Place) : Option String → Node → Place
  | none, _ => s
  | some name, node => { s with anchors := (name, node) :: s.anchors }

def lookup (s : Place) (name : String) : Option Node :=
  (s.anchors.find? fun e => e.1 = name).map (·.2)

/-- The handles that need no directive. -/
def standardHandles : List (String × String) :=
  [("!", "!"), ("!!", "tag:yaml.org,2002:")]

/-- The tag in full. Without a handle it is written so already. -/
def resolveTag (s : Place) (t : WrittenTag) : Option String :=
  if t.handle.isEmpty then some t.suffix
  else
    ((s.handles ++ standardHandles).find? fun e => e.1 = t.handle).map fun e => e.2 ++ t.suffix

end Place

/-- A node that is left out. -/
def emptyNode : Node := .plain ""

/-- What stands before a node. -/
structure Properties where
  anchor : Option String := none
  tag : Option WrittenTag := none

def properties : List Token → Properties × List Token
  | .anchor a :: .tag t :: rest => (⟨some a, some t⟩, rest)
  | .tag t :: .anchor a :: rest => (⟨some a, some t⟩, rest)
  | .anchor a :: rest => (⟨some a, none⟩, rest)
  | .tag t :: rest => (⟨none, some t⟩, rest)
  | rest => ({}, rest)

/-- The node with its tag, if it has one. A single exclamation mark before it does not count. -/
def withTag : Option String → Node → Node
  | none, node => node
  | some tag, node =>
    .tagged (if tag.toList.head? = some '!' then String.ofList (tag.toList.drop 1) else tag) node

/-- A scalar as the key of an entry. -/
def keyText? : Node → Option String
  | .plain s => some s
  | .text s => some s
  | .tagged _ node => keyText? node
  | _ => none

/-- What a node in a certain position may be. -/
structure Position where
  /-- A block collection may stand here. -/
  block : Bool
  /-- So may a block sequence that is not indented. -/
  indentless : Bool
  /-- The tokens that show that the node is left out. -/
  stops : List Token

namespace Position

def root : Position := ⟨true, false, []⟩

def blockItem : Position := ⟨true, false, [.blockEntry, .blockEnd]⟩

def indentlessItem : Position := ⟨true, false, [.blockEntry, .key, .value, .blockEnd]⟩

def blockPart : Position := ⟨true, true, [.key, .value, .blockEnd]⟩

def flowItem : Position := ⟨false, false, []⟩

def flowPairKey : Position := ⟨false, false, [.value, .flowEntry, .flowSequenceEnd]⟩

def flowPairValue : Position := ⟨false, false, [.flowEntry, .flowSequenceEnd]⟩

def flowKey : Position := ⟨false, false, [.value, .flowEntry, .flowMappingEnd]⟩

def flowValue : Position := ⟨false, false, [.flowEntry, .flowMappingEnd]⟩

end Position

def listNode (items : Progress (List Node)) : Progress Node :=
  (.list items.1 items.2.isSome, items.2)

def tableNode (entries : Progress (List (String × Node))) : Progress Node :=
  (.table entries.1 entries.2.isSome, entries.2)

/-- No node begins at the place, which is a fault unless it has properties. -/
def leftOut (optional : Bool) (s : Place) : Progress Node :=
  if optional then (emptyNode, some s) else (.unreadable, none)

mutual

/-- The node in a position, or the empty one. -/
def node : Nat → Position → Place → Progress Node
  | 0, _, _ => (.unreadable, none)
  | fuel + 1, p, s =>
    match s.tokens with
    | [] => (.unreadable, none)
    | .alias name :: rest =>
      match s.lookup name with
      | some n => (n, some (s.goTo rest))
      | none => (.unreadable, none)
    | t :: rest =>
      if t ∈ p.stops then (emptyNode, some (s.goTo (t :: rest)))
      else
        let (props, rest) := properties (t :: rest)
        match props.tag.map s.resolveTag with
        | some none => (.unreadable, none)
        | tag =>
          let s := (s.goTo rest).anchored props.anchor .unreadable
          let optional := props.anchor.isSome || props.tag.isSome
          let (n, next) := content fuel p optional s
          let n := withTag tag.join n
          (n, next.map fun s => s.anchored props.anchor n)

/-- The node behind its properties. If it has any it may be left out. -/
def content : Nat → Position → Bool → Place → Progress Node
  | 0, _, _, _ => (.unreadable, none)
  | fuel + 1, p, optional, s =>
    match s.tokens with
    | [] => (.unreadable, none)
    | .scalar text quoted :: rest =>
      (if quoted then .text text else .plain text, some (s.goTo rest))
    | .flowSequenceStart :: rest => listNode (flowItems fuel (s.goTo rest))
    | .flowMappingStart :: rest => tableNode (flowEntries fuel (s.goTo rest))
    | .blockEntry :: _ =>
      if p.indentless then listNode (indentlessItems fuel s) else leftOut optional s
    | .blockSequenceStart :: rest =>
      if p.block then listNode (blockItems fuel (s.goTo rest)) else leftOut optional s
    | .blockMappingStart :: rest =>
      if p.block then tableNode (blockEntries fuel (s.goTo rest)) else leftOut optional s
    | _ => leftOut optional s

/-- The items of a block sequence up to its end. -/
def blockItems : Nat → Place → Progress (List Node)
  | 0, _ => ([], none)
  | fuel + 1, s =>
    match s.tokens with
    | .blockEntry :: rest =>
      match node fuel .blockItem (s.goTo rest) with
      | (item, none) => ([item], none)
      | (item, some s) =>
        let (items, next) := blockItems fuel s
        (item :: items, next)
    | .blockEnd :: rest => ([], some (s.goTo rest))
    | _ => ([], none)

/-- The items of a sequence that ends with the mapping around it. -/
def indentlessItems : Nat → Place → Progress (List Node)
  | 0, _ => ([], none)
  | fuel + 1, s =>
    match s.tokens with
    | .blockEntry :: rest =>
      match node fuel .indentlessItem (s.goTo rest) with
      | (item, none) => ([item], none)
      | (item, some s) =>
        let (items, next) := indentlessItems fuel s
        (item :: items, next)
    | [] => ([], none)
    | _ => ([], some s)

/-- The entries of a block mapping up to its end. -/
def blockEntries : Nat → Place → Progress (List (String × Node))
  | 0, _ => ([], none)
  | fuel + 1, s =>
    match s.tokens with
    | .key :: rest =>
      match node fuel .blockPart (s.goTo rest) with
      | (_, none) => ([], none)
      | (k, some s) =>
        match keyText? k with
        | none => ([], none)
        | some key =>
          match value fuel .blockPart s with
          | (v, none) => ([(key, v)], none)
          | (v, some s) =>
            let (entries, next) := blockEntries fuel s
            ((key, v) :: entries, next)
    | .blockEnd :: rest => ([], some (s.goTo rest))
    | _ => ([], none)

/-- The value behind a key. Without a colon it is left out. -/
def value : Nat → Position → Place → Progress Node
  | 0, _, _ => (.unreadable, none)
  | fuel + 1, p, s =>
    match s.tokens with
    | .value :: rest => node fuel p (s.goTo rest)
    | [] => (.unreadable, none)
    | _ => (emptyNode, some s)

/-- The items of a flow sequence up to its end, from where one may begin. A single pair
without braces is a mapping. -/
def flowItems : Nat → Place → Progress (List Node)
  | 0, _ => ([], none)
  | fuel + 1, s =>
    match s.tokens with
    | .flowSequenceEnd :: rest => ([], some (s.goTo rest))
    | .key :: rest =>
      let (entries, next) := flowPair fuel .flowPairKey .flowPairValue (s.goTo rest)
      moreFlowItems fuel (.table entries next.isSome) next
    | _ =>
      let (item, next) := node fuel .flowItem s
      moreFlowItems fuel item next

/-- The item and what follows it in a flow sequence. -/
def moreFlowItems : Nat → Node → Option Place → Progress (List Node)
  | 0, item, _ => ([item], none)
  | fuel + 1, item, next =>
    match next with
    | none => ([item], none)
    | some s =>
      match s.tokens with
      | .flowEntry :: rest =>
        let (items, next) := flowItems fuel (s.goTo rest)
        (item :: items, next)
      | .flowSequenceEnd :: rest => ([item], some (s.goTo rest))
      | _ => ([item], none)

/-- One entry in flow style, behind what announces its key. -/
def flowPair : Nat → Position → Position → Place → Progress (List (String × Node))
  | 0, _, _, _ => ([], none)
  | fuel + 1, keyPosition, valuePosition, s =>
    match node fuel keyPosition s with
    | (_, none) => ([], none)
    | (k, some s) =>
      match keyText? k with
      | none => ([], none)
      | some key =>
        let (v, next) := value fuel valuePosition s
        ([(key, v)], next)

/-- The entries of a flow mapping up to its end, from where one may begin. -/
def flowEntries : Nat → Place → Progress (List (String × Node))
  | 0, _ => ([], none)
  | fuel + 1, s =>
    match s.tokens with
    | .flowMappingEnd :: rest => ([], some (s.goTo rest))
    | .key :: rest =>
      let (entries, next) := flowPair fuel .flowKey .flowValue (s.goTo rest)
      moreFlowEntries fuel entries next
    | _ =>
      match node fuel .flowItem s with
      | (_, none) => ([], none)
      | (k, some s) =>
        match keyText? k with
        | none => ([], none)
        | some key => moreFlowEntries fuel [(key, emptyNode)] (some s)

/-- The entry and what follows it in a flow mapping. -/
def moreFlowEntries : Nat → List (String × Node) → Option Place →
    Progress (List (String × Node))
  | 0, entry, _ => (entry, none)
  | fuel + 1, entry, next =>
    match next with
    | none => (entry, none)
    | some s =>
      match s.tokens with
      | .flowEntry :: rest =>
        let (entries, next) := flowEntries fuel (s.goTo rest)
        (entry ++ entries, next)
      | .flowMappingEnd :: rest => (entry, some (s.goTo rest))
      | _ => (entry, none)

end

/-! ## Documents -/

/-- The handles that the directives before a document declare, and what follows the line that
starts it. A version is declared once at most, and so is each handle. -/
def directives : Bool → List (String × String) → List Token →
    Option (List (String × String) × List Token)
  | versioned, handles, .versionDirective major minor :: rest =>
    if versioned ∨ major ≠ 1 ∨ (minor ≠ 1 ∧ minor ≠ 2) then none
    else directives true handles rest
  | versioned, handles, .tagDirective handle stem :: rest =>
    if handles.any fun e => e.1 = handle then none
    else directives versioned ((handle, stem) :: handles) rest
  | _, handles, .documentStart :: rest => some (handles, rest)
  | _, _, _ => none

def isDirective : Token → Bool
  | .versionDirective .. | .tagDirective .. => true
  | _ => false

/-- A document goes no further than this token. -/
def endsDocument (t : Token) : Bool :=
  isDirective t || t ∈ [.documentStart, .documentEnd, .streamEnd]

/-- The tokens hold nothing but the end of the document and of the text. -/
def isEnd (ts : List Token) : Bool :=
  ts.dropWhile (· = .documentEnd) = [.streamEnd]

/-- The document whose root begins at a place. -/
def rootAt (s : Place) : Document :=
  let (root, next) := node (5 * s.tokens.length + 5) .root s
  ⟨root, next.any fun s => isEnd s.tokens⟩

/-- The first document of a sequence of tokens, which ends the text if it is the only one. -/
def document (ts : List Token) : Document :=
  match ts with
  | [] => .unreadable
  | .streamEnd :: _ => ⟨emptyNode, true⟩
  | t :: rest =>
    if isDirective t ∨ t = .documentStart then
      match directives false [] (t :: rest) with
      | none => .unreadable
      | some (handles, rest) =>
        if rest.head?.any endsDocument then ⟨emptyNode, isEnd rest⟩
        else rootAt { tokens := rest, handles := handles }
    else rootAt { tokens := t :: rest }

/-- The document that a text holds. -/
def read (text : String) : Document :=
  let cs := match text.toList with
    | '\ufeff' :: rest => rest
    | rest => rest
  if cs.all isAllowed then document (tokens cs) else .unreadable

end MetricFacade.Yaml
