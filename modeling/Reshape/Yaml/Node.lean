import Reshape.Yaml.Lexeme

/-!
# Trees of YAML

The tree that a text writes: scalars, sequences and mappings with their marks and tags, nodes that
anchors number, and references to them. Where the text is malformed the tree breaks off: the last
node that was begun ends with the fault, and nothing follows it. So who walks through a tree in
order meets what is wrong with the text where it would meet it in the text.
-/
namespace Reshape.Yaml

open Text (Mark)

inductive Node where
  | scalar (mark : Mark) (tag : Option Tag) (text : String) (style : ScalarStyle)
  | sequence (mark : Mark) (tag : Option Tag) (items : List Node)
  | mapping (mark : Mark) (tag : Option Tag) (pairs : List (Node × Node))
  /-- A node with an anchor. -/
  | named (number : Nat) (node : Node)
  /-- The node with the last anchor of a number. -/
  | reference (number : Nat)
  /-- The tree breaks off here. -/
  | broken (e : SyntaxError)

/-- What the parts of a document have in common: the fault at the end of its lexemes, and what its
handles stand for. -/
structure Context where
  last : SyntaxError
  handles : Handles

/-- What stands in front of a node: where that begins, its tag with the tag's mark, and the number
of its anchor. -/
structure Properties where
  mark : Mark
  tag : Option (WrittenTag × Mark)
  anchor : Option Nat

namespace Properties

/-- The properties at the begin of a node, up to one of either kind, and the lexemes behind them. -/
def take (first : Located) (ahead : List Located) : Properties × List Located :=
  match first.lexeme, ahead with
  | .anchor number, ⟨.tag tag, mark, _⟩ :: rest => (⟨first.start, some (tag, mark), number⟩, rest)
  | .anchor number, rest => (⟨first.start, none, number⟩, rest)
  | .tag tag, ⟨.anchor number, _, _⟩ :: rest =>
    (⟨first.start, some (tag, first.start), number⟩, rest)
  | .tag tag, rest => (⟨first.start, some (tag, first.start), none⟩, rest)
  | _, rest => (⟨first.start, none, none⟩, first :: rest)

/-- The tag in full; none without a tag. -/
def fullTag (given : Properties) (context : Context) : Except SyntaxError (Option Tag) :=
  match given.tag with
  | none => .ok none
  | some (tag, mark) =>
    match tag.resolve? context.handles with
    | some full => .ok (some full)
    | none => .error ⟨.undefinedHandle, mark, some (.node, given.mark)⟩

/-- A node under the number of its anchor. -/
def name (given : Properties) (node : Node) : Node :=
  match given.anchor with
  | some number => .named number node
  | none => node

end Properties

namespace Node

/-- What stands where nothing is written. -/
def absent (mark : Mark) : Node := .scalar mark none "" .plain

/-- A part of the tree and the lexemes behind it; none if it breaks off. -/
abbrev Parsed (α : Type) := α × Option (List Located)

/-- Go on behind a node, unless the tree breaks off in it. -/
def follow {α : Type} (node : Parsed Node) (alone : Node → α)
    (go : Node → List Located → Parsed α) : Parsed α :=
  match node with
  | (n, none) => (alone n, none)
  | (n, some ahead) => go n ahead

/-- The items behind a first one. -/
def andItems (node : Parsed Node) (go : List Located → Parsed (List Node)) : Parsed (List Node) :=
  follow node (fun n => [n]) fun n ahead =>
    let (items, behind) := go ahead
    (n :: items, behind)

/-- The pairs behind a first one, whose value is read behind its key. -/
def andPairs (key : Parsed Node) (value : List Located → Parsed Node)
    (go : List Located → Parsed (List (Node × Node))) : Parsed (List (Node × Node)) :=
  follow key (fun k => [(k, k)]) fun k ahead =>
    follow (value ahead) (fun v => [(k, v)]) fun v ahead =>
      let (pairs, behind) := go ahead
      ((k, v) :: pairs, behind)

/-- The tree breaks off at a lexeme. -/
def fault (l : Located) (problem : Problem) (within : Construct × Mark) : Node :=
  .broken ⟨problem, l.start, some within⟩

/-- The lexemes that may follow a key or a dash without a node between them. -/
def blockStops : List Lexeme := [.key, .value, .blockEnd]

/-- The tag of a scalar; one that says no more than that there is one does not count. -/
def scalarTag (tag : Option Tag) : Option Tag := tag.filter (· != Tag.bare)

mutual

/-- A node. `turns` bounds the depth of the recursion. In a block a node may be a block of its own;
behind a key its items may stand at the key's column. -/
def parse (context : Context) (block behindKey : Bool) : Nat → List Located → Parsed Node
  | turns + 1, l :: ahead =>
    match l.lexeme with
    | .reference (some number) => (.reference number, some ahead)
    | .reference none => (.broken ⟨.unknownAnchor, l.start, none⟩, none)
    | _ =>
      match Properties.take l ahead with
      | (_, []) => (.broken context.last, none)
      | (given, first :: rest) =>
        match given.fullTag context with
        | .error e => (.broken e, none)
        | .ok tag =>
          let (node, behind) := content context block behindKey given.mark tag turns (first :: rest)
          match node with
          | some node => (given.name node, behind)
          | none =>
            if given.anchor.isSome || tag.isSome then
              (given.name (.scalar given.mark tag "" .plain), some (first :: rest))
            else
              let construct := if block then Construct.blockNode else .flowNode
              (fault first .noContent (construct, given.mark), none)
  | _, _ => (.broken context.last, none)

/-- What a node holds, given where it begins and its tag; none if no node begins here. -/
def content (context : Context) (block behindKey : Bool) (mark : Mark) (tag : Option Tag) :
    Nat → List Located → Parsed (Option Node)
  | turns + 1, l :: ahead =>
    match l.lexeme with
    | .scalar text style => (some (.scalar mark (scalarTag tag) text style), some ahead)
    | .flowSequenceStart =>
      let (items, behind) := flowItems context l.start turns ahead
      (some (.sequence mark tag items), behind)
    | .flowMappingStart =>
      let (pairs, behind) := flowPairs context l.start turns ahead
      (some (.mapping mark tag pairs), behind)
    | .entry =>
      if behindKey then
        let (items, behind) := blockItems context none turns (l :: ahead)
        (some (.sequence mark tag items), behind)
      else (none, none)
    | .sequenceStart =>
      if block then
        let (items, behind) := blockItems context (some l.start) turns ahead
        (some (.sequence mark tag items), behind)
      else (none, none)
    | .mappingStart =>
      if block then
        let (pairs, behind) := blockPairs context l.start turns ahead
        (some (.mapping mark tag pairs), behind)
      else (none, none)
    | _ => (none, none)
  | _, _ => (some (.broken context.last), none)

/-- A node, or what is absent if one of some lexemes follows. -/
def parseUnless (context : Context) (block behindKey : Bool) (stops : List Lexeme)
    (place : Located → Mark) : Nat → List Located → Parsed Node
  | turns + 1, l :: ahead =>
    if stops.contains l.lexeme then (absent (place l), some (l :: ahead))
    else parse context block behindKey turns (l :: ahead)
  | _, _ => (.broken context.last, none)

/-- The items of a block, which ends with a lexeme of its own if its begin is marked. -/
def blockItems (context : Context) (begin_ : Option Mark) :
    Nat → List Located → Parsed (List Node)
  | turns + 1, l :: ahead =>
    if l.lexeme = .entry then
      let stops := if begin_.isSome then [.entry, .blockEnd] else .entry :: blockStops
      andItems (parseUnless context true false stops (fun _ => l.stop) turns ahead)
        (blockItems context begin_ turns)
    else
      match begin_ with
      | none => ([], some (l :: ahead))
      | some mark =>
        if l.lexeme = .blockEnd then ([], some ahead)
        else ([fault l .noEntryDash (.blockSequence, mark)], none)
  | _, _ => ([.broken context.last], none)

/-- The pairs of a block. -/
def blockPairs (context : Context) (mark : Mark) :
    Nat → List Located → Parsed (List (Node × Node))
  | turns + 1, l :: ahead =>
    if l.lexeme = .key then
      andPairs (parseUnless context true true blockStops (fun _ => l.stop) turns ahead)
        (blockValue context turns) (blockPairs context mark turns)
    else if l.lexeme = .blockEnd then ([], some ahead)
    else
      let broken := fault l .noKey (.blockMapping, mark)
      ([(broken, broken)], none)
  | _, _ => ([(.broken context.last, .broken context.last)], none)

/-- The value behind a key of a block. -/
def blockValue (context : Context) : Nat → List Located → Parsed Node
  | turns + 1, l :: ahead =>
    if l.lexeme = .value then
      parseUnless context true true blockStops (fun _ => l.stop) turns ahead
    else (absent l.start, some (l :: ahead))
  | _, _ => (.broken context.last, none)

/-- The items within brackets. -/
def flowItems (context : Context) (mark : Mark) : Nat → List Located → Parsed (List Node)
  | turns + 1, l :: ahead =>
    if l.lexeme = .flowSequenceEnd then ([], some ahead)
    else if l.lexeme = .key then
      let (pair, behind) := andPairs (flowKey context turns ahead)
        (flowValue context .flowSequenceEnd turns) (fun ahead => ([], some ahead))
      andItems (.mapping l.start none pair, behind) (moreItems context mark turns)
    else andItems (parse context false false turns (l :: ahead)) (moreItems context mark turns)
  | _, _ => ([.broken context.last], none)

/-- The key of a pair that is an item within brackets. A lexeme that shows that the key is absent
is taken for it, whichever it is. -/
def flowKey (context : Context) : Nat → List Located → Parsed Node
  | turns + 1, l :: ahead =>
    if [Lexeme.value, .comma, .flowSequenceEnd].contains l.lexeme then (absent l.stop, some ahead)
    else parse context false false turns (l :: ahead)
  | _, _ => (.broken context.last, none)

/-- What follows an item within brackets. -/
def moreItems (context : Context) (mark : Mark) : Nat → List Located → Parsed (List Node)
  | turns + 1, l :: ahead =>
    if l.lexeme = .comma then flowItems context mark turns ahead
    else if l.lexeme = .flowSequenceEnd then ([], some ahead)
    else ([fault l .noCommaOrBracket (.flowSequence, mark)], none)
  | _, _ => ([.broken context.last], none)

/-- The pairs within braces. -/
def flowPairs (context : Context) (mark : Mark) :
    Nat → List Located → Parsed (List (Node × Node))
  | turns + 1, l :: ahead =>
    if l.lexeme = .flowMappingEnd then ([], some ahead)
    else if l.lexeme = .key then
      andPairs
        (parseUnless context false false [.value, .comma, .flowMappingEnd] (·.start) turns ahead)
        (flowValue context .flowMappingEnd turns) (morePairs context mark turns)
    else
      andPairs (parse context false false turns (l :: ahead))
        (absentValue context) (morePairs context mark turns)
  | _, _ => ([(.broken context.last, .broken context.last)], none)
where
  /-- The value of a key that stands alone. -/
  absentValue (context : Context) : List Located → Parsed Node
    | l :: ahead => (absent l.start, some (l :: ahead))
    | [] => (.broken context.last, none)

/-- What follows a pair within braces. -/
def morePairs (context : Context) (mark : Mark) :
    Nat → List Located → Parsed (List (Node × Node))
  | turns + 1, l :: ahead =>
    if l.lexeme = .comma then flowPairs context mark turns ahead
    else if l.lexeme = .flowMappingEnd then ([], some ahead)
    else
      let broken := fault l .noCommaOrBrace (.flowMapping, mark)
      ([(broken, broken)], none)
  | _, _ => ([(.broken context.last, .broken context.last)], none)

/-- The value behind a key within brackets or braces that end with a lexeme. -/
def flowValue (context : Context) (end_ : Lexeme) : Nat → List Located → Parsed Node
  | turns + 1, l :: ahead =>
    if l.lexeme = .value then
      parseUnless context false false [.comma, end_] (·.start) turns ahead
    else (absent l.start, some (l :: ahead))
  | _, _ => (.broken context.last, none)

end

/-- The node without its anchor. -/
def unnamed : Node → Node
  | .named _ node => unnamed node
  | node => node

mutual

/-- The nodes with anchors in a tree, by their numbers, the last one first. -/
def anchors (before : List (Nat × Node)) : Node → List (Nat × Node)
  | .named number node => anchors ((number, node) :: before) node
  | .sequence _ _ items => itemAnchors before items
  | .mapping _ _ pairs => pairAnchors before pairs
  | _ => before

def itemAnchors (before : List (Nat × Node)) : List Node → List (Nat × Node)
  | [] => before
  | item :: rest => itemAnchors (anchors before item) rest

def pairAnchors (before : List (Nat × Node)) : List (Node × Node) → List (Nat × Node)
  | [] => before
  | (key, value) :: rest => pairAnchors (anchors (anchors before key) value) rest

end

mutual

/-- How many steps a walk through a tree takes, where a container takes one at each of its ends.
Where the tree breaks off so does the walk. -/
def steps (before : Nat) : Node → Except Nat Nat
  | .named _ node => steps before node
  | .sequence _ _ items => do return (← itemSteps (before + 1) items) + 1
  | .mapping _ _ pairs => do return (← pairSteps (before + 1) pairs) + 1
  | .broken _ => .error before
  | _ => .ok (before + 1)

def itemSteps (before : Nat) : List Node → Except Nat Nat
  | [] => .ok before
  | item :: rest => do itemSteps (← steps before item) rest

def pairSteps (before : Nat) : List (Node × Node) → Except Nat Nat
  | [] => .ok before
  | (key, value) :: rest => do pairSteps (← steps (← steps before key) value) rest

end
end Node

/-- The first document of a text: its tree, what is wrong behind it, and whether another document
follows. -/
structure Document where
  root : Node
  fault : Option SyntaxError
  more : Bool

/-- The directives read so far: whether one gave a version, and what the handles stand for. -/
structure Head where
  hasVersion : Bool
  handles : Handles

namespace Head

/-- The head with one more directive. A version is given once, and each handle once. -/
def add (head : Head) (mark : Mark) : Directive → Except SyntaxError Head
  | .version major minor =>
    if head.hasVersion then .error ⟨.secondVersion, mark, none⟩
    else if major = 1 && (minor = 1 || minor = 2) then .ok { head with hasVersion := true }
    else .error ⟨.otherVersion, mark, none⟩
  | .handle name start =>
    if head.handles.any fun given => given.1 == name then .error ⟨.secondHandle, mark, none⟩
    else .ok { head with handles := (name, start) :: head.handles }

/-- The directives at the begin of some lexemes, and the lexemes behind them. -/
def take (head : Head) : List Located → Except SyntaxError (Head × List Located)
  | ⟨.directive directive, mark, _⟩ :: ahead => do (← head.add mark directive).take ahead
  | ahead => .ok (head, ahead)

end Head

namespace Document

/-- A document whose tree breaks off at its root. -/
def broken (e : SyntaxError) : Document := ⟨.broken e, none, false⟩

/-- Does a lexeme stand at the head of a document? -/
def isHead : Lexeme → Bool
  | .directive _ | .documentStart => true
  | _ => false

/-- Does a document end in front of a lexeme? -/
def isEnd (lexeme : Lexeme) : Bool :=
  isHead lexeme || lexeme = .documentEnd || lexeme = .textEnd

/-- The document of a root and the lexemes behind it. -/
def ofRoot (last : SyntaxError) : Node.Parsed Node → Document
  | (root, none) => ⟨root, none, false⟩
  | (root, some []) => ⟨root, some last, false⟩
  | (root, some ahead) =>
    let next := (ahead.dropWhile fun l => l.lexeme = .documentEnd).head?
    ⟨root, none, next.all fun l => l.lexeme != .textEnd⟩

/-- The document that some lexemes write. Of the functions above none calls another more than four
times without a lexeme between them, which bounds the turns. A document with directives begins with
a marker. -/
def ofLexemes (lexemes : Lexemes) : Document :=
  let last := lexemes.2.getD ⟨.noDocumentStart, .start, none⟩
  let turns := 5 * lexemes.1.length + 5
  match lexemes.1 with
  | ⟨.textEnd, _, _⟩ :: _ => ⟨.absent .start, none, false⟩
  | first :: rest =>
    if isHead first.lexeme then
      match Head.take ⟨false, []⟩ (first :: rest) with
      | .error e => broken e
      | .ok (_, []) => broken last
      | .ok (head, ⟨.documentStart, _, _⟩ :: ahead) =>
        let context : Context := ⟨last, head.handles⟩
        match ahead with
        | l :: _ =>
          if isEnd l.lexeme then ofRoot last (.absent l.start, some ahead)
          else ofRoot last (Node.parse context true false turns ahead)
        | [] => broken last
      | .ok (_, l :: _) => broken ⟨.noDocumentStart, l.start, none⟩
    else ofRoot last (Node.parse ⟨last, []⟩ true false turns (first :: rest))
  | [] => broken last

def ofText (text : String) : Document := ofLexemes (lexemes text)

end Document
end Reshape.Yaml
