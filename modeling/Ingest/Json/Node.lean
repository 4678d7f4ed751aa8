import Ingest.Json.Number
/-!
# JSON trees

A JSON text as a tree that keeps all that a reader may stumble on: members in the order of the text
with repeated keys, and the place where the text breaks off.  A reader walks the tree in the order
of the text, so the first defect that it meets is the one it reports.
-/

namespace Ingest.Json

/-- A key as it was read, or what is wrong with it. -/
abbrev Key := Except Cause String

/-- A value of a JSON text.  A list or an object with a `stop` goes on to a defect. -/
inductive Node where
  | null
  | bool (b : Bool)
  | number (n : Numeral)
  | text (content : Except Cause String)
  | list (items : List Node) (stop : Option Break)
  | object (members : List (Key × Node)) (stop : Option Break)
  | broken (stop : Break)

/-- A whole text: its value, and whether anything follows it. -/
structure Document where
  root : Node
  trailing : Bool

/-! ## Building a tree from tokens -/

namespace Node

/-- A list or object that is still open, with what it holds so far, the last first. -/
inductive Frame where
  | list (items : List Node)
  | object (members : List (Key × Node))
  /-- An object with the key of the member that is being read. -/
  | member (members : List (Key × Node)) (key : Key)

/-- What may come next. -/
inductive Place where
  | value
  | firstItem
  | nextItem
  | afterItem
  | firstKey
  | nextKey
  | colon
  | afterMember
  deriving DecidableEq, Repr

/-- A tree under construction, with its open lists and objects, the innermost first. -/
structure Partial where
  place : Place
  frames : List Frame

/-- The value of an open list or object that ends here. -/
def Frame.node (stop : Option Break) : Frame → Node
  | .list items => .list items.reverse stop
  | .object members | .member members _ => .object members.reverse stop

/-- Put a value into an open list, or into an open object under its key. -/
def Frame.add (node : Node) : Frame → Frame
  | .list items => .list (node :: items)
  | .member members key => .object ((key, node) :: members)
  | .object members => .object members

/-- What may follow a value of an open list or object. -/
def Frame.placeAfter : Frame → Place
  | .list _ => .afterItem
  | .object _ | .member .. => .afterMember

/-- Close all that is open around a value that holds a defect. -/
def enclose (stop : Break) (node : Node) : List Frame → Node
  | [] => node
  | frame :: outer => enclose stop ((frame.add node).node (some stop)) outer

def breakValue (frames : List Frame) (stop : Break) : Node := enclose stop (.broken stop) frames

/-- The innermost open list or object goes on to a defect. -/
def breakInside (frames : List Frame) (stop : Break) : Node :=
  match frames with
  | [] => .broken stop
  | frame :: outer => enclose stop (frame.node (some stop)) outer

/-- The outcome of a step: a whole value, a tree that goes on, or one with a defect. -/
inductive Step where
  | whole (node : Node)
  | more (p : Partial)
  | defect (node : Node)

/-- A value has been read. -/
def supply (node : Node) : List Frame → Step
  | [] => .whole node
  | frame :: outer => .more ⟨frame.placeAfter, frame.add node :: outer⟩

/-- The innermost open list or object has been closed. -/
def close (frames : List Frame) : Step :=
  match frames with
  | [] => .defect (.broken (.both .noValue))
  | frame :: outer => supply (frame.node none) outer

def startValue (frames : List Frame) : Token → Step
  | .openList => .more ⟨.firstItem, .list [] :: frames⟩
  | .openObject => .more ⟨.firstKey, .object [] :: frames⟩
  | .null => supply .null frames
  | .bool b => supply (.bool b) frames
  | .number n => supply (.number n) frames
  | .text content => supply (.text content) frames
  | .brokenText stop | .broken stop => .defect (breakValue frames stop)
  | _ => .defect (breakValue frames (.both .noValue))

def startKey (frames : List Frame) : Token → Step
  | .text key =>
    match frames with
    | .object members :: outer => .more ⟨.colon, .member members key :: outer⟩
    | _ => .defect (breakInside frames (.both .keyNotString))
  | .brokenText stop => .defect (breakInside frames stop)
  | _ => .defect (breakInside frames (.both .keyNotString))

def step (p : Partial) (t : Token) : Step :=
  match p.place, t with
  | .firstItem, .closeList => close p.frames
  | .nextItem, .closeList => .defect (breakInside p.frames ⟨.trailingComma, .noValue⟩)
  | .value, t | .firstItem, t | .nextItem, t => startValue p.frames t
  | .afterItem, .comma => .more ⟨.nextItem, p.frames⟩
  | .afterItem, .closeList => close p.frames
  | .afterItem, _ => .defect (breakInside p.frames (.both .noListSeparator))
  | .firstKey, .closeObject => close p.frames
  | .nextKey, .closeObject => .defect (breakInside p.frames ⟨.trailingComma, .keyNotString⟩)
  | .firstKey, t | .nextKey, t => startKey p.frames t
  | .colon, .colon => .more ⟨.value, p.frames⟩
  | .colon, _ => .defect (breakValue p.frames (.both .noColon))
  | .afterMember, .comma => .more ⟨.nextKey, p.frames⟩
  | .afterMember, .closeObject => close p.frames
  | .afterMember, _ => .defect (breakInside p.frames (.both .noObjectSeparator))

/-- The text ends here. -/
def Partial.finish (p : Partial) : Node :=
  match p.place with
  | .value | .nextItem => breakValue p.frames (.both .endInValue)
  | .firstItem | .afterItem => breakInside p.frames (.both .endInList)
  | .firstKey | .afterMember => breakInside p.frames (.both .endInObject)
  | .nextKey => breakInside p.frames ⟨.endInValue, .endInObject⟩
  | .colon => breakValue p.frames (.both .endInObject)

/-- Read tokens until the tree is whole or has a defect. -/
def build (p : Partial) : List Token → Document
  | [] => ⟨p.finish, false⟩
  | t :: ts =>
    match step p t with
    | .whole node => ⟨node, !ts.isEmpty⟩
    | .more p => build p ts
    | .defect node => ⟨node, false⟩

end Node

def Document.ofTokens (ts : List Token) : Document := Node.build ⟨.value, []⟩ ts

/-- The tree of a text. -/
def Document.ofText (s : String) : Document := Document.ofTokens (tokens s)

/-! ## Skipping a value -/

/-- What a list or object comes to: its proper end, or its defect for a reader that skips it. -/
def skipStop : Option Break → Except Cause Unit
  | none => .ok ()
  | some b => .error b.skipped

mutual

/-- Pass over a value: only its punctuation and the ends of its texts count. -/
def Node.skip : Node → Except Cause Unit
  | .null | .bool _ | .number _ | .text _ => .ok ()
  | .list items stop => do
    skipItems items
    skipStop stop
  | .object members stop => do
    skipMembers members
    skipStop stop
  | .broken stop => .error stop.skipped

def skipItems : List Node → Except Cause Unit
  | [] => .ok ()
  | item :: items => do
    item.skip
    skipItems items

/-- Pass over the members of an object. -/
def skipMembers : List (Key × Node) → Except Cause Unit
  | [] => .ok ()
  | (_, value) :: members => do
    value.skip
    skipMembers members

end

end Ingest.Json
