import NamedParams.Yaml.Node
import NamedParams.Yaml.Text

namespace NamedParams.Yaml

/-- Where a node stands: among the parts of a list or mapping that is written in lines, as one of
    its keys, as an item, or as a value or a whole document. -/
inductive Context where
  | flow
  | key
  | item
  | value
deriving DecidableEq, Repr

def Context.isBlock : Context → Bool
  | item | value => true
  | flow | key => false

/-- A document that is being read, with the values of its anchors. -/
structure Reading where
  place : Cursor
  anchors : List (String × Json)
deriving Inhabited

namespace Reading

def move (reading : Reading) (place : Cursor) : Reading :=
  { reading with place }

/-- Gives a value to an anchor, if there is one. -/
def bindAnchor (reading : Reading) (anchor : Option String) (value : Json) : Reading :=
  match anchor with
  | some name => { reading with anchors := (name, value) :: reading.anchors }
  | none => reading

end Reading

/-- The tag and the anchor in front of a node, and how its content starts: whether on a new line,
    how its indentation compares with that of what it belongs to, and whether it may be a block of
    several lines. -/
structure NodeHead where
  tag : Option Tag
  anchor : Option String
  place : Cursor
  isNewLine : Bool
  depth : Ordering
  mayNest : Bool
deriving Inhabited

/-- How the indentation of a line compares with that of what it belongs to. -/
def depthOf (place : Cursor) (parent : Int) : Ordering :=
  compare (place.indent : Int) parent

/-- Goes on from a property to what follows. -/
def NodeHead.goOn (head : NodeHead) (inBlock : Bool) (parent : Int) (place : Cursor) : NodeHead :=
  let next := place.nextWord
  if next.line = place.line then { head with place := next, mayNest := false }
  else
    { head with
      place := next, isNewLine := true, depth := depthOf next parent, mayNest := inBlock }

/-- Reads the properties of a node: at most one tag and one anchor. -/
def readProperties (handles : TagHandles) (inBlock : Bool) (parent : Int) :
    Nat → NodeHead → Option NodeHead
  | 0, _ => none
  | fuel + 1, head =>
    match head.place.peek with
    | some '!' =>
      if head.tag.isSome then none
      else (readTag handles head.place).bind fun (tag, place) =>
        readProperties handles inBlock parent fuel
          (({ head with tag := some tag }).goOn inBlock parent place)
    | some '&' =>
      let (name, place) := (head.place.skip 1).takeWord isFlowSign
      if head.anchor.isSome || name.isEmpty then none
      else readProperties handles inBlock parent fuel
        (({ head with anchor := some (String.ofList name) }).goOn inBlock parent place)
    | _ => some head

/-- The start of a node: behind the gap before it, if it may have one, and its properties. -/
def readHead (handles : TagHandles) (context : Context) (parent : Int) (seeks : Bool)
    (place : Cursor) : Option NodeHead :=
  let start := if seeks then place.nextWord else place
  let isNewLine := start.line != place.line
  let depth := if isNewLine then depthOf start parent else .gt
  let head : NodeHead := ⟨none, none, start, isNewLine, depth, context.isBlock⟩
  if depth = .gt then readProperties handles context.isBlock parent 3 head else some head

/-- Completes a node whose content is read. -/
def finishNode (head : NodeHead) (kind : Option Kind) (value : Json) (hasContent : Bool)
    (reading : Reading) : Option (Node × Reading) :=
  (resolveTag head.tag kind value).map fun (value, tag) =>
    (⟨tag, head.anchor, kind, value, tag.isSome || head.anchor.isSome || hasContent⟩,
      reading.bindAnchor head.anchor value)

/-- A node that refers to an anchor has no properties. -/
def readAlias (head : NodeHead) (reading : Reading) : Option (Node × Reading) :=
  let (name, place) := (head.place.skip 1).takeWord isFlowSign
  if name.isEmpty || head.tag.isSome || head.anchor.isSome then none
  else (reading.anchors.lookup (String.ofList name)).bind fun value =>
    finishNode head none value true (reading.move place.nextWord)

/-- Reads a node that is a text, a reference or empty. -/
def readScalar (context : Context) (indent : Int) (head : NodeHead) (reading : Reading) :
    Option (Node × Reading) :=
  let finish := fun (text, place) =>
    finishNode head (some .scalar) (.string (String.ofList text)) true (reading.move place)
  let sign := head.place.peek
  if context.isBlock && (sign == some '|' || sign == some '>') then
    (readBlock indent.toNat head.place).bind finish
  else if sign == some '\'' || sign == some '\x22' then (readQuotedText head.place).bind finish
  else if sign == some '*' then readAlias head reading
  else match readPlain indent (context = .flow) head.place with
    | some (text, place) =>
      if text.all isPrintable then
        finishNode { head with tag := some (head.tag.getD .implicit) } (some .scalar)
          (.string (String.ofList text)) true (reading.move place)
      else none
    | none => finishNode head none .null false (reading.move head.place)

/-- Whether an item of a list starts at a place. -/
def startsItem (place : Cursor) : Bool :=
  place.peek == some '-' && isSeparator place.following

/-- What is found where a mapping may start: nothing, a node that turns out not to be a key, or a
    mapping. -/
inductive MappingOutcome where
  | nothing
  | single (node : Node)
  | mapping (members : List (String × Json))
deriving Inhabited

/-- The outcome at the end of a mapping. -/
def MappingProgress.finish (progress : MappingProgress) : Option MappingOutcome :=
  progress.settle.map fun settled =>
    if settled.isFound then .mapping settled.members else .nothing

/-- Whether a line goes on where it should have ended, or the next one is indented too far. -/
def isMisplaced (place : Cursor) (line column : Nat) : Bool :=
  !place.rest.isEmpty && (place.line = line || column < place.indent)

/-- What is read of a list or mapping that is written with commas. -/
structure FlowProgress where
  isMapping : Bool
  elements : List Json
  mapping : MappingProgress
  needsComma : Bool
deriving Inhabited

namespace FlowProgress

def start (isMapping : Bool) : FlowProgress :=
  ⟨isMapping, [], .start, false⟩

def close (progress : FlowProgress) : Char :=
  if progress.isMapping then '\x7d' else ']'

def kind (progress : FlowProgress) : Kind :=
  if progress.isMapping then .mapping else .list

def value (progress : FlowProgress) : Json :=
  if progress.isMapping then .object progress.mapping.members else .array progress.elements

/-- Adds an entry: a pair, or a node alone. A pair in a list is a mapping of its own. -/
def add (progress : FlowProgress) (key : Node) (value : Option Json) : Option FlowProgress :=
  if progress.isMapping then
    (progress.mapping.addNode key (value.getD .null)).map fun mapping =>
      { progress with mapping }
  else match value with
    | some value =>
      (MappingProgress.start.addNode key value).map fun pair =>
        { progress with elements := progress.elements ++ [.object pair.members] }
    | none => some { progress with elements := progress.elements ++ [key.value] }

end FlowProgress

mutual

/-- Reads a node that belongs to something of a given indentation. If it is written in several
    lines, it starts on a new line or, where it may be `compact`, behind a sign. `fuel` bounds the
    number of steps. -/
def readNode (handles : TagHandles) : Nat → Context → Int → Bool → Bool → Reading →
    Option (Node × Reading)
  | 0, _, _, _, _, _ => none
  | fuel + 1, context, parent, seeks, compact, reading => do
    let head ← readHead handles context parent seeks reading.place
    let place := head.place
    let reading := reading.move place
    let indent := if context.isBlock then parent + 1 else parent
    let mayNest := head.mayNest && (head.isNewLine || compact) && !place.hasTab
    let isItem := mayNest && startsItem place &&
      (head.depth = .gt || (head.depth = .eq && context = .value))
    if isItem then
      let (elements, reading) ← readItems handles fuel place.column
        (reading.bindAnchor head.anchor (.array []))
      finishNode head (some .list) (.array elements) true reading
    else if head.depth != .gt then finishNode head none .null false reading
    else if mayNest && !place.rest.isEmpty then
      let (outcome, reading) ← readPairs handles fuel place.column indent .start
        (reading.bindAnchor head.anchor (.object []))
      match outcome with
      | .mapping members => finishNode head (some .mapping) (.object members) true reading
      | .single node => finishNode head node.kind node.value true reading
      | .nothing =>
        readScalar context indent { head with tag := none, anchor := none } (reading.move place)
    else if place.peek == some '[' || place.peek == some '\x7b' then
      let start := FlowProgress.start (place.peek == some '\x7b')
      let (progress, reading) ← readFlow handles fuel indent start
        ((reading.move (place.skip 1)).bindAnchor head.anchor start.value)
      finishNode head (some progress.kind) progress.value true reading
    else readScalar context indent head reading

/-- Reads the items of a list whose signs stand in a given column. -/
def readItems (handles : TagHandles) : Nat → Nat → Reading → Option (List Json × Reading)
  | 0, _, _ => none
  | fuel + 1, column, reading =>
    if reading.place.rest.isEmpty then some ([], reading)
    else if reading.place.hasTab then none
    else if !startsItem reading.place then some ([], reading)
    else
      let place := reading.place.skip 1
      let next := place.nextWord
      if next.line != place.line && next.indent ≤ column then
        (readItems handles fuel column (reading.move next)).map fun (more, reading) =>
          (.null :: more, reading)
      else do
        let (node, reading) ← readNode handles fuel .item column false true (reading.move next)
        let stop := reading.place.nextWord
        if isMisplaced stop next.line column then none
        else if stop.indent < column then some ([node.value], reading.move stop)
        else
          let (more, reading) ← readItems handles fuel column (reading.move stop)
          return (node.value :: more, reading)

/-- Reads the pairs of a mapping whose keys stand in a given column. -/
def readPairs (handles : TagHandles) : Nat → Nat → Int → MappingProgress → Reading →
    Option (MappingOutcome × Reading)
  | 0, _, _, _, _ => none
  | fuel + 1, column, indent, progress, reading => do
    let place := reading.place
    let isSigned := (place.peek == some '?' || place.peek == some ':') &&
      isSeparator place.following
    if place.rest.isEmpty then return (← progress.finish, reading)
    else if progress.waiting.isNone && place.hasTab then none
    else if isSigned then
      let (node, after) ←
        readNode handles fuel .value column true true (reading.move (place.skip 1))
      let progress ←
        if place.peek == some '?' then
          progress.settle.map fun settled =>
            { settled with waiting := some node.value, isFound := true }
        else progress.waiting.bind fun key =>
          ({ progress with waiting := none }).add key node.value
      goOn fuel column indent progress place.line after
    else
      let (key, after) ← readNode handles fuel .key indent false true reading
      let colon := if after.place.line = place.line then after.place.skipBlanks else after.place
      if !key.isPresent then return (← progress.finish, reading)
      else if after.place.line = place.line && colon.peek == some ':' then
        if !isSeparator colon.following then none
        else
          let progress ← progress.settle
          let (node, after) ← readNode handles fuel .value column true false
            (after.move (colon.skip 1))
          let progress ← ({ progress with isFound := true }).addNode key node.value
          goOn fuel column indent progress place.line after
      else if progress.isFound then none
      else return (.single key, after.move colon)
where
  /-- Goes on behind a pair. A line that is indented less ends the mapping. -/
  goOn (fuel column : Nat) (indent : Int) (progress : MappingProgress) (line : Nat)
      (reading : Reading) : Option (MappingOutcome × Reading) := do
    let stop := reading.place.nextWord
    if isMisplaced stop line column then none
    else if stop.indent < column then return (← progress.finish, reading.move stop)
    else readPairs handles fuel column indent progress (reading.move stop)

/-- Reads the entries of a list or mapping that is written with commas, up to its closing sign. -/
def readFlow (handles : TagHandles) : Nat → Int → FlowProgress → Reading →
    Option (FlowProgress × Reading)
  | 0, _, _, _ => none
  | fuel + 1, indent, progress, reading => do
    let place := reading.place.nextWord
    if place.rest.isEmpty then none
    else if place.peek == some progress.close then
      return (progress, reading.move (place.skip 1))
    else if progress.needsComma || place.peek == some ',' then none
    else
      let isSigned := place.peek == some '?' && isSeparator place.following
      let start := if isSigned then (place.skip 1).nextWord else place
      let (key, reading) ← readNode handles fuel .flow indent false true (reading.move start)
      let colon := reading.place.nextWord
      let (value, reading) ←
        if (isSigned || colon.line = start.line) && colon.peek == some ':' then
          (readNode handles fuel .flow indent false true
            (reading.move (colon.skip 1).nextWord)).map fun (node, reading) =>
              (some node.value, reading)
        else some (if isSigned then some Json.null else none, reading.move colon)
      let progress ← progress.add key value
      let stop := reading.place.nextWord
      if stop.peek == some ',' then
        readFlow handles fuel indent { progress with needsComma := false }
          (reading.move (stop.skip 1))
      else readFlow handles fuel indent { progress with needsComma := true } (reading.move stop)

end

end NamedParams.Yaml
