import ApiReview.Yaml.Event
import ApiReview.Yaml.TokenQueue

/-!
# Putting tokens together

The grammar of documents, block collections and flow collections, as functions
that take the tokens of a node and emit its events.  The events that were
emitted before a fault remain.

An anchor gets as its number how many different names there are before it.  A
name that is given again keeps no number free, so that two anchors can share a
number; then the later one counts for both.
-/

namespace ApiReview.Yaml

/-- The tokens that are left and the events so far. -/
structure Progress where
  queue : TokenQueue
  /-- The handles that the document declares. -/
  handles : List (String × String) := []
  events : Array (Event × Mark) := #[]
  /-- The latest number of each name of an anchor. -/
  names : List (String × Nat) := []
  anchors : List (Nat × Nat) := []

/-- A part of the grammar; a failure leaves the events so far. -/
abbrev Grammar (α : Type) := ExceptT Ending (StateM Progress) α

namespace Grammar

def peek : Grammar Token := do
  let p ← get
  match p.queue.first with
  | .error f => throw (.broken f)
  | .ok (token, queue) =>
    set { p with queue }
    return token.getD ⟨.streamEnd, queue.mark, queue.mark⟩

/-- Move over the next token. -/
def skip : Grammar Unit :=
  modify fun p => { p with queue := p.queue.dropFirst }

/-- Emit an event that begins at a place. -/
def emit (event : Event) (mark : Mark) : Grammar Unit :=
  modify fun p => { p with events := p.events.push (event, mark) }

/-- Emit the scalar that stands for a node that is left out. -/
def emitEmpty (mark : Mark) : Grammar Unit :=
  emit (.scalar none "" .plain) mark

def fail {α : Type} (problem : Problem) (mark : Mark)
    (during : Option (Activity × Mark)) : Grammar α :=
  throw (.broken { problem, mark, during })

/-- Give the event that is emitted next a name. -/
def declare (name : String) : Grammar Unit :=
  modify fun p =>
    let number := p.names.length
    { p with
      names := (name, number) :: p.names.filter (·.1 != name)
      anchors := (number, p.events.size) :: p.anchors }

def emitAlias (name : String) (mark : Mark) : Grammar Unit := do
  match (← get).names.lookup name with
  | some number => emit (.alias number) mark
  | none => throw (.unknownAnchor mark)

/-- What can stand before a node. -/
structure Properties where
  anchor : Option String := none
  /-- Handle and rest of the tag, and its place. -/
  tag : Option (String × String × Mark) := none

/-- Take a tag, if one follows. -/
def takeTag (p : Properties) : Grammar Properties := do
  let token ← peek
  match token.kind with
  | .tag handle rest =>
    skip
    return { p with tag := some (handle, rest, token.start) }
  | _ => return p

/-- Take an anchor, if one follows. -/
def takeAnchor (p : Properties) : Grammar Properties := do
  match (← peek).kind with
  | .anchor name =>
    skip
    return { p with anchor := some name }
  | _ => return p

/-- An anchor and a tag, in either order. -/
def takeProperties : Grammar Properties := do
  let p ← takeAnchor {}
  if p.anchor.isSome then
    takeTag p
  else
    let p ← takeTag p
    if p.tag.isSome then takeAnchor p else return p

/-- The handles that need no declaration. -/
def commonHandles : List (String × String) :=
  [("!", "!"), ("!!", "tag:yaml.org,2002:")]

/-- The tag in full, of a node that begins at `start`. -/
def fullTag (start : Mark) :
    Option (String × String × Mark) → Grammar (Option String)
  | none => return none
  | some ("", rest, _) => return some rest
  | some (handle, rest, mark) => do
    match ((← get).handles ++ commonHandles).lookup handle with
    | some uri => return some (uri ++ rest)
    | none => fail .handleUndefined mark (some (.node, start))

/-- Does nothing stand where a part of a block mapping could? -/
def endsBlockPart : TokenKind → Bool
  | .key | .value | .blockEnd => true
  | _ => false

mutual

/-- A node.  `block` allows block collections; `dashes` allows a sequence whose
dashes stand at the indent of the mapping around it. -/
def node (block dashes : Bool) : Nat → Grammar Unit
  | 0 => return ()
  | fuel + 1 => do
    let ahead ← peek
    match ahead.kind with
    | .alias name =>
      skip
      emitAlias name ahead.start
    | _ =>
      let p ← takeProperties
      let token ← peek
      let tag ← fullTag ahead.start p.tag
      let begins (event : Event) : Grammar Unit := do
        if let some name := p.anchor then
          declare name
        emit event ahead.start
      match token.kind, block, dashes with
      | .blockEntry, _, true =>
        begins (.sequenceStart tag)
        dashEntries fuel
      | .scalar text style, _, _ =>
        skip
        begins (.scalar (if tag == some "!" then none else tag) text style)
      | .flowSequenceStart, _, _ =>
        skip
        begins (.sequenceStart tag)
        flowEntries token.start true fuel
      | .flowMappingStart, _, _ =>
        skip
        begins (.mappingStart tag)
        flowMembers token.start true fuel
      | .blockSequenceStart, true, _ =>
        skip
        begins (.sequenceStart tag)
        blockEntries token.start fuel
      | .blockMappingStart, true, _ =>
        skip
        begins (.mappingStart tag)
        blockMembers token.start fuel
      | _, _, _ =>
        if p.anchor.isSome || tag.isSome then
          begins (.scalar tag "" .plain)
        else
          fail .nodeContent token.start
            (some (if block then .blockNode else .flowNode, ahead.start))

/-- The entries of a block sequence that began at `start`. -/
def blockEntries (start : Mark) : Nat → Grammar Unit
  | 0 => return ()
  | fuel + 1 => do
    let token ← peek
    match token.kind with
    | .blockEntry =>
      skip
      match (← peek).kind with
      | .blockEntry | .blockEnd => emitEmpty token.stop
      | _ => node true false fuel
      blockEntries start fuel
    | .blockEnd =>
      skip
      emit .sequenceEnd token.start
    | _ => fail .dashExpected token.start (some (.blockSequence, start))

/-- The entries of a sequence whose dashes stand at the indent of the mapping
around it. -/
def dashEntries : Nat → Grammar Unit
  | 0 => return ()
  | fuel + 1 => do
    let token ← peek
    match token.kind with
    | .blockEntry =>
      skip
      match (← peek).kind with
      | .blockEntry | .key | .value | .blockEnd => emitEmpty token.stop
      | _ => node true false fuel
      dashEntries fuel
    | _ => emit .sequenceEnd token.start

/-- The members of a block mapping that began at `start`. -/
def blockMembers (start : Mark) : Nat → Grammar Unit
  | 0 => return ()
  | fuel + 1 => do
    let token ← peek
    match token.kind with
    | .key =>
      skip
      if endsBlockPart (← peek).kind then emitEmpty token.stop else node true true fuel
      let token ← peek
      match token.kind with
      | .value =>
        skip
        if endsBlockPart (← peek).kind then emitEmpty token.stop else node true true fuel
      | _ => emitEmpty token.start
      blockMembers start fuel
    | .blockEnd =>
      skip
      emit .mappingEnd token.start
    | _ => fail .blockKeyExpected token.start (some (.blockMapping, start))

/-- The entries of a flow sequence that began at `start`; between two of them
stands a comma. -/
def flowEntries (start : Mark) (first : Bool) : Nat → Grammar Unit
  | 0 => return ()
  | fuel + 1 => do
    let token ← peek
    let token ←
      match token.kind, first with
      | .flowSequenceEnd, _ => pure token
      | _, true => pure token
      | .flowEntry, _ =>
        skip
        peek
      | _, _ => fail .commaOrBracket token.start (some (.flowSequence, start))
    match token.kind with
    | .flowSequenceEnd =>
      skip
      emit .sequenceEnd token.start
    | .key =>
      skip
      emit (.mappingStart none) token.start
      flowPair fuel
      flowEntries start false fuel
    | _ =>
      node false false fuel
      flowEntries start false fuel

/-- Key and value of a mapping with one member that stands in a flow sequence
without braces.  When the key is left out, the token behind it is lost. -/
def flowPair : Nat → Grammar Unit
  | 0 => return ()
  | fuel + 1 => do
    let token ← peek
    match token.kind with
    | .value | .flowEntry | .flowSequenceEnd =>
      skip
      emitEmpty token.stop
    | _ => node false false fuel
    let token ← peek
    match token.kind with
    | .value =>
      skip
      let token ← peek
      match token.kind with
      | .flowEntry | .flowSequenceEnd => emitEmpty token.start
      | _ => node false false fuel
    | _ => emitEmpty token.start
    emit .mappingEnd (← peek).start

/-- The members of a flow mapping that began at `start`; between two of them
stands a comma. -/
def flowMembers (start : Mark) (first : Bool) : Nat → Grammar Unit
  | 0 => return ()
  | fuel + 1 => do
    let token ← peek
    let token ←
      match token.kind, first with
      | .flowMappingEnd, _ => pure token
      | _, true => pure token
      | .flowEntry, _ =>
        skip
        peek
      | _, _ => fail .commaOrBrace token.start (some (.flowMapping, start))
    match token.kind with
    | .flowMappingEnd =>
      skip
      emit .mappingEnd token.start
    | .key =>
      skip
      let token ← peek
      match token.kind with
      | .value | .flowEntry | .flowMappingEnd => emitEmpty token.start
      | _ => node false false fuel
      let token ← peek
      match token.kind with
      | .value =>
        skip
        let token ← peek
        match token.kind with
        | .flowEntry | .flowMappingEnd => emitEmpty token.start
        | _ => node false false fuel
      | _ => emitEmpty token.start
      flowMembers start false fuel
    | _ =>
      node false false fuel
      emitEmpty (← peek).start
      flowMembers start false fuel

end

/-- The directives before a document; the flag tells whether a version was given. -/
def directives (versioned : Bool) : Nat → Grammar Unit
  | 0 => return ()
  | fuel + 1 => do
    let token ← peek
    match token.kind with
    | .version major minor =>
      if versioned then
        fail .versionTwice token.start none
      else if major != 1 || (minor != 1 && minor != 2) then
        fail .versionUnsupported token.start none
      else
        skip
        directives true fuel
    | .handle handle uri =>
      if ((← get).handles.lookup handle).isSome then
        fail .handleTwice token.start none
      else
        skip
        modify fun p => { p with handles := (handle, uri) :: p.handles }
        directives versioned fuel
    | _ => return ()

/-- What a document behind its start mark holds. -/
def markedContent (fuel : Nat) : Grammar Unit := do
  let token ← peek
  match token.kind with
  | .version _ _ | .handle _ _ | .documentStart | .documentEnd | .streamEnd =>
    emitEmpty token.start
  | _ => node true false fuel

/-- The first document of a text, if there is one. -/
def firstDocument (fuel : Nat) : Grammar Unit := do
  skip
  let token ← peek
  match token.kind with
  | .streamEnd => emit .nothing token.start
  | .version _ _ | .handle _ _ | .documentStart =>
    directives false fuel
    let token ← peek
    match token.kind with
    | .documentStart =>
      skip
      markedContent fuel
    | _ => fail .documentStart token.start none
  | _ => node true false fuel
  match (← peek).kind with
  | .documentEnd => skip
  | _ => return ()

/-- Does anything follow the first document? -/
def goesOn : Nat → Grammar Bool
  | 0 => return true
  | fuel + 1 => do
    match (← peek).kind with
    | .documentEnd =>
      skip
      goesOn fuel
    | .streamEnd => return false
    | _ => return true

/-- More steps than the grammar takes for a text of a size. -/
def steps (size : Nat) : Nat :=
  16 * size + 64

end Grammar

/-- The events of the first document of a text. -/
def Contents.ofText (text : String) : Contents :=
  match unreadable? text with
  | some f => ⟨#[], [], .broken f⟩
  | none =>
    let start : Progress := { queue := .ofString text }
    let fuel := Grammar.steps start.queue.cursor.size
    let (result, p) := (Grammar.firstDocument fuel).run start
    let ending :=
      match result with
      | .error e => e
      | .ok () =>
        match ((Grammar.goesOn fuel).run p).1 with
        | .ok false => .complete
        | _ => .moreDocuments
    ⟨p.events, p.anchors, ending⟩

end ApiReview.Yaml
