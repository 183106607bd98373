import CallTone.Yaml.Plain
import CallTone.Yaml.Token

/-!
Nodes: the tree of a document. A node is a text, a sequence or a map, and has a tag that is written
or follows from its form. A node may be given a name and used again under it further on. A collection
that is used inside itself has no end; it is written out down to a level that no reader of settings
comes to.
-/
namespace CallTone.Yaml

inductive Node where
  | scalar (tag : Tag) (text : Letters)
  | seq (tag : Tag) (items : List Node)
  | map (tag : Tag) (entries : List (Node × Node))
  /-- A collection inside itself, by its name. -/
  | inside (name : List Char) (tag : Tag) (isMap : Bool)

namespace Node

def tag : Node → Tag
  | .scalar tag _ => tag
  | .seq tag _ => tag
  | .map tag _ => tag
  | .inside _ tag _ => tag

/-- The node that is not written: a plain text without characters. -/
def empty : Node := .scalar (Plain.tagOf []) []

/-! ### Collections inside themselves -/

mutual

/-- The node with a collection in place of its name. -/
def put (name : List Char) (whole : Node) : Node → Node
  | .scalar tag text => .scalar tag text
  | .seq tag items => .seq tag (putInItems name whole items)
  | .map tag entries => .map tag (putInEntries name whole entries)
  | .inside other tag isMap => if other = name then whole else .inside other tag isMap

def putInItems (name : List Char) (whole : Node) : List Node → List Node
  | [] => []
  | item :: rest => put name whole item :: putInItems name whole rest

def putInEntries (name : List Char) (whole : Node) : List (Node × Node) → List (Node × Node)
  | [] => []
  | (key, value) :: rest =>
    (put name whole key, put name whole value) :: putInEntries name whole rest

end

/-- How many times a collection is written out inside itself. -/
def unrollings : Nat := 6

/-- A collection with itself in place of its name. -/
def unrolled (name : List Char) (node : Node) : Node :=
  (List.range unrollings).foldl (fun whole _ => put name whole node) node

/-! ### Composing -/

/-- What is known while nodes are composed. -/
structure Composing where
  tokens : List Token
  named : List (List Char × Node)

/-- The first of the tokens that are left. -/
def Composing.here? (c : Composing) : Option Token := c.tokens.head?

def Composing.next (c : Composing) : Composing := { c with tokens := c.tokens.drop 1 }

/-- Gives a node its name, if it has one. -/
def Composing.give (c : Composing) (name : Option (List Char)) (node : Node) : Composing :=
  match name with
  | none => c
  | some name => { c with named := (name, node) :: c.named }

/-- Starts a collection: inside it, its name stands for itself. -/
def Composing.enter (c : Composing) (name : Option (List Char)) (tag : Tag) (isMap : Bool) :
    Composing :=
  c.give name (.inside (name.getD []) tag isMap)

/-- Ends a collection. When it has a name, it takes the place of that name inside itself and in the
nodes that were named inside it. -/
def Composing.leave (c : Composing) (name : Option (List Char)) (node : Node) : Node × Composing :=
  match name with
  | none => (node, c)
  | some name =>
    let whole := node.unrolled name
    let named := c.named.map fun entry => (entry.1, put name whole entry.2)
    (whole, { c with named := (name, whole) :: named })

/-- The tag that a written one stands for; none when it leaves the node to its form. -/
def tagOfWritten (handles : Handles) (written : WrittenTag) : Except Fault (Option Tag) :=
  let resolved (name : List Char) : Option Tag :=
    if name = ['!'] then none else some (Tag.ofName (String.ofList name))
  match written.handle with
  | none => .ok (resolved written.suffix)
  | some handle =>
    match handles.lookup handle with
    | none => .error .malformed
    | some start => .ok (resolved (start ++ written.suffix))

/-- What may stand before a node: its name and its tag. -/
structure Properties where
  name : Option (List Char)
  written : Option WrittenTag

/-- The properties that come next, a name and a tag in either order. -/
def takeProperties (c : Composing) : Properties × Composing :=
  match c.tokens with
  | .anchor name :: .tag tag :: rest => (⟨some name, some tag⟩, { c with tokens := rest })
  | .tag tag :: .anchor name :: rest => (⟨some name, some tag⟩, { c with tokens := rest })
  | .anchor name :: rest => (⟨some name, none⟩, { c with tokens := rest })
  | .tag tag :: rest => (⟨none, some tag⟩, { c with tokens := rest })
  | _ => (⟨none, none⟩, c)

/-- The tag of a text. A written `!` asks for the form even of a quoted text. -/
def scalarTag (isPlain : Bool) (written : Option WrittenTag) (tag : Option Tag)
    (text : Letters) : Tag :=
  match tag with
  | some tag => tag
  | none =>
    if (isPlain || written.isSome) && text.all Letter.isChar then
      Plain.tagOf (text.filterMap Letter.char?)
    else .str

def isDocumentMark : Option Token → Bool
  | some (.directive _) | some .documentStart | some .documentEnd | some .streamEnd => true
  | _ => false

/-- What ends the tokens of a composition: the fault that follows them. -/
abbrev Ending := Fault

/-- Where a node may stand: in a block, where an unindented sequence may follow a key, or between
brackets. -/
inductive Place where
  | block
  | afterKey
  | flow
deriving DecidableEq

/-- Nothing after the properties of a node: the empty text, which has to have some property. -/
def emptyContent (properties : Properties) (tag : Option Tag) (ending : Ending) (c : Composing) :
    Except Fault (Node × Composing) :=
  match c.here? with
  | none => .error ending
  | some _ =>
    if properties.name.isSome || properties.written.isSome then
      let node : Node := .scalar (scalarTag true properties.written tag []) []
      .ok (node, c.give properties.name node)
    else .error .malformed

mutual

/-- The node that comes next. -/
def take (handles : Handles) (ending : Ending) (place : Place) :
    Nat → Composing → Except Fault (Node × Composing)
  | 0, _ => .error .malformed
  | fuel + 1, c =>
    match c.tokens with
    | .alias name :: rest =>
      match c.named.lookup name with
      | none => .error .malformed
      | some node => .ok (node, { c with tokens := rest })
    | _ =>
      let (properties, c) := takeProperties c
      match (properties.written.map (tagOfWritten handles)).getD (.ok none) with
      | .error fault => .error fault
      | .ok tag =>
        if (properties.name.bind fun name => c.named.lookup name).isSome then .error .malformed
        else takeContent handles ending place properties tag fuel c

def takeContent (handles : Handles) (ending : Ending) (place : Place) (properties : Properties)
    (tag : Option Tag) : Nat → Composing → Except Fault (Node × Composing)
  | 0, _ => .error .malformed
  | fuel + 1, c =>
    let sequence (read : Composing → Except Fault (List Node × Composing)) (c : Composing) :
        Except Fault (Node × Composing) :=
      (read (c.enter properties.name (tag.getD .seq) false)).map fun (items, c) =>
        c.leave properties.name (.seq (tag.getD .seq) items)
    let mapping (read : Composing → Except Fault (List (Node × Node) × Composing)) (c : Composing) :
        Except Fault (Node × Composing) :=
      (read (c.enter properties.name (tag.getD .map) true)).map fun (entries, c) =>
        c.leave properties.name (.map (tag.getD .map) entries)
    match c.here? with
    | some .blockEntry =>
      if place = .afterKey then sequence (takeUnindented handles ending fuel) c
      else emptyContent properties tag ending c
    | some (.scalar text isPlain) =>
      let node : Node := .scalar (scalarTag isPlain properties.written tag text) text
      .ok (node, c.next.give properties.name node)
    | some .flowSequenceStart => sequence (takeFlowItems handles ending true fuel) c.next
    | some .flowMappingStart => mapping (takeFlowEntries handles ending true fuel) c.next
    | some .blockSequenceStart =>
      if place = .flow then emptyContent properties tag ending c
      else sequence (takeBlockItems handles ending fuel) c.next
    | some .blockMappingStart =>
      if place = .flow then emptyContent properties tag ending c
      else mapping (takeBlockEntries handles ending fuel) c.next
    | _ => emptyContent properties tag ending c

def takeBlockItems (handles : Handles) (ending : Ending) :
    Nat → Composing → Except Fault (List Node × Composing)
  | 0, _ => .error .malformed
  | fuel + 1, c =>
    match c.here? with
    | some .blockEntry =>
      match takeUnless handles ending .block (fun t => t == .blockEntry || t == .blockEnd) fuel
          c.next with
      | .error fault => .error fault
      | .ok (item, c) =>
        (takeBlockItems handles ending fuel c).map fun (items, c) => (item :: items, c)
    | some .blockEnd => .ok ([], c.next)
    | some _ => .error .malformed
    | none => .error ending

/-- The items of a sequence that is not indented below its key. -/
def takeUnindented (handles : Handles) (ending : Ending) :
    Nat → Composing → Except Fault (List Node × Composing)
  | 0, _ => .error .malformed
  | fuel + 1, c =>
    match c.here? with
    | some .blockEntry =>
      match takeUnless handles ending .block
          (fun t => t == .blockEntry || t == .key || t == .value || t == .blockEnd) fuel
          c.next with
      | .error fault => .error fault
      | .ok (item, c) =>
        (takeUnindented handles ending fuel c).map fun (items, c) => (item :: items, c)
    | some _ => .ok ([], c)
    | none => .error ending

def takeBlockEntries (handles : Handles) (ending : Ending) :
    Nat → Composing → Except Fault (List (Node × Node) × Composing)
  | 0, _ => .error .malformed
  | fuel + 1, c =>
    let isStop (t : Token) : Bool := t == .key || t == .value || t == .blockEnd
    let entry (key : Node) (c : Composing) : Except Fault (List (Node × Node) × Composing) :=
      match takeValue handles ending .afterKey isStop fuel c with
      | .error fault => .error fault
      | .ok (value, c) =>
        (takeBlockEntries handles ending fuel c).map fun (entries, c) => ((key, value) :: entries, c)
    match c.here? with
    | some .key =>
      match takeUnless handles ending .afterKey isStop fuel c.next with
      | .error fault => .error fault
      | .ok (key, c) => entry key c
    | some .blockEnd => .ok ([], c.next)
    | some _ => .error .malformed
    | none => .error ending

/-- The value after a key: that after a colon, or nothing. -/
def takeValue (handles : Handles) (ending : Ending) (place : Place) (isStop : Token → Bool) :
    Nat → Composing → Except Fault (Node × Composing)
  | 0, _ => .error .malformed
  | fuel + 1, c =>
    match c.here? with
    | some .value => takeUnless handles ending place isStop fuel c.next
    | some _ => .ok (Node.empty, c)
    | none => .error ending

/-- The node that comes next, or the empty one before certain tokens. -/
def takeUnless (handles : Handles) (ending : Ending) (place : Place) (isStop : Token → Bool) :
    Nat → Composing → Except Fault (Node × Composing)
  | 0, _ => .error .malformed
  | fuel + 1, c =>
    match c.here? with
    | some token =>
      if isStop token then .ok (Node.empty, c) else take handles ending place fuel c
    | none => .error ending

def takeFlowItems (handles : Handles) (ending : Ending) (isFirst : Bool) :
    Nat → Composing → Except Fault (List Node × Composing)
  | 0, _ => .error .malformed
  | fuel + 1, c =>
    let isStop (t : Token) : Bool := t == .flowEntry || t == .flowSequenceEnd
    match c.here? with
    | none => .error ending
    | some .flowSequenceEnd => .ok ([], c.next)
    | some token =>
      if !isFirst && token != .flowEntry then .error .malformed
      else
        let c := if isFirst then c else c.next
        let goOn (item : Node) (c : Composing) : Except Fault (List Node × Composing) :=
          (takeFlowItems handles ending false fuel c).map fun (items, c) => (item :: items, c)
        match c.here? with
        | none => .error ending
        | some .flowSequenceEnd => .ok ([], c.next)
        | some .key =>
          match takeUnless handles ending .flow (fun t => isStop t || t == .value) fuel c.next with
          | .error fault => .error fault
          | .ok (key, c) =>
            match takeValue handles ending .flow isStop fuel c with
            | .error fault => .error fault
            | .ok (value, c) => goOn (.map .map [(key, value)]) c
        | some _ =>
          match take handles ending .flow fuel c with
          | .error fault => .error fault
          | .ok (item, c) => goOn item c

def takeFlowEntries (handles : Handles) (ending : Ending) (isFirst : Bool) :
    Nat → Composing → Except Fault (List (Node × Node) × Composing)
  | 0, _ => .error .malformed
  | fuel + 1, c =>
    let isStop (t : Token) : Bool := t == .flowEntry || t == .flowMappingEnd
    match c.here? with
    | none => .error ending
    | some .flowMappingEnd => .ok ([], c.next)
    | some token =>
      if !isFirst && token != .flowEntry then .error .malformed
      else
        let c := if isFirst then c else c.next
        let goOn (key value : Node) (c : Composing) :
            Except Fault (List (Node × Node) × Composing) :=
          (takeFlowEntries handles ending false fuel c).map
            fun (entries, c) => ((key, value) :: entries, c)
        match c.here? with
        | none => .error ending
        | some .flowMappingEnd => .ok ([], c.next)
        | some .key =>
          match takeUnless handles ending .flow (fun t => isStop t || t == .value) fuel c.next with
          | .error fault => .error fault
          | .ok (key, c) =>
            match takeValue handles ending .flow isStop fuel c with
            | .error fault => .error fault
            | .ok (value, c) => goOn key value c
        | some _ =>
          match take handles ending .flow fuel c with
          | .error fault => .error fault
          | .ok (key, c) => goOn key Node.empty c

end

/-- The directives at the head of a document: whether the version was given, and the handles. -/
def takeDirectives : List Token → Bool → Handles → Except Fault (Handles × List Token)
  | .directive directive :: rest, versioned, handles =>
    match directive with
    | .version major =>
      if versioned ∨ major ≠ 1 then .error .malformed else takeDirectives rest true handles
    | .handle name meaning =>
      if (handles.lookup name).isSome then .error .malformed
      else takeDirectives rest versioned ((name, meaning) :: handles)
    | .other => takeDirectives rest versioned handles
  | tokens, _, handles => .ok (handles ++ Handles.standard, tokens)

/-- Nothing may follow the document but marks that end it. -/
def checkEnd (ending : Ending) : List Token → Except Fault Unit
  | .documentEnd :: rest => checkEnd ending rest
  | .streamEnd :: _ => .ok ()
  | [] => .error ending
  | _ => .error .malformed

/-- The node of a document without what comes before it. -/
def takeDocument (handles : Handles) (ending : Ending) (tokens : List Token) :
    Except Fault (Option Node) :=
  match take handles ending .block (6 * tokens.length + 10) ⟨tokens, []⟩ with
  | .error fault => .error fault
  | .ok (node, c) => (checkEnd ending c.tokens).map fun _ => some node

/-- The node of a text that holds at most one document; none when the text holds no document. -/
def ofTokens (tokens : List Token) (ending : Ending) : Except Fault (Option Node) :=
  match tokens with
  | [] => .error ending
  | .streamEnd :: _ => .ok none
  | first :: _ =>
    if isDocumentMark (some first) && first != .documentEnd then
      match takeDirectives tokens false [] with
      | .error fault => .error fault
      | .ok (handles, .documentStart :: rest) =>
        if isDocumentMark rest.head? then (checkEnd ending rest).map fun _ => some empty
        else takeDocument handles ending rest
      | .ok (_, []) => .error ending
      | .ok _ => .error .malformed
    else takeDocument Handles.standard ending tokens

def ofText (text : List Char) : Except Fault (Option Node) :=
  let (tokens, ending) := Token.ofText text
  ofTokens tokens ending

end Node
end CallTone.Yaml
