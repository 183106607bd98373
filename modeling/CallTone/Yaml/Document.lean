import CallTone.Yaml.Meaning
import CallTone.Yaml.Node

/-!
Documents: the value that a text in the document language says. The nodes of its tree are given
their values level by level from the root: of all faults, one on the level nearest to the root
comes first, and of those on one level the one furthest to the front.

A map may take over entries of others: those named under a merge key come before its own, the maps
of a list in reverse, so that its own entries and then earlier maps win.
-/
namespace CallTone.Yaml

namespace Node

mutual

/-- The levels of nodes below this one, itself included. -/
def height : Node → Nat
  | .scalar _ _ => 1
  | .seq _ items => heightOfItems items + 1
  | .map _ entries => heightOfEntries entries + 1
  | .inside _ _ _ => 1

def heightOfItems : List Node → Nat
  | [] => 0
  | item :: rest => max item.height (heightOfItems rest)

def heightOfEntries : List (Node × Node) → Nat
  | [] => 0
  | (key, value) :: rest => max (max key.height value.height) (heightOfEntries rest)

end

def plainKey (key : Node) : Node :=
  match key with
  | .scalar .value text => .scalar .str text
  | other => other

mutual

/-- The entries that a map has once those under merge keys are taken over: first what is taken over,
then its own. -/
def mergedEntries (merged own : List (Node × Node)) :
    List (Node × Node) → Except Fault (List (Node × Node))
  | [] => .ok (merged ++ own)
  | (key, value) :: rest =>
    if key.tag = .merge then
      match mergeSource value with
      | .error fault => .error fault
      | .ok entries => mergedEntries (merged ++ entries) own rest
    else mergedEntries merged (own ++ [(plainKey key, value)]) rest

/-- The entries that the value of a merge key offers. -/
def mergeSource : Node → Except Fault (List (Node × Node))
  | .map _ entries => mergedEntries [] [] entries
  | .seq _ items => mergeSources items
  | .inside _ _ _ => .ok []
  | .scalar _ _ => .error .malformed

/-- The entries that a list of maps offers, those of the last map first. -/
def mergeSources : List Node → Except Fault (List (Node × Node))
  | [] => .ok []
  | .map _ entries :: rest =>
    match mergedEntries [] [] entries with
    | .error fault => .error fault
    | .ok first => (mergeSources rest).map (· ++ first)
  | .inside _ _ true :: rest => mergeSources rest
  | _ :: _ => .error .malformed

end

mutual

/-- The text that a node stands for where one is expected: its own, or that of the entry `=` of a
map. Looking for the text of a map that is its own entry `=` has no end. -/
def asText : Node → Except Fault Letters
  | .scalar _ text => .ok text
  | .map _ entries => asTextOfEntries entries
  | .inside _ _ true =>
    .error (readerFault (.other "RecursionError") "maximum recursion depth exceeded")
  | .seq _ _ | .inside _ _ false => .error .malformed

/-- The text of the entry `=`. -/
def asTextOfEntries : List (Node × Node) → Except Fault Letters
  | [] => .error .malformed
  | (key, value) :: rest => if key.tag = .value then asText value else asTextOfEntries rest

end

/-- A value that was built, and the faults that were met, each with its level. -/
structure Built where
  value : Value
  faults : List (Nat × Fault)

/-- A fault in place of a value. -/
def Built.fault (level : Nat) (fault : Fault) : Built := ⟨.null, [(level, fault)]⟩

/-- A fault in what a collection holds, which is met one level below the collection itself. -/
def Built.faultWithin (level : Nat) (fault : Fault) : Built := ⟨.list [], [(level + 1, fault)]⟩

/-- The value of a text where one is expected. Days are read off the node itself, which has to be a
text for that. -/
def textValue (tag : Tag) (node : Node) : Except Fault Value :=
  match node.asText with
  | .error fault => .error fault
  | .ok text =>
    match tag, node with
    | .timestamp, .map _ _ =>
      .error (readerFault .type "expected string or bytes-like object, got 'list'")
    | _, _ => meaningOf tag text

/-- Builds an entry of a map from its parts. The value of a key that cannot be one is not built. -/
def builtEntries (level : Nat) (build : Node → Built) :
    List (Node × Node) → List (Value × Value) → List (Value × Value) × List (Nat × Fault)
  | [], entries => (entries, [])
  | (key, value) :: rest, entries =>
    let k := build key
    let v := build value
    let (after, faults) := builtEntries level build rest (Value.insertEntry k.value v.value entries)
    (after, k.faults ++
      (if k.value.canBeKey then [] else [(level, Fault.malformed)]) ++ v.faults ++ faults)

/-- Builds the members of an ordered map: maps with a single entry. -/
def builtPairs (level : Nat) (build : Node → Built) : List Node → List Value × List (Nat × Fault)
  | [] => ([], [])
  | .map _ [(key, value)] :: rest =>
    let k := build key
    let v := build value
    let (pairs, faults) := builtPairs level build rest
    (.pair k.value v.value :: pairs, k.faults ++ v.faults ++ faults)
  | .inside _ _ true :: rest =>
    let (pairs, faults) := builtPairs level build rest
    (.pair .null .null :: pairs, faults)
  | _ :: _ => ([], [(level, .malformed)])

/-- Builds the value of a node that is on a level. Where a collection inside itself is no longer
written out, it is empty. -/
def build : Nat → Nat → Node → Built
  | 0, level, _ => .fault level .malformed
  | fuel + 1, level, node =>
    let below := build fuel (level + 1)
    match node.tag, node with
    | .seq, .seq _ items =>
      let built := items.map below
      ⟨.list (built.map Built.value), built.flatMap Built.faults⟩
    | .omap, .seq _ items | .pairs, .seq _ items =>
      let (pairs, faults) := builtPairs (level + 1) below items
      ⟨.list pairs, faults⟩
    | .map, .map _ entries =>
      match mergedEntries [] [] entries with
      | .error fault => .faultWithin level fault
      | .ok entries =>
        let (built, faults) := builtEntries (level + 1) below entries []
        ⟨.map built, faults⟩
    | .set, .map _ entries =>
      match mergedEntries [] [] entries with
      | .error fault => .faultWithin level fault
      | .ok entries =>
        let (built, faults) := builtEntries (level + 1) below entries []
        ⟨.set (built.map Prod.fst), faults⟩
    | .seq, .inside _ _ false | .omap, .inside _ _ false | .pairs, .inside _ _ false =>
      ⟨.list [], []⟩
    | .map, .inside _ _ true => ⟨.map [], []⟩
    | .set, .inside _ _ true => ⟨.set [], []⟩
    | .seq, _ | .omap, _ | .pairs, _ | .map, _ | .set, _ => .faultWithin level .malformed
    | .merge, _ | .value, _ | .unknown, _ => .fault level .malformed
    | tag, node =>
      match textValue tag node with
      | .error fault => .fault level fault
      | .ok value => ⟨value, []⟩

/-- The fault that comes first: the one on the least level, and of these the first. -/
def firstFault? : List (Nat × Fault) → Option (Nat × Fault)
  | [] => none
  | entry :: rest =>
    match firstFault? rest with
    | some later => if later.1 < entry.1 then some later else some entry
    | none => some entry

def toValue (node : Node) : Except Fault Value :=
  let built := build node.height 0 node
  match firstFault? built.faults with
  | some (_, fault) => .error fault
  | none => .ok built.value

end Node

def isAllowed (c : Char) : Bool :=
  let n := c.toNat
  n == 0x09 || n == 0x0A || n == 0x0D || (0x20 ≤ n && n ≤ 0x7E) || n == 0x85 ||
    (0xA0 ≤ n && n ≤ 0xFFFD) || 0x10000 ≤ n

/-- The value that a text says; a text without a document says null. -/
def read (text : List Char) : Except Fault Value :=
  if text.all isAllowed then
    match Node.ofText text with
    | .error fault => .error fault
    | .ok none => .ok .null
    | .ok (some node) => node.toValue
  else .error .malformed

end CallTone.Yaml
