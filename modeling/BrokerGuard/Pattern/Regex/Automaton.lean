import BrokerGuard.Pattern.Regex.Blueprint
import BrokerGuard.Pattern.Regex.ByteRange
import Std.Data.HashMap
/-!
# The size of an automaton

To search for an expression two automata over bytes are built from its blueprint: one that reads forward, and one that reads
backward from the end of a match to find its start.  An expression whose automaton would take more than ten mebibytes is too
large.  Building is bookkeeping here: a draft counts the states and the room of their edges.

A state takes 32 bytes.  A state that forks keeps a list of its successors, four bytes for each; a state that reads one of
several ranges of bytes keeps eight bytes for each range.
-/
namespace BrokerGuard
namespace Pattern

open Text (CharSet)

/-- An automaton as far as it is built: the number of its states, and the bytes that their edges take. -/
structure Draft where
  states : Nat := 0
  edgeBytes : Nat := 0
  deriving DecidableEq, Repr

namespace Draft

/-- The bytes of an automaton. -/
def size (d : Draft) : Nat := 32 * d.states + d.edgeBytes

/-- The most bytes of an automaton. -/
def sizeLimit : Nat := 10 * Nat.pow 2 20

/-- Two parts of an automaton together. -/
def plus (a b : Draft) : Draft := ⟨a.states + b.states, a.edgeBytes + b.edgeBytes⟩

/-- The automaton with a part more, if it does not become too large. -/
def add (d part : Draft) : Option Draft :=
  let larger := d.plus part
  if larger.size ≤ sizeLimit then some larger else none

/-- Adds an edge from a state, which takes room if the state forks. -/
def link (d : Draft) (forks : Bool) : Option Draft := if forks then d.add ⟨0, 4⟩ else some d

end Draft

/-- A layer adds a part to an automaton and says whether the last state of the part forks.  There is none if the automaton
becomes too large. -/
abbrev Layer := Draft → Option (Draft × Bool)

namespace Layer

/-- States of known size, the last of which does not fork. -/
def fixed (part : Draft) : Layer := fun d => (d.add part).map fun d => (d, false)

/-- A state without bytes to read. -/
def blank : Layer := fixed ⟨1, 0⟩

/-- One layer after the other. -/
def chain (first second : Layer) : Layer := fun d => do
  let (d, forks) ← first d
  second (← d.link forks)

/-- Adds a layer and the edge from its end. -/
def linked (layer : Layer) (d : Draft) : Option Draft := do
  let (d, forks) ← layer d
  d.link forks

/-- The branches of a choice after the second: each has an edge to it, from the state at which the choice forks. -/
def moreBranches : List Layer → Draft → Option Draft
  | [], d => some d
  | branch :: rest, d => do moreBranches rest (← (← linked branch d).add ⟨0, 4⟩)

/-- One of some layers.  The state at which the choice forks and the one at which it ends follow the second branch. -/
def oneOf : List Layer → Layer
  | [] => blank
  | [only] => only
  | first :: second :: rest => fun d => do
    let d ← linked second (← linked first d)
    let d ← moreBranches rest (← d.add ⟨2, 8⟩)
    pure (d, false)

/-- A layer several times. -/
def copies (layer : Layer) : Nat → Layer
  | 0, d => blank d
  | 1, d => layer d
  | count + 2, d => do copies layer (count + 1) (← linked layer d)

/-- Layers each of which may be the last: a state before each forks to it and to the end. -/
def optionalCopies (layer : Layer) : Nat → Draft → Option Draft
  | 0, d => some d
  | count + 1, d => do optionalCopies layer count (← linked layer (← d.add ⟨1, 8⟩))

/-- At most once. -/
def atMostOnce (layer : Layer) : Layer := fun d => do
  let d ← linked layer (← d.add ⟨1, 8⟩)
  blank d

/-- Once or more: a state after the layer forks back to it. -/
def onceOrMore (layer : Layer) : Layer := fun d => do
  let d ← linked layer d
  pure (← d.add ⟨1, 4⟩, true)

/-- Any number of times.  If the layer reads something in any case, a state before it forks to it and is the end, too;
otherwise there is a fork behind it, one before it, and an end. -/
def anyTimes (layer : Layer) (reads : Bool) : Layer := fun d => do
  if reads then
    let d ← linked layer (← d.add ⟨1, 4⟩)
    pure (d, true)
  else
    let d ← linked layer d
    fixed ⟨3, 16⟩ d

/-- A layer with a least and a greatest number of rounds. -/
def rounds (layer : Layer) (reads : Bool) (least : Nat) : Option Nat → Layer
  | none =>
    match least with
    | 0 => anyTimes layer reads
    | 1 => onceOrMore layer
    | least => chain (copies layer (least - 1)) (onceOrMore layer)
  | some most =>
    if least = 0 ∧ most = 1 then atMostOnce layer
    else if least = most then copies layer least
    else fun d => do
      let d ← linked (copies layer least) d
      let d ← optionalCopies layer (most - least) (← blank d).1
      pure (d, false)

/-- The states before and after a group. -/
def enclosed (layer : Layer) : Layer := fun d => do
  let d ← linked layer (← d.add ⟨1, 0⟩)
  blank d

end Layer

/-! ## Characters -/

/-- The states that read the bytes of a word. -/
def wordLayer (text : List Char) : Layer := .fixed ⟨(text.flatMap ByteRange.bytesOf).length, 0⟩

/-- A set of single bytes: a state that reads one of its ranges, and an end. -/
def byteLayer (set : CharSet) : Layer := .fixed ⟨2, 8 * set.runs.length⟩

/-- The place of a key in a table of so many places: a hash of its numbers. -/
def placeOf (places : UInt64) (key : List Nat) : UInt64 :=
  key.foldl (fun hash n => (hash ^^^ n.toUInt64) * 1099511628211) 14695981039346656037 % places

/-- A table of states that already exist, by what they read and where they lead.  A place of the table remembers the state
that came to it last. -/
abbrev Known := Std.HashMap UInt64 (List Nat × Nat)

/-- The state that is known for a key, or a new one, with `edgeBytes` for its edges. -/
def knownState (places : UInt64) (key : List Nat) (edgeBytes : Nat) (known : Known) (d : Draft) :
    Option (Nat × Known × Draft) :=
  let place := placeOf places key
  match known[place]? with
  | some (other, state) =>
    if other = key then some (state, known, d)
    else (d.add ⟨1, edgeBytes⟩).map fun larger => (d.states, known.insert place (key, d.states), larger)
  | none => (d.add ⟨1, edgeBytes⟩).map fun larger => (d.states, known.insert place (key, d.states), larger)

/-- Blocks by the range of their first byte: the ranges in order, each with what follows it. -/
def byFirstByte : List (List ByteRange) → List (ByteRange × List (List ByteRange))
  | [] => []
  | [] :: rest => byFirstByte rest
  | (range :: tail) :: rest =>
    match byFirstByte rest with
    | (next, tails) :: groups =>
      if range = next then (range, tail :: tails) :: groups else (range, [tail]) :: (next, tails) :: groups
    | [] => [(range, [tail])]

/-- The state that reads one of some blocks and leads to a target: for each range of the first byte there is one that reads
the rest.  States that do the same are one, as long as the table remembers them. -/
def blockState (target : Nat) : Nat → List (List ByteRange) → Known → Draft → Option (Nat × Known × Draft)
  | 0, _, known, d => some (target, known, d)
  | depth + 1, blocks, known, d =>
    if blocks.all List.isEmpty then some (target, known, d)
    else do
      let (key, known, d) ← (byFirstByte blocks).foldlM (fun (key, known, d) (range, tails) => do
        let (state, known, d) ← blockState target depth tails known d
        pure (key ++ [range.first, range.last, state], known, d)) ([], known, d)
      knownState 10000 key (8 * (key.length / 3)) known d

/-- The states that read a character of a set forward. -/
def forwardLayer (set : CharSet) : Layer := fun d => do
  let (_, _, larger) ← blockState d.states 4 (set.runs.flatMap ByteRange.blocks) ∅ (← d.add ⟨1, 0⟩)
  pure (larger, false)

/-- The state that reads a block backward and leads to a state: each range has a state of its own. -/
def backwardState : List ByteRange → Nat → Known → Draft → Option (Nat × Known × Draft)
  | [], state, known, d => some (state, known, d)
  | range :: rest, state, known, d => do
    let (state, known, d) ← knownState 1000 [state, range.first, range.last] 0 known d
    backwardState rest state known d

/-- The states that read a character of a set backward: a fork to all blocks, and an end. -/
def backwardLayer (set : CharSet) : Layer := fun d => do
  let ending := d.states + 1
  let (_, larger) ← (set.runs.flatMap ByteRange.blocks).foldlM (fun (known, d) block => do
    let (_, known, d) ← backwardState block ending known d
    pure (known, ← d.add ⟨0, 4⟩)) ((∅ : Known), ← d.add ⟨2, 0⟩)
  pure (larger, false)

/-- The states that read a character of a set. -/
def setLayer (backward : Bool) (set : CharSet) : Layer :=
  if set.isAscii then byteLayer set else if backward then backwardLayer set else forwardLayer set

/-! ## Choices of words -/

/-- Words, some of which may be empty, cut at the empty ones. -/
def cutAtEmpty : List (List Nat) → List (List (List Nat))
  | [] => [[]]
  | [] :: rest => [] :: cutAtEmpty rest
  | word :: rest =>
    match cutAtEmpty rest with
    | piece :: pieces => (word :: piece) :: pieces
    | [] => [[word]]

/-- Drops empty words before an empty word. -/
def dropRepeated : List (List Nat) → List (List Nat)
  | [] :: [] :: rest => dropRepeated ([] :: rest)
  | words => words

/-- What follows a byte in the words that begin with it. -/
def afterByte (byte : Nat) (words : List (List Nat)) : List (List Nat) :=
  words.filterMap fun
    | first :: rest => if first = byte then some rest else none
    | [] => none

/-- The states of a tree of words.  A word that ends ranks behind the words before it and ahead of those after it, so the
branches of a node stand in pieces; a piece has a state, which lists its bytes if there are several, and a node forks to its
pieces and ends. -/
def treeOf : Nat → List (List Nat) → Draft
  | 0, _ => {}
  | depth + 1, words =>
    if words.all List.isEmpty then {}
    else
      let pieces := cutAtEmpty (dropRepeated words)
      let filled := pieces.filter fun piece => !piece.isEmpty
      filled.foldl (fun d piece =>
        let bytes := (piece.filterMap List.head?).eraseDups
        let list : Draft := ⟨1, if bytes.length = 1 then 0 else 8 * bytes.length⟩
        bytes.foldl (fun d byte => d.plus (treeOf depth (afterByte byte piece))) (d.plus list))
        ⟨1, 4 * (filled.length + (pieces.length - 1))⟩

/-- A choice of words: an end, and the tree of the words. -/
def treeLayer (backward : Bool) (words : List (List Char)) : Layer :=
  let bytes := words.map fun word =>
    let bytes := word.flatMap ByteRange.bytesOf
    if backward then bytes.reverse else bytes
  .fixed (.plus ⟨1, 0⟩ (treeOf (bytes.foldl (fun depth word => max depth word.length) 0 + 1) bytes))

/-! ## Blueprints -/

namespace Blueprint

/-- The words of a choice of words. -/
def words? : Blueprint → Option (List (List Char))
  | word text => some [text]
  | choice (word text) rest => rest.words?.map (text :: ·)
  | _ => none

/-- The layer of a blueprint, by those of its branches: a choice of words has a tree of its own. -/
def layerOf (backward : Bool) (b : Blueprint) (layers : List Layer) : Layer :=
  match b.words? with
  | some (first :: second :: rest) => treeLayer backward (first :: second :: rest)
  | _ => .oneOf layers

/-- The layers of the branches of a blueprint. -/
def layers (backward : Bool) : Blueprint → List Layer
  | empty => [.blank]
  | word text => [wordLayer text]
  | chars set _ => [setLayer backward set]
  | place _ => [.blank]
  | sequence part rest =>
    let first := layerOf backward part (part.layers backward)
    let second := layerOf backward rest (rest.layers backward)
    [if backward then .chain second first else .chain first second]
  | choice branch rest => layerOf backward branch (branch.layers backward) :: rest.layers backward
  | repetition body least most _ =>
    [.rounds (layerOf backward body (body.layers backward)) (decide (0 < body.minLength.getD 0)) least most]
  | capture _ body =>
    let layer := layerOf backward body (body.layers backward)
    [if backward then layer else .enclosed layer]

/-- The automaton of a blueprint.  Unless a match can only begin where the search does, the automaton first skips any bytes.
The whole is a group of its own when it is read forward, and a state stands for a match. -/
def automaton? (backward : Bool) (b : Blueprint) : Option Draft :=
  let layer := layerOf backward b (b.layers backward)
  let skip : Layer :=
    if (if backward then b.stopsText else b.startsText) then .blank else .anyTimes (.fixed ⟨2, 8⟩) true
  let whole := if backward then layer else .enclosed layer
  (Layer.chain (.chain skip whole) .blank {}).map Prod.fst

/-- Neither automaton of the blueprint is too large. -/
def isBuildable (b : Blueprint) : Bool := (b.automaton? false).isSome && (b.automaton? true).isSome

end Blueprint
end Pattern
end BrokerGuard
