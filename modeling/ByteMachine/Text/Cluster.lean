import ByteMachine.Text.ClusterRanges
import ByteMachine.Text.GraphemeExtend

/-! Extended grapheme clusters, the units that a reader takes for one character, and the backspace,
which takes back the cluster before it. -/

namespace ByteMachine.Text

inductive ClusterClass where
  | carriageReturn | lineFeed | control | extend | joiner | regional | prepend | spacingMark
  | leading | vowel | trailing | leadingVowel | leadingVowelTrailing
  | pictographic | other
  deriving DecidableEq, Repr

def isRegionalIndicator (c : Char) : Bool :=
  0x1F1E6 ≤ c.toNat && c.toNat ≤ 0x1F1FF

def isEmojiModifier (c : Char) : Bool :=
  0x1F3FB ≤ c.toNat && c.toNat ≤ 0x1F3FF

def leadingRanges : Ranges := [(0x1100, 0x115F), (0xA960, 0xA97C)]

def vowelRanges : Ranges :=
  [(0x1160, 0x11A7), (0xD7B0, 0xD7C6), (0x16D63, 0x16D63), (0x16D67, 0x16D6A)]

def trailingRanges : Ranges := [(0x11A8, 0x11FF), (0xD7CB, 0xD7FB)]

def isHangulSyllable (c : Char) : Bool :=
  0xAC00 ≤ c.toNat && c.toNat ≤ 0xD7A3

def clusterClass (c : Char) : ClusterClass :=
  if c = '\r' then .carriageReturn
  else if c = '\n' then .lineFeed
  else if controlRanges.contains c then .control
  else if c = '\u200d' then .joiner
  else if isGraphemeExtend c || isEmojiModifier c then .extend
  else if isRegionalIndicator c then .regional
  else if prependRanges.contains c then .prepend
  else if spacingMarkRanges.contains c then .spacingMark
  else if leadingRanges.contains c then .leading
  else if vowelRanges.contains c then .vowel
  else if trailingRanges.contains c then .trailing
  else if isHangulSyllable c then
    if (c.toNat - 0xAC00) % 28 = 0 then .leadingVowel else .leadingVowelTrailing
  else if pictographicRanges.contains c then .pictographic
  else .other

inductive Conjunct where
  | none | begun | linked
  deriving DecidableEq, Repr

def isConjunctExtend (c : Char) : Bool :=
  c == '\u200d' || (c != '\u200c' && clusterClass c == .extend)

def Conjunct.next (state : Conjunct) (c : Char) : Conjunct :=
  if conjunctConsonantRanges.contains c then .begun
  else if conjunctLinkerRanges.contains c then if state = .none then .none else .linked
  else if isConjunctExtend c then state
  else .none

inductive Pictograph where
  | none | begun | joined
  deriving DecidableEq, Repr

def Pictograph.next (state : Pictograph) (c : Char) : Pictograph :=
  match clusterClass c with
  | .pictographic => .begun
  | .extend => if state = .begun then .begun else .none
  | .joiner => if state = .begun then .joined else .none
  | _ => .none

structure ClusterState where
  previous : ClusterClass
  conjunct : Conjunct
  pictograph : Pictograph
  oddRegional : Bool

def ClusterState.before : ClusterState :=
  { previous := .control, conjunct := .none, pictograph := .none, oddRegional := false }

def ClusterState.next (state : ClusterState) (c : Char) : ClusterState :=
  { previous := clusterClass c
    conjunct := state.conjunct.next c
    pictograph := state.pictograph.next c
    oddRegional := clusterClass c == .regional && !state.oddRegional }

def ClusterState.joins (state : ClusterState) (c : Char) : Bool :=
  match state.previous, clusterClass c with
  | .carriageReturn, .lineFeed => true
  | .carriageReturn, _ | .lineFeed, _ | .control, _ => false
  | _, .carriageReturn | _, .lineFeed | _, .control => false
  | .leading, .leading | .leading, .vowel => true
  | .leading, .leadingVowel | .leading, .leadingVowelTrailing => true
  | .leadingVowel, .vowel | .leadingVowel, .trailing => true
  | .vowel, .vowel | .vowel, .trailing => true
  | .leadingVowelTrailing, .trailing | .trailing, .trailing => true
  | _, .extend | _, .joiner | _, .spacingMark => true
  | .prepend, _ => true
  | .joiner, .pictographic => state.pictograph = .joined
  | .regional, .regional => state.oddRegional
  | _, _ => state.conjunct = .linked && conjunctConsonantRanges.contains c

def reverseClusters (text : List Char) : List (List Char) :=
  (text.foldl (fun (state, clusters) c =>
    (state.next c,
      match clusters with
      | cluster :: rest => if state.joins c then (c :: cluster) :: rest else [c] :: clusters
      | [] => [[c]])) (ClusterState.before, ([] : List (List Char)))).2

def clusters (text : List Char) : List (List Char) :=
  (reverseClusters text).reverse.map List.reverse

def backspace : Char := '\x08'

def rememberedSize (cluster : List Char) : Nat :=
  (String.ofList cluster).utf8ByteSize % 256

def dropBytes : Nat → List Char → List Char
  | 0, text => text
  | _, [] => []
  | count, c :: rest => dropBytes (count - c.utf8Size) rest

structure Typed where
  text : List Char := []
  sizes : List Nat := []

/-- A backspace takes back as much as is remembered of the last cluster, which is all of it if it
has less than 256 bytes. -/
def Typed.add (typed : Typed) (cluster : List Char) : Typed :=
  if cluster = [backspace] then
    match typed.sizes with
    | [] => typed
    | size :: sizes => { text := dropBytes size typed.text, sizes }
  else
    { text := cluster.reverse ++ typed.text, sizes := rememberedSize cluster :: typed.sizes }

def applyBackspaces (text : List Char) : List Char :=
  ((clusters text).foldl Typed.add {}).text.reverse

end ByteMachine.Text
