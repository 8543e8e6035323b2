import MetricGateway.Pattern.Expr

/-!
# Matching by automaton

An expression becomes an automaton whose states are laid out in an array. A run follows all paths at
once: it keeps the states that can be reached in front of the current character, which are at most
as many as there are states, so a match takes time proportional to the text whatever the pattern.

A pattern matches a text if it matches some part of it. So at every position the run starts anew,
next to the paths that started before.
-/

namespace MetricGateway.Pattern

open MetricGateway.Text (CharSet)

/-- A state of an automaton; numbers are positions of other states. -/
inductive Node where
  /-- The pattern has matched. -/
  | accept
  /-- Goes on behind a character of the set. -/
  | chars (set : CharSet) (next : Nat)
  /-- Goes on where the assertion holds. -/
  | look (a : Assertion) (next : Nat)
  /-- Goes on in both states. -/
  | fork (left right : Nat)
  deriving Repr, Inhabited

/-- An automaton: its states and the one it starts in. -/
structure Automaton where
  nodes : Array Node
  start : Nat
  deriving Repr, Inhabited

namespace Automaton

/-- Adds a state and returns its position. -/
def addNode (n : Node) (nodes : Array Node) : Nat × Array Node := (nodes.size, nodes.push n)

/-- Applies a construction a number of times, each time in front of the last result. -/
def buildTimes (build : Nat → Array Node → Nat × Array Node) :
    Nat → Nat → Array Node → Nat × Array Node
  | 0, next, nodes => (next, nodes)
  | count + 1, next, nodes =>
    let (entry, nodes) := build next nodes
    buildTimes build count entry nodes

/-- Applies a construction up to a number of times; each time may also be skipped to `stop`. -/
def buildOptional (build : Nat → Array Node → Nat × Array Node) (stop : Nat) :
    Nat → Nat → Array Node → Nat × Array Node
  | 0, next, nodes => (next, nodes)
  | count + 1, next, nodes =>
    let (entry, nodes) := build next nodes
    let (fork, nodes) := addNode (.fork entry stop) nodes
    buildOptional build stop count fork nodes

/-- Adds the states of an expression in front of the state `next`; returns where to enter. -/
def build : Expr → (next : Nat) → Array Node → Nat × Array Node
  | .empty, next, nodes => (next, nodes)
  | .chars set, next, nodes => addNode (.chars set next) nodes
  | .look a, next, nodes => addNode (.look a next) nodes
  | .seq first second, next, nodes =>
    let (entry, nodes) := build second next nodes
    build first entry nodes
  | .alt left right, next, nodes =>
    let (r, nodes) := build right next nodes
    let (l, nodes) := build left next nodes
    addNode (.fork l r) nodes
  | .times e least none, next, nodes =>
    let (loop, nodes) := addNode (.fork next next) nodes
    let (entry, nodes) := build e loop nodes
    buildTimes (build e) least loop (nodes.setIfInBounds loop (.fork entry next))
  | .times e least (some most), next, nodes =>
    let (entry, nodes) := buildOptional (build e) next (most - least) next nodes
    buildTimes (build e) least entry nodes

/-- The automaton of an expression. -/
def ofExpr (e : Expr) : Automaton :=
  let (start, nodes) := build e 0 #[.accept]
  ⟨nodes, start⟩

/-- The states reachable without reading a character: which have been visited, and which of those
read a character. -/
structure Front where
  visited : Array Bool
  readers : List Nat
  accepted : Bool

/-- Follows the states on the work list. A state is expanded once, so a work list that has two
entries more than twice the number of states never runs out of steps. -/
def expand (nodes : Array Node) (before behind : Option Char) :
    (steps : Nat) → List Nat → Front → Front
  | 0, _, front => front
  | _, [], front => front
  | steps + 1, i :: work, front =>
    if front.visited.getD i true then expand nodes before behind steps work front
    else
      let front := { front with visited := front.visited.setIfInBounds i true }
      match nodes[i]? with
      | none => expand nodes before behind steps work front
      | some .accept => expand nodes before behind steps work { front with accepted := true }
      | some (.chars _ _) =>
        expand nodes before behind steps work { front with readers := i :: front.readers }
      | some (.look a next) =>
        expand nodes before behind steps (if a.holds before behind then next :: work else work) front
      | some (.fork left right) =>
        expand nodes before behind steps (left :: right :: work) front

/-- The front in front of a position. -/
def front (m : Automaton) (before behind : Option Char) (states : List Nat) : Front :=
  expand m.nodes before behind (2 * m.nodes.size + states.length + 3) (m.start :: states)
    ⟨Array.replicate m.nodes.size false, [], false⟩

/-- The states behind a character. -/
def advance (m : Automaton) (c : Char) (readers : List Nat) : List Nat :=
  readers.filterMap fun (i : Nat) =>
    match m.nodes[i]? with
    | some (.chars set next) => if set.contains c then some next else none
    | _ => none

/-- Whether a match ends at this position or behind it. -/
def run (m : Automaton) (before : Option Char) (states : List Nat) : List Char → Bool
  | [] => (m.front before none states).accepted
  | c :: rest =>
    let front := m.front before (some c) states
    front.accepted || run m (some c) (m.advance c front.readers) rest

/-- Whether some part of a text matches. -/
def accepts (m : Automaton) (text : List Char) : Bool := m.run none [] text

end Automaton

end MetricGateway.Pattern
