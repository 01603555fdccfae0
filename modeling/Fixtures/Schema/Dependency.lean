import Fixtures.Numeric.Basic
import Fixtures.Schema.Diagnostic

namespace Fixtures

/-- Tables by their positions, and for each the positions of the tables it references, in ascending
order. -/
structure DependencyGraph where
  tables : List String
  parents : List (List Nat)
  deriving DecidableEq, Repr

/-- Sizes of a graph, and its order or else a cycle in it. -/
structure GraphReport where
  nodes : Nat
  edges : Nat
  order : Option (List String)
  cycle : Option (List String)
  deriving DecidableEq, Repr

namespace DependencyGraph

/-- Positions of the tables that a table references. References to other names do not count, and a
name that is listed twice has the references of both. -/
def parentsIn (tables : List String) (references : List (String × List String)) (child : String) :
    List Nat :=
  let targets := references.flatMap fun r => if r.1 = child then r.2 else []
  (List.range tables.length).filter fun i => tables[i]?.any targets.contains

def ofReferences (references : List (String × List String)) : DependencyGraph :=
  let tables := references.foldl (fun ts r => if r.1 ∈ ts then ts else ts ++ [r.1]) []
  ⟨tables, tables.map (parentsIn tables references)⟩

def parentsOf (g : DependencyGraph) (node : Nat) : List Nat :=
  g.parents.getD node []

def nameOf (g : DependencyGraph) (node : Nat) : String :=
  g.tables.getD node ""

def names (g : DependencyGraph) (nodes : List Nat) : List String :=
  nodes.map g.nameOf

def edgeCount (g : DependencyGraph) : Nat :=
  total (g.parents.map List.length)

def dependenciesOf (g : DependencyGraph) (table : String) : List String :=
  match g.tables.findIdx? (· = table) with
  | some node => g.names (g.parentsOf node)
  | none => []

def childrenOf (g : DependencyGraph) (node : Nat) : List Nat :=
  (List.range g.tables.length).filter fun child => (g.parentsOf child).contains node

/-- For each node how many of its parents are not settled yet, and the nodes that wait for none, in
ascending order. -/
structure Progress where
  counts : List Nat
  ready : List Nat
  deriving DecidableEq, Repr

namespace Progress

def insertNode (node : Nat) : List Nat → List Nat
  | [] => [node]
  | n :: ns =>
    if node < n then node :: n :: ns
    else if node = n then n :: ns
    else n :: insertNode node ns

/-- Counts off a parent of a node. The node is ready if it was the last one. -/
def release (p : Progress) (child : Nat) : Progress :=
  let count := p.counts.getD child 0 - 1
  ⟨p.counts.set child count, if count = 0 then insertNode child p.ready else p.ready⟩

def blocked (p : Progress) : List Nat :=
  (List.range p.counts.length).filter fun node => 0 < p.counts.getD node 0

end Progress

def start (g : DependencyGraph) : Progress :=
  let nodes := List.range g.tables.length
  ⟨nodes.map fun node => (g.parentsOf node).length,
    nodes.filter fun node => (g.parentsOf node).isEmpty⟩

/-- Takes the first ready node and releases its children as long as there is one, and gives the
nodes in the order in which they are taken. Every node is taken once, so there are no more steps
than nodes. -/
def settleFrom (g : DependencyGraph) : Nat → Progress → List Nat × Progress
  | 0, p => ([], p)
  | steps + 1, p =>
    match p.ready with
    | [] => ([], p)
    | node :: ready =>
      let rest := g.settleFrom steps ((g.childrenOf node).foldl Progress.release { p with ready })
      (node :: rest.1, rest.2)

def settle (g : DependencyGraph) : List Nat × Progress :=
  g.settleFrom g.tables.length g.start

/-- Walks from blocked nodes to the first blocked node that each references until a node comes
again, and gives the nodes from there on. -/
def closeWalk (g : DependencyGraph) (blocked fresh path : List Nat) (node : Nat) : List Nat :=
  if node ∈ path then path.dropWhile (· ≠ node)
  else if _unvisited : node ∈ fresh then
    match (g.parentsOf node).find? blocked.contains with
    | some parent => g.closeWalk blocked (fresh.erase node) (path ++ [node]) parent
    | none => path ++ [node]
  else path
termination_by fresh.length
decreasing_by
  have hpos := List.length_pos_of_mem _unvisited
  rw [List.length_erase_of_mem _unvisited]
  omega

def cycleIn (g : DependencyGraph) : List Nat → List Nat
  | [] => []
  | first :: rest => g.closeWalk (first :: rest) (first :: rest) [] first

/-- An order in which each table comes after those it references. Where several tables could come
next, the one declared first does. -/
def order (g : DependencyGraph) : Except SchemaError (List String) :=
  let (settled, progress) := g.settle
  if settled.length = g.tables.length then .ok (g.names settled)
  else .error (.circularDependency (g.names (g.cycleIn progress.blocked)))

def report (g : DependencyGraph) : GraphReport :=
  match g.order with
  | .ok order => ⟨g.tables.length, g.edgeCount, some order, none⟩
  | .error (.circularDependency cycle) => ⟨g.tables.length, g.edgeCount, none, some cycle⟩
  | .error _ => ⟨g.tables.length, g.edgeCount, none, none⟩

end DependencyGraph

namespace GraphReport

open Json

def encode (r : GraphReport) : Json :=
  .object [("summary", .object [("nodes", ofNat r.nodes), ("edges", ofNat r.edges)]),
    ("order", ofOption (ofList .string) r.order), ("cycle", ofOption (ofList .string) r.cycle)]

end GraphReport

end Fixtures
