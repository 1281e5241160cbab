import CInspect.Tree.Walk
/-!
A readable dump of a syntax tree: one line per node of the walk, indented by
its depth, giving the node's file, start, kind, spelling and type. A node
whose kind cannot be read ends the dump after its indentation.
-/

namespace CInspect.Tree

/-- The dump line of one visit. -/
def Visit.dumpLine (v : Visit) : String :=
  let n := v.node
  String.ofList (List.replicate v.depth ' ') ++
    s!"{n.location} {n.kind.name} spelling='{n.spelling}' type='{n.type.spelling}'"

/-- The dump of the same-file tree under `n`, one line per node. -/
def Node.dump (n : Node) : List String :=
  n.sameFileNodes.map Visit.dumpLine

/-- The lines of a dump up to the first visit whose kind cannot be read,
and, if there is one, its indentation, which is written before its kind is
asked for, with the number of that kind. -/
def dumpUntilUnreadable : List Visit → List String × Option (String × Nat)
  | [] => ([], none)
  | v :: vs =>
    match v.node.kind with
    | .unreadableAttr c => ([], some (String.ofList (List.replicate v.depth ' '), c))
    | _ =>
      let (ls, stop) := dumpUntilUnreadable vs
      (v.dumpLine :: ls, stop)

/-- The dump of the same-file tree under `n` as far as it gets. -/
def Node.dumpAsFar (n : Node) : List String × Option (String × Nat) :=
  dumpUntilUnreadable n.sameFileNodes

end CInspect.Tree
