import ApiDocs.Yaml.Node

/-!
# Merge keys

An entry with the key `<<` stands for the entries of another mapping, or of several.  They come
before the entries of the mapping itself, which therefore override them.  `Graph.flatten` puts the
merged entries in the place of the merge keys of one mapping, and before that it does so with the
mappings that are merged.  Other mappings are left alone.

A mapping may be merged into several others, or even into itself, so the graph is changed step by
step: a merge key is taken out before what it stands for is looked at.  Every merge takes one out,
and none is put in.
-/

namespace ApiDocs.Yaml.Graph

/-- An action that changes a graph. -/
abbrev Change := StateT Graph (Except Fault)

/-- How long a chain of references may be that are followed one after another. -/
def maxReferences : Nat := 975

/-- The entries of a mapping; other nodes have none. -/
def entriesOf (n : Nat) : Change (List (Nat × Nat)) := do
  match (← get).node n with
  | .map _ entries => return entries
  | _ => return []

/-- Gives a node the place of another. -/
def replace (n : Nat) (node : Node) : Change Unit := modify (fun g => g.setIfInBounds n node)

/-- Gives a mapping other entries. -/
def setEntries (n : Nat) (entries : List (Nat × Nat)) : Change Unit := do
  replace n (.map ((← get).node n).tag entries)

/-- The key `=` is a text where it stands in a mapping. -/
def readAsText (key : Nat) : Change Unit := do
  let node := (← get).node key
  if node.tag == some .value then replace key (node.withTag (some .str))

/-- The entries of a mapping that is to be merged. -/
def entriesToMerge (flatten : Nat → Change Unit) (n : Nat) : Change (List (Nat × Nat)) := do
  match (← get).node n with
  | .map _ _ =>
    flatten n
    entriesOf n
  | _ => throw .malformed

/-- The entries that the value of a merge key stands for.  Of several mappings the last comes first,
so that the first has the last word. -/
def mergedBy (flatten : Nat → Change Unit) (n : Nat) : Change (List (Nat × Nat)) := do
  match (← get).node n with
  | .seq _ items => return (← items.mapM (entriesToMerge flatten)).reverse.flatten
  | _ => entriesToMerge flatten n

/-- Takes the merge keys out of a mapping, from the entry after the first `passed` ones on, and
returns the entries that they stand for after those in `merged`.  The mapping has at most `limit` of
them. -/
def takeMerges (flatten : Nat → Change Unit) (n : Nat) :
    (limit passed : Nat) → (merged : List (Nat × Nat)) → Change (List (Nat × Nat))
  | 0, _, merged => return merged
  | limit + 1, passed, merged => do
    let g ← get
    let entries ← entriesOf n
    let isOwn (e : Nat × Nat) : Bool := (g.node e.1).tag != some .merge
    let own := (entries.drop passed).takeWhile isOwn
    own.forM (fun e => readAsText e.1)
    let passed := passed + own.length
    match entries.drop passed with
    | [] => return merged
    | (_, v) :: rest =>
      setEntries n (entries.take passed ++ rest)
      let more ← mergedBy flatten v
      takeMerges flatten n limit passed (merged ++ more)

/-- Replaces the merge keys of a mapping; `depth` bounds how many mappings are merged into each
other. -/
def flatten : (depth : Nat) → Nat → Change Unit
  | 0, _ => throw .tooDeep
  | depth + 1, n => do
    let count := (← entriesOf n).length
    let merged ← takeMerges (flatten depth) n (count + 1) 0 []
    unless merged.isEmpty do setEntries n (merged ++ (← entriesOf n))

end ApiDocs.Yaml.Graph
