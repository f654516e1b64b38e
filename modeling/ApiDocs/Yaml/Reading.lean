import ApiDocs.Yaml.Content
import ApiDocs.Yaml.Token.Stream

/-!
# Loading YAML

`Yaml.load` gives the value of the only document of a text; a text without a document is null.

**From numbers to values.**  The contents of a document refer to each other by number.  `valueOf`
follows the references from a node and puts values in their place.  A reference to a node that
encloses it is a `back`, and every node from which references lead back to it is a `knot`, labelled
with its number.  A node that no reference leads out of has one value wherever it stands, so its value
is found only once.
-/

namespace ApiDocs.Yaml

/-- A value with the numbers of nodes that matter to what stands around it. -/
structure Strand where
  value : Value
  /-- The nodes around the value that it refers to. -/
  loose : List Nat := []
  /-- The knots in the value. -/
  knots : List Nat := []
  deriving Inhabited

/-- An action that remembers the values of nodes by number. -/
abbrev Tie := StateM (Array (Option Strand))

/-- The value of a collection with its parts.  It is a knot if a part refers back to it or to what is
around it, or if it stands in a part again.  Without loose ends it is remembered. -/
def tied (n : Nat) (v : Value) (parts : List Strand) : Tie Strand := do
  let loose := (parts.flatMap (·.loose)).eraseDups
  let knots := (parts.flatMap (·.knots)).eraseDups
  let strand : Strand :=
    if loose.isEmpty && !knots.contains n then ⟨v, [], knots⟩
    else ⟨.knot n v, loose.filter (· != n), n :: knots.filter (· != n)⟩
  if strand.loose.isEmpty then modify (fun known => known.setIfInBounds n (some strand))
  return strand

/-- The value of a node inside those with the numbers `around`.  No node is inside itself, so `depth`
need not be larger than the number of nodes. -/
def valueOf (contents : Array (Option Content)) :
    (depth : Nat) → (around : List Nat) → Nat → Tie Strand
  | 0, _, n => return { value := .back n, loose := [n] }
  | depth + 1, around, n => do
    if around.contains n then return { value := .back n, loose := [n] }
    if let some strand := (← get).getD n none then return strand
    let part (i : Nat) : Tie Strand := valueOf contents depth (n :: around) i
    match (contents.getD n none).getD (.scalar .null) with
    | .scalar v => return { value := v }
    | .set items => return { value := .set items }
    | .list items =>
      let parts ← items.mapM part
      tied n (.list (parts.map (·.value))) parts
    | .map entries =>
      let parts ← entries.mapM (fun e => part e.2)
      tied n (.map ((entries.map Prod.fst).zip (parts.map (·.value)))) parts
    | .pairs entries =>
      let firsts ← entries.mapM (fun e => part e.1)
      let seconds ← entries.mapM (fun e => part e.2)
      let pairs := firsts.zipWith (fun a b => Value.pair a.value b.value) seconds
      tied n (.list pairs) (firsts ++ seconds)

/-- The value of a text of characters that YAML allows. -/
def loadChars (cs : List Char) : Except Fault Value := do
  match ← Node.ofTokens? (tokensOf cs) with
  | none => return .null
  | some (n, g) =>
    let contents ← contentsFrom n g
    return ((valueOf contents (g.size + 1) [] n).run (Array.replicate g.size none)).1.value

/-- The value of the only document of a text. -/
def load (text : String) : Except Fault Value :=
  let cs := text.toList
  if cs.all isPrintable then loadChars cs else .error .malformed

end ApiDocs.Yaml
