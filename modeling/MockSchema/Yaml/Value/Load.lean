import MockSchema.Yaml.Node.Parse
import MockSchema.Yaml.Value.Scalar

/-!
# From nodes to values

Aliases are replaced by the nodes they stand for. Two limits keep that in bounds: how deep collections nest,
and how many aliases are followed, a hundred for each step of reading the document.
-/

namespace MockSchema.Yaml

/-- Counts the aliases followed. -/
abbrev Loader := StateT Nat Option

namespace Document

/-- How deep collections may nest. -/
def depthLimit : Nat := 128

def aliasLimit (doc : Document) : Nat := 100 * (doc.root.map Node.size).getD 1

/-- The node that an alias stands for; any other node itself. -/
def follow (doc : Document) : Node → Loader Node
  | .alias number => do
    let count := (← get) + 1
    if doc.aliasLimit < count then failure
    set count
    doc.anchored.lookup number
  | node => return node

/-- The value of a node. Tags outside of the language are kept or refused. -/
def load (doc : Document) (keepTags : Bool) : Nat → Node → Loader Value
  | depth, node => do
    let node ← doc.follow node
    let tagged (tag : Option (List Char)) (v : Value) : Value :=
      match localTag? tag with
      | some name => .tagged name v
      | none => v
    let checkTag (tag : Option (List Char)) : Loader Unit :=
      if !keepTags && (localTag? tag).isSome then failure else pure ()
    match node, depth with
    | .scalar tag style text, _ =>
      checkTag tag
      let v ← scalarValue (if (localTag? tag).isSome then none else tag) style text
      return tagged tag v
    | .sequence tag items, depth + 1 =>
      checkTag tag
      return tagged tag (.sequence (← items.mapM (doc.load keepTags depth)))
    | .mapping tag entries, depth + 1 =>
      checkTag tag
      let pairs ← entries.mapM fun (k, v) => do
        let key ← doc.load keepTags depth k
        return (key, ← doc.load keepTags depth v)
      return tagged tag (.mapping pairs)
    | _, _ => failure

end Document

/-- The value of a YAML text. An empty text means null. -/
def Value.ofText? (text : String) : Option Value := do
  let doc ← Document.ofText? text.toList
  match doc.root with
  | none => return .null
  | some root =>
    let (v, _) ← (doc.load true Document.depthLimit root).run 0
    if v.isProper then return v else none

end MockSchema.Yaml
