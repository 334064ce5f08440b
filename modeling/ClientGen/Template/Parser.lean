import ClientGen.Template.Chunk

namespace ClientGen.Template

inductive Block where
  -- `current` is the condition of the unfinished part; there is none after the last alternative.
  | cond (done : List (Expr × List Node)) (current : Option Expr)
  -- `body` is there after the alternative for an empty container.
  | loop (item : String) (key : Option String) (container : Expr) (body : Option (List Node))

def Block.keepsSpace : Block → Bool
  | .loop _ _ _ (some _) => true
  | _ => false

-- The open blocks, each with the nodes before it, and the nodes of the innermost one. `trimNext` says
-- whether text that comes next loses the white space at its start.
structure Progress where
  blocks : List (Block × List Node)
  nodes : List Node
  trimNext : Bool

def trimLast : List Node → List Node
  | .text s :: nodes => .text (String.ofList (Text.trimEndChars s.toList)) :: nodes
  | nodes => nodes

namespace Progress

def start : Progress := { blocks := [], nodes := [], trimNext := false }

def keepsSpace (p : Progress) : Bool := p.blocks.any fun (block, _) => block.keepsSpace

def add (p : Progress) (node : Node) : Progress := { p with nodes := node :: p.nodes }

def openBlock (p : Progress) (block : Block) : Progress :=
  { p with blocks := (block, p.nodes) :: p.blocks, nodes := [] }

def trim (p : Progress) (before : Bool) : Progress :=
  if before && !p.keepsSpace then { p with nodes := trimLast p.nodes } else p

def part (p : Progress) : List Node := p.nodes.reverse

def elseCond? (p : Progress) (condition : Option Expr) : Option Progress :=
  match p.blocks with
  | (.cond done (some c), before) :: blocks =>
    some { p with blocks := (.cond (done ++ [(c, p.part)]) condition, before) :: blocks, nodes := [] }
  | _ => none

def endCond? (p : Progress) : Option Progress :=
  match p.blocks with
  | (.cond done (some c), before) :: blocks =>
    some { p with blocks, nodes := .cond (done ++ [(c, p.part)]) [] :: before }
  | (.cond done none, before) :: blocks =>
    some { p with blocks, nodes := .cond done p.part :: before }
  | _ => none

def otherwise? (p : Progress) (before : Bool) : Option Progress :=
  match p.blocks with
  | (.loop item key container none, outer) :: blocks =>
    some { p with blocks := (.loop item key container (some p.nodes), outer) :: blocks, nodes := [] }
  | _ => (p.trim before).elseCond? none

def endLoop? (p : Progress) (before : Bool) : Option Progress :=
  match p.blocks with
  | (.loop item key container body, outer) :: blocks =>
    let trimmed := fun nodes =>
      (if before && !blocks.any (fun (block, _) => block.keepsSpace) then trimLast nodes
      else nodes).reverse
    let node := match body with
      | none => Node.loop item key container (trimmed p.nodes) []
      | some body => .loop item key container (trimmed body) p.part
    some { p with blocks, nodes := node :: outer }
  | _ => none

def tag? (p : Progress) (before : Bool) : Tag → Option Progress
  | .cond e => some ((p.trim before).openBlock (.cond [] (some e)))
  | .elseCond e => (p.trim before).elseCond? (some e)
  | .otherwise => p.otherwise? before
  | .endCond => (p.trim before).endCond?
  | .loop item key e => some ((p.trim before).openBlock (.loop item key e none))
  | .endLoop => p.endLoop? before
  | .set name whole e => some ((p.trim before).add (.set name whole e))

-- A comment leaves an empty text, which keeps the texts around it apart.
def chunk? (p : Progress) : Chunk → Option Progress
  | .text s =>
    let s := if p.trimNext && !p.keepsSpace then String.ofList (Text.trimStartChars s.toList) else s
    some { p.add (.text s) with trimNext := false }
  | .comment m => some { (p.trim m.before).add (.text "") with trimNext := m.after }
  | .print m e => some { (p.trim m.before).add (.print e) with trimNext := m.after }
  | .tag m tag => (p.tag? m.before tag).map fun p => { p with trimNext := m.after }

end Progress

def Chunk.isComment : Chunk → Bool
  | .comment _ => true
  | _ => false

def parse? (source : String) : Option (List Node) := do
  let cs := source.toList
  let chunks ← chunks? (cs.length + 1) [] cs
  let p ← (chunks.dropWhile Chunk.isComment).foldlM Progress.chunk? .start
  if p.blocks.isEmpty then pure p.part else none

end ClientGen.Template
