import ClientGen.Controllers.Method

namespace ClientGen

open Api

namespace Controllers

def ensure (name : String) (controllers : List Controller) : List Controller :=
  if controllers.any (·.name == name) then controllers
  else controllers ++ [{ name, description := noDescription, methods := [], imports := [] }]

def modify (name : String) (change : Controller → Controller) (controllers : List Controller) :
    List Controller :=
  controllers.map fun c => if c.name = name then change c else c

def declare (rules : NameRules) (controllers : List Controller) (tag : Document.Tag) :
    List Controller :=
  let name := rules.controller tag.name
  let controllers := ensure name controllers
  match tag.description.filter (· ≠ "") with
  | none => controllers
  | some text =>
    modify name (fun c => { c with description := Text.singleLine text }) controllers

def declared (rules : NameRules) (doc : Document) : List Controller :=
  doc.tags.foldl (declare rules) []

def addImports (imports : List String) (names : List String) : List String :=
  names.foldl (fun done name => if name ∈ done then done else done ++ [name]) imports

def addMethod (rules : NameRules) (doc : Document) (op : Operation) (c : Controller) :
    Controller :=
  let method := op.method rules doc (freshName (rules.method op.url) (c.methods.map (·.name)))
  { c with
    methods := c.methods ++ [method]
    imports := addImports c.imports method.references }

def file (rules : NameRules) (doc : Document) (controllers : List Controller)
    (op : Operation) : List Controller :=
  let name := rules.controller op.tag
  modify name (addMethod rules doc op) (ensure name controllers)

def ofDocument (rules : NameRules) (doc : Document) : List Controller :=
  doc.operations.foldl (file rules doc) (declared rules doc)

-- Methods by name, descending by code points, so that a longer name comes before any shorter name that
-- it starts with. Methods of one name keep their order.
def sortMethods (methods : List Method) : List Method :=
  methods.mergeSort fun a b => decide (b.name ≤ a.name)

def arrange (controllers : List Controller) : List Controller :=
  (controllers.filter fun c => !c.methods.isEmpty).map fun c =>
    { c with methods := sortMethods c.methods }

end Controllers

end ClientGen
