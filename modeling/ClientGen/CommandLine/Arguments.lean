import ClientGen.Config.Basic

namespace ClientGen.CommandLine

structure Options where
  values : List (String × String)
  flags : List String
  deriving DecidableEq, Repr, Inhabited

inductive Request where
  | information
  | generate (options : Options)
  deriving DecidableEq, Repr, Inhabited

namespace Options

def empty : Options := { values := [], flags := [] }

def entryNames : List String := ["swagger-url", "api-base", "out-path", "tpl-path"]

def valueNames : List String := "config" :: entryNames

def flagNames : List String := ["yes", "keep-base"]

def value? (options : Options) (name : String) : Option String := options.values.lookup name

def has (options : Options) (name : String) : Bool := options.flags.contains name

def conflict (options : Options) : Bool :=
  (options.has "yes" && options.has "keep-base") ||
    ((options.value? "config").isSome && entryNames.any fun name => (options.value? name).isSome)

def setFlag? (options : Options) (name : String) : Option Options :=
  if options.has name then none else some { options with flags := name :: options.flags }

-- The path of a file is not empty.
def setValue? (options : Options) (name value : String) : Option Options :=
  if (options.value? name).isSome || (name = "config" && value = "") then none
  else some { options with values := (name, value) :: options.values }

def entry (options : Options) : Config :=
  { swaggerUrl := (options.value? "swagger-url").getD ""
    apiBase := (options.value? "api-base").getD ""
    outPath := (options.value? "out-path").getD ""
    templatePath := options.value? "tpl-path" }

end Options

def isOption (argument : List Char) : Bool := argument.head? == some '-' && argument != ['-']

-- An option of letters: the flag `y`, and `h` for help. Nothing means a mistake.
def letters? (options : Options) : List Char → Option (Options ⊕ Request)
  | [] => some (.inl options)
  | c :: rest =>
    if c == 'y' then (options.setFlag? "yes").bind fun options => letters? options rest
    else if c == 'h' then some (.inr .information)
    else none

def word (cs : List Char) : String × Option String :=
  let name := cs.takeWhile (· != '=')
  (String.ofList name,
    if name.length = cs.length then none else some (String.ofList (cs.drop (name.length + 1))))

def generateRequest? (options : Options) : List String → Option Request
  | [] => if options.conflict then none else some (.generate options)
  | argument :: rest =>
    match argument.toList with
    | ['-', '-'] =>
      if rest.isEmpty && !options.conflict then some (.generate options) else none
    | '-' :: '-' :: cs =>
      let (name, value) := word cs
      if Options.valueNames.contains name then
        match value, rest with
        | some value, rest =>
          (options.setValue? name value).bind fun options => generateRequest? options rest
        | none, value :: rest =>
          if isOption value.toList then none
          else (options.setValue? name value).bind fun options => generateRequest? options rest
        | none, [] => none
      else if value.isSome then none
      else if name = "help" then some .information
      else if Options.flagNames.contains name then
        (options.setFlag? name).bind fun options => generateRequest? options rest
      else none
    | '-' :: c :: cs =>
      match letters? options (c :: cs) with
      | some (.inl options) => generateRequest? options rest
      | some (.inr request) => some request
      | none => none
    | _ => none

def request? : List String → Option Request
  | "generate" :: rest => generateRequest? .empty rest
  | "help" :: rest =>
    if rest = [] ∨ rest = ["generate"] ∨ rest = ["help"] then some .information else none
  | "--help" :: _ => some .information
  | "--version" :: _ => some .information
  | argument :: _ =>
    match argument.toList with
    | '-' :: c :: _ => if c == 'h' || c == 'V' then some .information else none
    | _ => none
  | [] => none

end ClientGen.CommandLine
