namespace ClientGen.CommandLine

def usageLines : List String := [
  "Usage: generate [OPTIONS]",
  "",
  "Generates a TypeScript client from a Swagger or OpenAPI document.",
  "",
  "Options:",
  "      --config <CONFIG>            A file with a `configs` list (YAML, TOML or JSON)",
  "      --swagger-url <SWAGGER_URL>  Path or URL of the document",
  "      --api-base <API_BASE>        What every request starts with",
  "      --out-path <OUT_PATH>        Output directory",
  "      --tpl-path <TPL_PATH>        A directory with other templates",
  "  -y, --yes                        Regenerate an existing base",
  "      --keep-base                  Keep an existing base",
  "  -h, --help                       Print this text"]

def usage : String := String.join (usageLines.map (· ++ "\n"))

end ClientGen.CommandLine
