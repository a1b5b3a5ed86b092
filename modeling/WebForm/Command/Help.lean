/-
The help pages of the command line, as the program is run with them: `Libraries.invocation` answers them.
-/

namespace WebForm.Command.Help

def page (lines : List String) : String := String.join (lines.map (· ++ "\n"))

def program : String := page
  ["Usage: main [OPTIONS] COMMAND [ARGS]...",
  "",
  "  formgen — Form Generator.",
  "",
  "  Validate JSON form schemas, check submissions against them, and generate",
  "  equivalent validator and form code.",
  "",
  "Options:",
  "  --version      Show the version and exit.",
  "  -v, --verbose  Show debug logging",
  "  --help         Show this message and exit.",
  "",
  "Commands:",
  "  check     Check a form submission (a JSON object keyed by field id).",
  "  generate  Generate validator or form code for a form document.",
  "  sample    Print (or write) a sample form document to start from.",
  "  schema    Print the JSON Schema describing form documents.",
  "  validate  Validate a form document against the field grammar."]

def validate : String := page
  ["Usage: main validate [OPTIONS] SCHEMA_PATH",
  "",
  "  Validate a form document against the field grammar.",
  "",
  "  Every structural defect is reported in one pass.",
  "",
  "Options:",
  "  --json  Print the result as JSON",
  "  --help  Show this message and exit."]

def check : String := page
  ["Usage: main check [OPTIONS] SCHEMA_PATH DATA_PATH",
  "",
  "  Check a form submission (a JSON object keyed by field id).",
  "",
  "  All invalid fields are reported together.",
  "",
  "Options:",
  "  --help  Show this message and exit."]

def generate : String := page
  ["Usage: main generate [OPTIONS] SCHEMA_PATH",
  "",
  "  Generate validator or form code for a form document.",
  "",
  "Options:",
  "  -f, --flavor [zod|html|shadcn]  zod validator module, or a React form",
  "                                  component",
  "  -o, --output TEXT               Write the code to this file",
  "  --help                          Show this message and exit."]

def schema : String := page
  ["Usage: main schema [OPTIONS]",
  "",
  "  Print the JSON Schema describing form documents.",
  "",
  "Options:",
  "  --help  Show this message and exit."]

def sample : String := page
  ["Usage: main sample [OPTIONS]",
  "",
  "  Print (or write) a sample form document to start from.",
  "",
  "Options:",
  "  -o, --output TEXT  Write the sample to this file",
  "  --help             Show this message and exit."]

end WebForm.Command.Help
