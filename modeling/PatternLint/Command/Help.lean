/-!
# Help texts
-/
namespace PatternLint.Help

/-- The version of the program. -/
def version : String := "renag 0.3.0"

def program : String := "\n".intercalate [
  "CLI tool for the renag pattern-based linter",
  "",
  "Usage: renag [OPTIONS] <COMMAND>",
  "",
  "Commands:",
  "  check       Scan files and report complaints",
  "  list-rules  List registered complainers",
  "  init        Initialize configuration file",
  "  help        Print this message or the help of the given subcommand(s)",
  "",
  "Options:",
  "  -v, --verbose          Enable verbose output",
  "  -c, --config <CONFIG>  Path to configuration file",
  "  -h, --help             Print help",
  "  -V, --version          Print version"]

def check : String := "\n".intercalate [
  "Scan files and report complaints",
  "",
  "Usage: renag check [OPTIONS] [PATH]",
  "",
  "Arguments:",
  "  [PATH]  Directory to scan (default: current directory) [default: .]",
  "",
  "Options:",
  "      --staged             Only scan files staged in git",
  "      --rules <RULES>      Only run specific rules (comma-separated)",
  "  -e, --exclude <EXCLUDE>  Exclude patterns (can be specified multiple times)",
  "  -v, --verbose            Enable verbose output",
  "  -c, --config <CONFIG>    Path to configuration file",
  "  -j, --jobs <JOBS>        Worker threads (1 = sequential) [env: RENAG_JOBS=]",
  "  -f, --format <FORMAT>    Output format [default: text] [possible values: text, json, compact]",
  "      --no-color           Disable coloured output",
  "  -h, --help               Print help"]

def listRules : String := "\n".intercalate [
  "List registered complainers",
  "",
  "Usage: renag list-rules [OPTIONS]",
  "",
  "Options:",
  "  -v, --verbose          Enable verbose output",
  "  -c, --config <CONFIG>  Path to configuration file",
  "  -h, --help             Print help"]

def init : String := "\n".intercalate [
  "Initialize configuration file",
  "",
  "Usage: renag init [OPTIONS]",
  "",
  "Options:",
  "      --force            Overwrite existing config",
  "  -v, --verbose          Enable verbose output",
  "  -c, --config <CONFIG>  Path to configuration file",
  "  -h, --help             Print help"]

/-- The help on a command, or on the program. -/
def topic : Option String → String
  | some "check" => check
  | some "list-rules" => listRules
  | some "init" => init
  | _ => program

end PatternLint.Help
