/-!
# The starter configuration
-/
namespace PatternLint

/-- The configuration that a new project begins with. -/
def starterConfiguration : String := "\n".intercalate [
  "# renag configuration",
  "",
  "[scan]",
  "# Directory to scan, relative to the path given to `renag check`",
  "# root = \".\"",
  "",
  "# Glob patterns removed before any rule runs",
  "exclude = [",
  "    \".git/**\",",
  "    \"build/**\",",
  "    \"node_modules/**\",",
  "]",
  "",
  "# Respect .gitignore files",
  "respect_gitignore = true",
  "",
  "# Worker threads (1 = sequential; default: one per core)",
  "# parallelism = 4",
  "",
  "# Force coloured output on or off (default: when stdout is a terminal)",
  "# color = false",
  "",
  "# Built-in rules can be disabled or have their severity overridden",
  "",
  "# [rules.debug-print]",
  "# enabled = false",
  "",
  "# [rules.pprint-usage]",
  "# severity = \"critical\"",
  "",
  "# Declarative complainers: one [[complainer]] table per rule",
  "",
  "# [[complainer]]",
  "# name = \"no-breakpoint\"",
  "# description = \"Leftover debugger breakpoint.\"",
  "# capture = 'breakpoint\\(\\)'",
  "# severity = \"critical\"",
  "# glob = [\"*.py\"]",
  "# exclude_glob = [\"test_*.py\"]",
  "# help = \"Remove the call before committing.\"",
  "# skip_commented = \"#\"",
  ""]

end PatternLint
