/-!
# Usage and help

The pages that the program prints about itself: one for the program and one for each command.
-/

namespace PhpOutline.CommandLine

/-- A part of the program with a page of its own. -/
inductive Page where
  | program | parse | markers
  deriving DecidableEq, Repr

namespace Page

/-- The words that start a part of the program. -/
def title : Page → String
  | .program => "phpreflect"
  | .parse => "phpreflect parse"
  | .markers => "phpreflect markers"

/-- Lines as a text. -/
def joined (lines : List String) : String := String.join (lines.map (· ++ "\n"))

/-- The lines that say how a part of the program is used. -/
def usageLines : Page → List String
  | .program => [
      "usage: phpreflect [-h] COMMAND ..."]
  | .parse => [
      "usage: phpreflect parse [-h] [--config CONFIG] [--marker TERM]",
      "                        [--markers T1,T2] [--verbose] [--json-logs]",
      "                        [--validate | --no-validate] [--output OUTPUT]",
      "                        [--pretty]",
      "                        file"]
  | .markers => [
      "usage: phpreflect markers [-h] [--config CONFIG] [--marker TERM]",
      "                          [--markers T1,T2] [--verbose] [--json-logs]",
      "                          files [files ...]"]

/-- The lines that explain a part of the program. -/
def explanation : Page → List String
  | .program => [
      "phpreflect - reflect PHP source files into XML for documentation generators",
      "",
      "positional arguments:",
      "  COMMAND",
      "    parse     Reflect a PHP file and print its XML document",
      "    markers   List TODO/FIXME style markers",
      "",
      "options:",
      "  -h, --help  show this help message and exit"]
  | .parse => [
      "Tokenize and reflect a single PHP file, then emit the XML structure document.",
      "",
      "positional arguments:",
      "  file                  PHP source file to reflect",
      "",
      "options:",
      "  -h, --help            show this help message and exit",
      "  --config CONFIG       Configuration file (default: .phpreflect.yaml in the",
      "                        current directory, if present)",
      "  --marker TERM         Additional marker keyword (repeatable)",
      "  --markers T1,T2       Comma-separated marker keywords replacing the",
      "                        configured set",
      "  --verbose, -v         Emit debug log events",
      "  --json-logs           Emit log events as JSON lines",
      "  --validate, --no-validate",
      "                        Run 'php -l' before parsing (default: from",
      "                        configuration, otherwise off)",
      "  --output OUTPUT, -o OUTPUT",
      "                        Write the document to this file instead of stdout",
      "  --pretty              Indent the XML output"]
  | .markers => [
      "Print every marker comment found in the given PHP files.",
      "",
      "positional arguments:",
      "  files            PHP source files to scan",
      "",
      "options:",
      "  -h, --help       show this help message and exit",
      "  --config CONFIG  Configuration file (default: .phpreflect.yaml in the",
      "                   current directory, if present)",
      "  --marker TERM    Additional marker keyword (repeatable)",
      "  --markers T1,T2  Comma-separated marker keywords replacing the configured",
      "                   set",
      "  --verbose, -v    Emit debug log events",
      "  --json-logs      Emit log events as JSON lines"]

/-- How a part of the program is used. -/
def usage (page : Page) : String := joined page.usageLines

/-- All about a part of the program. -/
def help (page : Page) : String := joined (page.usageLines ++ [""] ++ page.explanation)

end Page

end PhpOutline.CommandLine
