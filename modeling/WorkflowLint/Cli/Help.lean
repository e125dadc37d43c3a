import WorkflowLint.Cli.Arguments
import WorkflowLint.Report.Render
import WorkflowLint.Settings.Basic

/-!
Contract: help on the command line.

Owns: the usage and the help of each command.  Descriptions start at one column; a heading that is too
long for it has a line of its own.
-/

set_option autoImplicit false

namespace WorkflowLint.Cli

def helpColumn : Nat := 24

def helpItem (heading description : String) : String :=
  let start := "  " ++ heading
  if heading.length + 4 ≤ helpColumn then Report.padRight helpColumn start ++ description
  else start ++ "\n" ++ Report.padRight helpColumn "" ++ description

def topUsage : String :=
  "usage: flowlint [-h] [--log-level LOG_LEVEL] [--log-json] \x7bcheck,rules\x7d ..."

def checkUsage : String :=
  "usage: flowlint check [-h] [-c CONFIG] [-f \x7btext,json\x7d]\n" ++
  "                      [--fail-on \x7bmust,should,nit,never\x7d] [-j WORKERS]\n" ++
  "                      [paths ...]"

def rulesUsage : String := "usage: flowlint rules [-h] [-f \x7btext,json\x7d]"

def helpOnHelp : String := helpItem "-h, --help" "show this help message and exit"

def helpOnFormat (description : String) : String :=
  helpItem "-f \x7btext,json\x7d, --format \x7btext,json\x7d" description

def topHelp (settings : Settings) : List String :=
  [topUsage, "", "Static analysis for n8n workflow definitions", "", "positional arguments:",
    "  \x7bcheck,rules\x7d",
    "    check               Lint workflow files",
    "    rules               List built-in rules",
    "", "options:", helpOnHelp,
    helpItem "--log-level LOG_LEVEL" ("Log level (default: " ++ settings.logLevel ++ ")"),
    helpItem "--log-json" "Emit logs as JSON lines on stderr"]

def checkHelp (settings : Settings) : List String :=
  [checkUsage, "", "positional arguments:",
    helpItem "paths" "Files or directories (default: current directory)",
    "", "options:", helpOnHelp,
    helpItem "-c CONFIG, --config CONFIG" "Config file (default: discover .flowlint.yml)",
    helpOnFormat "Report format",
    helpItem "--fail-on \x7bmust,should,nit,never\x7d"
      "Lowest severity that fails the run (default: must)",
    helpItem "-j WORKERS, --workers WORKERS"
      ("Files analyzed in parallel (default: " ++ Report.intText settings.maxWorkers ++ ")")]

def rulesHelp : List String :=
  [rulesUsage, "", "options:", helpOnHelp, helpOnFormat "Output format"]

def Grammar.usage (grammar : Grammar) : String :=
  match grammar.operands with
  | .command => topUsage
  | .paths => checkUsage
  | .nothing => rulesUsage

def Grammar.help (grammar : Grammar) (settings : Settings) : String :=
  let lines := match grammar.operands with
    | .command => topHelp settings
    | .paths => checkHelp settings
    | .nothing => rulesHelp
  "\n".intercalate lines ++ "\n"

end WorkflowLint.Cli
