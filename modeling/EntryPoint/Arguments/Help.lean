/-
# Pages of help

Each task of the program has a page that says how it is called and what its
options do.

## Main definitions

* `HelpPage.text` - the page.
* `HelpPage.usage` - its first line.
-/

import EntryPoint.Arguments.Request
import EntryPoint.Settings.Place

namespace EntryPoint

namespace HelpPage

/-- How the part of the program that a page is about is called. -/
def call : HelpPage → String
  | .program => "[OPTIONS] COMMAND [ARGS]..."
  | .render => "render [OPTIONS] SIGNATURE"
  | .config => "config [OPTIONS] COMMAND [ARGS]..."
  | .showOptions => "config show [OPTIONS]"
  | .setOption => "config set [OPTIONS] KEY VALUE"
  | .resetOptions => "config reset [OPTIONS]"

/-- The line that says how a part of the program is called. -/
def usage (page : HelpPage) : String :=
  "Usage: " ++ programName ++ " " ++ page.call

/-- The lines of a page below the first one. -/
def lines : HelpPage → List String
  | .program =>
    ["Generate command-line entry points for existing Python functions.", "",
      "  --version      Show version and exit.",
      "  --json         JSON output format.",
      "  --plain        Plain text output.",
      "  --no-color     Disable color output.",
      "  -q, --quiet    Suppress non-essential output.",
      "  -v, --verbose  Enable debug output.",
      "  -f, --force    Skip confirmations.",
      "  --help         Show this message and exit.", "",
      "  render         Generate the module of an entry point.",
      "  config         Default render option management."]
  | .render =>
    ["Generate the module of an entry point for the function described by SIGNATURE:",
      "a path, an http(s) URL, or '-' for stdin.", "",
      "  -e, --entry TEXT                         Entry module; '-' reads and inlines stdin.",
      "  -o, --output PATH                        Write the generated module to this path.",
      "  --lib TEXT                               Argument-parsing library module (and alias).",
      "  --function-name TEXT                     Name of the generated function.",
      "  --strict/--no-strict                     Chain strict().",
      "  --help-command/--no-help-command         Chain help().",
      "  --help-alias/--no-help-alias             Chain alias('help', 'h').",
      "  --version-command/--no-version-command   Chain version().",
      "  --async/--sync                           Emit an async function.",
      "  --runnable/--no-runnable                 Invoke the function at module end.",
      "  -a, --arg TEXT                           Argument of the invocation (repeatable).",
      "  --help                                   Show this message and exit."]
  | .config =>
    ["Default render option management.", "",
      "  show   Show the effective render options.",
      "  set    Set a default render option.",
      "  reset  Reset the default render options."]
  | .showOptions => ["Show the effective render options."]
  | .setOption => ["Set a default render option."]
  | .resetOptions => ["Reset the default render options."]

/-- A page of help. -/
def text (page : HelpPage) : String :=
  "\n".intercalate (page.usage :: "" :: page.lines) ++ "\n"

end HelpPage

end EntryPoint
