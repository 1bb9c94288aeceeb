import RequestCheck.Options.Basic

/-!
# Usage texts

What the command line says about itself, and the complaints about arguments that it cannot use.

    Stop.output s      what goes to the output when the arguments end a run
    Stop.console s     what goes to the console
    Stop.status s      the exit status
-/

namespace RequestCheck

namespace Options

def unlines (ls : List String) : Text := ls.flatMap fun l => Text.ofString l ++ "\n"

def programName : Text := "adblock-check"

def version : Text := "0.1.0"

/-- The short description of the arguments. -/
def usage : Text :=
  unlines [
    "usage: adblock-check [-h] [-v] [--requests REQUESTS] [--url URL]",
    "                     [--context CONTEXT] [--type TYPE] [--rules [RULES ...]]",
    "                     [--verbose] [--metrics-path METRICS_PATH]",
    "                     [--log-file LOG_FILE] [--debug-log]"]

def descriptions : Text :=
  unlines [
    "",
    "Check whether requests would be blocked by filter list rules",
    "",
    "options:",
    "  -h, --help            show this help message and exit",
    "  -v, --version         show program's version number and exit",
    "  --requests REQUESTS   File of newline-delimited JSON records with url,",
    "                        context and type keys (default: standard input)",
    "  --url URL             The full URL to check",
    "  --context CONTEXT     The security context the request occurred in, as a",
    "                        full URL",
    "  --type TYPE           The request type, either as used by filter lists (e.g.",
    "                        image) or as reported by Chromium (e.g. Image)",
    "  --rules [RULES ...]   Filter list files to check against (default: EasyList",
    "                        and EasyPrivacy)",
    "  --verbose             Print the full check result, including the matching",
    "                        rule",
    "  --metrics-path METRICS_PATH",
    "                        Append per-request check metrics to this CSV file",
    "  --log-file LOG_FILE   Also write diagnostics to this file",
    "  --debug-log           Log every checked request"]

def UsageError.message : UsageError → Text
  | .ambiguous argument candidates =>
    "ambiguous option: " ++ argument ++ " could match " ++ Text.joinWith ", " candidates
  | .expectedOne switch => "argument " ++ switch.title ++ ": expected one argument"
  | .ignoredValue switch value =>
    "argument " ++ switch.title ++ ": ignored explicit argument " ++ value.quoted
  | .invalidChoice switch value choices =>
    "argument " ++ switch.title ++ ": invalid choice: " ++ value.quoted ++ " (choose from " ++
      Text.joinWith ", " (choices.map Text.quoted) ++ ")"
  | .unrecognized arguments => "unrecognized arguments: " ++ Text.joinWith " " arguments
  | .partialRequest => RunMode.partialRequest
  | .requestsBesideRequest => "--requests cannot be combined with --url, --context and --type"

namespace Stop

/-- What goes to the output when the arguments end a run. -/
def output : Stop → Text
  | .help => Options.usage ++ descriptions
  | .version => Options.version ++ "\n"
  | .usage _ => []

/-- What goes to the console when the arguments end a run. -/
def console : Stop → Text
  | .help => []
  | .version => []
  | .usage error => Options.usage ++ programName ++ ": error: " ++ error.message ++ "\n"

/-- The exit status when the arguments end a run. -/
def status : Stop → Nat
  | .help => 0
  | .version => 0
  | .usage _ => 2

end Stop

end Options

end RequestCheck
