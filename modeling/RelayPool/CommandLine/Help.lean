import RelayPool.CommandLine.Request

/-!
# Help pages

The texts that tell how the program is used.
-/

namespace RelayPool.CommandLine

/-- The name of the program. -/
def programName : String := "proxypool"

/-- The program or one of its commands as it is called. -/
def Page.title : Page → String
  | .general => programName
  | .command named => programName ++ " " ++ named.label

/-- The line on how to call the program or a command. -/
def Page.usage (page : Page) : String :=
  "usage: " ++ page.title ++
    (match page with
    | .general => " [-h] [-v] [--quiet] \x7bcheck,nodes\x7d ...\n"
    | .command _ => " [-h] [config]\n")

/-- The help page of the program behind its usage. -/
def generalHelp : String :=
  "\nLoad, normalize and inspect proxy pool server configuration.\n" ++
  "\npositional arguments:\n" ++
  "  \x7bcheck,nodes\x7d  Available commands\n" ++
  "    check        Validate configuration and show the resolved summary\n" ++
  "    nodes        List resolved upstream nodes with names and ports\n" ++
  "\noptions:\n" ++
  "  -h, --help     show this help message and exit\n" ++
  "  -v, --verbose  Enable debug logging\n" ++
  "  --quiet        Suppress console output (logs only)\n"

/-- The help page of a command behind its usage. -/
def commandHelp : String :=
  "\npositional arguments:\n" ++
  "  config      Configuration file path (default: config.yaml)\n" ++
  "\noptions:\n" ++
  "  -h, --help  show this help message and exit\n"

/-- A help page. -/
def Page.help (page : Page) : String :=
  page.usage ++
    (match page with
    | .general => generalHelp
    | .command _ => commandHelp)

/-- The report on wrong usage. -/
def usageReport (page : Page) (fault : UsageFault) : String :=
  page.usage ++ page.title ++ ": error: " ++ fault.message ++ "\n"

end RelayPool.CommandLine
