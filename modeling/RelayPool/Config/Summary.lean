import RelayPool.Config.Basic
import RelayPool.Duration.Basic

/-!
# Summaries

A configuration as a short report in sections.
-/

namespace RelayPool.Config

/-- A line of `count` equal characters. -/
def rule (count : Nat) (character : Char) : String :=
  String.ofList (List.replicate count character)

/-- Where clients connect: the listener, or the first of the nodes' ports. -/
def listenLine (config : Config) : String :=
  if config.mode = multiPortMode then
    "   Multi-port: " ++ config.multiPort.address ++ " from " ++
      Number.intText config.multiPort.basePort
  else
    "   Listener: " ++ config.listener.address ++ ":" ++
      Number.intText config.listener.port

/-- The lines of the summary. -/
def summaryLines (config : Config) : List String :=
  ["PROXY POOL CONFIGURATION",
    rule 60 '=',
    "   Mode: " ++ config.mode,
    listenLine config,
    "   Log Level: " ++ config.logLevel,
    "",
    "POOL",
    rule 30 '-',
    "   Scheduling: " ++ config.pool.mode,
    "   Failure Threshold: " ++ Number.intText config.pool.failureThreshold,
    "   Blacklist Duration: " ++ Duration.text config.pool.blacklistDuration,
    "",
    "MANAGEMENT",
    rule 30 '-',
    "   Enabled: " ++ Document.boolText config.managementEnabled,
    "   Listen: " ++ config.management.listen,
    "   Probe Target: " ++ config.management.probeTarget,
    "",
    "NODES",
    rule 30 '-',
    "   Count: " ++ toString config.nodes.length,
    "   Nodes File: " ++ (if config.nodesFile = "" then "-" else config.nodesFile),
    "",
    rule 60 '=']

/-- The integers that the summary shows. -/
def summaryIntegers (config : Config) : List Int :=
  [if config.mode = multiPortMode then config.multiPort.basePort
    else config.listener.port,
    config.pool.failureThreshold]

/-- The summary, unless an integer in it has too many digits. -/
def summary? (config : Config) : Option String :=
  if (summaryIntegers config).all fun value => (Number.intText? value).isSome then
    some (String.intercalate "\n" (summaryLines config))
  else none

end RelayPool.Config
