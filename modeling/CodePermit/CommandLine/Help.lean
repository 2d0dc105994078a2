import CodePermit.CommandLine.Arguments
/-!
# Help texts

* `programName`, `versionText` — the name and the version of the program;
* `Topic.helpText` — the help text of a topic.
-/

namespace CodePermit.CommandLine

/-- The name of the program. -/
def programName : String :=
  "dolphin-jit"

/-- The name and the version of the program. -/
def versionText : String :=
  s!"{programName} 0.0.0\n"

/-- One line of text for each topic. -/
def Topic.summary : Topic → String
  | program => "Acquire and inspect permission to run JIT-compiled code"
  | acquire => "Run the strategy chain and report the result"
  | probe => "Report whether dynamic code is currently permitted"
  | config => "Print the effective configuration as TOML"
  | help => "Print this message or the help of the given subcommand(s)"

/-- How the program is called for a topic. -/
def Topic.usage : Topic → String
  | program => s!"{programName} [OPTIONS] <COMMAND>"
  | acquire => s!"{programName} acquire [OPTIONS]"
  | probe => s!"{programName} probe [OPTIONS]"
  | config => s!"{programName} config [OPTIONS]"
  | help => s!"{programName} help [COMMAND]..."

/-- The lists of a topic: each with its title and its entries with what they mean. -/
def Topic.lists : Topic → List (String × List (String × String))
  | program =>
    [("Commands",
        [("acquire", acquire.summary), ("probe", probe.summary), ("config", config.summary),
          ("help", help.summary)]),
      ("Options",
        [("-v, --verbose", "Log at debug level unless `RUST_LOG` says otherwise"),
          ("-h, --help", "Print help"), ("-V, --version", "Print version")])]
  | acquire =>
    [("Options",
        [("    --config <PATH>", "Config file to use instead of `$DOLPHIN_HOME/jit.toml`"),
          ("-v, --verbose", "Log at debug level unless `RUST_LOG` says otherwise"),
          ("    --json", "Print the final state and attempt log as JSON"),
          ("    --retries <N>",
            "Restart the chain up to N more times while it keeps failing [default: 0]"),
          ("-h, --help", "Print help")])]
  | probe =>
    [("Options",
        [("-v, --verbose", "Log at debug level unless `RUST_LOG` says otherwise"),
          ("-h, --help", "Print help")])]
  | config =>
    [("Options",
        [("    --config <PATH>", ""),
          ("-v, --verbose", "Log at debug level unless `RUST_LOG` says otherwise"),
          ("-h, --help", "Print help")])]
  | help => [("Arguments", [("[COMMAND]...", "Print help for the subcommand(s)")])]

/-- A text filled up with blanks to a width. -/
def padded (width : Nat) (text : String) : String :=
  text ++ String.ofList (List.replicate (width - text.length) ' ')

/-- The lines of a list, its entries indented and aligned. -/
def listText (list : String × List (String × String)) : String :=
  let width := (list.2.map fun e => e.1.length).foldl Nat.max 0
  s!"\n{list.1}:\n"
    ++ String.join (list.2.map fun e => "  " ++ padded width e.1 ++ "  " ++ e.2 ++ "\n")

/-- The help text of a topic. -/
def Topic.helpText (topic : Topic) : String :=
  s!"{topic.summary}\n\nUsage: {topic.usage}\n" ++ String.join (topic.lists.map listText)

end CodePermit.CommandLine
