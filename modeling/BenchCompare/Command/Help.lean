/-!
# The page of help

The page names the commands and their arguments.
-/

namespace BenchCompare.Command

/-- The arguments of each command, and of all of them, each with its meaning. -/
def helpSections : List (String × List (String × String)) :=
  [("chart [OPTIONS] <[LABEL=]PATH>...   Render a comparison chart",
      [("-o, --output <FILE>", "Path of the picture"),
        ("-m, --metric <METRIC>", "Panels to draw (rps, latency, p99, transfer, both, all)"),
        ("-t, --title <TITLE>", "Chart title"),
        ("--width <WIDTH>", "Width in pixels"),
        ("--height <HEIGHT>", "Height in pixels")]),
    ("show [OPTIONS] <[LABEL=]PATH>...   Print the results",
      [("-f, --format <FORMAT>", "Output format (table, json, json-pretty, csv, markdown)")]),
    ("config [OPTIONS]   Show the settings",
      [("--example", "Print an example of a settings file"),
        ("--env", "List the environment variables")]),
    ("All commands",
      [("-v, --verbose", "Show more messages"),
        ("--config <FILE>", "Settings file (YAML or JSON)"),
        ("-h, --help", "Print this page"),
        ("-V, --version", "Print the version; before a command only")])]

/-- A line about an argument; the meanings begin in one column. -/
def helpLine (entry : String × String) : String :=
  "  " ++ entry.1 ++ String.ofList (List.replicate (24 - entry.1.length) ' ') ++ entry.2 ++ "\n"

/-- The lines about a command. -/
def helpSection (entry : String × List (String × String)) : String :=
  "\n" ++ entry.1 ++ "\n" ++ String.join (entry.2.map helpLine)

/-- The page of help. -/
def helpText : String :=
  "Parse wrk output files and chart them side by side\n\nUsage: wrk-compare [OPTIONS] <COMMAND>\n"
    ++ String.join (helpSections.map helpSection)

end BenchCompare.Command
