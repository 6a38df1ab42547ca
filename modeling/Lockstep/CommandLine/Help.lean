import Lockstep.CommandLine.Arguments

/-!
# Help texts

What the program tells about itself when it is asked to.
-/

namespace Lockstep.CommandLine

namespace Help

/-- All about the program in short. -/
def programShort : List String :=
  [ "Line-by-line script debugger driven over a JSON line protocol",
    "",
    "Usage: lstep [OPTIONS] [COMMAND]",
    "",
    "Commands:",
    "  attach  Attach to a controller running with --transport socket",
    "  help    Print this message or the help of the given subcommand(s)",
    "",
    "Options:",
    "  -c, --config <CONFIG>        Path to config file (defaults to .linestep.toml) [default: .linestep.toml]",
    "  -f, --file <FILE>            Path to the script to debug",
    "      --init                   Write a default .linestep.toml config file",
    "  -t, --transport <TRANSPORT>  Transport to talk to the client over (overrides config) [possible values: stream, socket, none]",
    "      --host <HOST>            Interface for the socket transport (overrides config)",
    "      --delay-ms <DELAY_MS>    Pause in milliseconds after each continue (overrides config)",
    "      --shell <SHELL>          Shell used to run script lines (overrides config)",
    "      --log-level <LOG_LEVEL>  Log verbosity (overrides config) [possible values: error, warn, info, debug, trace]",
    "      --log-file <LOG_FILE>    Write diagnostic logs to this file; logging is off without it",
    "  -h, --help                   Print help (see more with '--help')",
    "  -V, --version                Print version"]

/-- All about the program at length. -/
def programLong : List String :=
  [ "linestep (lstep) runs a script one line at a time.",
    "",
    "Before each new line it reports \x7b\"type\":\"break\",\"linenumber\":N\x7d and waits for",
    "\x7b\"type\":\"continue\"\x7d from a client. Messages are single-line JSON objects.",
    "",
    "Transports:",
    "  stream  client messages on stdin, controller messages on stderr (default)",
    "  socket  serverinit with host/port is printed on stderr, then one client",
    "          connects over TCP and the whole exchange happens on that connection",
    "  none    no client; breaks are printed on stderr and never waited on",
    "",
    "Script lines are shell commands. Blank lines and '#' comments are skipped, and",
    "'repeat N: command' runs a command N times on the same line.",
    "",
    "Usage: lstep [OPTIONS] [COMMAND]",
    "",
    "Commands:",
    "  attach  Attach to a controller running with --transport socket",
    "  help    Print this message or the help of the given subcommand(s)",
    "",
    "Options:",
    "  -c, --config <CONFIG>",
    "          Path to config file (defaults to .linestep.toml)",
    "          ",
    "          [default: .linestep.toml]",
    "",
    "  -f, --file <FILE>",
    "          Path to the script to debug",
    "",
    "      --init",
    "          Write a default .linestep.toml config file",
    "",
    "  -t, --transport <TRANSPORT>",
    "          Transport to talk to the client over (overrides config)",
    "",
    "          Possible values:",
    "          - stream: stdin for client messages, stderr for controller messages",
    "          - socket: a single accepted TCP connection on an ephemeral port",
    "          - none:   no client; breaks are written out but never waited on",
    "",
    "      --host <HOST>",
    "          Interface for the socket transport (overrides config)",
    "",
    "      --delay-ms <DELAY_MS>",
    "          Pause in milliseconds after each continue (overrides config)",
    "",
    "      --shell <SHELL>",
    "          Shell used to run script lines (overrides config)",
    "",
    "      --log-level <LOG_LEVEL>",
    "          Log verbosity (overrides config)",
    "          ",
    "          [possible values: error, warn, info, debug, trace]",
    "",
    "      --log-file <LOG_FILE>",
    "          Write diagnostic logs to this file; logging is off without it",
    "",
    "  -h, --help",
    "          Print help (see a summary with '-h')",
    "",
    "  -V, --version",
    "          Print version"]

/-- About the command that attaches to a controller. -/
def attach : List String :=
  [ "Attach to a controller running with --transport socket",
    "",
    "Usage: lstep attach [OPTIONS] --port <PORT>",
    "",
    "Options:",
    "      --port <PORT>  Port from the controller's serverinit",
    "      --host <HOST>  Host from the controller's serverinit [default: 127.0.0.1]",
    "      --auto         Continue automatically instead of waiting for Enter",
    "  -h, --help         Print help"]

/-- About the command that helps. -/
def help : List String :=
  [ "Print this message or the help of the given subcommand(s)",
    "",
    "Usage: lstep help [COMMAND]...",
    "",
    "Arguments:",
    "  [COMMAND]...  Print help for the subcommand(s)"]

end Help

/-- The text of a topic. -/
def Topic.text (t : Topic) : String :=
  let lines :=
    match t with
    | .program false => Help.programShort
    | .program true => Help.programLong
    | .attach => Help.attach
    | .help => Help.help
  String.join (lines.map (· ++ "\n"))

/-- The text of a notice; a fault is followed by nothing. -/
def Notice.message : Notice → String
  | .fault f => f.message
  | .help topic => topic.text
  | .version => "lstep 0.1.0\n"

/-- Asking is no failure. -/
def Notice.exitCode : Notice → Nat
  | .fault _ => 2
  | .help _ | .version => 0

end Lockstep.CommandLine
