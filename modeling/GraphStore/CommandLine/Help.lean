import GraphStore.CommandLine.Arguments

/-!
# Help texts of the command
-/

namespace GraphStore

/-- The line with the name and the version. -/
def versionLine : String := "lumify-worker 0.1.0"

/-- The lines of a help text. -/
def Topic.lines : Topic → List String
  | .command => [
    "Lumify workspace store worker",
    "",
    "Usage: lumify-worker [OPTIONS] <COMMAND>",
    "",
    "Commands:",
    "  replay  Feed captured responses through the store and print UI messages",
    "  switch  Switch to a workspace against a live server and print messages",
    "  help    Print this message or the help of the given subcommand(s)",
    "",
    "Options:",
    "      --log-json  Emit logs as JSON on stderr",
    "  -h, --help      Print help",
    "  -V, --version   Print version"]
  | .replay => [
    "Feed captured responses through the store and print UI messages",
    "",
    "Usage: lumify-worker replay [OPTIONS] --workspace <workspace> <file>",
    "",
    "Arguments:",
    "  <file>  JSON lines file, one response body per line",
    "",
    "Options:",
    "      --log-json               Emit logs as JSON on stderr",
    "      --workspace <workspace>  Workspace id",
    "      --current <current>      Workspace the UI is displaying (defaults to --workspace)",
    "      --config <config>        Worker configuration file (TOML)",
    "  -h, --help                   Print help"]
  | .switch => [
    "Switch to a workspace against a live server and print messages",
    "",
    "Usage: lumify-worker switch [OPTIONS] --workspace <workspace> --user <user>",
    "",
    "Options:",
    "      --log-json               Emit logs as JSON on stderr",
    "      --workspace <workspace>  Workspace id",
    "      --user <user>            Signed-in user id",
    "      --config <config>        Worker configuration file (TOML)",
    "  -h, --help                   Print help"]
  | .help => [
    "Print this message or the help of the given subcommand(s)",
    "",
    "Usage: lumify-worker help [COMMAND]...",
    "",
    "Arguments:",
    "  [COMMAND]...  Print help for the subcommand(s)"]

end GraphStore
