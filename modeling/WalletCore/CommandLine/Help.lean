import WalletCore.CommandLine.Arguments

/-! # Help of the command line
-/
namespace WalletCore.CommandLine

/-- The lines of the help about a topic. -/
def HelpTopic.lines : HelpTopic → List String
  | .program => [
    "Ember wallet core tools",
    "",
    "Usage: ember <COMMAND>",
    "",
    "Commands:",
    "  migrate          Migrate a persisted state file to the latest version",
    "  method           Show how an RPC method is permissioned",
    "  validate-caveat  Validate a CAIP-25 caveat value",
    "  help             Print this message or the help of the given subcommand(s)",
    "",
    "Options:",
    "  -h, --help  Print help"]
  | .migrate => [
    "Migrate a persisted state file to the latest version",
    "",
    "Usage: ember migrate [OPTIONS] --input <INPUT>",
    "",
    "Options:",
    "  -i, --input <INPUT>    State file to read",
    "  -o, --output <OUTPUT>  Where to write the migrated state (optional, printed otherwise)",
    "  -h, --help             Print help"]
  | .method => [
    "Show how an RPC method is permissioned",
    "",
    "Usage: ember method <NAME>",
    "",
    "Arguments:",
    "  <NAME>  Method name",
    "",
    "Options:",
    "  -h, --help  Print help"]
  | .validateCaveat => [
    "Validate a CAIP-25 caveat value",
    "",
    "Usage: ember validate-caveat --value <VALUE> --env <ENV>",
    "",
    "Options:",
    "      --value <VALUE>  Caveat value JSON file",
    "      --env <ENV>      Environment JSON file (accounts and networks)",
    "  -h, --help           Print help"]
  | .help => [
    "Print this message or the help of the given subcommand(s)",
    "",
    "Usage: ember help [COMMAND]...",
    "",
    "Arguments:",
    "  [COMMAND]...  Print help for the subcommand(s)"]

/-- The text of the help about a topic. -/
def HelpTopic.text (topic : HelpTopic) : String :=
  String.join (topic.lines.map (· ++ "\n"))

end WalletCore.CommandLine
