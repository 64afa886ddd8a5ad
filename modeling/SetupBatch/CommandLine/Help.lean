import SetupBatch.CommandLine.Arguments
/-!
This module contains the texts that the program shows about itself.
-/

namespace SetupBatch

def versionText : String := "stagehand 0.1.0\n"

def Topic.text : Topic → String
  | .program => "Phased, concurrent machine setup

Usage: stagehand [OPTIONS] <COMMAND>

Commands:
  init  Write the default configuration
  run   Run a setup plan
  help  Print this message or the help of the given subcommand(s)

Options:
  -v, --verbose  Enable verbose logging
  -h, --help     Print help
  -V, --version  Print version
"
  | .init => "Write the default configuration

Usage: stagehand init [PATH]

Arguments:
  [PATH]  Repository path (defaults to current directory) [default: .]

Options:
  -h, --help  Print help
"
  | .run => "Run a setup plan

Usage: stagehand run [OPTIONS] <PLAN>

Arguments:
  <PLAN>  Plan file (TOML)

Options:
      --retry                Retry failed tasks automatically while retries remain
      --json                 Print the final summary as JSON
      --elevated             Run elevated tasks through a local elevated session
      --max-concurrency <N>  Maximum number of tasks running at once
  -h, --help                 Print help
"
  | .help => "Print this message or the help of the given subcommand(s)

Usage: stagehand help [COMMAND]...

Arguments:
  [COMMAND]...  Print help for the subcommand(s)
"

end SetupBatch
