import ConfigAudit.CommandLine.Arguments
import ConfigAudit.Text

/-!
# Help

The texts that explain the command line.
-/

namespace ConfigAudit

namespace CommandLine

/-- The version that is shown. -/
def versionText : String := "guardrail 0.1.0\n"

/-- The text on a topic. -/
def helpText : Topic → String
  | .overview =>
    Text.joinLines
      ["Compliance rule evaluation for parsed infrastructure configuration",
        "",
        "Usage: guardrail [OPTIONS] <COMMAND>",
        "",
        "Commands:",
        "  check    Evaluate a configuration tree and write the report",
        "  md       Render markdown from an existing JSON report",
        "  explain  Explain a rule id with remediation guidance",
        "  rules    List the rule catalog with effective severity and absence policy",
        "  help     Print this message or the help of the given subcommand(s)",
        "",
        "Options:",
        "      --config <CONFIG>    Path to guardrail config TOML (missing file means defaults) " ++
          "[default: guardrail.toml]",
        "      --profile <PROFILE>  Override profile (strict|warn)",
        "  -h, --help               Print help",
        "  -V, --version            Print version",
        ""]
  | .check =>
    Text.joinLines
      ["Evaluate a configuration tree and write the report",
        "",
        "Usage: guardrail check [OPTIONS] --input <INPUT>",
        "",
        "Options:",
        "      --input <INPUT>",
        "          Parser output as JSON: resource kind -> list of instances",
        "      --report-out <REPORT_OUT>",
        "          Where to write the JSON report [default: artifacts/guardrail/report.json]",
        "      --write-markdown",
        "          Write a Markdown report alongside the JSON",
        "      --markdown-out <MARKDOWN_OUT>",
        "          Where to write the Markdown report (if enabled) " ++
          "[default: artifacts/guardrail/comment.md]",
        "      --parallelism <PARALLELISM>",
        "          Override evaluation worker count",
        "      --rule-budget-ms <RULE_BUDGET_MS>",
        "          Override the per-rule wall-clock budget, in milliseconds",
        "  -h, --help",
        "          Print help",
        ""]
  | .markdown =>
    Text.joinLines
      ["Render markdown from an existing JSON report",
        "",
        "Usage: guardrail md [OPTIONS]",
        "",
        "Options:",
        "      --report <REPORT>  [default: artifacts/guardrail/report.json]",
        "  -o, --output <OUTPUT>  Where to write the Markdown output " ++
          "(if not specified, prints to stdout)",
        "  -h, --help             Print help",
        ""]
  | .explain =>
    Text.joinLines
      ["Explain a rule id with remediation guidance",
        "",
        "Usage: guardrail explain <IDENTIFIER>",
        "",
        "Arguments:",
        "  <IDENTIFIER>  The rule id to explain (e.g. \"GR_AZURE_001\")",
        "",
        "Options:",
        "  -h, --help  Print help",
        ""]
  | .rules =>
    Text.joinLines
      ["List the rule catalog with effective severity and absence policy",
        "",
        "Usage: guardrail rules",
        "",
        "Options:",
        "  -h, --help  Print help",
        ""]
  | .help =>
    Text.joinLines
      ["Print this message or the help of the given subcommand(s)",
        "",
        "Usage: guardrail help [COMMAND]...",
        "",
        "Arguments:",
        "  [COMMAND]...  Print help for the subcommand(s)",
        ""]

end CommandLine

end ConfigAudit
