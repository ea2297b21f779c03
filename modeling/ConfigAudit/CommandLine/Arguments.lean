import ConfigAudit.Number.Numeral
import ConfigAudit.Number.Width

/-!
# Arguments

What the arguments of the command line ask for. Options for all commands stand before the name of
the command and its own options after it. An option with a value has it behind an equals sign or
as the next argument, no option stands twice, and two dashes end the options. A value that is an
argument of its own is judged after what follows it, so help wins over a refused value right before
the name of a command.
-/

namespace ConfigAudit

namespace CommandLine

/-- The arguments of a check. -/
structure CheckArguments where
  input : String
  reportPath : String
  /-- Where to write the report in Markdown, if that is asked for. -/
  markdownPath : Option String
  parallelism : Option Nat
  ruleBudget : Option Nat
deriving DecidableEq, Repr, Inhabited

/-- A command with its arguments. -/
inductive Command where
  | check (arguments : CheckArguments)
  /-- Write the Markdown of a report to a file, or show it. -/
  | markdown (report : String) (output : Option String)
  | explain (ruleId : String)
  | rules
deriving DecidableEq, Repr, Inhabited

/-- A command with the options for all commands. -/
structure Invocation where
  settingsPath : String
  profile : Option String
  command : Command
deriving DecidableEq, Repr, Inhabited

/-- What help can be asked for. -/
inductive Topic where
  | overview
  | check
  | markdown
  | explain
  | rules
  /-- The asking for help itself. -/
  | help
deriving DecidableEq, Repr, Inhabited

/-- What the arguments ask for. -/
inductive Request where
  | run (invocation : Invocation)
  | help (topic : Topic)
  | version
  /-- Nothing that could be done. -/
  | misuse
deriving DecidableEq, Repr, Inhabited

/-- What an option is followed by. -/
inductive OptionKind where
  | flag
  | value
  /-- A natural number of 64 bits. -/
  | number
deriving DecidableEq, Repr

/-- An option: its long name, its letter if it has one, and what it is followed by. -/
structure OptionSpec where
  name : String
  letter : Option Char
  kind : OptionKind
deriving DecidableEq, Repr

/-- The options and the other arguments of a command. -/
structure Grammar where
  options : List OptionSpec
  topic : Topic
  /-- How many arguments that are no options there may be. -/
  positionals : Nat
  /-- Whether the version can be asked for. -/
  hasVersion : Bool := false
deriving DecidableEq, Repr

/-- What was read of the arguments of a command: the values of options, and the other arguments,
last first. A flag has a blank value. -/
structure Matches where
  values : List (String × String) := []
  positionals : List String := []
deriving DecidableEq, Repr, Inhabited

namespace Matches

/-- The value of an option. -/
def value? (found : Matches) (name : String) : Option String :=
  found.values.lookup name

/-- Whether a flag is set. -/
def isSet (found : Matches) (name : String) : Bool :=
  (found.value? name).isSome

/-- The number that an option has for its value. -/
def number? (found : Matches) (name : String) : Option Nat :=
  (found.value? name).bind fun text => Numeral.read? (Width.span 64) text.toList

end Matches

/-- The end of reading arguments. -/
inductive Reading where
  /-- They were read, some of them being left over. -/
  | done (found : Matches) (rest : List String)
  /-- A value that is an argument of its own is refused, and so much is left over. -/
  | refused (rest : List String)
  /-- Something else is asked for. -/
  | other (request : Request)

/-- Whether an argument looks like an option, so that it is no value of another one. -/
def looksLikeOption (argument : String) : Bool :=
  match argument.toList with
  | '-' :: _ :: _ => true
  | _ => false

/-- Take the value of an option, unless it has one or cannot have this one. -/
def accept (found : Matches) (option : OptionSpec) (value : String) : Option Matches :=
  if found.isSet option.name then none
  else if option.kind = .number && (Numeral.read? (Width.span 64) value.toList).isNone then none
  else some { found with values := (option.name, value) :: found.values }

/-- An option as it is written: its specification, and the value joined to it. -/
inductive Spelling where
  | known (option : OptionSpec) (joined : Option String)
  | helpWanted
  | versionWanted
  | unknown

/-- The option of a long name, with the value behind an equals sign. -/
def spellLong (grammar : Grammar) (characters : List Char) : Spelling :=
  let (name, rest) := characters.span (· != '=')
  let joined := match rest with
    | _ :: value => some (String.ofList value)
    | [] => none
  match grammar.options.find? (·.name.toList == name) with
  | some option => .known option joined
  | none =>
    if joined.isSome then .unknown
    else if name == "help".toList then .helpWanted
    else if name == "version".toList && grammar.hasVersion then .versionWanted
    else .unknown

/-- The option of a letter, with the value behind it. -/
def spellShort (grammar : Grammar) (letter : Char) (rest : List Char) : Spelling :=
  match grammar.options.find? (·.letter == some letter) with
  | some option =>
    match rest with
    | [] => .known option none
    | '=' :: value => .known option (some (String.ofList value))
    | value => .known option (some (String.ofList value))
  | none =>
    if letter = 'h' then .helpWanted
    else if letter = 'V' && grammar.hasVersion then .versionWanted
    else .unknown

/-- The option of an argument; none if the argument is no option. -/
def spell? (grammar : Grammar) (argument : String) : Option Spelling :=
  match argument.toList with
  | '-' :: '-' :: name => some (spellLong grammar name)
  | '-' :: letter :: rest => some (spellShort grammar letter rest)
  | _ => none

/-- Read the arguments after two dashes. -/
def readPositionals (grammar : Grammar) (found : Matches) (arguments : List String) : Reading :=
  if found.positionals.length + arguments.length ≤ grammar.positionals then
    .done { found with positionals := arguments.reverse ++ found.positionals } []
  else .other .misuse

/-- Read arguments up to the first one that is neither an option nor admitted otherwise. -/
def read (grammar : Grammar) (found : Matches) : List String → Reading
  | [] => .done found []
  | argument :: rest =>
    if argument = "--" then readPositionals grammar found rest
    else
      match spell? grammar argument with
      | none =>
        if found.positionals.length < grammar.positionals then
          read grammar { found with positionals := argument :: found.positionals } rest
        else .done found (argument :: rest)
      | some .helpWanted => .other (.help grammar.topic)
      | some .versionWanted => .other .version
      | some .unknown => .other .misuse
      | some (.known option joined) =>
        match option.kind, joined with
        | .flag, some _ => .other .misuse
        | .flag, none =>
          match accept found option "" with
          | some found => read grammar found rest
          | none => .other .misuse
        | _, some value =>
          match accept found option value with
          | some found => read grammar found rest
          | none => .other .misuse
        | _, none =>
          match rest with
          | [] => .other .misuse
          | value :: rest =>
            if looksLikeOption value then .other .misuse
            else
              match accept found option value with
              | some found => read grammar found rest
              | none => .refused rest

/-- The options for all commands. -/
def overviewGrammar : Grammar where
  options := [⟨"config", none, .value⟩, ⟨"profile", none, .value⟩]
  topic := .overview
  positionals := 0
  hasVersion := true

/-- The options of a check. -/
def checkGrammar : Grammar where
  options :=
    [⟨"input", none, .value⟩, ⟨"report-out", none, .value⟩, ⟨"write-markdown", none, .flag⟩,
      ⟨"markdown-out", none, .value⟩, ⟨"parallelism", none, .number⟩,
      ⟨"rule-budget-ms", none, .number⟩]
  topic := .check
  positionals := 0

/-- The options for the Markdown of a report. -/
def markdownGrammar : Grammar where
  options := [⟨"report", none, .value⟩, ⟨"output", some 'o', .value⟩]
  topic := .markdown
  positionals := 0

/-- The argument of an explanation. -/
def explainGrammar : Grammar where
  options := []
  topic := .explain
  positionals := 1

/-- The listing of rules takes nothing. -/
def rulesGrammar : Grammar where
  options := []
  topic := .rules
  positionals := 0

/-- Where a report is, unless it is said. -/
def standardReportPath : String := "artifacts/guardrail/report.json"

/-- Where the Markdown of a report is, unless it is said. -/
def standardMarkdownPath : String := "artifacts/guardrail/comment.md"

/-- Where the settings are, unless it is said. -/
def standardSettingsPath : String := "guardrail.toml"

/-- The check that is asked for. -/
def checkCommand? (found : Matches) : Option Command :=
  (found.value? "input").map fun input =>
    .check
      { input
        reportPath := (found.value? "report-out").getD standardReportPath
        markdownPath :=
          if found.isSet "write-markdown" then
            some ((found.value? "markdown-out").getD standardMarkdownPath)
          else none
        parallelism := found.number? "parallelism"
        ruleBudget := found.number? "rule-budget-ms" }

/-- The Markdown that is asked for. -/
def markdownCommand? (found : Matches) : Option Command :=
  some (.markdown ((found.value? "report").getD standardReportPath) (found.value? "output"))

/-- The explanation that is asked for. -/
def explainCommand? (found : Matches) : Option Command :=
  found.positionals.head?.map .explain

/-- The grammar of a command, and the command that its arguments make. -/
def commandNamed? : String → Option (Grammar × (Matches → Option Command))
  | "check" => some (checkGrammar, checkCommand?)
  | "md" => some (markdownGrammar, markdownCommand?)
  | "explain" => some (explainGrammar, explainCommand?)
  | "rules" => some (rulesGrammar, fun _ => some .rules)
  | _ => none

/-- The help that is asked for by name. -/
def helpRequest : List String → Request
  | [] => .help .overview
  | [name] =>
    match commandNamed? name with
    | some (grammar, _) => .help grammar.topic
    | none => if name = "help" then .help .help else .misuse
  | _ => .misuse

/-- What the arguments of a command ask for. -/
def requestOf (general : Matches) (grammar : Grammar) (command? : Matches → Option Command)
    (arguments : List String) : Request :=
  match read grammar {} arguments with
  | .other request => request
  | .refused _ | .done _ (_ :: _) => .misuse
  | .done found [] =>
    match command? found with
    | none => .misuse
    | some command =>
      .run
        { settingsPath := (general.value? "config").getD standardSettingsPath
          profile := general.value? "profile"
          command }

/-- What the name of a command and the arguments after it ask for. -/
def requestNamed (general : Matches) (name : String) (arguments : List String) : Request :=
  match commandNamed? name with
  | some (grammar, command?) => requestOf general grammar command? arguments
  | none => if name = "help" then helpRequest arguments else .misuse

/-- What a request comes to after a refused value: help is given, and nothing else is done. -/
def Request.afterRefusal : Request → Request
  | .help topic => .help topic
  | _ => .misuse

/-- What the arguments of the command line ask for. -/
def request (arguments : List String) : Request :=
  match read overviewGrammar {} arguments with
  | .other request => request
  | .refused [] | .done _ [] => .misuse
  | .refused (name :: rest) => (requestNamed {} name rest).afterRefusal
  | .done general (name :: rest) => requestNamed general name rest

end CommandLine

end ConfigAudit
