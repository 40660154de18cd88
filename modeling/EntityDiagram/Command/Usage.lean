import EntityDiagram.Command.Parse

/-! # What the command prints about its usage

The help text, the version, and the messages about command lines that cannot be carried out, with
the exit code for each.
-/

namespace EntityDiagram

namespace UsageError

def kind : UsageError → String
  | noValue _ => "InvalidValue"
  | repeated _ => "ArgumentConflict"
  | surplusValue .. => "TooManyValues"
  | unknown .. => "UnknownArgument"
  | missingInput _ => "MissingRequiredArgument"
  | helpWanted => "DisplayHelp"
  | versionWanted => "DisplayVersion"

/-- Help and version are asked for; they are no mistakes. -/
def isMistake : UsageError → Bool
  | helpWanted | versionWanted => false
  | _ => true

def exitCode (e : UsageError) : Nat := if e.isMistake then 2 else 0

def program : String := "erdraft"

def versionText : String := "erdraft-cli 0.1.0\n"

/-- The usage line, with the options that were used. -/
def usageWith (used : List Argument) : String :=
  "Usage: " ++ " ".intercalate
    (program :: (used.filter (· ≠ .input)).map Argument.usage ++ [Argument.input.usage])

def fullUsage : String := "Usage: " ++ program ++ " [OPTIONS] " ++ Argument.input.usage

/-- The usage line as far as anything was used. -/
def usageFor (used : List Argument) : String := if used.isEmpty then fullUsage else usageWith used

def helpText : String :=
  String.join (List.map (· ++ "\n")
    ["Command-line interface for erdraft entity/relationship diagrams",
      "",
      fullUsage,
      "",
      "Arguments:",
      "  <INPUT>  Path to the input file",
      "",
      "Options:",
      "  -o, --output <OUTPUT>        Output base name; `.png`, `.dot` and `.pptx` are appended " ++
        "[default: er_diagram]",
      "  -c, --config <CONFIG>        Path to configuration file (TOML)",
      "      --structured             Treat the input as structured text and skip the text generator",
      "      --dot                    Also write a DOT description next to the image",
      "      --slide                  Also write a single-slide PPTX embedding the image",
      "      --log-level <LOG_LEVEL>  Log level (off, error, warn, info, debug, trace) " ++
        "[default: info]",
      "  -h, --help                   Print help",
      "  -V, --version                Print version"])

/-- A line of advice below the message. -/
def adviceText (token : String) : Advice → String
  | .none => ""
  | .asValue => "\n\n  tip: to pass '" ++ token ++ "' as a value, use '-- " ++ token ++ "'"
  | .similar a => "\n\n  tip: a similar argument exists: '--" ++ a.longName ++ "'"

/-- A message in paragraphs. -/
def mistake (what : String) (usage? : Option String) : String :=
  "\n\n".intercalate
    (("error: " ++ what) :: usage?.toList ++ ["For more information, try '--help'.\n"])

/-- What is printed: for a mistake to the error stream, otherwise to the output. -/
def text : UsageError → String
  | noValue a =>
    mistake ("a value is required for '" ++ a.usage ++ "' but none was supplied") none
  | repeated a =>
    mistake ("the argument '" ++ a.usage ++ "' cannot be used multiple times") (some fullUsage)
  | surplusValue a value used =>
    mistake ("unexpected value '" ++ value ++ "' for '" ++ a.usage ++
      "' found; no more were expected") (some (usageFor used))
  | unknown token advice used =>
    mistake ("unexpected argument '" ++ token ++ "' found" ++ adviceText token advice)
      (some (usageFor used))
  | missingInput used =>
    mistake "the following required arguments were not provided:\n  <INPUT>"
      (some (usageWith used))
  | helpWanted => helpText
  | versionWanted => versionText

end UsageError

end EntityDiagram
