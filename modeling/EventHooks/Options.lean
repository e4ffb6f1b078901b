import EventHooks.Given
import EventHooks.LogRecord
import EventHooks.Text.DecimalDigit
import EventHooks.Text.Quoted

/-!
# Command line options

Options have long names, of which every beginning that no other long name shares may stand for the
whole. A value follows an equals sign or is the next argument; the last value of an option counts.
Arguments are sorted into tokens first, so that an ambiguous name is reported before anything else,
and the tokens are then taken in order.
-/
namespace EventHooks

/-- The options. -/
inductive OptionName
  | help
  | onevent
  | shell
  | configDir
  | logLevel
  | run
  | save
  deriving DecidableEq, Repr

namespace OptionName

/-- Every option, in the order in which matches are listed. -/
def all : List OptionName := [.help, .onevent, .shell, .configDir, .logLevel, .run, .save]

/-- The long name of an option. -/
def long : OptionName → String
  | .help => "--help"
  | .onevent => "--onevent"
  | .shell => "--shell"
  | .configDir => "--config-dir"
  | .logLevel => "--log-level"
  | .run => "--run"
  | .save => "--save"

/-- All names of an option. -/
def label : OptionName → String
  | .help => "-h/--help"
  | name => name.long

/-- Whether an option has a value. -/
def takesValue : OptionName → Bool
  | .help | .save => false
  | _ => true

end OptionName

/-- The options of one run. -/
structure Options where
  onevent : Option (Given String) := none
  shell : Option (Given String) := none
  configDir : Option (Given String) := none
  logLevel : Option (Given LogLevel) := none
  run : Option (Given String) := none
  save : Bool := false
  deriving DecidableEq, Repr

/-- Why arguments are refused. -/
inductive OptionFault
  | ambiguous (given : String) (candidates : List OptionName)
  | missingValue (name : OptionName)
  | refusedValue (name : OptionName) (value : String)
  | invalidChoice (name : OptionName) (value : String)
  | unrecognized (arguments : List String)
  deriving DecidableEq, Repr

/-- Why a run ends with its arguments: help is asked for, or they are refused. -/
inductive OptionStop
  | help
  | fault (fault : OptionFault)
  deriving DecidableEq, Repr

namespace Options

/-! ## Tokens -/

/-- An argument: an option, with the value attached to it; a value; or a text that looks like an
option and is none, which is never taken for a value. -/
inductive Token
  | option (name : OptionName) (attached : Option String)
  | value (text : String)
  | stray (text : String)
  deriving DecidableEq, Repr

/-- The decimal digits at the start of a text, left out. -/
def dropDigits (chars : List Char) : List Char :=
  chars.dropWhile fun c => (Text.decimalDigit? c).isSome

/-- Whether nothing but a line feed is left. -/
def isEnd (chars : List Char) : Bool :=
  chars.isEmpty || chars == ['\n']

/-- Whether what follows a dash makes a negative number: digits, perhaps with a point before the
last of them. -/
def isNumber (chars : List Char) : Bool :=
  (dropDigits chars != chars && isEnd (dropDigits chars)) ||
    match dropDigits chars with
    | '.' :: fraction => dropDigits fraction != fraction && isEnd (dropDigits fraction)
    | _ => false

/-- The token of a text that starts with a dash and names no option. Negative numbers and texts with
a blank are values. -/
def unnamed (text : String) : Token :=
  if isNumber text.toList.tail || text.toList.contains ' ' then .value text else .stray text

/-- The part before the first equals sign, and the part after it. -/
def splitValue (chars : List Char) : List Char × Option String :=
  (chars.takeWhile (· != '='),
    match chars.dropWhile (· != '=') with
    | [] => none
    | _ :: value => some (String.ofList value))

/-- The options whose long names start with some characters. -/
def candidates (start : List Char) : List OptionName :=
  OptionName.all.filter fun name => start.isPrefixOf name.long.toList

/-- What is left of the letters after the short name of the help option, which may be repeated. -/
def afterHelpLetters (chars : List Char) : Option String :=
  match chars.dropWhile (· == 'h') with
  | [] => none
  | rest => some (String.ofList rest)

/-- What is attached to the short name of the help option. -/
def attachedToHelp : List Char → Option String
  | ['='] => some ""
  | '=' :: value => afterHelpLetters value
  | letters => afterHelpLetters letters

/-- The token of an argument. -/
def classify (text : String) : Except OptionFault Token :=
  match text.toList with
  | '-' :: 'h' :: attached => .ok (.option .help (attachedToHelp attached))
  | '-' :: '-' :: rest =>
    let (start, attached) := splitValue ('-' :: '-' :: rest)
    match candidates start with
    | [] => .ok (unnamed text)
    | [name] => .ok (.option name attached)
    | names => .error (.ambiguous text names)
  | '-' :: _ :: _ => .ok (unnamed text)
  | _ => .ok (.value text)

/-- The tokens of arguments. After two dashes alone everything is a value. -/
def tokens : List String → Except OptionFault (List Token)
  | [] => .ok []
  | argument :: rest =>
    if argument = "--" then .ok (.stray argument :: rest.map .value)
    else
      match classify argument with
      | .error fault => .error fault
      | .ok token => (tokens rest).map (token :: ·)

/-! ## Values -/

/-- The value that a text gives; two dashes give nothing. -/
def givenText (text : String) : Given String :=
  if text = "--" then .nothing else .value text

/-- Takes in the value of an option. -/
def withValue (options : Options) (name : OptionName) (text : String) :
    Except OptionFault Options :=
  match name, givenText text with
  | .onevent, given => .ok { options with onevent := some given }
  | .shell, given => .ok { options with shell := some given }
  | .configDir, given => .ok { options with configDir := some given }
  | .run, given => .ok { options with run := some given }
  | .logLevel, .nothing => .ok { options with logLevel := some .nothing }
  | .logLevel, .value choice =>
    match LogLevel.ofName? choice with
    | some level => .ok { options with logLevel := some (.value level) }
    | none => .error (.invalidChoice name choice)
  | .help, _ | .save, _ => .error (.refusedValue name text)

/-- Takes in tokens. `extra` holds the arguments that belong to no option. -/
def take (options : Options) (extra : List String) : List Token → Except OptionStop Options
  | [] => if extra.isEmpty then .ok options else .error (.fault (.unrecognized extra))
  | .value text :: rest | .stray text :: rest => take options (extra ++ [text]) rest
  | .option name (some text) :: rest =>
    match options.withValue name text with
    | .ok options => take options extra rest
    | .error fault => .error (.fault fault)
  | .option .help none :: _ => .error .help
  | .option .save none :: rest => take { options with save := true } extra rest
  | .option name none :: .value text :: rest =>
    match options.withValue name text with
    | .ok options => take options extra rest
    | .error fault => .error (.fault fault)
  | .option name none :: _ => .error (.fault (.missingValue name))

/-- Reads arguments. -/
def read (arguments : List String) : Except OptionStop Options :=
  match tokens arguments with
  | .ok tokens => take {} [] tokens
  | .error fault => .error (.fault fault)

end Options

/-! ## What is shown -/

/-- The words for a fault. -/
def OptionFault.message : OptionFault → String
  | .ambiguous given names =>
    s!"ambiguous option: {given} could match " ++ ", ".intercalate (names.map (·.long))
  | .missingValue name => s!"argument {name.label}: expected one argument"
  | .refusedValue name value =>
    s!"argument {name.label}: ignored explicit argument {Text.quoted value}"
  | .invalidChoice name value =>
    s!"argument {name.label}: invalid choice: {Text.quoted value} (choose from " ++
      ", ".intercalate (LogLevel.all.map fun level => Text.quoted level.name) ++ ")"
  | .unrecognized arguments => "unrecognized arguments: " ++ " ".intercalate arguments

namespace OptionStop

/-- The names of the program's options on a few lines. -/
def usage : String :=
  "usage: playerhook [-h] [--onevent ONEVENT] [--shell SHELL]\n" ++
  "                  [--config-dir CONFIG_DIR]\n" ++
  "                  [--log-level \x7bDEBUG,INFO,WARNING,ERROR\x7d] [--run CMD]\n" ++
  "                  [--save]\n"

/-- The help text. -/
def helpText : String :=
  usage ++
  "\nRun a command for every player event read from stdin.\n" ++
  "\noptions:\n" ++
  "  -h, --help            show this help message and exit\n" ++
  "  --onevent ONEVENT     Command run for each player event\n" ++
  "  --shell SHELL         Shell used to run commands (default: $SHELL)\n" ++
  "  --config-dir CONFIG_DIR\n" ++
  "                        Settings directory (default: ~/.config/playerhook)\n" ++
  "  --log-level \x7bDEBUG,INFO,WARNING,ERROR\x7d\n" ++
  "                        Logging level\n" ++
  "  --run CMD             Run a single command, print its output and exit\n" ++
  "  --save                Store --onevent and --shell in the settings file\n"

/-- The exit status. -/
def status : OptionStop → Nat
  | .help => 0
  | .fault _ => 2

/-- What is written to the standard output. -/
def output : OptionStop → String
  | .help => helpText
  | .fault _ => ""

/-- What is written to the error output. -/
def errors : OptionStop → String
  | .help => ""
  | .fault found => usage ++ s!"playerhook: error: {found.message}\n"

end OptionStop

end EventHooks
