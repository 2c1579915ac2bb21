import CatalogCache.Config.Settings

/-!
# The command line

Options begin with two dashes and may be shortened as long as only one option begins with
what is left. The value of an option follows an equals sign or is the next argument. An
argument that begins with a dash is no value, unless it looks like a negative number or
holds a space; after an argument of two dashes every argument is plain.

The arguments are read twice. First each one is told apart by itself (`Token`); here an
ambiguous option is noticed. Then they are gone through from left to right: values are given
to options, help is shown where it is asked for, and what belongs to no option is gathered
and refused at the end. Two dashes after an equals sign leave an option without a value.

Where the versions of the option parser differ, this is `argparse` as it was before its version
3.11.9. Later ones refuse `--port=--`, and take `-hfoo` for a request for help; here the one leaves
the port without a value and the other is refused.
-/

namespace CatalogCache.CommandLine

/-- An option. -/
inductive Flag where
  /-- Show how the program is used. -/
  | help
  | host
  | port
  | format
  | storageUrl
  deriving DecidableEq, Repr

namespace Flag

/-- The options in the order in which they are shown. -/
def all : List Flag := [.help, .host, .port, .format, .storageUrl]

def name : Flag → String
  | .help => "--help"
  | .host => "--host"
  | .port => "--port"
  | .format => "--format"
  | .storageUrl => "--storage-url"

/-- The names of an option in a message. -/
def shown : Flag → String
  | .help => "-h/--help"
  | flag => flag.name

/-- The options whose name begins with a text. -/
def startingWith (cs : List Char) : List Flag :=
  all.filter fun flag => cs.isPrefixOf flag.name.toList

/-- The option with a name, its short one included, and whether that is the short one. -/
def named? (cs : List Char) : Option (Flag × Bool) :=
  if cs = ['-', 'h'] then some (.help, true)
  else (all.find? fun flag => flag.name.toList == cs).map fun flag => (flag, false)

end Flag

/-- Why arguments are refused. -/
inductive UsageError where
  /-- A shortened option could be one of several. -/
  | ambiguous (argument : String) (flags : List Flag)
  /-- An option that takes no value has one. -/
  | surplusValue (flag : Flag) (value : String)
  /-- An option that takes a value has none. -/
  | missingValue (flag : Flag)
  /-- The value of an option is no integer. -/
  | notInteger (flag : Flag) (value : String)
  /-- Some arguments belong to no option. -/
  | unrecognized (arguments : List String)
  deriving DecidableEq, Repr

def UsageError.message : UsageError → String
  | .ambiguous argument flags =>
    "ambiguous option: " ++ argument ++ " could match " ++ ", ".intercalate (flags.map Flag.name)
  | .surplusValue flag value =>
    "argument " ++ flag.shown ++ ": ignored explicit argument " ++ Text.quoted value
  | .missingValue flag => "argument " ++ flag.shown ++ ": expected one argument"
  | .notInteger flag value =>
    "argument " ++ flag.shown ++ ": invalid int value: " ++ Text.quoted value
  | .unrecognized arguments => "unrecognized arguments: " ++ " ".intercalate arguments

/-! ## Telling arguments apart -/

/-- What an argument is, seen by itself. -/
inductive Token where
  /-- A value, or an argument of no option. -/
  | plain
  /-- Two dashes, after which every argument is plain. -/
  | separator
  /-- An option, by its short name or not, with the value that is part of the argument. -/
  | option (flag : Flag) (short : Bool) (value : Option String)
  /-- Something that looks like an option and is none. -/
  | unknown
  deriving DecidableEq, Repr

/-- A text at its first equals sign: what is before it and, if there is one, what is after. -/
def splitValue (cs : List Char) : List Char × Option String :=
  match cs.dropWhile (· != '=') with
  | [] => (cs, none)
  | _ :: value => (cs.takeWhile (· != '='), some (String.ofList value))

/-- Whether there are digits and nothing else, up to a line feed at the end. -/
def areDigits (cs : List Char) : Bool :=
  match cs with
  | [] => false
  | _ :: _ => cs.all fun c => (Decimal.digit? c).isSome

/-- Whether an argument looks like a negative number: a dash, and digits with or without a
point. A line feed at the end does not count. -/
def looksNegative (cs : List Char) : Bool :=
  match cs with
  | '-' :: rest =>
    let number := if rest.getLast? = some '\n' then rest.dropLast else rest
    let whole := number.takeWhile (· != '.')
    match number.dropWhile (· != '.') with
    | [] => areDigits whole
    | _ :: part => (whole.isEmpty || areDigits whole) && areDigits part
  | _ => false

/-- An argument that is no option's name and begins with a dash and another character. -/
def classifyOther (cs : List Char) : Token :=
  if looksNegative cs || cs.contains ' ' then .plain else .unknown

/-- An argument that begins with two dashes and is not the full name of an option. -/
def classifyLong (cs : List Char) : Except UsageError Token :=
  let (name, value) := splitValue cs
  match Flag.startingWith name with
  | [] => .ok (classifyOther cs)
  | [flag] => .ok (.option flag false value)
  | flags => .error (.ambiguous (String.ofList cs) flags)

/-- What an argument is, when no argument of two dashes came before it. -/
def classify (argument : String) : Except UsageError Token :=
  let cs := argument.toList
  match cs with
  | [] => .ok .plain
  | ['-', '-'] => .ok .separator
  | first :: rest =>
    if first ≠ '-' then .ok .plain
    else
      -- a full name comes before a shortened one, also with an equals sign in it
      match Flag.named? cs with
      | some (flag, short) => .ok (.option flag short none)
      | none =>
        if rest.isEmpty then .ok .plain
        else
          match splitValue cs with
          | (name, value) =>
            match Flag.named? name, value with
            | some (flag, short), some value => .ok (.option flag short (some value))
            | _, _ =>
              match rest with
              | '-' :: _ => classifyLong cs
              | 'h' :: value => .ok (.option .help true (some (String.ofList value)))
              | _ => .ok (classifyOther cs)

/-- The arguments with what they are. -/
def tokens : List String → Except UsageError (List (String × Token))
  | [] => .ok []
  | argument :: rest =>
    match classify argument with
    | .error error => .error error
    -- what follows two dashes is not looked at any more
    | .ok .separator => .ok ((argument, .separator) :: rest.map fun other => (other, .plain))
    | .ok token => (tokens rest).map ((argument, token) :: ·)

/-! ## Going through the arguments -/

/-- What the arguments ask for. -/
inductive Request where
  /-- To show how the program is used. -/
  | help
  /-- To run with some settings replaced. -/
  | run (overrides : Overrides)
  deriving DecidableEq, Repr

/-- Short options run together after that for help: each of them has to be the same. -/
def helpAgain : List Char → Except UsageError Request
  | ['h'] => .ok .help
  | 'h' :: rest => helpAgain rest
  | value => .error (.surplusValue .help (String.ofList value))

/-- What is given with a text after an option. -/
def given (text : String) : Given String := if text = "--" then .absent .empty else .value text

/-- The integer that is given to an option. -/
def givenInt (flag : Flag) : Given String → Except UsageError (Given Int)
  | .absent why => .ok (.absent why)
  | .value text =>
    match Decimal.int? text with
    | some n => .ok (.value n)
    | none => .error (.notInteger flag text)

/-- Gives what a text stands for to an option. -/
def assign (flag : Flag) (text : String) (o : Overrides) : Except UsageError Overrides :=
  match flag with
  | .help => .error (.surplusValue .help text)
  | .host => .ok { o with host := given text }
  | .format => .ok { o with outputFormat := given text }
  | .storageUrl => .ok { o with storageUrl := given text }
  | .port => (givenInt .port (given text)).map fun n => { o with port := n }

/-- Goes through the arguments from left to right; `spare` holds those of no option. -/
def collect (o : Overrides) (spare : List String) :
    List (String × Token) → Except UsageError Request
  | [] => if spare.isEmpty then .ok (.run o) else .error (.unrecognized spare)
  -- help ends the reading, whatever is wrong further on
  | (_, .option .help _ none) :: _ => .ok .help
  | (_, .option .help true (some value)) :: _ => helpAgain value.toList
  | (_, .option flag _ (some value)) :: rest =>
    match assign flag value o with
    | .ok o => collect o spare rest
    | .error error => .error error
  -- the value may be the next argument, but only if that is no option
  | (_, .option flag _ none) :: (value, .plain) :: rest =>
    match assign flag value o with
    | .ok o => collect o spare rest
    | .error error => .error error
  | (_, .option flag _ none) :: _ => .error (.missingValue flag)
  | (argument, .plain) :: rest => collect o (spare ++ [argument]) rest
  | (argument, .separator) :: rest => collect o (spare ++ [argument]) rest
  | (argument, .unknown) :: rest => collect o (spare ++ [argument]) rest

/-- What the arguments ask for, or why they are refused. -/
def parse (arguments : List String) : Except UsageError Request :=
  match tokens arguments with
  | .ok found => collect .none [] found
  | .error error => .error error

/-! ## Texts -/

/-- The lines that show the options. -/
def usage : String :=
  "usage: catalog-cache [-h] [--host HOST] [--port PORT] [--format OUTPUT_FORMAT]\n" ++
    "                     [--storage-url STORAGE_URL]\n"

/-- The lines that explain the program, after those that show the options. -/
def explanation : List String := [
  "",
  "Model catalog cache: serve catalog documents and model cards from memory.",
  "",
  "options:",
  "  -h, --help            show this help message and exit",
  "  --host HOST           Interface to bind.",
  "  --port PORT           Port to listen on.",
  "  --format OUTPUT_FORMAT",
  "                        Output format segment used when building catalog URIs.",
  "  --storage-url STORAGE_URL",
  "                        Base URL of the storage service used for startup",
  "                        hydration.",
  ""]

def helpText : String := usage ++ "\n".intercalate explanation

/-- The text that is shown when arguments are refused. -/
def refusal (error : UsageError) : String :=
  usage ++ "catalog-cache: error: " ++ error.message ++ "\n"

end CatalogCache.CommandLine
