import Plumbline.Text.Search

namespace Plumbline.CommandLine

/-- The values that an argument takes. -/
inductive Kind where
  | text
  /-- Any text but the empty one. -/
  | path
  /-- One word of several. -/
  | word (words : List String)
  /-- A whole number that is not above a bound. -/
  | number (largest : Nat)

/-- Reads a whole number, which may have a sign if it is nought and a plus in any case. -/
def natural? (s : String) : Option Nat :=
  let (isNegative, digits) := match s.toList with
    | '-' :: digits => (true, digits)
    | '+' :: digits => (false, digits)
    | digits => (false, digits)
  if digits.isEmpty || !digits.all Char.isDigit then none
  else
    let n := digits.foldl (fun n c => n * 10 + (c.toNat - '0'.toNat)) 0
    if isNegative && n ≠ 0 then none else some n

def Kind.accepts : Kind → String → Bool
  | .text, _ => true
  | .path, s => !s.isEmpty
  | .word words, s => words.contains s
  | .number largest, s => (natural? s).any (· ≤ largest)

/-- The arguments a command takes: options with a value, flags, and values that go by their position. Every command
also takes a flag for its verbosity, as often as one likes, and one that asks for help. -/
structure Grammar where
  options : List (String × Kind)
  flags : List String
  positions : List Kind

/-- Arguments as they were read. -/
structure Arguments where
  values : List (String × String)
  flags : List String
  positional : List String
  verbosity : Nat
deriving DecidableEq, Repr

/-- Why arguments are not used as they stand. -/
inductive Refusal where
  | help
  | unknown (argument : String)
  | missingValue (option : String)
  | badValue (value : String)
  | repeated (option : String)
  | missing
deriving DecidableEq, Repr

def Refusal.message : Refusal → String
  | .help => "no arguments but a request for help"
  | .unknown argument => s!"unexpected argument {argument}"
  | .missingValue option => s!"--{option} needs a value"
  | .badValue value => s!"{value} is not a possible value"
  | .repeated option => s!"--{option} is given twice"
  | .missing => "a required argument is missing"

namespace Arguments

def none : Arguments := ⟨[], [], [], 0⟩

def value? (arguments : Arguments) (option : String) : Option String := arguments.values.lookup option

def hasFlag (arguments : Arguments) (flag : String) : Bool := arguments.flags.contains flag

/-- Takes the value of an option, which can be given once. -/
def withValue (arguments : Arguments) (option : String) (kind : Kind) (value : String) : Except Refusal Arguments :=
  if !kind.accepts value then .error (.badValue value)
  else if (arguments.value? option).isSome then .error (.repeated option)
  else .ok { arguments with values := arguments.values ++ [(option, value)] }

/-- Takes a flag. Only the one for verbosity counts more than once. -/
def withFlag (grammar : Grammar) (arguments : Arguments) (flag : String) : Except Refusal Arguments :=
  if flag = "help" then .error .help
  else if flag = "verbose" then .ok { arguments with verbosity := arguments.verbosity + 1 }
  else if !grammar.flags.contains flag then .error (.unknown flag)
  else if arguments.hasFlag flag then .error (.repeated flag)
  else .ok { arguments with flags := arguments.flags ++ [flag] }

/-- Takes a flag of one letter. -/
def withLetter (grammar : Grammar) (arguments : Arguments) (letter : Char) : Except Refusal Arguments :=
  if letter = 'h' then arguments.withFlag grammar "help"
  else if letter = 'v' then arguments.withFlag grammar "verbose"
  else .error (.unknown (String.singleton letter))

/-- Takes a value that goes by its position. -/
def withPositional (grammar : Grammar) (arguments : Arguments) (value : String) : Except Refusal Arguments :=
  match grammar.positions[arguments.positional.length]? with
  | Option.none => .error (.unknown value)
  | some kind =>
    if kind.accepts value then .ok { arguments with positional := arguments.positional ++ [value] }
    else .error (.badValue value)

/-- Whether an argument is more than a single dash and begins with one. -/
def isOption (argument : String) : Bool := argument.toList.head? == some '-' && argument != "-"

/-- The name of a long option, and the value that an equals sign attaches to it. -/
def splitLong (long : List Char) : String × Option String :=
  match Text.cut? ['='] long with
  | some (name, value) => (String.ofList name, some (String.ofList value))
  | Option.none => (String.ofList long, Option.none)

/-- Reads the remaining arguments from left to right. After two dashes alone all are positional. -/
def readOn (grammar : Grammar) (arguments : Arguments) : List String → Except Refusal Arguments
  | [] => .ok arguments
  | argument :: rest =>
    match argument.toList with
    | ['-', '-'] => rest.foldlM (withPositional grammar) arguments
    | '-' :: '-' :: long =>
      let (name, attached) := splitLong long
      match grammar.options.lookup name, attached with
      | some kind, some value => do readOn grammar (← arguments.withValue name kind value) rest
      | some kind, Option.none => match rest with
        | [] => .error (.missingValue name)
        | value :: rest =>
          if isOption value then .error (.missingValue name)
          else do readOn grammar (← arguments.withValue name kind value) rest
      | Option.none, some _ => .error (.unknown argument)
      | Option.none, Option.none => do readOn grammar (← arguments.withFlag grammar name) rest
    | '-' :: letter :: letters => do
      readOn grammar (← (letter :: letters).foldlM (withLetter grammar) arguments) rest
    | _ => do readOn grammar (← arguments.withPositional grammar argument) rest

/-- Reads all arguments of a command. -/
def read (grammar : Grammar) (given : List String) : Except Refusal Arguments := readOn grammar none given

end Arguments

end Plumbline.CommandLine
