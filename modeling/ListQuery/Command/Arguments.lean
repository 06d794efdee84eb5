import ListQuery.Text.Split

/-! The options and operands on a command line. -/
namespace ListQuery.Command

/-- An option of a command. One with a value says which values it takes. -/
structure Flag where
  long : String
  short : Option Char := none
  accepts : Option (String → Bool) := none

/-- Why a command line is not carried out. -/
inductive Stop where
  | usage | help | version
  deriving DecidableEq, Repr

structure Arguments where
  values : List (String × String) := []
  operands : List String := []
  deriving DecidableEq, Repr

namespace Arguments

def value? (arguments : Arguments) (flag : String) : Option String :=
  arguments.values.lookup flag

def has (arguments : Arguments) (flag : String) : Bool :=
  (arguments.value? flag).isSome

end Arguments

/-- A command line read up to some word: the flag whose value comes next, and whether flags are over. -/
structure Reading where
  arguments : Arguments := {}
  pending : Option Flag := none
  operandsOnly : Bool := false

namespace Reading

def give (reading : Reading) (flag : Flag) (value : String) : Except Stop Reading :=
  if reading.arguments.has flag.long then .error .usage
  else
    let arguments := reading.arguments
    .ok { reading with
      pending := none
      arguments := { arguments with values := (flag.long, value) :: arguments.values } }

/-- Sets a flag, to the value that came with it or to the word that comes next. -/
def set (reading : Reading) (flag : Flag) (attached : Option String) : Except Stop Reading :=
  match flag.accepts, attached with
  | none, none => reading.give flag ""
  | none, some _ => .error .usage
  | some _, none => if reading.arguments.has flag.long then .error .usage
    else .ok { reading with pending := some flag }
  | some accepts, some value => if accepts value then reading.give flag value else .error .usage

def long (flags : List Flag) (reading : Reading) (word : List Char) : Except Stop Reading :=
  let (name, value) := Text.splitFirst '=' word
  let name := String.ofList name
  match flags.find? (·.long == name), value with
  | some flag, value => reading.set flag (value.map String.ofList)
  | none, some _ => .error .usage
  | none, none =>
    if name = "help" then .error .help
    else if name = "version" then .error .version
    else .error .usage

/-- Letters after one dash. What follows a letter that takes a value is its value. -/
def short (flags : List Flag) (reading : Reading) : List Char → Except Stop Reading
  | [] => .ok reading
  | letter :: rest =>
    match flags.find? (·.short == some letter) with
    | none =>
      if letter = 'h' then .error .help
      else if letter = 'V' then .error .version
      else .error .usage
    | some flag =>
      if flag.accepts.isSome then
        match rest with
        | [] => reading.set flag none
        | '=' :: value => reading.set flag (some (String.ofList value))
        | value => reading.set flag (some (String.ofList value))
      else (reading.set flag none).bind fun reading => reading.short flags rest

def operand (limit : Nat) (reading : Reading) (word : String) : Except Stop Reading :=
  let arguments := reading.arguments
  if arguments.operands.length < limit then
    .ok { reading with arguments := { arguments with operands := arguments.operands ++ [word] } }
  else .error .usage

/-- One word of a command line. A single dash is an operand. -/
def step (flags : List Flag) (limit : Nat) (reading : Reading) (word : String) :
    Except Stop Reading :=
  if reading.operandsOnly then reading.operand limit word
  else
    match word.toList, reading.pending with
    | '-' :: _ :: _, some _ => .error .usage
    | _, some flag => { reading with pending := none }.set flag (some word)
    | ['-', '-'], none => .ok { reading with operandsOnly := true }
    | '-' :: '-' :: rest, none => reading.long flags rest
    | '-' :: letter :: rest, none => reading.short flags (letter :: rest)
    | _, none => reading.operand limit word

end Reading

/-- Reads words from left to right, allowing up to `limit` operands; the first problem decides. -/
def Arguments.read (flags : List Flag) (limit : Nat) (words : List String) :
    Except Stop Arguments :=
  match words.foldlM (Reading.step flags limit) {} with
  | .error stop => .error stop
  | .ok reading => if reading.pending.isSome then .error .usage else .ok reading.arguments

end ListQuery.Command
