import ServiceContracts.Text.Quoted
import ServiceContracts.Text.Similarity
import ServiceContracts.Text.Split

/-!
# Arguments of a command line

Arguments that start with a dash are options, with their value behind an equals sign or as the next
argument; the value of a short option may also follow its letter at once. Two dashes end the
options.

* `Syntax` : the options and arguments of a command;
* `split` : the occurrences of options in order, and the other arguments;
* `Fault` : why arguments are refused.
-/

namespace ServiceContracts.CommandLine

/-- An option of a command. -/
structure Flag where
  /-- The name behind two dashes. -/
  name : String
  /-- The letter behind one dash. -/
  letter : Option Char := none
  takesValue : Bool := true
deriving DecidableEq, Repr

/-- The option as it is written. -/
def Flag.long (f : Flag) : String := "--" ++ f.name

/-- The option in a message: all its spellings between quotes. -/
def Flag.hint (f : Flag) : String :=
  match f.letter with
  | some c => "'-" ++ String.ofList [c] ++ "' / '" ++ f.long ++ "'"
  | none => "'" ++ f.long ++ "'"

inductive Fault where
  /-- An option that is not known, with similar ones that are. -/
  | noSuchOption (spelling : String) (similar : List String)
  | missingValue (spelling : String)
  | unwantedValue (spelling : String)
  | missingArgument (name : String)
  | extraArguments (arguments : List String)
  /-- A command that is not known, with similar ones that are. -/
  | noSuchCommand (name : String) (similar : List String)
  | missingCommand
  /-- A value that cannot be used, with the option or argument it belongs to. -/
  | badValue (hint message : String)
deriving DecidableEq, Repr

/-- A question that offers what may have been meant. -/
def offer : List String → String
  | [] => ""
  | [name] => " Did you mean " ++ Text.quoted name ++ "?"
  | names => " (Did you mean one of: " ++ ", ".intercalate (names.map Text.quoted) ++ "?)"

/-- The wording of a fault. -/
def Fault.message : Fault → String
  | noSuchOption spelling similar =>
    "No such option " ++ Text.quoted spelling ++ "." ++ offer similar
  | missingValue spelling => "Option " ++ Text.quoted spelling ++ " requires an argument."
  | unwantedValue spelling => "Option " ++ Text.quoted spelling ++ " does not take a value."
  | missingArgument name => "Missing argument '" ++ name ++ "'."
  | extraArguments arguments =>
    (if arguments.length = 1 then "Got unexpected extra argument ("
      else "Got unexpected extra arguments (") ++ " ".intercalate arguments ++ ")"
  | noSuchCommand name similar =>
    "No such command " ++ Text.quoted name ++ "." ++ offer similar
  | missingCommand => "Missing command."
  | badValue hint message => "Invalid value for " ++ hint ++ ": " ++ message

/-- The fault concerns a single option, and is shown without the usage of the command. -/
def Fault.isBare : Fault → Bool
  | missingValue _ | unwantedValue _ => true
  | _ => false

/-- An option that was given, with its value. -/
abbrev Occurrence := Flag × String

/-- What an argument that starts with a dash is. -/
inductive Reading where
  /-- An option, with its value if that is part of the argument. -/
  | option (flag : Flag) (spelling : String) (value : Option String)
  | fault (f : Fault)

/-- An argument with a single dash, read as a letter and perhaps its value. -/
def readLetter (flags : List Flag) (c : Char) (rest : List Char) : Reading :=
  let spelling := String.ofList ['-', c]
  match flags.find? fun f => f.letter == some c with
  | some flag => .option flag spelling (if rest.isEmpty then none else some (String.ofList rest))
  | none => .fault (.noSuchOption spelling [])

/-- An argument with two dashes, read as a name and perhaps its value. -/
def readName (flags : List Flag) (argument : String) : Reading :=
  let (spelling, value) := match Text.cut? ['='] argument.toList with
    | some (before, after) => (String.ofList before, some (String.ofList after))
    | none => (argument, none)
  match flags.find? fun f => f.long == spelling with
  | some flag =>
    if flag.takesValue || value.isNone then .option flag spelling value
    else .fault (.unwantedValue spelling)
  | none => .fault (.noSuchOption spelling (Text.closest (flags.map Flag.long) spelling))

/-- What an argument that starts with a dash is. -/
def read (flags : List Flag) (argument : String) : Reading :=
  match argument.toList with
  | '-' :: c :: rest => if c = '-' then readName flags argument else readLetter flags c rest
  | _ => .fault (.noSuchOption argument [])

/-- The argument is an option. -/
def isOption (argument : String) : Bool := argument.startsWith "-" && argument.length > 1

/-- The occurrences of options in order, and the other arguments. If options may not be mixed with
arguments, the first argument ends them. -/
def split (flags : List Flag) (mixed : Bool) :
    List String → Except Fault (List Occurrence × List String)
  | [] => .ok ([], [])
  | argument :: rest =>
    if argument = "--" then .ok ([], rest)
    else if isOption argument then
      match read flags argument with
      | .fault f => .error f
      | .option flag spelling value =>
        let found (v : String) := fun (os, args) => ((flag, v) :: os, args)
        match flag.takesValue, value with
        | false, _ => (split flags mixed rest).map (found "")
        | true, some v => (split flags mixed rest).map (found v)
        | true, none =>
          match rest with
          | [] => .error (.missingValue spelling)
          | v :: rest => (split flags mixed rest).map (found v)
    else if mixed then (split flags mixed rest).map fun (os, args) => (os, argument :: args)
    else .ok ([], argument :: rest)

end ServiceContracts.CommandLine
