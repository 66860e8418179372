import Playback.Text.Digit
import Playback.Text.Lines
import Playback.Text.Numeral
import Playback.Trace.Timeline

/-!
This module contains the options of the command line and the logic to read them. Long options may be
shortened as long as they stay unambiguous, and short ones may be run together.
-/

namespace Playback.CommandLine

inductive Switch where
  | help
  | instrumentOnly
  | verbose
deriving DecidableEq

inductive Setting where
  | language
  | stdin
  | stdinFile
  | maxSteps
  | indent
deriving DecidableEq

inductive Key where
  | switch (s : Switch)
  | setting (s : Setting)
deriving DecidableEq

def names : List (String × Key) :=
  [("-h", .switch .help), ("--help", .switch .help), ("--language", .setting .language),
   ("-l", .setting .language), ("--stdin", .setting .stdin),
   ("--stdin-file", .setting .stdinFile), ("--max-steps", .setting .maxSteps),
   ("-n", .setting .maxSteps), ("--instrument-only", .switch .instrumentOnly),
   ("--indent", .setting .indent), ("--verbose", .switch .verbose), ("-v", .switch .verbose)]

/--
What stands behind the name of an option within the same argument.
-/
inductive Attached where
  | nothing
  | value (s : List Char)
  | more (s : List Char)
deriving DecidableEq

/--
What an argument is taken for, whatever stands before it.
-/
inductive Token where
  | plain (s : String)
  | mark
  | option (isLong : Bool) (key : Key) (attached : Attached)
  | unknown
deriving DecidableEq

/--
Whether an argument looks like a negative number. Such arguments are values and no options.
-/
def isNegativeNumber (s : List Char) : Bool :=
  let number (cs : List Char) : Bool :=
    match cs with
    | '-' :: rest =>
      match Text.splitOn '.' rest with
      | [whole] => !whole.isEmpty && whole.all Text.isDecimal
      | [whole, fraction] =>
        whole.all Text.isDecimal && !fraction.isEmpty && fraction.all Text.isDecimal
      | _ => false
    | _ => false
  number s || (s.getLast? == some '\n' && number s.dropLast)

def splitEquals (s : List Char) : List Char × Option (List Char) :=
  match s.dropWhile (· != '=') with
  | [] => (s, none)
  | _ :: value => (s.takeWhile (· != '='), some value)

def keyOf? (name : List Char) : Option Key :=
  names.lookup (String.ofList name)

def isLongName (name : List Char) : Bool :=
  ['-', '-'].isPrefixOf name

/--
The options that an argument may stand for, apart from those it names in full.
-/
def candidates (s : List Char) : List Token :=
  if isLongName s then
    let (name, value) := splitEquals s
    (names.filter fun entry => name.isPrefixOf entry.1.toList).map fun entry =>
      .option true entry.2 (value.elim .nothing .value)
  else
    (names.filter fun entry => entry.1.toList == s.take 2).map fun entry =>
      .option false entry.2 (.more (s.drop 2))

/--
Take an argument for what it is. An argument that may stand for several options is an error.
-/
def classify (argument : String) : Option Token :=
  let s := argument.toList
  let (name, value) := splitEquals s
  if s.head? != some '-' || s.length == 1 then some (.plain argument)
  else
    match keyOf? s, value.bind fun value => (keyOf? name).map (·, value) with
    | some key, _ => some (.option (isLongName s) key .nothing)
    | none, some (key, value) => some (.option (isLongName name) key (.value value))
    | none, none =>
      match candidates s with
      | [token] => some token
      | _ :: _ :: _ => none
      | [] =>
        if isNegativeNumber s || s.contains ' ' then some (.plain argument) else some .unknown

def tokens? : List String → Option (List Token)
  | [] => some []
  | "--" :: rest => some (.mark :: rest.map .plain)
  | argument :: rest => do
    let token ← classify argument
    return token :: (← tokens? rest)

structure Options where
  file : Option String := none
  language : Option String := none
  stdin : String := ""
  stdinFile : Option String := none
  maxSteps : Int := defaultMaxSteps
  instrumentOnly : Bool := false
  indent : Int := 2
  verbose : Bool := false
  hasExtras : Bool := false
deriving DecidableEq

inductive Usage where
  | help
  | misuse
deriving DecidableEq

def Usage.exitCode : Usage → Int
  | .help => 0
  | .misuse => 2

def Options.switch (options : Options) : Switch → Except Usage Options
  | .help => .error .help
  | .instrumentOnly => .ok { options with instrumentOnly := true }
  | .verbose => .ok { options with verbose := true }

def integer (value : String) : Except Usage Int :=
  (Text.readInt value).mapError fun _ => .misuse

def Options.set (options : Options) (value : String) : Setting → Except Usage Options
  | .language => .ok { options with language := some value }
  | .stdin => .ok { options with stdin := value }
  | .stdinFile => .ok { options with stdinFile := some value }
  | .maxSteps => (integer value).map fun n => { options with maxSteps := n }
  | .indent => (integer value).map fun n => { options with indent := n }

/--
What one argument asks for: switches in their order, and at the end perhaps a setting with its value,
a setting whose value is the next argument, or something unknown.
-/
structure Group where
  switches : List Switch := []
  assigned : Option (Setting × String) := none
  awaiting : Option Setting := none
  hasExtras : Bool := false
deriving DecidableEq

/--
The short options that are run together behind a switch, with what they end in.
-/
def cluster : List Char → Except Usage Group
  | [] => .ok {}
  | letter :: rest =>
    if letter == '-' then .error .misuse
    else
      match keyOf? ['-', letter] with
      | none => .ok { hasExtras := true }
      | some (.setting setting) =>
        match rest with
        | [] => .ok { awaiting := some setting }
        | '=' :: value | value => .ok { assigned := some (setting, String.ofList value) }
      | some (.switch switch) =>
        if rest.head? == some '=' then .error .misuse
        else (cluster rest).map fun group => { group with switches := switch :: group.switches }

def group (isLong : Bool) (key : Key) (attached : Attached) : Except Usage Group :=
  match key, attached with
  | .setting setting, .nothing => .ok { awaiting := some setting }
  | .setting setting, .value value | .setting setting, .more value =>
    .ok { assigned := some (setting, String.ofList value) }
  | .switch switch, .nothing => .ok { switches := [switch] }
  | .switch _, .value _ => .error .misuse
  | .switch switch, .more rest =>
    if isLong then .error .misuse
    else (cluster rest).map fun group => { group with switches := switch :: group.switches }

/--
Apply the options of one argument, given the value of the setting that waits for one.
-/
def Options.apply (options : Options) (group : Group) (value? : Option String) :
    Except Usage Options := do
  let options ← group.switches.foldlM Options.switch options
  let options ← match group.assigned with
    | some (setting, value) => options.set value setting
    | none => .ok options
  let options ← match group.awaiting, value? with
    | some setting, some value => options.set value setting
    | _, _ => .ok options
  return { options with hasExtras := options.hasExtras || group.hasExtras }

inductive Open where
  | nothing
  /-- The file. A mark that follows it belongs to it. -/
  | file
  | mark
  | setting (group : Group)
deriving DecidableEq

/--
Read the tokens one after the other. The first plain argument that is no value is the file.
-/
def readTokens (options : Options) (before : Open) : List Token → Except Usage Options
  | [] =>
    match before with
    | .setting _ => .error .misuse
    | _ => .ok options
  | .plain s :: rest =>
    match before with
    | .setting group => do readTokens (← options.apply group (some s)) .nothing rest
    | _ =>
      if options.file.isNone then readTokens { options with file := some s } .file rest
      else readTokens { options with hasExtras := true } .nothing rest
  | .mark :: rest =>
    match before with
    | .setting _ => .error .misuse
    | .file => readTokens options .nothing rest
    | _ =>
      if options.file.isNone then readTokens options .mark rest
      else readTokens { options with hasExtras := true } .nothing rest
  | .unknown :: rest =>
    match before with
    | .setting _ => .error .misuse
    | _ => readTokens { options with hasExtras := true } .nothing rest
  | .option isLong key attached :: rest =>
    match before with
    | .setting _ => .error .misuse
    | _ => do
      let group ← group isLong key attached
      if group.awaiting.isSome then readTokens options (.setting group) rest
      else readTokens (← options.apply group none) .nothing rest

/--
Read the arguments of the command line. There has to be a file and nothing unknown.
-/
def Options.read (arguments : List String) : Except Usage Options := do
  let tokens ← (tokens? arguments).elim (.error .misuse) .ok
  let options ← readTokens {} .nothing tokens
  if options.hasExtras || options.file.isNone then .error .misuse else .ok options

end Playback.CommandLine
