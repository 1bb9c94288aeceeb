import RequestCheck.Options.Basic
import RequestCheck.Text.Digit

/-!
# Reading the arguments

The arguments are told apart first: a switch, perhaps shortened, perhaps with a value behind an
equals sign; an argument that only looks like one; a plain argument; and the double dash, behind
which all arguments are plain. Then they are taken from left to right: a switch takes the plain
arguments behind it, as many as it has use for, and what no switch takes is left over.

    Options.parse args     the options that args ask for, or why they end the run
-/

namespace RequestCheck.Options

inductive Token where
  | plain
  | doubleDash
  | unknown
  | switch (switch : Switch) (name : Text) (value : Option Text)
  deriving DecidableEq

/-! ## Telling arguments apart -/

def dash : CodePoint := '-'

def equalsSign : CodePoint := '='

/-- The text before the first equals sign, and the one behind it if there is a sign. -/
def splitValue (argument : Text) : Text × Option Text :=
  match argument.dropWhile (· != equalsSign) with
  | [] => (argument, none)
  | _ :: value => (argument.takeWhile (· != equalsSign), some value)

/-- The switches that an argument with two dashes may be short for, with its value. -/
def longMatches (argument : Text) : List (Text × Switch × Option Text) :=
  let (front, value) := splitValue argument
  (Switch.names.filter fun entry => front.isPrefixOf entry.1).map
    fun (name, switch) => (name, switch, value)

/-- The switches that an argument with one dash may be: one of two code points with a value right
behind it, or one that it is short for. -/
def shortMatches (argument : Text) : List (Text × Switch × Option Text) :=
  Switch.names.filterMap fun (name, switch) =>
    if name = argument.take 2 then some (name, switch, some (argument.drop 2))
    else if argument.isPrefixOf name then some (name, switch, none)
    else none

/-- The switches that an argument may be short for. -/
def candidates (argument : Text) : List (Text × Switch × Option Text) :=
  if [dash, dash].isPrefixOf argument then longMatches argument else shortMatches argument

/-- What an argument is that matches no switch: plain if it is a negative number or has a space. -/
def tokenOfOther (argument : Text) : Token :=
  if argument.isNegativeNumeral || argument.contains ' ' then .plain else .unknown

/-- What an argument is that starts with a dash and spells no switch in full. -/
def tokenOfShortened (argument : Text) : Except UsageError Token :=
  match candidates argument with
  | [] => .ok (tokenOfOther argument)
  | [(name, switch, value)] => .ok (.switch switch name value)
  | several => .error (.ambiguous argument (several.map (·.1)))

/-- What an argument is that comes before any double dash. -/
def tokenOf (argument : Text) : Except UsageError Token :=
  if argument.head? ≠ some dash then .ok .plain
  else match Switch.names.lookup argument with
    | some switch => .ok (.switch switch argument none)
    | none =>
      if argument.length = 1 then .ok .plain
      else match splitValue argument with
        | (_, none) => tokenOfShortened argument
        | (name, some value) =>
          match Switch.names.lookup name with
          | some switch => .ok (.switch switch name (some value))
          | none => tokenOfShortened argument

def tokens : List Text → Except UsageError (List (Text × Token))
  | [] => .ok []
  | argument :: rest =>
    if argument = [dash, dash] then
      .ok ((argument, .doubleDash) :: rest.map fun plain => (plain, .plain))
    else match tokenOf argument with
      | .error error => .error error
      | .ok token =>
        match tokens rest with
        | .error error => .error error
        | .ok more => .ok ((argument, token) :: more)

/-! ## Taking arguments -/

/-- A switch that is still waiting for arguments. -/
inductive Waiting where
  | nothing
  | one (switch : Switch)
  | any (switch : Switch) (values : List Text)

/-- The options so far, the switch that is waiting, and the arguments that are left over. -/
structure Progress where
  options : Options := {}
  waiting : Waiting := .nothing
  leftOver : List Text := []

/-- The options with the values of a switch. A double dash among them stands for no value. -/
def assign (o : Options) (switch : Switch) (values : List Text) : Except Stop Options :=
  let values := values.erase [dash, dash]
  match switch with
  | .help => .error .help
  | .version => .error .version
  | .requests => .ok { o with requests := .ofValues values }
  | .url => .ok { o with url := .ofValues values }
  | .context => .ok { o with context := .ofValues values }
  | .type =>
    match values.find? fun value => !RequestType.choices.contains value with
    | some value => .error (.usage (.invalidChoice .type value RequestType.choices))
    | none => .ok { o with type := .ofValues values }
  | .rules => .ok { o with rules := some values }
  | .verbose => .ok { o with verbose := true }
  | .metricsPath => .ok { o with metricsPath := .ofValues values }
  | .logFile => .ok { o with logFile := .ofValues values }
  | .debugLog => .ok { o with debugLog := true }

/-- Takes the further switches that are written right behind a switch with one dash. Only switches
without arguments are written so, and the first of them ends the run, if all of them are known. -/
def chain (o : Options) (first current : Switch) : Text → Except Stop Options
  | [] => assign o first []
  | c :: rest =>
    match Switch.names.lookup [dash, c] with
    | some switch => chain o first switch rest
    | none => .error (.usage (.ignoredValue current (c :: rest)))

/-- Takes a switch with a value of its own. -/
def takeValue (p : Progress) (switch : Switch) (name value : Text) : Except Stop Progress :=
  let options := match switch.arity with
    | .none =>
      if name.length = 2 ∧ value ≠ [] then chain p.options switch switch value
      else .error (.usage (.ignoredValue switch value))
    | _ => assign p.options switch [value]
  options.map fun options => { p with options }

/-- Takes an argument when no switch is waiting. -/
def takeFresh (p : Progress) (argument : Text) : Token → Except Stop Progress
  | .switch switch name (some value) => takeValue p switch name value
  | .switch switch _ none =>
    match switch.arity with
    | .none => (assign p.options switch []).map fun options => { p with options }
    | .one => .ok { p with waiting := .one switch }
    | .any => .ok { p with waiting := .any switch [] }
  | _ => .ok { p with leftOver := p.leftOver ++ [argument] }

def take (p : Progress) (argument : Text) (token : Token) : Except Stop Progress :=
  match p.waiting, token with
  | .nothing, token => takeFresh p argument token
  | .one switch, .plain =>
    (assign p.options switch [argument]).map fun options =>
      { p with options, waiting := .nothing }
  | .one switch, _ => .error (.usage (.expectedOne switch))
  | .any switch values, .plain => .ok { p with waiting := .any switch (values ++ [argument]) }
  | .any switch values, token =>
    match assign p.options switch values with
    | .error error => .error error
    | .ok options => takeFresh { p with options, waiting := .nothing } argument token

def takeAll (p : Progress) : List (Text × Token) → Except Stop Progress
  | [] =>
    match p.waiting with
    | .nothing => .ok p
    | .one switch => .error (.usage (.expectedOne switch))
    | .any switch values =>
      (assign p.options switch values).map fun options => { p with options, waiting := .nothing }
  | (argument, token) :: rest =>
    match take p argument token with
    | .error error => .error error
    | .ok p => takeAll p rest

def parse (arguments : List Text) : Except Stop Options :=
  match tokens arguments with
  | .error error => .error (.usage error)
  | .ok tokens =>
    match takeAll {} tokens with
    | .error error => .error error
    | .ok p =>
      if p.leftOver.isEmpty then .ok p.options
      else .error (.usage (.unrecognized p.leftOver))

end RequestCheck.Options
