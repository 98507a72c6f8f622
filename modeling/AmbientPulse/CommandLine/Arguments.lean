import AmbientPulse.Number.Integer

namespace AmbientPulse.CommandLine

structure Options where
  config : Option String := none
  fireInterval : Option UInt64 := none
  duration : Option UInt64 := none
  deriving DecidableEq, Repr

/-- Milliseconds between two simulated fires. -/
def Options.interval (o : Options) : UInt64 :=
  o.fireInterval.getD 2000

/-- The options that take a value. -/
inductive OptionName where
  | config
  | fireInterval
  | duration
  deriving DecidableEq, Repr

inductive UsageFault where
  | unknownOption (text : String)
  | missingValue (option : OptionName)
  | unwantedValue (text : String)
  | badValue (option : OptionName) (value : String)
  | repeatedOption (option : OptionName)
  | positional (text : String)
  deriving DecidableEq, Repr

inductive Request where
  | help
  | version
  | run (options : Options)
  deriving DecidableEq, Repr

namespace OptionName

def long : OptionName → String
  | config => "config"
  | fireInterval => "fire-interval-ms"
  | duration => "duration-secs"

def all : List OptionName :=
  [config, fireInterval, duration]

end OptionName

def UsageFault.message : UsageFault → String
  | unknownOption text => s!"unexpected argument '{text}' found"
  | missingValue o => s!"a value is required for '--{o.long}' but none was supplied"
  | unwantedValue text => s!"unexpected value in '{text}'"
  | badValue o value => s!"invalid value '{value}' for '--{o.long}'"
  | repeatedOption o => s!"the argument '--{o.long}' cannot be used multiple times"
  | positional text => s!"unexpected argument '{text}' found"

/-- A path must not be empty. -/
def readPath (value : List Char) : Except UsageFault String :=
  if value.isEmpty then .error (.badValue .config "") else .ok (String.ofList value)

def readCount (o : OptionName) (value : List Char) : Except UsageFault UInt64 :=
  match Number.uint64? value with
  | some n => .ok n
  | none => .error (.badValue o (String.ofList value))

/-- Every option may be set once. -/
def Options.set (opts : Options) (o : OptionName) (value : List Char) :
    Except UsageFault Options :=
  match o with
  | .config =>
    if opts.config.isSome then .error (.repeatedOption o)
    else (readPath value).map fun path => { opts with config := some path }
  | .fireInterval =>
    if opts.fireInterval.isSome then .error (.repeatedOption o)
    else (readCount o value).map fun n => { opts with fireInterval := some n }
  | .duration =>
    if opts.duration.isSome then .error (.repeatedOption o)
    else (readCount o value).map fun n => { opts with duration := some n }

/-- What an argument is when no value is awaited. -/
inductive Shape where
  | escape
  | positional
  | long (name : List Char) (value : Option (List Char))
  | short (name : Char) (rest : List Char)

def splitAssignment (cs : List Char) : List Char × Option (List Char) :=
  match cs.dropWhile (· ≠ '=') with
  | [] => (cs, none)
  | _ :: value => (cs.takeWhile (· ≠ '='), some value)

def Shape.ofArgument : List Char → Shape
  | ['-', '-'] => .escape
  | '-' :: '-' :: cs =>
    let a := splitAssignment cs
    .long a.1 a.2
  | '-' :: c :: cs => .short c cs
  | _ => .positional

/-- What an argument leads to. -/
inductive Next where
  | answer (r : Request)
  | await (o : OptionName)
  | assign (o : OptionName) (value : List Char)
  | reject (f : UsageFault)

def longOption (text : String) (name : List Char) (value : Option (List Char)) : Next :=
  match OptionName.all.find? (·.long.toList = name), value with
  | some o, none => .await o
  | some o, some v => .assign o v
  | none, value =>
    if name = "help".toList then
      if value.isSome then .reject (.unwantedValue text) else .answer .help
    else if name = "version".toList then
      if value.isSome then .reject (.unwantedValue text) else .answer .version
    else .reject (.unknownOption text)

/-- A short option's value may follow it directly, or after an equals sign. -/
def shortOption (text : String) (name : Char) (rest : List Char) : Next :=
  if name = 'h' then .answer .help
  else if name = 'V' then .answer .version
  else if name = 'c' then
    match rest with
    | [] => .await .config
    | '=' :: value => .assign .config value
    | value => .assign .config value
  else .reject (.unknownOption text)

def looksLikeOption (cs : List Char) : Bool :=
  cs.head? == some '-' && cs != ['-']

/-- Read the arguments from left to right. The first fault, and the first request for help or the
version, ends the reading. -/
def parseFrom : Option OptionName → Options → List String → Except UsageFault Request
  | none, opts, [] => .ok (.run opts)
  | some o, _, [] => .error (.missingValue o)
  | some o, opts, a :: as =>
    if looksLikeOption a.toList then .error (.missingValue o)
    else (opts.set o a.toList).bind fun opts => parseFrom none opts as
  | none, opts, a :: as =>
    let follow (n : Next) : Except UsageFault Request :=
      match n with
      | .answer r => .ok r
      | .reject f => .error f
      | .await o => parseFrom (some o) opts as
      | .assign o value => (opts.set o value).bind fun opts => parseFrom none opts as
    match Shape.ofArgument a.toList with
    | .escape =>
      match as with
      | [] => .ok (.run opts)
      | b :: _ => .error (.positional b)
    | .positional => .error (.positional a)
    | .long name value => follow (longOption a name value)
    | .short name rest => follow (shortOption a name rest)

/-- A configuration path from the environment stands in for one that is not given. -/
def parse (args : List String) (configVariable : Option String) : Except UsageFault Request :=
  match parseFrom none {} args with
  | .ok (.run opts) =>
    match opts.config, configVariable with
    | none, some path => (opts.set .config path.toList).map .run
    | _, _ => .ok (.run opts)
  | r => r

end AmbientPulse.CommandLine
