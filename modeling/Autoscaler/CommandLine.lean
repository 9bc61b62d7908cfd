import Autoscaler.Settings.Basic

/-!
# The command line

Options come from the arguments of the process and, where those leave one out, from variables of
its environment. The first mistake ends the reading.
-/

namespace Autoscaler.CommandLine

inductive Opt where
  | logLevel
  | address
  | scanInterval
  | kubeconfig
  | nodeGroups
  | dryMode
deriving DecidableEq, Repr

namespace Opt

/-- All options, in the order in which the environment is looked at. -/
def all : List Opt := [logLevel, address, scanInterval, kubeconfig, nodeGroups, dryMode]

def long : Opt → String
  | logLevel => "loglevel"
  | address => "address"
  | scanInterval => "scaninterval"
  | kubeconfig => "kubeconfig"
  | nodeGroups => "nodegroups"
  | dryMode => "drymode"

def envName : Opt → String
  | logLevel => "NODESCALER_LOGLEVEL"
  | address => "NODESCALER_ADDRESS"
  | scanInterval => "NODESCALER_SCAN_INTERVAL"
  | kubeconfig => "NODESCALER_KUBECONFIG"
  | nodeGroups => "NODESCALER_NODEGROUPS"
  | dryMode => "NODESCALER_DRYMODE"

def takesValue : Opt → Bool
  | dryMode => false
  | _ => true

end Opt

/-- Why reading the command line ends without options. -/
inductive Stop where
  | help
  | version
  | missingArgument
  | unknownArgument
  /-- A value is missing, or is none of the possible ones. -/
  | invalidValue
  | malformedValue
  | repeatedOption
  /-- A value is given to an option that takes none. -/
  | unneededValue
deriving DecidableEq, Repr

inductive Request where
  | option (o : Opt)
  | help
  | version
deriving DecidableEq, Repr

def Request.ofLong? (name : String) : Option Request :=
  if name = "help" then some .help
  else if name = "version" then some .version
  else (Opt.all.find? (·.long == name)).map .option

structure Given where
  logLevel : Option Int64 := none
  address : Option String := none
  scanInterval : Option String := none
  kubeconfig : Option String := none
  nodeGroups : Option String := none
  dryMode : Option Bool := none

namespace Given

def has (g : Given) : Opt → Bool
  | .logLevel => g.logLevel.isSome
  | .address => g.address.isSome
  | .scanInterval => g.scanInterval.isSome
  | .kubeconfig => g.kubeconfig.isSome
  | .nodeGroups => g.nodeGroups.isSome
  | .dryMode => g.dryMode.isSome

def put (g : Given) (o : Opt) (value : String) : Except Stop Given :=
  match o with
  | .logLevel =>
    match Text.readInt64 value.toList with
    | some n => .ok { g with logLevel := some n }
    | none => .error .malformedValue
  | .address => .ok { g with address := some value }
  | .scanInterval => .ok { g with scanInterval := some value }
  | .kubeconfig => .ok { g with kubeconfig := some value }
  | .nodeGroups =>
    if value.isEmpty then .error .invalidValue else .ok { g with nodeGroups := some value }
  | .dryMode =>
    if value = "true" then .ok { g with dryMode := some true }
    else if value = "false" then .ok { g with dryMode := some false }
    else .error .invalidValue

/-- Sets an option that must not be set yet. -/
def putOnce (g : Given) (o : Opt) (value : String) : Except Stop Given :=
  if g.has o then .error .repeatedOption else g.put o value

end Given

structure State where
  given : Given := {}
  /-- An option that is not yet settled, with its value once that is there. -/
  pending : Option (Opt × Option String) := none
  trailing : Bool := false

namespace State

def settle (s : State) : Except Stop State :=
  match s.pending with
  | none => .ok s
  | some (_, none) => .error .invalidValue
  | some (o, some value) => do return { s with given := ← s.given.putOnce o value, pending := none }

def take (s : State) (r : Request) (attached : Option String) : Except Stop State :=
  match r with
  | .help => do
    let _ ← s.settle
    .error .help
  | .version => do
    let _ ← s.settle
    .error .version
  | .option o => do
    let s ← s.settle
    if o.takesValue then
      match attached with
      | some value => return { s with given := ← s.given.putOnce o value }
      | none => return { s with pending := some (o, none) }
    else return { s with given := ← s.given.putOnce o "true" }

def takeValue (s : State) (arg : String) : Except Stop State :=
  match s.pending with
  | some (o, none) => .ok { s with pending := some (o, some arg) }
  | _ => .error .unknownArgument

end State

/-- Whether the text after a dash makes a negative number: digits with at most one point and one
exponent letter, neither of them first and the letter not last. -/
def isNumber (s : List Char) : Bool := go false false true s
where
  go (dot exponent first : Bool) : List Char → Bool
    | [] => true
    | c :: rest =>
      if c.isDigit then go dot exponent false rest
      else if c = '.' then !dot && !exponent && !first && go true exponent false rest
      else if c = 'e' then !exponent && !first && !rest.isEmpty && go dot true false rest
      else false

/-- The text before and after the first equals sign, if there is one. -/
def splitEquals (s : List Char) : String × Option String :=
  (String.ofList (s.takeWhile (· != '=')),
    match s.dropWhile (· != '=') with
    | [] => none
    | _ :: value => some (String.ofList value))

def readLong (s : State) (arg : List Char) : Except Stop State :=
  let (name, attached) := splitEquals arg
  match Request.ofLong? name with
  | none => .error .unknownArgument
  | some r =>
    let takesValue := match r with
      | .option o => o.takesValue
      | _ => false
    if attached.isSome && !takesValue then .error .unneededValue else s.take r attached

/-- An argument after one dash; the text after a letter is its value. -/
def readShort (s : State) (arg : List Char) : Except Stop State :=
  match arg with
  | 'v' :: [] => s.take (.option .logLevel) none
  | 'v' :: '=' :: value => s.take (.option .logLevel) (some (String.ofList value))
  | 'v' :: value => s.take (.option .logLevel) (some (String.ofList value))
  | 'h' :: _ => s.take .help none
  | 'V' :: _ => s.take .version none
  | _ => .error .unknownArgument

def readArgument (s : State) (arg : String) : Except Stop State :=
  if s.trailing then .error .unknownArgument
  else match arg.toList with
    | ['-', '-'] => .ok { s with trailing := true }
    | '-' :: '-' :: rest => readLong s rest
    | ['-'] => s.takeValue arg
    | '-' :: rest =>
      if s.pending == some (.logLevel, none) && isNumber rest then s.takeValue arg
      else readShort s rest
    | _ => s.takeValue arg

abbrev Environment := List (String × String)

def Environment.get? (env : Environment) (name : String) : Option String :=
  (env.find? (·.1 == name)).map Prod.snd

/-- Takes options that are not given from the environment. -/
def readEnvironment (env : Environment) (g : Given) : Except Stop Given :=
  Opt.all.foldlM
    (fun g o => match env.get? o.envName with
      | some value => if g.has o then .ok g else g.put o value
      | none => .ok g)
    g

/-- The options that are given, and the usual values of the others. -/
def Given.options (g : Given) : Except Stop Options :=
  match g.nodeGroups with
  | none => .error .missingArgument
  | some nodeGroups =>
    let usual : Options := { nodeGroups }
    .ok { logLevel := g.logLevel.getD usual.logLevel
          address := g.address.getD usual.address
          scanInterval := g.scanInterval.getD usual.scanInterval
          kubeconfig := g.kubeconfig
          nodeGroups
          dryMode := g.dryMode.getD usual.dryMode }

def read (args : List String) (env : Environment) : Except Stop Options := do
  let s ← args.foldlM readArgument {}
  let s ← s.settle
  (← readEnvironment env s.given).options

def versionText : String := "nodescaler 0.1.0\n"

/-- What the help says on an option: its signature, its meaning and its usual value. -/
def describe : Opt → String × String × Option String
  | .logLevel =>
    ("-v, --loglevel <LOGLEVEL>",
      "Logging level, 0 (panic) through 5 (debug). 4 for info, 5 for debug", some "4")
  | .address => ("    --address <ADDRESS>", "Address to listen to for /metrics", some ":8080")
  | .scanInterval =>
    ("    --scaninterval <SCAN_INTERVAL>",
      "How often the cluster is reevaluated for scale up or down", some "60s")
  | .kubeconfig =>
    ("    --kubeconfig <KUBECONFIG>",
      "Kubeconfig file location. When omitted the in-cluster config is used", none)
  | .nodeGroups => ("    --nodegroups <NODEGROUPS>", "Config file for node groups", none)
  | .dryMode =>
    ("    --drymode", "Master dry mode switch. If set, forces dry mode on all node groups", none)

/-- A signature and its meaning on one line, aligned with the others. -/
def helpLine (signature meaning : String) : String :=
  "  " ++ signature ++ String.ofList (List.replicate (36 - signature.length) ' ') ++ meaning ++ "\n"

/-- The help on an option, with its variable and the value that this has. -/
def optionHelp (env : Environment) (o : Opt) : String :=
  let (signature, meaning, usual) := describe o
  helpLine signature <| meaning ++ " [env: " ++ o.envName ++ "=" ++
    (env.get? o.envName).getD "" ++ "]" ++ usual.elim "" fun value => " [default: " ++ value ++ "]"

def helpText (env : Environment) : String :=
  "Scales Kubernetes node groups\n\nUsage: nodescaler [OPTIONS] --nodegroups <NODEGROUPS>\n\n" ++
    "Options:\n" ++ String.join (Opt.all.map (optionHelp env)) ++
    helpLine "-h, --help" "Print help" ++ helpLine "-V, --version" "Print version"

end Autoscaler.CommandLine
