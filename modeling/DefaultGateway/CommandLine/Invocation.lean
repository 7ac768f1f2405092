import DefaultGateway.Selector

/-!
The words of a command line and the invocation they make up: options for the whole program, the
name of a command, and then that command's options and free words in any order.

An option has a short and a long spelling, and its value is the next word or follows in the same
word. An option is given at most once, and after the word `--` every word is free.
-/

namespace DefaultGateway.CommandLine

/-- What a command line fills in. -/
inductive Slot
  | config
  | logLevel
  | family
  | link
  | protocol
  | source
  /-- The one slot that a free word fills. -/
  | address
  deriving DecidableEq, Repr

namespace Slot

/-- The letter and the name of the option that fills a slot. -/
def option? : Slot → Option (Char × String)
  | .config => some ('c', "config")
  | .logLevel => some ('l', "log-level")
  | .family => some ('f', "af")
  | .link => some ('i', "link")
  | .protocol => some ('p', "protocol")
  | .source => some ('s', "source")
  | .address => none

end Slot

/-- Why a command line is not carried out. -/
inductive Stop
  | help
  | version
  /-- The words do not make up an invocation. -/
  | misuse
  deriving DecidableEq, Repr

/-- What has been filled in so far. -/
structure Values where
  config : Option String := none
  logLevel : Option String := none
  family : Option Family := none
  link : Option String := none
  protocol : Option Protocol := none
  source : Option Address := none
  address : Option Address := none
  deriving DecidableEq, Repr

namespace Values

/-- Fills an empty slot with a text that can be read. -/
def once {α : Type} (held read : Option α) : Except Stop (Option α) :=
  match held, read with
  | none, some a => .ok (some a)
  | _, _ => .error .misuse

def fill (v : Values) (slot : Slot) (text : String) : Except Stop Values :=
  match slot with
  | .config => do return { v with config := ← once v.config (some text |>.filter (· ≠ "")) }
  | .logLevel => do return { v with logLevel := ← once v.logLevel (some text) }
  | .family => do return { v with family := ← once v.family (Family.ofText? text) }
  | .link => do return { v with link := ← once v.link (some text) }
  | .protocol => do return { v with protocol := ← once v.protocol (Protocol.ofTag? text) }
  | .source => do return { v with source := ← once v.source (Address.ofText? text) }
  | .address => do return { v with address := ← once v.address (Address.ofText? text) }

def selector (v : Values) : Selector := ⟨v.family, v.link, v.protocol⟩

end Values

/-! ## Words -/

/-- A word seen on its own. -/
inductive Word
  | free
  /-- From here on all words are free. -/
  | divider
  | stop (reason : Stop)
  /-- An option, with its value if that stands in the same word. -/
  | option (slot : Slot) (value : Option String)
  deriving DecidableEq, Repr

namespace Word

/-- A word that is no option: it does not start with a hyphen, or it is one. -/
def isFree (word : String) : Bool := word = "-" || word.toList.head? != some '-'

/-- The value that stands after an option's letter, perhaps after an equals sign. -/
def attached? : List Char → Option String
  | [] => none
  | '=' :: value => some (.ofList value)
  | value => some (.ofList value)

/-- The word among these options; `stops` are the words that end the reading. -/
def ofText (slots : List Slot) (stops : List (Char × String × Stop)) (word : String) : Word :=
  if isFree word then .free
  else match word.toList with
    | ['-', '-'] => .divider
    | '-' :: '-' :: long =>
      let name := String.ofList (long.takeWhile (· != '='))
      let value := long.dropWhile (· != '=')
      match slots.find? (·.option?.any (·.2 == name)) with
      | some slot => .option slot (value.tail?.map .ofList)
      | none =>
        match stops.find? (·.2.1 == name) with
        | some (_, _, reason) => .stop (if value.isEmpty then reason else .misuse)
        | none => .stop .misuse
    | _ :: letter :: rest =>
      match slots.find? (·.option?.any (·.1 == letter)) with
      | some slot => .option slot (attached? rest)
      | none =>
        match stops.find? (·.1 == letter) with
        | some (_, _, reason) => .stop reason
        | none => .stop .misuse
    | _ => .free

end Word

def helpStop : Char × String × Stop := ('h', "help", .help)

def versionStop : Char × String × Stop := ('V', "version", .version)

/-! ## Commands -/

inductive Command
  | daemon
  /-- Asks a running daemon to reload the store. -/
  | signalDaemon
  | add (key : Candidate.Key) (address : Address) (source : Option Address)
  | remove (filter : Selector)
  /-- Prints the best stored gateway. -/
  | getDefault (filter : Selector)
  /-- Disables matching gateways without withdrawing them. -/
  | disable (filter : Selector)
  /-- Enables gateways that an equal or narrower filter disabled. -/
  | enable (filter : Selector)
  /-- Prints what the daemon would choose. -/
  | status
  deriving DecidableEq, Repr

namespace Command

/-- How a command is called for. -/
structure Form where
  name : String
  summary : String
  slots : List Slot := []
  build : Values → Option Command

def filterSlots : List Slot := [.family, .link, .protocol]

def forms : List Form := [
  { name := "daemon", summary := "Run the selection daemon", build := fun _ => some .daemon },
  { name := "signal-daemon", summary := "Ask a running daemon to reload the registration store"
    build := fun _ => some .signalDaemon },
  { name := "add", summary := "Register a default gateway"
    slots := filterSlots ++ [.source, .address]
    build := fun v => do
      return .add ⟨← v.protocol, ← v.link, ← v.family⟩ (← v.address) v.source },
  { name := "remove", summary := "Withdraw matching gateways"
    slots := filterSlots, build := fun v => some (.remove v.selector) },
  { name := "get-default", summary := "Print the best stored gateway for the filter"
    slots := filterSlots, build := fun v => some (.getDefault v.selector) },
  { name := "disable", summary := "Disable matching gateways without withdrawing them"
    slots := filterSlots, build := fun v => some (.disable v.selector) },
  { name := "enable"
    summary := "Re-enable gateways disabled by an equal or narrower filter"
    slots := filterSlots, build := fun v => some (.enable v.selector) },
  { name := "status", summary := "Print kernel state, candidates and decisions as JSON"
    build := fun _ => some .status }]

def form? (name : String) : Option Form := forms.find? (·.name == name)

namespace Form

/-- Takes a free word, for which there must be a slot. -/
def takeFree (f : Form) (given : Values) (word : String) : Except Stop Values :=
  if f.slots.contains .address then given.fill .address word else .error .misuse

/-- Reads the words after a command's name. -/
def readWords (f : Form) (given : Values) : List String → Except Stop Values
  | [] => .ok given
  | word :: rest =>
    match Word.ofText f.slots [helpStop] word with
    | .free => do readWords f (← f.takeFree given word) rest
    | .divider => rest.foldlM f.takeFree given
    | .stop reason => .error reason
    | .option slot (some value) => do readWords f (← given.fill slot value) rest
    | .option slot none =>
      match rest with
      | value :: rest =>
        if Word.isFree value then do readWords f (← given.fill slot value) rest
        else .error .misuse
      | [] => .error .misuse

def read (f : Form) (words : List String) : Except Stop Command := do
  match f.build (← f.readWords {} words) with
  | some command => return command
  | none => throw .misuse

end Form

/-- The command of a name and the words after it. The command `help` takes at most one name, its
own included. -/
def read (name : String) (words : List String) : Except Stop Command :=
  if name = "help" then
    match words with
    | [] => .error .help
    | [topic] =>
      .error (if topic = "help" ∨ (form? topic).isSome then .help else .misuse)
    | _ => .error .misuse
  else match form? name with
    | some form => form.read words
    | none => .error .misuse

end Command

/-! ## Invocations -/

structure Invocation where
  config : String := "/usr/local/etc/defaultconf.yaml"
  logLevel : String := "info"
  command : Command
  deriving DecidableEq, Repr

namespace Invocation

def slots : List Slot := [.config, .logLevel]

def build (given : Values) (command : Command) : Invocation :=
  let invocation : Invocation := { command := command }
  { invocation with
    config := given.config.getD invocation.config
    logLevel := given.logLevel.getD invocation.logLevel }

/-- Reads the words from here on. Whether an option's value in a word of its own can be taken is
settled at the next option, or else after the command has been read. -/
def readWords (given : Except Stop Values) : List String → Except Stop Invocation
  | [] => .error .misuse
  | word :: rest =>
    match Word.ofText slots [helpStop, versionStop] word with
    | .free => do
      let command ← Command.read word rest
      return build (← given) command
    | .divider => .error .misuse
    | .stop reason => do
      let _ ← given
      throw reason
    | .option slot (some value) => do readWords (.ok (← (← given).fill slot value)) rest
    | .option slot none => do
      let given ← given
      match rest with
      | value :: rest =>
        if Word.isFree value then readWords (given.fill slot value) rest else throw .misuse
      | [] => throw .misuse

def read (words : List String) : Except Stop Invocation := readWords (.ok {}) words

end Invocation

end DefaultGateway.CommandLine
