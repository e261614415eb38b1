/-!
# Command arguments

The command takes a subcommand with one formula and switches around it. A switch has a short form, a
long form or both; short ones can be written together, and a value stands after its switch, with an
equals sign or directly after a short one. What begins with a hyphen is never a value, and after `--`
nothing is a switch. Only definitions may be given more than once.
-/

namespace Reckon

inductive Switch where
  | verbose
  | define
  | vars
  | ignoreCase
  | help
  | version
deriving DecidableEq

namespace Switch

def short? : Switch → Option Char
  | verbose => some 'v'
  | define => some 'D'
  | vars => none
  | ignoreCase => some 'i'
  | help => some 'h'
  | version => some 'V'

def long : Switch → String
  | verbose => "verbose"
  | define => "define"
  | vars => "vars"
  | ignoreCase => "ignore-case"
  | help => "help"
  | version => "version"

def takesValue : Switch → Bool
  | define | vars => true
  | _ => false

def ofShort? (allowed : List Switch) (c : Char) : Option Switch :=
  allowed.find? fun switch => switch.short? == some c

def ofLong? (allowed : List Switch) (name : List Char) : Option Switch :=
  allowed.find? fun switch => switch.long.toList == name

end Switch

inductive Subcommand where
  | evaluate
  | program
  | tokens
deriving DecidableEq

namespace Subcommand

def name : Subcommand → String
  | evaluate => "eval"
  | program => "postfix"
  | tokens => "tokens"

def ofName? : String → Option Subcommand
  | "eval" => some evaluate
  | "postfix" => some program
  | "rpn" => some program
  | "tokens" => some tokens
  | _ => none

def switches : Subcommand → List Switch
  | evaluate => [.define, .vars, .ignoreCase, .verbose, .help]
  | _ => [.verbose, .help]

end Subcommand

/-- Why the arguments do not lead to a run. -/
inductive ArgumentStop where
  | unknownSwitch (text : String)
  | missingValue (switch : Switch)
  | unneededValue (switch : Switch)
  | emptyValue (switch : Switch)
  | repeated (switch : Switch)
  | tooMany (text : String)
  | missingFormula
  | unknownSubcommand (text : String)
  | missingSubcommand
  | help (subcommand : Option Subcommand)
  | version
deriving DecidableEq

structure Given where
  formula : Option String := none
  definitions : List String := []
  vars : Option String := none
  ignoreCase : Bool := false
  verbose : Bool := false

namespace Given

/-- Definitions stand latest first. -/
def setValue (g : Given) (switch : Switch) (value : List Char) : Except ArgumentStop Given :=
  match switch with
  | .vars =>
    if g.vars.isSome then .error (.repeated .vars)
    else if value.isEmpty then .error (.emptyValue .vars)
    else .ok { g with vars := some (String.ofList value) }
  | _ => .ok { g with definitions := String.ofList value :: g.definitions }

def setFlag (subcommand : Option Subcommand) (g : Given) (switch : Switch) :
    Except ArgumentStop Given :=
  match switch with
  | .help => .error (.help subcommand)
  | .version => .error .version
  | .ignoreCase =>
    if g.ignoreCase then .error (.repeated switch) else .ok { g with ignoreCase := true }
  | _ => if g.verbose then .error (.repeated switch) else .ok { g with verbose := true }

/-- Short switches written together; one that takes a value ends them, and its value may follow. -/
def shorts (subcommand : Option Subcommand) (allowed : List Switch) :
    Given → List Char → Except ArgumentStop (Given × Option Switch)
  | g, [] => .ok (g, none)
  | g, c :: rest =>
    match Switch.ofShort? allowed c with
    | none => .error (.unknownSwitch (String.ofList ['-', c]))
    | some switch =>
      if switch.takesValue then
        match rest with
        | [] => .ok (g, some switch)
        | '=' :: value => do .ok (← g.setValue switch value, none)
        | value => do .ok (← g.setValue switch value, none)
      else do shorts subcommand allowed (← g.setFlag subcommand switch) rest

def long (subcommand : Option Subcommand) (allowed : List Switch) (g : Given) (text : List Char) :
    Except ArgumentStop (Given × Option Switch) :=
  let name := text.takeWhile (· != '=')
  let value? := (text.drop name.length).tail?
  match Switch.ofLong? allowed name with
  | none => .error (.unknownSwitch ("--" ++ String.ofList name))
  | some switch =>
    match switch.takesValue, value? with
    | true, none => .ok (g, some switch)
    | true, some value => do .ok (← g.setValue switch value, none)
    | false, none => do .ok (← g.setFlag subcommand switch, none)
    | false, some _ => .error (.unneededValue switch)

def setFormula (g : Given) (text : String) : Except ArgumentStop Given :=
  if g.formula.isSome then .error (.tooMany text) else .ok { g with formula := some text }

/-- The arguments of a subcommand; `pending` waits for its value. -/
def read (subcommand : Subcommand) :
    Given → (pending : Option Switch) → List String → Except ArgumentStop Given
  | _, some switch, [] => .error (.missingValue switch)
  | g, none, [] => .ok g
  | g, pending, text :: rest =>
    match text.toList, pending with
    | '-' :: _ :: _, some switch => .error (.missingValue switch)
    | value, some switch => do read subcommand (← g.setValue switch value) none rest
    | ['-', '-'], none => rest.foldlM setFormula g
    | '-' :: '-' :: name, none => do
      let (g, pending) ← g.long (some subcommand) subcommand.switches name
      read subcommand g pending rest
    | '-' :: c :: more, none => do
      let (g, pending) ← g.shorts (some subcommand) subcommand.switches (c :: more)
      read subcommand g pending rest
    | _, none => do read subcommand (← g.setFormula text) none rest

end Given

/-- A subcommand with its formula. -/
structure Invocation where
  subcommand : Subcommand
  formula : String
  definitions : List String
  vars : Option String
  ignoreCase : Bool

namespace Invocation

def ofGiven (subcommand : Subcommand) (g : Given) : Except ArgumentStop Invocation :=
  match g.formula with
  | none => .error .missingFormula
  | some formula => .ok ⟨subcommand, formula, g.definitions.reverse, g.vars, g.ignoreCase⟩

def readHelp : List String → ArgumentStop
  | [] => .help none
  | [topic] =>
    match Subcommand.ofName? topic with
    | some subcommand => .help (some subcommand)
    | none => if topic = "help" then .help none else .unknownSubcommand topic
  | _ :: topic :: _ => .unknownSubcommand topic

/-- Switches may stand before the subcommand too. -/
def readFrom : Given → List String → Except ArgumentStop Invocation
  | _, [] => .error .missingSubcommand
  | g, text :: rest =>
    match text.toList with
    | ['-', '-'] => .error .missingSubcommand
    | '-' :: '-' :: name => do
      let (g, _) ← g.long none [.verbose, .help, .version] name
      readFrom g rest
    | '-' :: c :: more => do
      let (g, _) ← g.shorts none [.verbose, .help, .version] (c :: more)
      readFrom g rest
    | _ =>
      match Subcommand.ofName? text with
      | some subcommand => do ofGiven subcommand (← Given.read subcommand {} none rest)
      | none =>
        if text = "help" then .error (readHelp rest) else .error (.unknownSubcommand text)

def read (arguments : List String) : Except ArgumentStop Invocation :=
  readFrom {} arguments

end Invocation

end Reckon
