import Reckon.Calculator
import Reckon.CommandArguments
import Reckon.JsonReader

/-!
# The command

`eval` prints the value of a formula, `postfix` its program, and `tokens` its tokens with their
places. Values for names come from a file that holds a JSON object, and then from definitions. A run
that fails prints what it was doing and, below, why that failed.
-/

namespace Reckon

inductive FileFault where
  | notFound
  | notAllowed
  | isDirectory
  | notDirectory
  | notText
  | other (text : String)

namespace FileFault

def message : FileFault → String
  | notFound => "No such file or directory (os error 2)"
  | notAllowed => "Permission denied (os error 13)"
  | isDirectory => "Is a directory (os error 21)"
  | notDirectory => "Not a directory (os error 20)"
  | notText => "stream did not contain valid UTF-8"
  | other text => text

end FileFault

abbrev Files := String → Except FileFault String

/-- What a run leaves behind. -/
structure Report where
  exit : Nat
  output : String
  errors : String

/-- What failed, and the reasons from the nearest to the last. -/
structure Failure where
  task : String
  reasons : List String

namespace Failure

/-- Further lines of a reason stand below its first one. -/
def indented (indent reason : String) : String :=
  String.ofList (reason.toList.flatMap fun c => if c = '\n' then '\n' :: indent.toList else [c])

def numbered (n : Nat) (reason : String) : String :=
  let number := toString n
  "\n" ++ "".pushn ' ' (5 - number.length) ++ number ++ ": " ++ indented "       " reason

def text (f : Failure) : String :=
  let reasons :=
    match f.reasons with
    | [] => ""
    | [reason] => "\n\nCaused by:\n    " ++ indented "    " reason
    | reasons => "\n\nCaused by:" ++ String.join (reasons.mapIdx numbered)
  "Error: " ++ f.task ++ reasons ++ "\n"

def report (f : Failure) : Report :=
  ⟨1, "", f.text⟩

end Failure

namespace CalculatorError

/-- The error as a whole, and then the error it carries. -/
def reasons (e : CalculatorError) : List String :=
  match e with
  | syntaxError error => [e.message, error.text]
  | evaluation error => [e.message, error.message]

end CalculatorError

namespace CommandLine

def jsonKind : Json → String
  | .null => "null"
  | .boolean _ => "a boolean"
  | .integer _ => "a number"
  | .float _ => "a number"
  | .string _ => "a string"
  | .array _ => "an array"
  | .object _ => "an object"

def loadVariables (files : Files) (path : String) : Except Failure (List (String × Value)) :=
  match files path with
  | .error fault => .error ⟨s!"Failed to read '{path}'", [fault.message]⟩
  | .ok text =>
    match readJson text.toList with
    | .error e => .error ⟨s!"Failed to parse '{path}' as JSON", [e.message]⟩
    | .ok (.object fields) => .ok (fields.map fun field => (field.1, Value.ofJson field.2))
    | .ok document =>
      .error ⟨s!"'{path}' must contain a JSON object, found {jsonKind document}", []⟩

/-- The value a text is taken for on the command line. -/
def valueOfText (s : List Char) : Value :=
  match (readInt? s).bind toInt64? with
  | some n => .ofInt n.toInt
  | none =>
    match decimalOf? s with
    | some x => .double x
    | none =>
      if sameLetters s "true".toList then .boolean true
      else if sameLetters s "false".toList then .boolean false
      else if sameLetters s "null".toList then .null
      else .string (String.ofList s)

def readDefinition (definition : String) : Except Failure (String × Value) :=
  match splitAtFirst? '=' definition.toList with
  | none => .error ⟨s!"Invalid definition '{definition}': expected NAME=VALUE", []⟩
  | some (name, value) =>
    if (trim name).isEmpty then
      .error ⟨s!"Invalid definition '{definition}': empty variable name", []⟩
    else .ok (String.ofList (trim name), valueOfText value)

def resultText : Value → String
  | .array items => String.ofList ((Value.array items).toJson.laidOut 0)
  | .object document => String.ofList (document.laidOut 0)
  | v => v.text

def evaluate (moments : Moments) (files : Files) (call : Invocation) : Except Failure String := do
  let rule := if call.ignoreCase then .ignoringCase else .exact
  let c ← (Calculator.new rule .standard).setFormula call.formula
    |>.mapError fun (e : CalculatorError) => ⟨s!"Failed to parse '{call.formula}'", e.reasons⟩
  let loaded ←
    match call.vars with
    | none => .ok []
    | some path => loadVariables files path
  let defined ← call.definitions.mapM readDefinition
  let scope := (c.scope.setAll loaded).setAll defined
  let v ← Calculator.evaluate { c with scope } moments
    |>.mapError fun (e : CalculatorError) => ⟨"Evaluation failed", e.reasons⟩
  .ok (resultText v ++ "\n")

def program (call : Invocation) : Except Failure String :=
  match Program.parse call.formula with
  | .ok p => .ok (p.text ++ "\n")
  | .error e => .error ⟨s!"Failed to parse '{call.formula}'", [e.text]⟩

def kindLabel : TokenKind → String
  | .action (.constant _) => "constant"
  | .action (.name _) => "variable"
  | .action (.call _ _) => "function"
  | .action (.operator _) => "operator"
  | .mark _ => "symbol"
  | .unknown _ => "unknown"
  | .ending => "eof"

def padStart (width : Nat) (s : String) : String :=
  "".pushn ' ' (width - s.length) ++ s

def padEnd (width : Nat) (s : String) : String :=
  s.pushn ' ' (width - s.length)

def tokenLine (t : Token) : String :=
  padStart 4 (toString t.position.line) ++ ":" ++ padEnd 4 (toString t.position.column) ++ " " ++
    padEnd 9 (kindLabel t.kind) ++ " " ++ t.kind.text ++ "\n"

def tokens (call : Invocation) : String :=
  String.join ((readTokens .formula call.formula.toList).map tokenLine)

/-! ### Usage -/

def usage : Option Subcommand → String
  | none => "Usage: exprcalc [OPTIONS] <COMMAND>\n"
  | some .evaluate => "Usage: exprcalc eval [OPTIONS] <EXPRESSION>\n"
  | some subcommand => s!"Usage: exprcalc {subcommand.name} [OPTIONS] <EXPRESSION>\n"

def stopText : ArgumentStop → String
  | .unknownSwitch text => s!"unexpected argument '{text}' found"
  | .missingValue switch => s!"a value is required for '--{switch.long}' but none was supplied"
  | .unneededValue switch => s!"unexpected value for '--{switch.long}' found"
  | .emptyValue switch => s!"a value is required for '--{switch.long}' but none was supplied"
  | .repeated switch => s!"the argument '--{switch.long}' cannot be used multiple times"
  | .tooMany text => s!"unexpected argument '{text}' found"
  | .missingFormula => "the following required arguments were not provided: <EXPRESSION>"
  | .unknownSubcommand text => s!"unrecognized subcommand '{text}'"
  | .missingSubcommand => "a subcommand is required"
  | .help _ => ""
  | .version => ""

def stopReport : ArgumentStop → Report
  | .help subcommand => ⟨0, usage subcommand, ""⟩
  | .version => ⟨0, "exprcalc 0.1.0\n", ""⟩
  | stop => ⟨2, "", s!"error: {stopText stop}\n\n{usage none}"⟩

def run (moments : Moments) (files : Files) (arguments : List String) : Report :=
  match Invocation.read arguments with
  | .error stop => stopReport stop
  | .ok call =>
    let printed :=
      match call.subcommand with
      | .evaluate => evaluate moments files call
      | .program => program call
      | .tokens => .ok (tokens call)
    match printed with
    | .ok output => ⟨0, output, ""⟩
    | .error failure => failure.report

end CommandLine

end Reckon
