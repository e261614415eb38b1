import Mathlib.Data.List.Induction
import Reckon.Calculator

/-!
# Runs of a calculator

A calculator is given formulas to keep, is asked for values, and has its named values and functions
changed. Requests assign to its parts one after the other, and what is assigned before a refusal
stays assigned. Even so its formula and its program stay in step: they are those of the last text
that could be read, or both empty where there was none.
-/

namespace Reckon

namespace Calculator

/-! ### Requests -/

inductive Request where
  | setFormula (text : String)
  | evaluate (moments : Moments)
  | evaluateWith (known : Variables) (moments : Moments)
  | changeScope (change : Scope → Scope)
  | changeLibrary (change : Library → Library)

abbrev Steps := ExceptT CalculatorError (StateM Calculator)

namespace Request

def perform : Request → Steps (Option Value)
  | setFormula text => do
    let program ← liftExcept ((Program.parse text).mapError CalculatorError.syntaxError)
    modify fun c => { c with formula := text }
    modify fun c => { c with program }
    return none
  | evaluate moments => do
    return some (← liftExcept ((← get).evaluate moments))
  | evaluateWith known moments => do
    return some (← liftExcept ((← get).evaluateWith known moments))
  | changeScope change => do
    modify fun c => { c with scope := change c.scope }
    return none
  | changeLibrary change => do
    modify fun c => { c with library := change c.library }
    return none

def text? : Request → Option String
  | setFormula text => some text
  | _ => none

end Request

def answer (c : Calculator) (request : Request) :
    Except CalculatorError (Option Value) × Calculator :=
  (request.perform.run.run c).run

def after (c : Calculator) (requests : List Request) : Calculator :=
  requests.foldl (fun c request => (c.answer request).2) c

theorem after_concat (c : Calculator) (requests : List Request) (request : Request) :
    c.after (requests ++ [request]) = ((c.after requests).answer request).2 := by
  rw [after, List.foldl_append]
  rfl

/-! ### One request -/

section

variable {c : Calculator} {text : String}

theorem answer_setFormula_of_ok {program : Program} (h : Program.parse text = .ok program) :
    c.answer (.setFormula text) = (.ok none, { c with formula := text, program }) := by
  rw [answer, Request.perform, h]
  rfl

theorem answer_setFormula_of_error {e : SyntaxError} (h : Program.parse text = .error e) :
    c.answer (.setFormula text) = (.error (.syntaxError e), c) := by
  rw [answer, Request.perform, h]
  rfl

/-- Assigning part by part comes to the same as `setFormula`, which gives the whole calculator or
none. -/
theorem answer_setFormula :
    c.answer (.setFormula text) =
      match c.setFormula text with
      | .ok next => (.ok none, next)
      | .error e => (.error e, c) := by
  rw [setFormula]
  cases h : Program.parse text with
  | ok program => exact answer_setFormula_of_ok h
  | error e => exact answer_setFormula_of_error h

/-- What is asked of the calculator is asked of the one there is, and not assigned anywhere. -/
theorem answer_ask (asked : Except CalculatorError Value) :
    (((do return some (← liftExcept asked)) : Steps (Option Value)).run.run c).run =
      (asked.map some, c) := by
  cases asked with
  | ok v => rfl
  | error e => rfl

theorem answer_evaluate (moments : Moments) :
    c.answer (.evaluate moments) = ((c.evaluate moments).map some, c) :=
  answer_ask (c.evaluate moments)

theorem answer_evaluateWith (known : Variables) (moments : Moments) :
    c.answer (.evaluateWith known moments) = ((c.evaluateWith known moments).map some, c) :=
  answer_ask (c.evaluateWith known moments)

end

/-- Each request does what it is for and nothing else. -/
structure Answers (c : Calculator) : Prop where
  refused : ∀ text e, Program.parse text = .error e →
    c.answer (.setFormula text) = (.error (.syntaxError e), c)
  taken : ∀ text program, Program.parse text = .ok program →
    c.answer (.setFormula text) = (.ok none, { c with formula := text, program })
  whole : ∀ text, c.answer (.setFormula text) =
    match c.setFormula text with
    | .ok next => (.ok none, next)
    | .error e => (.error e, c)
  value : ∀ moments, c.answer (.evaluate moments) = ((c.evaluate moments).map some, c)
  valueWith : ∀ known moments,
    c.answer (.evaluateWith known moments) = ((c.evaluateWith known moments).map some, c)
  scope : ∀ change, c.answer (.changeScope change) = (.ok none, { c with scope := change c.scope })
  library : ∀ change,
    c.answer (.changeLibrary change) = (.ok none, { c with library := change c.library })

theorem answers (c : Calculator) : c.Answers where
  refused := fun _ _ => answer_setFormula_of_error
  taken := fun _ _ => answer_setFormula_of_ok
  whole := fun _ => answer_setFormula
  value := answer_evaluate
  valueWith := answer_evaluateWith
  scope := fun _ => rfl
  library := fun _ => rfl

/-! ### Many requests -/

def Readable (text : String) : Prop :=
  ∃ program, Program.parse text = .ok program

/-- Formula and program are those of the last of the texts that can be read, and both empty if there
is none. -/
def InStep (texts : List String) (c : Calculator) : Prop :=
  ((∀ text ∈ texts, ¬Readable text) ∧ c.formula = "" ∧ c.program = .empty) ∨
    ∃ earlier text later, texts = earlier ++ text :: later ∧ (∀ other ∈ later, ¬Readable other) ∧
      c.formula = text ∧ Program.parse text = .ok c.program

namespace InStep

variable {texts : List String} {c c' : Calculator}

/-- Without a further text nothing but the formula and the program matters. -/
theorem append_nil (h : InStep texts c) (hformula : c'.formula = c.formula)
    (hprogram : c'.program = c.program) : InStep (texts ++ []) c' := by
  rw [List.append_nil, InStep, hformula, hprogram]
  exact h

/-- A text that cannot be read may come last. -/
theorem concat_of_not_readable (h : InStep texts c) {text : String} (htext : ¬Readable text) :
    InStep (texts ++ [text]) c := by
  have hlast {later : List String} (hlater : ∀ other ∈ later, ¬Readable other) :
      ∀ other ∈ later ++ [text], ¬Readable other := by
    intro other hother
    rcases List.mem_append.mp hother with hother | hother
    · exact hlater other hother
    · exact List.mem_singleton.mp hother ▸ htext
  rcases h with ⟨hnone, hempty⟩ | ⟨earlier, last, later, rfl, hlater, hc⟩
  · exact .inl ⟨hlast hnone, hempty⟩
  · exact .inr ⟨earlier, last, later ++ [text], by simp, hlast hlater, hc⟩

theorem concat_of_parse {text : String} (hformula : c.formula = text)
    (hparse : Program.parse text = .ok c.program) : InStep (texts ++ [text]) c :=
  .inr ⟨texts, text, [], rfl, nofun, hformula, hparse⟩

/-- What one request preserves. -/
theorem answer (h : InStep texts c) (request : Request) :
    InStep (texts ++ request.text?.toList) (c.answer request).2 := by
  cases request with
  | setFormula text =>
    cases hparse : Program.parse text with
    | ok program =>
      rw [c.answers.taken text program hparse]
      exact concat_of_parse rfl hparse
    | error e =>
      have htext : ¬Readable text := by
        rintro ⟨program, hok⟩
        rw [hparse] at hok
        exact absurd hok nofun
      rw [c.answers.refused text e hparse]
      exact h.concat_of_not_readable htext
  | evaluate moments =>
    rw [c.answers.value]
    exact h.append_nil rfl rfl
  | evaluateWith known moments =>
    rw [c.answers.valueWith]
    exact h.append_nil rfl rfl
  | changeScope change =>
    rw [c.answers.scope]
    exact h.append_nil rfl rfl
  | changeLibrary change =>
    rw [c.answers.library]
    exact h.append_nil rfl rfl

end InStep

/-- Whatever is asked of a calculator, its formula and program are those of the last text that could
be read, and both empty before there is one. A text that cannot be read is refused with the reason
for which it cannot, and changes nothing; asking for values changes nothing; named values and
functions change without formula and program. -/
theorem in_step_after (rule : TextRule) (library : Library) (requests : List Request) :
    InStep (requests.filterMap Request.text?) ((new rule library).after requests) ∧
      ((new rule library).after requests).Answers := by
  refine ⟨?_, answers _⟩
  induction requests using List.reverseRecOn with
  | nil => exact .inl ⟨nofun, rfl, rfl⟩
  | append_singleton requests request ih =>
    rw [after_concat, List.filterMap_append, List.filterMap_cons, List.filterMap_nil]
    convert ih.answer request using 2
    cases request.text? <;> rfl

end Calculator

end Reckon
