import Reckon.Calculator
import Reckon.Proofs.Filing
import Reckon.Proofs.TermEvaluation
import Reckon.Proofs.Widening

/-!
# Calls of standard functions

A function is found under its name if none registered later has the same one. No two functions of
the standard library have, so each of them is found, and a call with as many arguments as it takes
gives what it makes of them.
-/

namespace Reckon

theorem Function.accepts_variadic (name : String) {least count : Nat}
    (body : TextRule → Moment → List Value → Evaluated Value) (h : least ≤ count) :
    (Function.variadic name least body).accepts count = true := by
  simp only [accepts, variadic, h, decide_true, Bool.true_and, Option.map_none, Option.getD_none]

namespace Library

theorem get?_foldl_register {functions : List Function} {name : String}
    (h : ∀ f ∈ functions, nameKey f.name ≠ nameKey name) (library : Library) :
    (functions.foldl register library).get? name = library.get? name := by
  induction functions generalizing library with
  | nil => rfl
  | cons f functions ih =>
    obtain ⟨hf, hfunctions⟩ := List.forall_mem_cons.mp h
    rw [List.foldl_cons, ih hfunctions, register, Filed.get?_put, if_neg hf.symm]

/-- The function registered last under a name is the one that is found. -/
theorem get?_ofList {earlier later : List Function} {f : Function}
    (h : ∀ g ∈ later, nameKey g.name ≠ nameKey f.name) :
    (ofList (earlier ++ f :: later)).get? f.name = some f := by
  rw [ofList, List.foldl_append, List.foldl_cons, get?_foldl_register h, register, Filed.get?_put,
    if_pos rfl]

theorem get?_of_mem {functions : List Function} {f : Function}
    (hkeys : (functions.map fun g => nameKey g.name).Nodup) (hf : f ∈ functions) :
    (ofList functions).get? f.name = some f := by
  obtain ⟨earlier, later, rfl⟩ := List.append_of_mem hf
  rw [List.map_append, List.map_cons, List.nodup_append] at hkeys
  obtain ⟨hfirst, -⟩ := List.nodup_cons.mp hkeys.2.1
  exact get?_ofList fun g hg heq => hfirst (heq ▸ List.mem_map_of_mem hg)

/-! ### The standard library -/

def standardFunctions : List Function :=
  NumberLibrary.functions ++ ChoiceLibrary.functions ++ TimeLibrary.functions

section

variable {f : Function}

theorem mem_standard_of_number (h : f ∈ NumberLibrary.functions) : f ∈ standardFunctions :=
  List.mem_append_left _ (List.mem_append_left _ h)

theorem mem_standard_of_choice (h : f ∈ ChoiceLibrary.functions) : f ∈ standardFunctions :=
  List.mem_append_left _ (List.mem_append_right _ h)

theorem mem_standard_of_time (h : f ∈ TimeLibrary.functions) : f ∈ standardFunctions :=
  List.mem_append_right _ h

end

theorem nodup_keys_standardFunctions :
    (standardFunctions.map fun f => nameKey f.name).Nodup := by
  have hkeys : ((standardFunctions.map Function.name).map nameKey).Nodup := by decide +kernel
  rwa [List.map_map] at hkeys

theorem get?_standard (f : Function) (hf : f ∈ standardFunctions) :
    standard.get? f.name = some f :=
  get?_of_mem nodup_keys_standardFunctions hf

def call (moment : Moment) (rule : TextRule) (name : String) (arguments : List Value) :
    Evaluated Value :=
  Instruction.outcome rule (fun _ => none) standard.get? moment
    ⟨.call name arguments.length, .start⟩ arguments

theorem call_eq_body {moment : Moment} {arguments : List Value} (rule : TextRule) (f : Function)
    (hf : f ∈ standardFunctions) (haccepts : f.accepts arguments.length = true) :
    call moment rule f.name arguments = f.body rule moment arguments := by
  have hcheck : f.checkArity arguments.length = .ok () := if_pos haccepts
  simp only [call, Instruction.outcome, get?_standard f hf, hcheck, ok_bind]

end Library

theorem integerArgument_eq {arguments : List Value} {i : Nat} {v : Value} {n : Int}
    (hv : arguments[i]? = some v) (hn : v.wholeNumber? = some n) (function : String) :
    integerArgument function arguments i = .ok n := by
  obtain ⟨hplain, k, hk, rfl⟩ := Value.toLong?_of_wholeNumber? hn
  simp only [integerArgument, argument, hv, Option.getD_some, hplain, Bool.false_eq_true, if_false,
    hk]

end Reckon
