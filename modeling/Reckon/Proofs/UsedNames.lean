import Reckon.Calculator
import Reckon.Proofs.Filing

/-!
# A program depends on the names it uses

`Program.variableNames` and `Program.functionNames` list each name a program uses once, as it is
spelled where it is used first and in the order of these first uses. Whatever spellings the program
goes on to use, these lists cover every look-up its evaluation makes: two evaluations that find the
same under the listed names end alike.
-/

namespace Reckon

/-! ### First uses -/

def firstUse (uses : List String) (name : String) : Nat :=
  uses.findIdx fun use => nameKey use == nameKey name

theorem firstUse_cons_self {use name : String} (h : nameKey use = nameKey name)
    (uses : List String) : firstUse (use :: uses) name = 0 := by
  rw [firstUse, List.findIdx_cons, h, beq_self_eq_true, cond_true]

theorem firstUse_cons_of_ne {use name : String} (h : nameKey use ≠ nameKey name)
    (uses : List String) : firstUse (use :: uses) name = firstUse uses name + 1 := by
  rw [firstUse, List.findIdx_cons, beq_eq_false_iff_ne.mpr h, cond_false, firstUse]

/-- The names are those of the uses, each once, as its first use spells it and in the order of first
uses. -/
structure FirstUses (uses names : List String) : Prop where
  distinct : (names.map nameKey).Nodup
  complete : ∀ use ∈ uses, nameKey use ∈ names.map nameKey
  spelled : ∀ name ∈ names, uses[firstUse uses name]? = some name
  ordered : names.Pairwise fun a b => firstUse uses a < firstUse uses b

section

variable {seen uses : List String}

theorem not_mem_seen_of_mem_go {name : String} (h : name ∈ distinctNames.go seen uses) :
    nameKey name ∉ seen := by
  induction uses generalizing seen with
  | nil => exact absurd h List.not_mem_nil
  | cons use uses ih =>
    rw [distinctNames.go] at h
    by_cases huse : nameKey use ∈ seen
    · rw [if_pos (List.contains_iff_mem.mpr huse)] at h
      exact ih h
    · rw [if_neg (mt List.contains_iff_mem.mp huse)] at h
      rcases List.mem_cons.mp h with rfl | h
      · exact huse
      · exact fun hmem => ih h (List.mem_cons_of_mem _ hmem)

/-- Names that are taken up after `use` are other names. -/
theorem ne_of_mem_go {use name : String} (h : name ∈ distinctNames.go (nameKey use :: seen) uses) :
    nameKey use ≠ nameKey name :=
  fun he => not_mem_seen_of_mem_go h (he ▸ List.mem_cons_self)

theorem nodup_go (seen uses : List String) :
    ((distinctNames.go seen uses).map nameKey).Nodup := by
  induction uses generalizing seen with
  | nil => exact List.nodup_nil
  | cons use uses ih =>
    rw [distinctNames.go]
    split
    · exact ih seen
    · rw [List.map_cons, List.nodup_cons]
      refine ⟨fun hmem => ?_, ih _⟩
      obtain ⟨name, hname, hkey⟩ := List.mem_map.mp hmem
      exact ne_of_mem_go hname hkey.symm

theorem seen_or_mem_go {use : String} (h : use ∈ uses) :
    nameKey use ∈ seen ∨ nameKey use ∈ (distinctNames.go seen uses).map nameKey := by
  induction uses generalizing seen with
  | nil => exact absurd h List.not_mem_nil
  | cons first uses ih =>
    rw [distinctNames.go]
    by_cases hfirst : nameKey first ∈ seen
    · rw [if_pos (List.contains_iff_mem.mpr hfirst)]
      rcases List.mem_cons.mp h with rfl | h
      · exact .inl hfirst
      · exact ih h
    · rw [if_neg (mt List.contains_iff_mem.mp hfirst), List.map_cons]
      rcases List.mem_cons.mp h with rfl | h
      · exact .inr List.mem_cons_self
      · have hrest : nameKey use ∈ nameKey first :: seen ∨
            nameKey use ∈ (distinctNames.go (nameKey first :: seen) uses).map nameKey := ih h
        rcases hrest with hseen | hlater
        · rcases List.mem_cons.mp hseen with hkey | hseen
          · exact .inr (hkey ▸ List.mem_cons_self)
          · exact .inl hseen
        · exact .inr (List.mem_cons_of_mem _ hlater)

/-- The first use of a name that is taken up here is what the name is spelled by. A use in front of
it moves it one place on, as that use has another key. -/
theorem spelled_go {name : String} (h : name ∈ distinctNames.go seen uses) :
    uses[firstUse uses name]? = some name := by
  induction uses generalizing seen with
  | nil => exact absurd h List.not_mem_nil
  | cons use uses ih =>
    have hlater {others : List String} (hkey : nameKey use ≠ nameKey name)
        (hname : name ∈ distinctNames.go others uses) :
        (use :: uses)[firstUse (use :: uses) name]? = some name := by
      rw [firstUse_cons_of_ne hkey, List.getElem?_cons_succ]
      exact ih hname
    rw [distinctNames.go] at h
    by_cases huse : nameKey use ∈ seen
    · rw [if_pos (List.contains_iff_mem.mpr huse)] at h
      exact hlater (fun he => not_mem_seen_of_mem_go h (he ▸ huse)) h
    · rw [if_neg (mt List.contains_iff_mem.mp huse)] at h
      rcases List.mem_cons.mp h with rfl | h
      · rw [firstUse_cons_self rfl, List.getElem?_cons_zero]
      · exact hlater (ne_of_mem_go h) h

theorem ordered_go (seen uses : List String) :
    (distinctNames.go seen uses).Pairwise fun a b => firstUse uses a < firstUse uses b := by
  induction uses generalizing seen with
  | nil => exact List.Pairwise.nil
  | cons use uses ih =>
    have hmoved {others : List String}
        (hne : ∀ name ∈ distinctNames.go others uses, nameKey use ≠ nameKey name) :
        (distinctNames.go others uses).Pairwise fun a b =>
          firstUse (use :: uses) a < firstUse (use :: uses) b := by
      refine (ih others).imp_of_mem fun {a b} ha hb hab => ?_
      rw [firstUse_cons_of_ne (hne a ha), firstUse_cons_of_ne (hne b hb)]
      exact Nat.succ_lt_succ hab
    rw [distinctNames.go]
    by_cases huse : nameKey use ∈ seen
    · rw [if_pos (List.contains_iff_mem.mpr huse)]
      exact hmoved fun name hname he => not_mem_seen_of_mem_go hname (he ▸ huse)
    · rw [if_neg (mt List.contains_iff_mem.mp huse), List.pairwise_cons]
      refine ⟨fun name hname => ?_, hmoved fun name hname => ne_of_mem_go hname⟩
      rw [firstUse_cons_self rfl, firstUse_cons_of_ne (ne_of_mem_go hname)]
      exact Nat.succ_pos _

end

theorem firstUses_distinctNames (uses : List String) : FirstUses uses (distinctNames uses) where
  distinct := nodup_go [] uses
  complete := fun _ huse => (seen_or_mem_go huse).resolve_left List.not_mem_nil
  spelled := fun _ hname => spelled_go hname
  ordered := ordered_go [] uses

/-- What holds of the listed names under every spelling holds of every name that is used. -/
theorem FirstUses.forall_uses {uses names : List String} (h : FirstUses uses names)
    {P : String → Prop} (hkey : ∀ {a b}, nameKey a = nameKey b → P a → P b)
    (hnames : ∀ name ∈ names, P name) : ∀ use ∈ uses, P use := by
  intro use huse
  obtain ⟨name, hname, hspelling⟩ := List.mem_map.mp (h.complete use huse)
  exact hkey hspelling (hnames name hname)

/-! ### Uses of a program -/

def Action.variable? : Action → Option String
  | .name n => some n
  | _ => none

def Action.function? : Action → Option String
  | .call function _ => some function
  | _ => none

namespace Program

def variableUses (p : Program) : List String :=
  p.instructions.filterMap fun i => i.action.variable?

def functionUses (p : Program) : List String :=
  p.instructions.filterMap fun i => i.action.function?

theorem variableNames_eq (p : Program) : p.variableNames = distinctNames p.variableUses :=
  rfl

theorem functionNames_eq (p : Program) : p.functionNames = distinctNames p.functionUses :=
  rfl

end Program

/-! ### Evaluation -/

theorem Scope.value?_congr (scope : Scope) {name other : String}
    (h : nameKey name = nameKey other) : scope.value? name = scope.value? other := by
  rw [value?, value?, scope.get?_congr h]

section

variable {rule : TextRule} {known known' : Variables} {functions functions' : Functions}
  {moments : Moments}

/-- An instruction looks up the name it uses and no other. -/
theorem Instruction.run_congr {i : Instruction}
    (hknown : ∀ n, i.action.variable? = some n → known n = known' n)
    (hfunctions : ∀ f, i.action.function? = some f → functions f = functions' f)
    (moment : Moment) (stack : ValueStack) :
    i.run rule known functions moment stack = i.run rule known' functions' moment stack := by
  obtain ⟨action, position⟩ := i
  cases action with
  | constant v => rfl
  | name n =>
    have hn : known n = known' n := hknown n rfl
    simp only [Instruction.run, hn]
  | call function count =>
    have hfunction : functions function = functions' function := hfunctions function rfl
    simp only [Instruction.run, hfunction]
  | operator op => rfl

theorem Program.runFrom_congr {instructions : List Instruction}
    (hknown : ∀ i ∈ instructions, ∀ n, i.action.variable? = some n → known n = known' n)
    (hfunctions : ∀ i ∈ instructions, ∀ f, i.action.function? = some f →
      functions f = functions' f) (done : Nat) (stack : ValueStack) :
    runFrom rule known functions moments done instructions stack =
      runFrom rule known' functions' moments done instructions stack := by
  induction instructions generalizing done stack with
  | nil => rfl
  | cons i instructions ih =>
    obtain ⟨hi, hknown⟩ := List.forall_mem_cons.mp hknown
    obtain ⟨hi', hfunctions⟩ := List.forall_mem_cons.mp hfunctions
    rw [runFrom, runFrom, Instruction.run_congr hi hi']
    congr 1
    funext next
    exact ih hknown hfunctions _ next

theorem Program.evaluate_congr (p : Program) (hknown : ∀ n ∈ p.variableUses, known n = known' n)
    (hfunctions : ∀ f ∈ p.functionUses, functions f = functions' f) :
    p.evaluate rule known functions moments = p.evaluate rule known' functions' moments := by
  rw [evaluate, evaluate, runFrom_congr]
  · intro i hi n hn
    exact hknown n (List.mem_filterMap.mpr ⟨i, hi, hn⟩)
  · intro i hi f hf
    exact hfunctions f (List.mem_filterMap.mpr ⟨i, hi, hf⟩)

end

/-- Stores that agree on the names a program lists cannot be told apart by evaluating it, and it
lists every name it uses once, spelled as it is used first and in the order of first uses. -/
theorem evaluation_depends_on_used_names (p : Program) :
    (∀ (rule : TextRule) (scope scope' : Scope) (library library' : Library) (moments : Moments),
      (∀ n ∈ p.variableNames, scope.value? n = scope'.value? n) →
      (∀ f ∈ p.functionNames, library.get? f = library'.get? f) →
        p.evaluate rule scope.value? library.get? moments =
          p.evaluate rule scope'.value? library'.get? moments) ∧
    FirstUses p.variableUses p.variableNames ∧ FirstUses p.functionUses p.functionNames := by
  have hvariables : FirstUses p.variableUses p.variableNames :=
    p.variableNames_eq ▸ firstUses_distinctNames p.variableUses
  have hcalls : FirstUses p.functionUses p.functionNames :=
    p.functionNames_eq ▸ firstUses_distinctNames p.functionUses
  refine ⟨fun rule scope scope' library library' moments hscope hlibrary => ?_, hvariables, hcalls⟩
  apply p.evaluate_congr
  · refine hvariables.forall_uses (fun {a b} hab ha => ?_) hscope
    rw [← scope.value?_congr hab, ← scope'.value?_congr hab]
    exact ha
  · refine hcalls.forall_uses (fun {a b} hab ha => ?_) hlibrary
    rw [← library.get?_congr hab, ← library'.get?_congr hab]
    exact ha

/-- The program of `max(Max(Rate, RATE), rate)`. -/
def respelledRates : Program :=
  ⟨[⟨.name "Rate", ⟨1, 9⟩⟩, ⟨.name "RATE", ⟨1, 15⟩⟩, ⟨.call "Max" 2, ⟨1, 5⟩⟩,
    ⟨.name "rate", ⟨1, 22⟩⟩, ⟨.call "max" 2, ⟨1, 1⟩⟩]⟩

theorem evaluation_of_respelledRates :
    let scope : Scope := Scope.setAll [] [("rate", .integer 5)]
    let scope' : Scope := Scope.setAll [] [("tax", .integer 7), ("RATE", .integer 5)]
    let first (name : String) : Function :=
      .fixed name 2 fun _ _ arguments => .ok (argument arguments 0)
    let library := Library.register [] (first "MAX")
    let library' := (Library.register [] (first "MIN")).register (first "MAX")
    respelledRates.variableNames = ["Rate"] ∧ respelledRates.functionNames = ["Max"] ∧
      scope.value? "Rate" = scope'.value? "Rate" ∧ library.get? "Max" = library'.get? "Max" ∧
      ∀ moments, respelledRates.evaluate .exact scope.value? library.get? moments =
        respelledRates.evaluate .exact scope'.value? library'.get? moments := by
  intro scope scope' first library library'
  have hvariables : respelledRates.variableNames = ["Rate"] := by decide +kernel
  have hcalls : respelledRates.functionNames = ["Max"] := by decide +kernel
  have hscope : scope.value? "Rate" = scope'.value? "Rate" := rfl
  have hmax (functions : Library) :
      (functions.register (first "MAX")).get? "Max" = some (first "MAX") :=
    (functions.get?_put "MAX" "Max" (first "MAX")).trans (if_pos (by decide +kernel))
  have hlibrary : library.get? "Max" = library'.get? "Max" := (hmax []).trans (hmax _).symm
  refine ⟨hvariables, hcalls, hscope, hlibrary, fun moments => ?_⟩
  apply (evaluation_depends_on_used_names respelledRates).1
  · rw [hvariables]
    exact List.forall_mem_singleton.mpr hscope
  · rw [hcalls]
    exact List.forall_mem_singleton.mpr hlibrary

end Reckon
