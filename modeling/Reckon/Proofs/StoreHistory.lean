import Mathlib.Data.List.Induction
import Reckon.Calculator
import Reckon.Proofs.Filing
import Reckon.Proofs.TextOrdering

/-!
# What a store shows is what was done to it

Named values and functions are kept in stores that are told to put something under a name, to drop
a name and to drop everything. What a store holds can be said from the history of these deeds alone:
under a name it holds what was put last under any spelling of it and not dropped since. A value goes
by the first name it was given since nothing was there, a function by its own.
-/

namespace Reckon

/-! ### Histories -/

inductive Deed (α : Type) where
  | put (name : String) (item : α)
  | drop (name : String)
  | dropAll

namespace Deed

variable {α : Type}

def Drops (key : String) : Deed α → Prop
  | put _ _ => False
  | drop name => nameKey name = key
  | dropAll => True

def Concerns (key : String) : Deed α → Prop
  | put name _ => nameKey name = key
  | deed => deed.Drops key

end Deed

section

variable {α : Type} {key : String} {deeds : List (Deed α)}

/-- There was a deed such that what came before it and it are as `begins` says, and none since then
is as `ends` says. -/
def Since (begins : List (Deed α) → Deed α → Prop) (ends : Deed α → Prop)
    (deeds : List (Deed α)) : Prop :=
  ∃ earlier deed later, deeds = earlier ++ deed :: later ∧ begins earlier deed ∧
    ∀ d ∈ later, ¬ends d

/-- The last thing put under the key, if it has not been dropped. -/
def LastPut (deeds : List (Deed α)) (key : String) (item : α) : Prop :=
  Since (fun _ deed => ∃ name, deed = .put name item ∧ nameKey name = key) (Deed.Concerns key) deeds

def Live (deeds : List (Deed α)) (key : String) : Prop :=
  ∃ item, LastPut deeds key item

/-- The name under which something was put when nothing was under its key, and has been since. -/
def FirstName (deeds : List (Deed α)) (key : String) (name : String) : Prop :=
  nameKey name = key ∧ Since (fun earlier deed => ¬Live earlier key ∧ ∃ item, deed = .put name item)
    (Deed.Drops key) deeds

theorem not_since_nil {begins : List (Deed α) → Deed α → Prop} {ends : Deed α → Prop} :
    ¬Since begins ends [] := by
  rintro ⟨earlier, deed, later, h, -⟩
  exact List.append_ne_nil_of_right_ne_nil earlier (List.cons_ne_nil deed later) h.symm

/-- The latest deed either begins it, or does not end it. -/
theorem since_concat {begins : List (Deed α) → Deed α → Prop} {ends : Deed α → Prop}
    {d : Deed α} :
    Since begins ends (deeds ++ [d]) ↔ begins deeds d ∨ ¬ends d ∧ Since begins ends deeds := by
  constructor
  · rintro ⟨earlier, deed, later, h, hbegins, hends⟩
    obtain rfl | ⟨later, last, rfl⟩ := List.eq_nil_or_concat later
    · obtain ⟨rfl, hd⟩ := List.append_inj' h rfl
      exact .inl ((List.cons.inj hd).1 ▸ hbegins)
    · rw [List.concat_eq_append, ← List.cons_append, ← List.append_assoc] at h
      obtain ⟨rfl, hd⟩ := List.append_inj' h rfl
      obtain rfl := (List.cons.inj hd).1
      rw [List.concat_eq_append] at hends
      exact .inr ⟨hends d (List.mem_append_right _ List.mem_cons_self), earlier, deed, later, rfl,
        hbegins, fun e he => hends e (List.mem_append_left _ he)⟩
  · rintro (hbegins | ⟨hd, earlier, deed, later, rfl, hbegins, hends⟩)
    · exact ⟨deeds, d, [], rfl, hbegins, nofun⟩
    · refine ⟨earlier, deed, later ++ [d], by simp, hbegins, fun e he => ?_⟩
      rcases List.mem_append.mp he with he | he
      · exact hends e he
      · exact List.mem_singleton.mp he ▸ hd

/-- A store that takes the deeds one by one holds the last thing put under a key. The induction is
on the deeds from the latest one back. -/
theorem eq_some_iff_lastPut (holds : List (Deed α) → Option α) (hnil : holds [] = none)
    (hput : ∀ deeds name item, holds (deeds ++ [.put name item]) =
      if key = nameKey name then some item else holds deeds)
    (hdrop : ∀ deeds name, holds (deeds ++ [.drop name]) =
      if key = nameKey name then none else holds deeds)
    (hdropAll : ∀ deeds, holds (deeds ++ [.dropAll]) = none) (deeds : List (Deed α)) {item : α} :
    holds deeds = some item ↔ LastPut deeds key item := by
  induction deeds using List.reverseRecOn with
  | nil =>
    rw [hnil]
    exact ⟨nofun, fun h => absurd h not_since_nil⟩
  | append_singleton deeds deed ih =>
    rw [LastPut, since_concat, ← LastPut, ← ih]
    cases deed with
    | put name other =>
      rw [hput]
      by_cases hname : key = nameKey name
      · subst hname
        simp [Deed.Concerns]
      · simp [Deed.Concerns, hname, Ne.symm hname]
    | drop name =>
      rw [hdrop]
      by_cases hname : key = nameKey name
      · simp [Deed.Concerns, Deed.Drops, hname]
      · simp [Deed.Concerns, Deed.Drops, hname, Ne.symm hname]
    | dropAll =>
      rw [hdropAll]
      simp [Deed.Concerns, Deed.Drops]

theorem exists_name_of_live (h : Live deeds key) : ∃ name, nameKey name = key := by
  obtain ⟨_, _, _, _, _, ⟨name, -, hname⟩, -⟩ := h
  exact ⟨name, hname⟩

theorem firstName_put {name first : String} {item : α} :
    FirstName (deeds ++ [.put name item]) key first ↔
      (nameKey name = key ∧ ¬Live deeds key ∧ first = name) ∨ FirstName deeds key first := by
  simp only [FirstName, since_concat, Deed.put.injEq, Deed.Drops, not_false_eq_true, true_and]
  constructor
  · rintro ⟨hfirst, ⟨hdead, _, rfl, -⟩ | h⟩
    · exact .inl ⟨hfirst, hdead, rfl⟩
    · exact .inr ⟨hfirst, h⟩
  · rintro (⟨hname, hdead, rfl⟩ | ⟨hfirst, h⟩)
    · exact ⟨hname, .inl ⟨hdead, item, rfl, rfl⟩⟩
    · exact ⟨hfirst, .inr h⟩

/-- A deed that puts nothing leaves the name of what it does not drop. -/
theorem firstName_concat {deed : Deed α} {first : String} (h : ∀ name item, deed ≠ .put name item) :
    FirstName (deeds ++ [deed]) key first ↔ ¬deed.Drops key ∧ FirstName deeds key first := by
  have hbegins : ¬∃ item, deed = .put first item := fun ⟨item, hitem⟩ => h first item hitem
  simp only [FirstName, since_concat, hbegins, and_false, false_or]
  exact and_left_comm

/-- There are as many things in a store as keys that something is under. -/
theorem Filed.ByName.length_eq_ncard_live {β : Type} {nameOf : β → String} {filed : Filed β}
    (h : filed.ByName nameOf)
    (hcontains : ∀ name, filed.contains name = true ↔ Live deeds (nameKey name)) :
    filed.length = {key | Live deeds key}.ncard := by
  rw [h.length_eq_ncard]
  congr 1
  ext key
  constructor
  · rintro ⟨name, rfl, hname⟩
    exact (hcontains name).mp hname
  · intro hlive
    obtain ⟨name, rfl⟩ := exists_name_of_live hlive
    exact ⟨name, rfl, (hcontains name).mpr hlive⟩

end

/-! ### Named values -/

namespace Scope

inductive Change where
  | set (name : String) (value : Value)
  | extend (values : List (String × Value))
  | remove (name : String)
  | clear

def Change.deeds : Change → List (Deed Value)
  | set name value => [.put name value]
  | extend values => values.map fun entry => .put entry.1 entry.2
  | remove name => [.drop name]
  | clear => [.dropAll]

def change (scope : Scope) : Change → Scope
  | .set name value => scope.set name value
  | .extend values => scope.setAll values
  | .remove name => scope.remove name
  | .clear => []

def after (changes : List Change) : Scope :=
  changes.foldl change []

def perform (scope : Scope) : Deed Value → Scope
  | .put name value => scope.set name value
  | .drop name => scope.remove name
  | .dropAll => []

def afterDeeds (deeds : List (Deed Value)) : Scope :=
  deeds.foldl perform []

theorem change_eq (scope : Scope) (change : Change) :
    scope.change change = change.deeds.foldl perform scope := by
  cases change with
  | extend values =>
    rw [Change.deeds, List.foldl_map]
    rfl
  | _ => rfl

theorem after_eq (changes : List Change) : after changes =
    afterDeeds (changes.flatMap Change.deeds) := by
  rw [after, afterDeeds, List.foldl_flatMap]
  congr 1
  funext scope change
  exact change_eq scope change

theorem afterDeeds_concat (deeds : List (Deed Value)) (deed : Deed Value) :
    afterDeeds (deeds ++ [deed]) = (afterDeeds deeds).perform deed := by
  rw [afterDeeds, List.foldl_append]
  rfl

def nameOf? (scope : Scope) (name : String) : Option String :=
  (scope.get? name).map Prod.fst

theorem get?_set (scope : Scope) (name other : String) (value : Value) :
    (scope.set name value).get? other =
      if nameKey other = nameKey name then some ((scope.nameOf? name).getD name, value)
      else scope.get? other := by
  rw [set, nameOf?]
  cases scope.get? name with
  | none => exact Filed.get?_put _ _ _ _
  | some entry => exact Filed.get?_put _ _ _ _

theorem get?_perform_of_not_concerns {deed : Deed Value} {name : String}
    (h : ¬deed.Concerns (nameKey name)) (scope : Scope) :
    (scope.perform deed).get? name = scope.get? name := by
  cases deed with
  | put other value => rw [perform, get?_set, if_neg fun he => h he.symm]
  | drop other => rw [perform, Filed.get?_remove, if_neg fun he => h he.symm]
  | dropAll => exact absurd trivial h

theorem get?_change_of_not_concerns {change : Change} {name : String}
    (h : ∀ deed ∈ change.deeds, ¬deed.Concerns (nameKey name)) (scope : Scope) :
    (scope.change change).get? name = scope.get? name := by
  rw [change_eq]
  generalize change.deeds = deeds at h
  induction deeds generalizing scope with
  | nil => rfl
  | cons deed deeds ih =>
    obtain ⟨hdeed, hdeeds⟩ := List.forall_mem_cons.mp h
    rw [List.foldl_cons, ih _ hdeeds, get?_perform_of_not_concerns hdeed]

theorem value?_afterDeeds (deeds : List (Deed Value)) {name : String} {v : Value} :
    (afterDeeds deeds).value? name = some v ↔ LastPut deeds (nameKey name) v := by
  refine eq_some_iff_lastPut (fun deeds => (afterDeeds deeds).value? name) rfl ?_ ?_ ?_ deeds
  · intro deeds other value
    simp only [afterDeeds_concat, perform, value?, get?_set]
    split
    · rfl
    · rfl
  · intro deeds other
    simp only [afterDeeds_concat, perform, value?, Filed.get?_remove]
    split
    · rfl
    · rfl
  · intro deeds
    rw [afterDeeds_concat]
    rfl

theorem live_iff_nameOf? (deeds : List (Deed Value)) (name : String) :
    Live deeds (nameKey name) ↔ ((afterDeeds deeds).nameOf? name).isSome = true := by
  have hvalue : ((afterDeeds deeds).nameOf? name).isSome =
      ((afterDeeds deeds).value? name).isSome := by
    rw [nameOf?, value?, Option.isSome_map, Option.isSome_map]
  rw [hvalue, Option.isSome_iff_exists]
  exact exists_congr fun v => (value?_afterDeeds deeds).symm

/-- A value that is set keeps the name that is there under its key. -/
theorem nameOf?_afterDeeds (deeds : List (Deed Value)) {name first : String} :
    (afterDeeds deeds).nameOf? name = some first ↔ FirstName deeds (nameKey name) first := by
  induction deeds using List.reverseRecOn with
  | nil => exact ⟨nofun, fun h => absurd h.2 not_since_nil⟩
  | append_singleton deeds deed ih =>
    rw [afterDeeds_concat]
    cases deed with
    | put other value =>
      rw [firstName_put, ← ih, live_iff_nameOf?, perform, nameOf?, get?_set]
      by_cases hkey : nameKey name = nameKey other
      · have hother : (afterDeeds deeds).nameOf? other = (afterDeeds deeds).nameOf? name := by
          rw [nameOf?, nameOf?, Filed.get?_congr _ hkey]
        rw [if_pos hkey, hother]
        cases (afterDeeds deeds).nameOf? name with
        | none => simp [hkey, eq_comm]
        | some there => simp
      · rw [if_neg hkey, ← nameOf?]
        simp [Ne.symm hkey]
    | drop other =>
      rw [firstName_concat nofun, ← ih, perform, nameOf?, Filed.get?_remove]
      by_cases hkey : nameKey name = nameKey other
      · simp [hkey, Deed.Drops]
      · rw [if_neg hkey, ← nameOf?]
        simp [Deed.Drops, Ne.symm hkey]
    | dropAll =>
      rw [firstName_concat nofun]
      simp [perform, nameOf?, Filed.get?, Deed.Drops]

theorem byName_perform {scope : Scope} (h : Filed.ByName Prod.fst scope) (deed : Deed Value) :
    Filed.ByName Prod.fst (scope.perform deed) := by
  cases deed with
  | put name value =>
    rw [perform, set]
    cases hentry : scope.get? name with
    | none => exact h.put rfl
    | some entry => exact h.put (h.get?_eq_some_iff.mp hentry).2
  | drop name => exact h.remove name
  | dropAll => exact .nil

theorem byName_afterDeeds (deeds : List (Deed Value)) :
    Filed.ByName Prod.fst (afterDeeds deeds) := by
  induction deeds using List.reverseRecOn with
  | nil => exact .nil
  | append_singleton deeds deed ih =>
    rw [afterDeeds_concat]
    exact byName_perform ih deed

/-- Named values are as the history of their changes has them. -/
structure Reflects (scope : Scope) (deeds : List (Deed Value)) : Prop where
  value : ∀ name v, scope.value? name = some v ↔ LastPut deeds (nameKey name) v
  contains : ∀ name, scope.contains name = true ↔ Live deeds (nameKey name)
  /-- The entries show first names and last values. -/
  listed : ∀ name v, (name, v) ∈ scope.items ↔
    FirstName deeds (nameKey name) name ∧ LastPut deeds (nameKey name) v
  named : ∀ name first, scope.nameOf? name = some first ↔ FirstName deeds (nameKey name) first
  /-- A change leaves alone what is under keys it does not concern. -/
  frame : ∀ (change : Change) (name : String),
    (∀ deed ∈ change.deeds, ¬deed.Concerns (nameKey name)) →
      (scope.change change).get? name = scope.get? name
  ownKey : ∀ entry ∈ scope, entry.1 = nameKey entry.2.1
  distinct : (scope.items.map fun entry => nameKey entry.1).Nodup
  count : scope.length = {key | Live deeds key}.ncard

theorem reflects_after (changes : List Change) :
    (after changes).Reflects (changes.flatMap Change.deeds) := by
  rw [after_eq]
  generalize changes.flatMap Change.deeds = deeds
  have hbyName := byName_afterDeeds deeds
  have hcontains (name : String) :
      (afterDeeds deeds).contains name = true ↔ Live deeds (nameKey name) := by
    rw [live_iff_nameOf?, nameOf?, Option.isSome_map]
    rfl
  refine ⟨fun _ _ => value?_afterDeeds deeds, hcontains, fun name v => ?_,
    fun _ _ => nameOf?_afterDeeds deeds, fun _ _ h => get?_change_of_not_concerns h _,
    hbyName.ownKey, hbyName.nodup_names, hbyName.length_eq_ncard_live hcontains⟩
  · have hentry : (afterDeeds deeds).get? name = some (name, v) ↔
        (name, v) ∈ (afterDeeds deeds).items := by
      rw [hbyName.get?_eq_some_iff, and_iff_left rfl]
    rw [← hentry, ← nameOf?_afterDeeds, ← value?_afterDeeds, nameOf?, value?]
    cases (afterDeeds deeds).get? name with
    | none => simp
    | some entry => simp [Prod.ext_iff]

end Scope

/-! ### Functions -/

namespace Filed

variable {α : Type}

def perform (filed : Filed α) : Deed α → Filed α
  | .put name item => filed.put name item
  | .drop name => filed.remove name
  | .dropAll => []

theorem get?_perform_of_not_concerns {deed : Deed α} {name : String}
    (h : ¬deed.Concerns (nameKey name)) (filed : Filed α) :
    (filed.perform deed).get? name = filed.get? name := by
  cases deed with
  | put other item => rw [perform, get?_put, if_neg fun he => h he.symm]
  | drop other => rw [perform, get?_remove, if_neg fun he => h he.symm]
  | dropAll => exact absurd trivial h

theorem get?_foldl_perform (deeds : List (Deed α)) {name : String} {item : α} :
    get? (deeds.foldl perform []) name = some item ↔ LastPut deeds (nameKey name) item := by
  have hconcat (deeds : List (Deed α)) (deed : Deed α) :
      (deeds ++ [deed]).foldl perform [] = (deeds.foldl perform []).perform deed := by
    rw [List.foldl_append]
    rfl
  refine eq_some_iff_lastPut (fun deeds => get? (deeds.foldl perform []) name) rfl ?_ ?_ ?_ deeds
  · intro deeds other item
    rw [hconcat]
    exact get?_put _ _ _ _
  · intro deeds other
    rw [hconcat]
    exact get?_remove _ _ _
  · intro deeds
    rw [hconcat]
    rfl

end Filed

namespace Library

inductive Change where
  | register (f : Function)
  | remove (name : String)

def Change.deed : Change → Deed Function
  | register f => .put f.name f
  | remove name => .drop name

def change (library : Library) : Change → Library
  | .register f => library.register f
  | .remove name => library.remove name

def after (changes : List Change) : Library :=
  changes.foldl change []

theorem change_eq (library : Library) (c : Change) : library.change c = library.perform c.deed := by
  cases c <;> rfl

theorem after_eq (changes : List Change) :
    after changes = (changes.map Change.deed).foldl Filed.perform [] := by
  rw [after, List.foldl_map]
  congr 1
  funext library c
  exact change_eq library c

theorem byName_after (changes : List Change) : Filed.ByName Function.name (after changes) := by
  induction changes using List.reverseRecOn with
  | nil => exact .nil
  | append_singleton changes c ih =>
    rw [after, List.foldl_append, ← after]
    cases c with
    | register f => exact ih.put rfl
    | remove name => exact ih.remove name

structure Reflects (library : Library) (deeds : List (Deed Function)) : Prop where
  function : ∀ name f, library.get? name = some f ↔ LastPut deeds (nameKey name) f
  contains : ∀ name, library.contains name = true ↔ Live deeds (nameKey name)
  /-- A change leaves alone what is under keys it does not concern. -/
  frame : ∀ (c : Change) (name : String), ¬c.deed.Concerns (nameKey name) →
    (library.change c).get? name = library.get? name
  ownKey : ∀ entry ∈ library, entry.1 = nameKey entry.2.name
  distinct : (library.items.map fun f => nameKey f.name).Nodup
  count : library.length = {key | Live deeds key}.ncard
  /-- The names are those of the functions registered last. -/
  listed : ∀ name, name ∈ library.names ↔ ∃ f, f.name = name ∧ LastPut deeds (nameKey name) f
  sorted : library.names.Pairwise fun a b => compareText a.toList b.toList = .lt

theorem reflects_after (changes : List Change) :
    (after changes).Reflects (changes.map Change.deed) := by
  have hbyName := byName_after changes
  have hget (name : String) (f : Function) :
      (after changes).get? name = some f ↔
        LastPut (changes.map Change.deed) (nameKey name) f := by
    rw [after_eq]
    exact Filed.get?_foldl_perform _
  generalize changes.map Change.deed = deeds at *
  generalize after changes = library at *
  have hcontains (name : String) : library.contains name = true ↔ Live deeds (nameKey name) :=
    Option.isSome_iff_exists.trans (exists_congr (hget name))
  refine ⟨hget, hcontains, fun c name h => ?_, hbyName.ownKey, hbyName.nodup_names,
    hbyName.length_eq_ncard_live hcontains, fun name => ?_, ?_⟩
  · rw [change_eq]
    exact Filed.get?_perform_of_not_concerns h library
  · rw [names, (sortNames_perm _).mem_iff, List.mem_map]
    refine exists_congr fun f => ?_
    rw [← hget, hbyName.get?_eq_some_iff]
    constructor
    · rintro ⟨hf, rfl⟩
      exact ⟨rfl, hf, rfl⟩
    · rintro ⟨rfl, hf, -⟩
      exact ⟨hf, rfl⟩
  · have hnames : (library.items.map Function.name).Nodup := by
      have hkeys := hbyName.nodup_names
      rw [← Function.comp_def nameKey, ← List.map_map] at hkeys
      exact hkeys.of_map nameKey
    exact pairwise_sortNames hnames

end Library

/-- Whatever is done to them, named values and functions are found under every spelling of their
names as they were put there last, each under the key of its own name and under no other; a value
goes by the first name it was given, a function by its own, and the names of functions come
sorted. -/
theorem stores_reflect_history :
    (∀ changes : List Scope.Change,
      (Scope.after changes).Reflects (changes.flatMap Scope.Change.deeds)) ∧
    ∀ changes : List Library.Change,
      (Library.after changes).Reflects (changes.map Library.Change.deed) :=
  ⟨Scope.reflects_after, Library.reflects_after⟩

end Reckon
