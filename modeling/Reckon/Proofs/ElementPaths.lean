import Reckon.Proofs.JsonValues

/-!
# Elements of documents

A path into a document goes from objects to the fields of its keys and from arrays to the items at
its places. Taking elements along it, from the value that the document becomes, arrives at the value
that the part of the document becomes: it makes no difference that arrays become arrays of values at
once and objects only where a field of them is taken.
-/

namespace Reckon

namespace Json

/-- One step into a document. No key of an object occurs twice, so the first field of a key is its
only one; a place may be given by any value that counts as a whole number. -/
inductive Step : Json → Value → Json → Prop where
  | field {earlier later : List (String × Json)} {key : String} {part : Json} :
    (∀ field ∈ earlier, field.1 ≠ key) →
    Step (.object (earlier ++ (key, part) :: later)) (.string key) part
  | item {items : List Json} {index : Value} {i : Nat} {part : Json} :
    index.wholeNumber? = some (i : Int) → items[i]? = some part →
    Step (.array items) index part

inductive Path : Json → List Value → Json → Prop where
  | here (document : Json) : Path document [] document
  | step {document next part : Json} {index : Value} {path : List Value} :
    Step document index next → Path next path part → Path document (index :: path) part

theorem field?_eq_none {fields : List (String × Json)} {key : String}
    (h : ∀ field ∈ fields, field.1 ≠ key) : (Json.object fields).field? key = none := by
  rw [field?, List.lookup_eq_none_iff]
  exact fun field hfield => bne_iff_ne.mpr (h field hfield).symm

theorem field?_eq_some {earlier later : List (String × Json)} {key : String} {part : Json}
    (h : ∀ field ∈ earlier, field.1 ≠ key) :
    (Json.object (earlier ++ (key, part) :: later)).field? key = some part := by
  rw [field?, List.lookup_eq_some_iff]
  exact ⟨earlier, later, rfl, fun field hfield => bne_iff_ne.mpr (h field hfield).symm⟩

end Json

namespace Value

def elements (rule : TextRule) (container : Value) (path : List Value) : Outcome Value :=
  path.foldlM (fun v index => Operator.element.apply rule [v, index]) container

variable (rule : TextRule)

theorem elements_append (container : Value) (path rest : List Value) :
    container.elements rule (path ++ rest) = (do
      let v ← container.elements rule path
      v.elements rule rest) :=
  List.foldlM_append

theorem elements_singleton (container index : Value) :
    container.elements rule [index] = container.element index := by
  have happly : Operator.element.apply rule [container, index] = container.element index := rfl
  rw [elements, List.foldlM_cons, happly]
  cases container.element index <;> rfl

/-! ### One step -/

theorem place_eq {index : Value} {i : Int} (h : index.wholeNumber? = some i) (container : Value)
    (length : Nat) :
    place container index length =
      if 0 ≤ i ∧ i < length then .ok i.toNat else .error (.indexOutOfRange i length) := by
  obtain ⟨hplain, n, hn, rfl⟩ := toLong?_of_wholeNumber? h
  simp only [place, hplain, hn, Bool.false_eq_true, if_false]

theorem element_array (items : List Json) (index : Value) :
    (ofJson (.array items)).element index = (do
      let i ← place (ofJson (.array items)) index items.length
      .ok ((items[i]?.map ofJson).getD null)) := by
  have hitems : ofJson (.array items) = .array (items.map ofJson) := by
    rw [ofJson, ofJsonItems_eq_map]
  rw [hitems, element, List.length_map]
  simp only [List.getElem?_map]

theorem element_of_step {document part : Json} {index : Value} (h : document.Step index part) :
    (ofJson document).element index = .ok (ofJson part) := by
  cases h with
  | field hearlier =>
    rw [ofJson, element, Json.field?_eq_some hearlier]
    rfl
  | @item items _ i _ hindex hpart =>
    have hbound : i < items.length := (List.getElem?_eq_some_iff.mp hpart).1
    rw [element_array, place_eq hindex, if_pos (by omega), ok_bind, Int.toNat_natCast, hpart]
    rfl

theorem element_of_missing_key {fields : List (String × Json)} {key : String}
    (h : ∀ field ∈ fields, field.1 ≠ key) :
    (ofJson (.object fields)).element (.string key) = .ok null := by
  rw [ofJson, element, Json.field?_eq_none h]
  rfl

theorem element_out_of_range {items : List Json} {index : Value} {i : Int}
    (hindex : index.wholeNumber? = some i) (hi : i < 0 ∨ items.length ≤ i) :
    (ofJson (.array items)).element index = .error (.indexOutOfRange i items.length) := by
  rw [element_array, place_eq hindex, if_neg (by omega), error_bind]

/-! ### All steps of a path -/

theorem elements_of_path {document part : Json} {path : List Value}
    (h : document.Path path part) : (ofJson document).elements rule path = .ok (ofJson part) := by
  induction h with
  | here document => rfl
  | @step document next part index path hstep _ ih =>
    rw [← List.singleton_append, elements_append, elements_singleton, element_of_step hstep,
      ok_bind, ih]

/-- What one more step gives after a path. -/
theorem elements_concat {document part : Json} {path : List Value} (h : document.Path path part)
    (index : Value) :
    (ofJson document).elements rule (path ++ [index]) = (ofJson part).element index := by
  rw [elements_append, elements_of_path rule h, ok_bind, elements_singleton]

end Value

/-- The elements along a path into a document are the parts of the document along it. Behind the
path, a key that an object lacks gives null, and a place outside an array fails with the place and
the length of the array. -/
theorem elements_along_path (rule : TextRule) {document part : Json} {path : List Value}
    (h : document.Path path part) :
    (Value.ofJson document).elements rule path = .ok (Value.ofJson part) ∧
    (∀ fields key, part = .object fields → (∀ field ∈ fields, field.1 ≠ key) →
      (Value.ofJson document).elements rule (path ++ [.string key]) = .ok .null) ∧
    (∀ items index (i : Int), part = .array items → index.wholeNumber? = some i →
      i < 0 ∨ items.length ≤ i →
      (Value.ofJson document).elements rule (path ++ [index]) =
        .error (.indexOutOfRange i items.length)) := by
  refine ⟨Value.elements_of_path rule h, ?_, ?_⟩
  · rintro fields key rfl hlacks
    rw [Value.elements_concat rule h, Value.element_of_missing_key hlacks]
  · rintro items index i rfl hindex hi
    rw [Value.elements_concat rule h, Value.element_out_of_range hindex hi]

def tableDocument : Json :=
  .object [("name", .string "t"),
    ("rows", .array [.null, .object [("cells", .array [.array [], .array [.float 0.5]])]])]

theorem elements_of_tableDocument :
    let path : List Value := [.string "rows", .long 1, .string "cells", .integer 1]
    tableDocument.Path path (.array [.float 0.5]) ∧
      (Value.ofJson tableDocument).elements .exact path = .ok (.array [.double 0.5]) ∧
      (Value.ofJson tableDocument).elements .exact (path ++ [.long (-1)]) =
        .error (.indexOutOfRange (-1) 1) := by
  intro path
  have hpath : tableDocument.Path path (.array [.float 0.5]) :=
    .step (@Json.Step.field [("name", .string "t")] [] _ _ (by decide))
      (.step (.item (i := 1) rfl rfl)
        (.step (@Json.Step.field [] [] _ _ (by decide))
          (.step (.item (i := 1) rfl rfl) (.here _))))
  obtain ⟨hpart, -, houtside⟩ := elements_along_path .exact hpath
  exact ⟨hpath, hpart, houtside _ (.long (-1)) (-1) rfl rfl (.inl (by decide))⟩

end Reckon
