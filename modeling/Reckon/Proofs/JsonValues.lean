import Reckon.Proofs.Widening

/-!
# Values as documents

A document becomes a value and a value a document. Where whole numbers have 64 bits and a sign the
document comes back from its value, and the values that come back from their documents are those
whose kind a document tells: whole numbers in the narrowest kind that holds them, finite numbers of
the widest kind, texts, truth values, null, objects, and arrays of these.
-/

namespace Reckon

/-- The whole numbers of the document have 64 bits and a sign, and its floating point numbers are
finite, as they are wherever a document is read. -/
inductive Json.Fits : Json → Prop where
  | null : Fits .null
  | boolean (b : Bool) : Fits (.boolean b)
  | integer {n : Int} : FitsIn64 n → Fits (.integer n)
  | float {x : Float} : x.isFinite = true → Fits (.float x)
  | string (s : String) : Fits (.string s)
  | array {items : List Json} : (∀ item ∈ items, Fits item) → Fits (.array items)
  | object {fields : List (String × Json)} :
    (∀ field ∈ fields, Fits field.2) → Fits (.object fields)

theorem Json.ofFloat_of_isFinite {x : Float} (h : x.isFinite = true) : Json.ofFloat x = .float x :=
  if_pos h

theorem map_map_of_inverse {α β : Type} {f : α → β} {g : β → α} {items : List α}
    (h : ∀ item ∈ items, g (f item) = item) : (items.map f).map g = items :=
  calc (items.map f).map g
    _ = items.map (g ∘ f) := List.map_map
    _ = items.map id := List.map_congr_left h
    _ = items := List.map_id items

theorem toInt32?_toInt (n : Int32) : toInt32? n.toInt = some n := by
  have hlo := n.le_toInt
  have hhi := n.toInt_lt
  rw [toInt32?, if_pos (by omega), Int32.ofInt_toInt]

theorem toInt64?_toInt (n : Int64) : toInt64? n.toInt = some n := by
  have hlo := n.le_toInt
  have hhi := n.toInt_lt
  rw [toInt64?, if_pos (by omega), Int64.ofInt_toInt]

theorem toInt32?_of_not_fits {n : Int} (h : ¬FitsIn32 n) : toInt32? n = none := by
  unfold FitsIn32 at h
  rw [toInt32?, if_neg (by omega)]

namespace Value

/-- The kind of the value, and that of every item in it, shows in its document. -/
inductive ShowsKind : Value → Prop where
  | null : ShowsKind null
  | boolean (b : Bool) : ShowsKind (boolean b)
  | integer (n : Int32) : ShowsKind (integer n)
  | long {n : Int64} : ¬FitsIn32 n.toInt → ShowsKind (long n)
  | double {x : Float} : x.isFinite = true → ShowsKind (double x)
  | string (s : String) : ShowsKind (string s)
  | object (fields : List (String × Json)) : ShowsKind (object (.object fields))
  | array {items : List Value} : (∀ item ∈ items, ShowsKind item) → ShowsKind (array items)

theorem toJsonItems_eq_map (items : List Value) : toJsonItems items = items.map toJson := by
  induction items with
  | nil => rfl
  | cons item rest ih => rw [toJsonItems, ih, List.map_cons]

theorem ofJsonItems_eq_map (items : List Json) : ofJsonItems items = items.map ofJson := by
  induction items with
  | nil => rfl
  | cons item rest ih => rw [ofJsonItems, ih, List.map_cons]

theorem toJson_ofInt {n : Int} (h : FitsIn64 n) : (ofInt n).toJson = .integer n := by
  unfold ofInt
  split
  · next k hk => rw [toJson, toInt_of_toInt32? hk]
  · split
    · next k hk => rw [toJson, toInt_of_toInt64? hk]
    · next hnone => exact absurd h (toInt64?_eq_none hnone)

theorem toJson_ofJson {document : Json} (h : document.Fits) :
    (ofJson document).toJson = document := by
  induction h with
  | integer hn => exact toJson_ofInt hn
  | float hx => exact Json.ofFloat_of_isFinite hx
  | array _ ih =>
    rw [ofJson, toJson, toJsonItems_eq_map, ofJsonItems_eq_map, map_map_of_inverse ih]
  -- An object stays whole, whatever is in it.
  | _ => rfl

theorem ofJson_toJson {v : Value} (h : v.ShowsKind) : ofJson v.toJson = v := by
  induction h with
  | integer n => rw [toJson, ofJson, ofInt, toInt32?_toInt]
  | @long n hn => rw [toJson, ofJson, ofInt, toInt32?_of_not_fits hn, toInt64?_toInt]
  | double hx => rw [toJson, Json.ofFloat_of_isFinite hx, ofJson]
  | array _ ih =>
    rw [toJson, ofJson, toJsonItems_eq_map, ofJsonItems_eq_map, map_map_of_inverse ih]
  | _ => rfl

end Value

/-- A document comes back from the value it becomes, and a value of which each kind shows from the
document it becomes. -/
theorem json_there_and_back :
    (∀ document : Json, document.Fits → (Value.ofJson document).toJson = document) ∧
      ∀ v : Value, v.ShowsKind → Value.ofJson v.toJson = v :=
  ⟨fun _ => Value.toJson_ofJson, fun _ => Value.ofJson_toJson⟩

def nestedDocument : Json :=
  .array [.integer 2147483648, .array [.object [("k", .integer 1)], .float 0.5]]

theorem nested_document_there_and_back :
    nestedDocument.Fits ∧ (Value.ofJson nestedDocument).ShowsKind ∧
      (Value.ofJson nestedDocument).toJson = nestedDocument ∧
      Value.ofJson (Value.ofJson nestedDocument).toJson = Value.ofJson nestedDocument := by
  have hfits : nestedDocument.Fits := by
    have hobject : (Json.object [("k", .integer 1)]).Fits :=
      .object (List.forall_mem_singleton.mpr (.integer (by decide)))
    have hrest : (Json.array [.object [("k", .integer 1)], .float 0.5]).Fits :=
      .array (List.forall_mem_cons.mpr
        ⟨hobject, List.forall_mem_singleton.mpr (.float (by decide))⟩)
    exact .array (List.forall_mem_cons.mpr
      ⟨.integer (by decide), List.forall_mem_singleton.mpr hrest⟩)
  have hkinds : (Value.ofJson nestedDocument).ShowsKind := by
    have hrest : (Value.array [.object (.object [("k", .integer 1)]), .double 0.5]).ShowsKind :=
      .array (List.forall_mem_cons.mpr
        ⟨.object _, List.forall_mem_singleton.mpr (.double (by decide))⟩)
    exact .array (List.forall_mem_cons.mpr
      ⟨.long (by decide), List.forall_mem_singleton.mpr hrest⟩)
  obtain ⟨hdocument, hvalue⟩ := json_there_and_back
  exact ⟨hfits, hkinds, hdocument _ hfits, hvalue _ hkinds⟩

end Reckon
