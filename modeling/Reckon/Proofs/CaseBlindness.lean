import Reckon.Proofs.SmallTokens
import Reckon.Proofs.UsedNames

/-!
# The case of letters does not matter

Texts that differ only in the case of letters outside quoted texts are refused at the same place for
the same kind of fault, or their programs evaluate alike whatever the named values and functions
are, as names in another case find the same things.
-/

namespace Reckon

/-- The same value, or errors with the same code, whatever there is to look up. -/
def Program.EvaluatesLike (p q : Program) : Prop :=
  ∀ (rule : TextRule) (scope : Scope) (library : Library) (moments : Moments),
    (p.evaluate rule scope.value? library.get? moments).mapError EvaluationError.code =
      (q.evaluate rule scope.value? library.get? moments).mapError EvaluationError.code

/-- Both are refused at one place with one code, or both are programs and evaluate alike. -/
inductive ReadAlike : Except SyntaxError Program → Except SyntaxError Program → Prop where
  | refused {e e' : SyntaxError} : e.fault.code = e'.fault.code → e.position = e'.position →
      ReadAlike (.error e) (.error e')
  | accepted {p q : Program} : p.EvaluatesLike q → ReadAlike (.ok p) (.ok q)

theorem Program.evaluatesLike_of_rename {p q : Program}
    (h : p.rename smallText = q.rename smallText) : p.EvaluatesLike q := by
  intro rule scope library moments
  have hscope : scope.value? ∘ smallText = scope.value? :=
    funext fun name => scope.value?_congr (nameKey_smallText name)
  have hlibrary : library.get? ∘ smallText = library.get? :=
    funext fun name => library.get?_congr (nameKey_smallText name)
  have hrename (r : Program) :
      ((r.rename smallText).evaluate rule scope.value? library.get? moments).mapError
          EvaluationError.code =
        (r.evaluate rule scope.value? library.get? moments).mapError EvaluationError.code := by
    rw [r.evaluate_rename, hscope, hlibrary]
  rw [← hrename p, ← hrename q, h]

/-- The case of letters outside quoted texts neither decides whether a text can be read nor what it
comes to. -/
theorem readAlike_of_sameButCase (s t : String) (h : SameButCase s.toList t.toList) :
    ReadAlike (Program.parse s) (Program.parse t) := by
  have hrename (text : String) :
      located (Program.assemble ((readTokens .formula text.toList).map (Token.rename smallText))) =
        (located (Program.parse text)).map (Program.rename smallText) :=
    assemble_rename _
  have hlocated : (located (Program.parse s)).map (Program.rename smallText) =
      (located (Program.parse t)).map (Program.rename smallText) := by
    rw [← hrename s, ← hrename t, h.map_rename_tokens]
  cases hs : Program.parse s with
  | error e =>
    cases ht : Program.parse t with
    | error e' =>
      rw [hs, ht] at hlocated
      obtain ⟨hcode, hposition⟩ := Prod.mk.inj (Except.error.inj hlocated)
      exact .refused hcode hposition
    | ok q =>
      rw [hs, ht] at hlocated
      exact absurd hlocated nofun
  | ok p =>
    cases ht : Program.parse t with
    | error e' =>
      rw [hs, ht] at hlocated
      exact absurd hlocated nofun
    | ok q =>
      rw [hs, ht] at hlocated
      exact .accepted (Program.evaluatesLike_of_rename (Except.ok.inj hlocated))

theorem readAlike_in_other_case :
    let s := "0xAb + Max(x.Y, 1E2) Not Like 'aB''c' // it's"
    let t := "0XaB + mAX(X.y, 1e2) nOT lIKE 'aB''c' // IT'S"
    SameButCase s.toList t.toList ∧ (Program.parse s).isOk = true ∧
      ReadAlike (Program.parse s) (Program.parse t) := by
  intro s t
  have hquoted : ∀ i < 45, QuotedAt (LexemeRules.formula.asWritten.lexemes s.toList) i →
      s.toList[i]? = t.toList[i]? := by decide +kernel
  have h : SameButCase s.toList t.toList := by
    refine ⟨by decide +kernel, fun i hi => ?_⟩
    by_cases hlt : i < 45
    · exact hquoted i hlt hi
    · have hlength : s.toList.length = 45 ∧ t.toList.length = 45 := by decide +kernel
      rw [List.getElem?_eq_none (hlength.1 ▸ Nat.not_lt.mp hlt),
        List.getElem?_eq_none (hlength.2 ▸ Nat.not_lt.mp hlt)]
  have hparse : (Program.parse s).isOk = true := by decide +kernel
  exact ⟨h, hparse, readAlike_of_sameButCase s t h⟩

end Reckon
