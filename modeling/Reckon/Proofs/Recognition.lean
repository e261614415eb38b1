import Reckon.Proofs.Acceptance
import Reckon.Proofs.Prefixes

/-!
# Assembling recognizes expressions

The tokens before the first end are assembled to a program exactly if they are an expression, and
the program is that of its term. No tokens are an expression for two terms.
-/

namespace Reckon

/-- Nothing may be left open at the end. -/
theorem Reached.finish {ts : List Token} {a : Assembly} {p : Position} {program : Program}
    (h : Reached ts a) (hf : a.finish p = .ok program) :
    ∃ t, Parses .expression ts t ∧ program = ⟨t.postorder⟩ := by
  cases h with
  | operand hb | parenOf f n q hb | firstArgument f n q r hb => cases hf
  | @operator _ frames output indexable hchain hindexed =>
    obtain ⟨frames', output', hc⟩ : ∃ frames' output',
        closeLevel frames output = (frames', output') := ⟨_, _, rfl⟩
    simp only [Assembly.finish, hc] at hf
    split at hf
    · rename_i hempty
      cases hf
      obtain rfl := List.isEmpty_iff.mp hempty
      obtain @⟨_, us, _, _, t, hb, ht⟩ := (hchain 0).closeLevel hc
      cases hb
      exact ⟨t, ht, by simp⟩
    · cases hf

theorem parses_of_assemble {tokens : List Token} {program : Program}
    (h : Program.assemble tokens = .ok program) :
    ∃ t, Parses .expression (beforeEnding tokens) t ∧ program = ⟨t.postorder⟩ := by
  rw [Program.assemble, Assembly.run_eq_takeAll] at h
  obtain ⟨a, ha, hf⟩ := bind_eq_ok.mp h
  have hstart : Reached [] Assembly.start := .operand .start
  exact (hstart.takeAll ha).finish hf

theorem Parses.unique {tokens : List Token} {t u : Term}
    (ht : Parses .expression (beforeEnding tokens) t)
    (hu : Parses .expression (beforeEnding tokens) u) : t = u := by
  have hprogram : Program.mk t.postorder = ⟨u.postorder⟩ :=
    Except.ok.inj ((assemble_of_parses ht).symm.trans (assemble_of_parses hu))
  exact Term.postorder_injective (congrArg Program.instructions hprogram)

/-- Assembling succeeds exactly on expressions, with the program of the one term they stand for. -/
theorem assemble_eq_ok_iff (tokens : List Token) :
    (∀ program, Program.assemble tokens = .ok program ↔
      ∃ t, Parses .expression (beforeEnding tokens) t ∧ program = ⟨t.postorder⟩) ∧
    ∀ t u, Parses .expression (beforeEnding tokens) t →
      Parses .expression (beforeEnding tokens) u → t = u := by
  refine ⟨fun program => ⟨parses_of_assemble, ?_⟩, fun t u => Parses.unique⟩
  rintro ⟨t, ht, rfl⟩
  exact assemble_of_parses ht

end Reckon
