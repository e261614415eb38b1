import Reckon.Proofs.Signs

/-!
# Unknown symbols

A token that means nothing in a formula is refused wherever assembling comes to it. Where an operand
is awaited, or nothing is open, it is reported as what it is. Where an operator is awaited the
innermost open group comes first, and is reported as not closed.
-/

namespace Reckon

/-- What some expression begins with can be taken, as far as it has no end in it. -/
theorem exists_takeAll_of_viable {before : List Token} (h : Viable before)
    (hend : ∀ token ∈ before, token.kind.isEnding = false) :
    ∃ a, Assembly.start.takeAll before = .ok a := by
  obtain ⟨rest, program, hp⟩ := h
  have hbefore : beforeEnding (before ++ rest) = before ++ beforeEnding rest :=
    List.takeWhile_append_of_pos fun token ht => by simp [hend token ht]
  rw [Program.assemble, Assembly.run_eq_takeAll, hbefore, Assembly.takeAll_append] at hp
  obtain ⟨b, hb, -⟩ := bind_eq_ok.mp hp
  obtain ⟨a, ha, -⟩ := bind_eq_ok.mp hb
  exact ⟨a, ha⟩

namespace Assembly

variable {a : Assembly} {text : String} {p : Position}

/-- Nothing takes an unknown token. -/
theorem take_unknown (a : Assembly) (text : String) (p : Position) :
    a.take ⟨.unknown text, p⟩ = .error ⟨a.refusal (.unknown text), p⟩ := by
  obtain ⟨output, frames, awaiting⟩ := a
  cases awaiting <;> rfl

theorem refusal_unknown_operand (hparen : ∀ f q, a.awaiting ≠ .parenOf f q)
    (h : a.awaiting.isOperator = false) :
    a.refusal (.unknown text) = .unknownSymbol text := by
  obtain ⟨output, frames, awaiting⟩ := a
  cases awaiting with
  | parenOf f q => exact absurd rfl (hparen f q)
  | operator indexable => cases h
  | operand | firstArgument => rfl

theorem refusal_unknown_operator (h : a.awaiting.isOperator = true) :
    (a.frames.filterMap Frame.group? = [] ∧ a.refusal (.unknown text) = .unknownSymbol text) ∨
    ∃ group groups, a.frames.filterMap Frame.group? = group :: groups ∧
      (a.refusal (.unknown text)).code =
        refusalCode (.operator true) (group :: groups) (.unknown text) := by
  obtain ⟨output, frames, awaiting⟩ := a
  cases awaiting with
  | operator indexable =>
    rcases unclosed_closeLevel frames output (.unknown text) with ⟨hgroups, hframes⟩ | hgroup
    · refine .inl ⟨hgroups, ?_⟩
      simp only [refusal, hframes, unclosed, unexpected]
    · exact .inr hgroup
  | _ => cases h

end Assembly

/-- Assembling stops at the first unknown token, and says so unless an operator is awaited in an
open group. -/
theorem error_at_unknown {before : List Token} (hviable : Viable before)
    (hend : ∀ token ∈ before, token.kind.isEnding = false)
    (hname : ∀ f n q, before.getLast? ≠ some ⟨.action (.call f n), q⟩)
    (text : String) (p : Position) (after : List Token) :
    ∃ fault, Program.assemble (before ++ ⟨.unknown text, p⟩ :: after) = .error ⟨fault, p⟩ ∧
      (endsOperand before = false ∨ openGroups before = [] → fault = .unknownSymbol text) ∧
      ∀ group groups, endsOperand before = true → openGroups before = group :: groups →
        fault.code = refusalCode (.operator true) (group :: groups) (.unknown text) := by
  obtain ⟨a, ha⟩ := exists_takeAll_of_viable hviable hend
  have hreached : Reached before a := reached_of_takeAll ha
  have hparen : ∀ f q, a.awaiting ≠ .parenOf f q := by
    intro f q hawaiting
    obtain ⟨earlier, n, rfl⟩ := hreached.ends_of_parenOf hawaiting
    exact hname f n q List.getLast?_concat
  refine ⟨a.refusal (.unknown text), ?_, ?_, ?_⟩
  · rw [Program.assemble, Assembly.run_append _ ha, Assembly.run_cons]
    simp only [TokenKind.isEnding, Assembly.take_unknown, error_bind, Bool.false_eq_true, if_false]
  all_goals rw [hreached.endsOperand, hreached.openGroups]
  · intro h
    cases hawaiting : a.awaiting.isOperator with
    | false => exact Assembly.refusal_unknown_operand hparen hawaiting
    | true =>
      rcases Assembly.refusal_unknown_operator hawaiting with ⟨-, hfault⟩ | ⟨_, _, hgroups, -⟩
      · exact hfault
      · rcases h with h | h
        · rw [hawaiting] at h
          cases h
        · rw [hgroups] at h
          cases h
  · intro group groups hawaiting hgroup
    rcases Assembly.refusal_unknown_operator hawaiting with ⟨hnone, -⟩ | ⟨_, _, hgroups, hcode⟩
    · rw [hnone] at hgroup
      cases hgroup
    · rw [hgroup] at hgroups
      cases hgroups
      exact hcode

theorem error_at_unknown_in_parens :
    ∃ fault, Program.assemble [⟨.mark .leftParen, ⟨1, 1⟩⟩,
        ⟨.action (.constant (.integer 1)), ⟨1, 2⟩⟩, ⟨.unknown "#", ⟨1, 4⟩⟩,
        ⟨.action (.constant (.integer 2)), ⟨1, 6⟩⟩, ⟨.mark .rightParen, ⟨1, 7⟩⟩] =
          .error ⟨fault, ⟨1, 4⟩⟩ ∧ fault.code = "MISSED_CLOSE_PARENTHESIS" := by
  have hviable : Viable [⟨.mark .leftParen, ⟨1, 1⟩⟩,
      ⟨.action (.constant (.integer 1)), ⟨1, 2⟩⟩] :=
    ⟨[⟨.mark .rightParen, ⟨1, 3⟩⟩], _, rfl⟩
  obtain ⟨fault, hfault, -, hcode⟩ := error_at_unknown hviable (by simp [TokenKind.isEnding]) nofun
    "#" ⟨1, 4⟩ [⟨.action (.constant (.integer 2)), ⟨1, 6⟩⟩, ⟨.mark .rightParen, ⟨1, 7⟩⟩]
  exact ⟨fault, hfault, hcode .paren [] rfl rfl⟩

/-- In parentheses that are closed later an unknown symbol is reported as their missing end. -/
theorem unknown_taken_for_unclosed :
    ¬∀ (before after : List Token) (text : String) (p : Position), Viable before →
      (∀ token ∈ before, token.kind.isEnding = false) →
      (∀ token ∈ before, ∀ s, token.kind ≠ .unknown s) →
      (∀ f n q, before.getLast? ≠ some ⟨.action (.call f n), q⟩) →
      ∃ e, Program.assemble (before ++ ⟨.unknown text, p⟩ :: after) = .error e ∧
        e.position = p ∧ e.fault.code = "UNKNOWN_SYMBOL" := by
  intro h
  have hviable : Viable [⟨.mark .leftParen, ⟨1, 1⟩⟩,
      ⟨.action (.constant (.integer 1)), ⟨1, 2⟩⟩] :=
    ⟨[⟨.mark .rightParen, ⟨1, 3⟩⟩], _, rfl⟩
  obtain ⟨e, he, -, hcode⟩ := h _ [⟨.action (.constant (.integer 2)), ⟨1, 6⟩⟩,
    ⟨.mark .rightParen, ⟨1, 7⟩⟩] "#" ⟨1, 4⟩ hviable (by simp [TokenKind.isEnding]) (by simp) nofun
  cases he
  exact absurd hcode (by decide)

end Reckon
