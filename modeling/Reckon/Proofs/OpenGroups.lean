import Reckon.Proofs.Prefixes

/-!
# What tokens leave open

Parentheses, brackets and question marks open groups, and each closer ends the innermost one. A
phrase closes whatever it opens and ends where an operand may end. So the tokens alone tell which
groups are still open, and the last of them tells whether an operand or an operator comes next: the
frames and the state of an assembly say the same.
-/

namespace Reckon

/-- A choice is open until its colon. -/
inductive OpenGroup where
  | paren
  | bracket
  | choice
deriving DecidableEq

namespace OpenGroup

def after (groups : List OpenGroup) (token : Token) : List OpenGroup :=
  match token.kind with
  | .mark .leftParen => paren :: groups
  | .mark .leftBracket => bracket :: groups
  | .mark .question => choice :: groups
  | .mark .rightParen | .mark .rightBracket | .mark .colon => groups.tail
  | _ => groups

end OpenGroup

def openGroups (tokens : List Token) : List OpenGroup :=
  tokens.foldl OpenGroup.after []

theorem openGroups_append (ts us : List Token) :
    openGroups (ts ++ us) = us.foldl OpenGroup.after (openGroups ts) :=
  List.foldl_append

def endsOperand (tokens : List Token) : Bool :=
  (tokens.getLast?.map fun token => token.kind.endsOperand).getD false

def Awaiting.isOperator : Awaiting → Bool
  | .operator _ => true
  | _ => false

def Frame.group? : Frame → Option OpenGroup
  | .operator .. | .colon _ => none
  | .paren | .call .. => some .paren
  | .bracket _ => some .bracket
  | .question _ => some .choice

/-! ### Phrases -/

theorem endsOperand_append {us : List Token} (ts : List Token) (h : endsOperand us = true) :
    endsOperand (ts ++ us) = true := by
  cases hl : us.getLast? with
  | none => simp [endsOperand, hl] at h
  | some last => simpa [endsOperand, hl] using h

theorem endsOperand_concat (ts : List Token) (token : Token) :
    endsOperand (ts ++ [token]) = token.kind.endsOperand := by
  simp [endsOperand]

namespace Parses

/-- Only a call that lacks its last parenthesis leaves something open. -/
def OpensIn (groups : List OpenGroup) : Phrase → List OpenGroup
  | .openCall => .paren :: groups
  | _ => groups

theorem foldl_after {phrase : Phrase} {us : List Token} {t : Term} (h : Parses phrase us t)
    (groups : List OpenGroup) : us.foldl OpenGroup.after groups = OpensIn groups phrase := by
  induction h generalizing groups with
  | constant | name | emptyCall => rfl
  | primary _ ih | indexed _ ih | signed _ _ _ ih | chain _ ih => exact ih groups
  | group p q _ ih | call q _ ih | element p q _ _ iha ih | firstArgument f n p q _ ih
  | nextArgument q _ _ ihcall ih | sign p single ho _ ih | left p double hop _ _ _ _ iha ih
  | power p _ _ _ _ iha ih | nullTest level p single ho _ _ ih | choice p q _ _ _ ihc iha ih =>
    simp [*, OpensIn, OpenGroup.after]

theorem endsOperand {phrase : Phrase} {us : List Token} {t : Term} (h : Parses phrase us t) :
    phrase ≠ .openCall → endsOperand us = true := by
  induction h with
  | constant | name | emptyCall => exact fun _ => rfl
  | primary _ ih | indexed _ ih | signed _ _ _ ih | chain _ ih => exact fun _ => ih nofun
  | group | call | element => exact fun _ => endsOperand_concat _ _
  | nullTest level p single ho _ _ ih =>
    intro _
    rw [endsOperand_concat]
    rcases ho with rfl | rfl <;> rfl
  | firstArgument | nextArgument => exact fun h => absurd rfl h
  | @sign ts t op p single ho _ ih => exact fun _ => endsOperand_append [_] (ih nofun)
  | @left ts us _ _ _ _ _ _ p _ _ _ _ _ _ _ ih | @power ts us _ _ _ _ p _ _ _ _ _ ih =>
    intro _
    rw [List.append_cons]
    exact endsOperand_append _ (ih nofun)
  | @choice ts us vs _ _ _ p q _ _ _ _ _ ih =>
    intro _
    rw [List.append_cons]
    exact endsOperand_append _ (ih nofun)

end Parses

/-! ### Prefixes -/

theorem endsOperand_of_binding? {op : Operator} {binding : Nat} (h : binding? op = some binding) :
    (TokenKind.action (.operator op)).endsOperand = false := by
  cases op <;> cases h <;> rfl

namespace Begun

variable {ts : List Token} {frames : List Frame} {output : List Instruction}

theorem openGroups (h : Begun ts frames output) :
    openGroups ts = frames.filterMap Frame.group? := by
  induction h with
  | start => rfl
  | sign _ _ _ ih | paren _ _ ih | call _ _ _ _ _ ih =>
    simp [openGroups_append, ih, OpenGroup.after, List.filterMap_cons, Frame.group?]
  | join _ _ _ _ ha ih | comma _ _ ha ih | bracket _ _ ha ih | question _ _ _ ha ih =>
    simp [openGroups_append, ih, ha.foldl_after, Parses.OpensIn, OpenGroup.after,
      List.filterMap_cons, Frame.group?]
  | colon _ _ _ _ hc ha ih =>
    simp [openGroups_append, ih, hc.foldl_after, ha.foldl_after, Parses.OpensIn, OpenGroup.after,
      List.filterMap_cons, Frame.group?]

theorem endsOperand (h : Begun ts frames output) : endsOperand ts = false := by
  cases h with
  | start => rfl
  | sign p ho =>
    rw [endsOperand_concat]
    rcases ho with rfl | rfl <;> rfl
  | join p hb =>
    rw [endsOperand_concat]
    exact endsOperand_of_binding? hb
  | call f n p q =>
    rw [List.append_cons]
    exact endsOperand_concat _ _
  | _ => exact endsOperand_concat _ _

end Begun

namespace Reached

variable {ts : List Token} {a : Assembly}

theorem openGroups (h : Reached ts a) : openGroups ts = a.frames.filterMap Frame.group? := by
  cases h with
  | operand hb => exact hb.openGroups
  | parenOf f n p hb | firstArgument f n p q hb =>
    simp [openGroups_append, hb.openGroups, OpenGroup.after, Frame.group?]
  | operator hchain =>
    obtain ⟨hb, hp⟩ := hchain 0
    rw [openGroups_append, hb.openGroups]
    exact hp.foldl_after _

theorem endsOperand (h : Reached ts a) : endsOperand ts = a.awaiting.isOperator := by
  cases h with
  | operand hb => exact hb.endsOperand
  | parenOf f n p hb => exact endsOperand_concat _ _
  | firstArgument f n p q hb =>
    rw [List.append_cons]
    exact endsOperand_concat _ _
  | operator hchain =>
    obtain ⟨hb, hp⟩ := hchain 0
    exact endsOperand_append _ (hp.endsOperand nofun)

end Reached

end Reckon
