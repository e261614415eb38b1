import Reckon.Assembly
import Reckon.Proofs.Term

/-!
# The grammar of formulas

`Parses phrase tokens t` says that the tokens are a phrase of the given sort and that `t` is the
term it stands for. An expression is a chain, or a choice with a chain as its condition. A chain is
made of signed operands by operators between two operands and by tests for null behind one. A signed
operand is a constant, a name, a group or a call, with indices behind it and signs before it.
-/

namespace Reckon

def leftJoiners : Nat → List Operator
  | 2 => [.either, .exclusive]
  | 3 => [.both]
  | 4 => [.equal, .notEqual, .like, .notLike, .member, .notMember]
  | 5 => [.less, .lessEqual, .greater, .greaterEqual]
  | 6 => [.shiftLeft, .shiftRight]
  | 7 => [.add, .subtract]
  | 8 => [.multiply, .divide, .modulo]
  | _ => []

/-- In a chain all operators bind at least at `least`, and it can stand to the left of an operator
that takes as its left operand what binds at least at `level`. An open call has at least one
argument and lacks its last parenthesis. -/
inductive Phrase where
  | expression
  | chain (least level : Nat)
  | signed
  | indexed
  | primary
  | openCall

/-- A test for null binds like an equality to what is before it, and like a group to what is behind
it: nothing limits the level of its chain. -/
inductive Parses : Phrase → List Token → Term → Prop where
  | constant (v : Value) (p : Position) :
      Parses .primary [⟨.action (.constant v), p⟩] (.constant v p)
  | name (n : String) (p : Position) : Parses .primary [⟨.action (.name n), p⟩] (.name n p)
  | group {ts : List Token} {t : Term} (p q : Position) :
      Parses .expression ts t →
      Parses .primary (⟨.mark .leftParen, p⟩ :: ts ++ [⟨.mark .rightParen, q⟩]) t
  | emptyCall (f : String) (n : Nat) (p q r : Position) :
      Parses .primary
        [⟨.action (.call f n), p⟩, ⟨.mark .leftParen, q⟩, ⟨.mark .rightParen, r⟩] (.call f p [])
  | firstArgument {ts : List Token} {t : Term} (f : String) (n : Nat) (p q : Position) :
      Parses .expression ts t →
      Parses .openCall (⟨.action (.call f n), p⟩ :: ⟨.mark .leftParen, q⟩ :: ts) (.call f p [t])
  | nextArgument {ts us : List Token} {f : String} {p : Position} {args : List Term} {t : Term}
      (q : Position) :
      Parses .openCall ts (.call f p args) → Parses .expression us t →
      Parses .openCall (ts ++ ⟨.mark .comma, q⟩ :: us) (.call f p (args ++ [t]))
  | call {ts : List Token} {t : Term} (q : Position) :
      Parses .openCall ts t → Parses .primary (ts ++ [⟨.mark .rightParen, q⟩]) t
  | primary {ts : List Token} {t : Term} : Parses .primary ts t → Parses .indexed ts t
  | element {ts us : List Token} {a b : Term} (p q : Position) :
      Parses .indexed ts a → Parses .expression us b →
      Parses .indexed (ts ++ ⟨.mark .leftBracket, p⟩ :: us ++ [⟨.mark .rightBracket, q⟩])
        (.binary .element p rfl a b)
  | indexed {ts : List Token} {t : Term} : Parses .indexed ts t → Parses .signed ts t
  | sign {ts : List Token} {t : Term} {op : Operator} (p : Position) (single : op.arity = 1) :
      op = .negate ∨ op = .not → Parses .signed ts t →
      Parses .signed (⟨.action (.operator op), p⟩ :: ts) (.unary op p single t)
  | signed {ts : List Token} {t : Term} (least level : Nat) :
      Parses .signed ts t → Parses (.chain least level) ts t
  | left {ts us : List Token} {a b : Term} {op : Operator} {least level binding : Nat}
      (p : Position) (double : op.arity = 2) :
      op ∈ leftJoiners binding → least ≤ binding → level ≤ binding →
      Parses (.chain least binding) ts a → Parses (.chain (binding + 1) 0) us b →
      Parses (.chain least level) (ts ++ ⟨.action (.operator op), p⟩ :: us)
        (.binary op p double a b)
  | power {ts us : List Token} {a b : Term} {least level : Nat} (p : Position) :
      least ≤ 9 → level ≤ 9 →
      Parses (.chain least 10) ts a → Parses (.chain 9 0) us b →
      Parses (.chain least level) (ts ++ ⟨.action (.operator .power), p⟩ :: us)
        (.binary .power p rfl a b)
  | nullTest {ts : List Token} {t : Term} {op : Operator} {least : Nat} (level : Nat)
      (p : Position) (single : op.arity = 1) :
      op = .isNull ∨ op = .isNotNull → least ≤ 4 → Parses (.chain least 4) ts t →
      Parses (.chain least level) (ts ++ [⟨.action (.operator op), p⟩]) (.unary op p single t)
  | chain {ts : List Token} {t : Term} : Parses (.chain 0 0) ts t → Parses .expression ts t
  | choice {ts us vs : List Token} {c a b : Term} (p q : Position) :
      Parses (.chain 0 0) ts c → Parses .expression us a → Parses .expression vs b →
      Parses .expression (ts ++ ⟨.mark .question, p⟩ :: us ++ ⟨.mark .colon, q⟩ :: vs)
        (.choice p c a b)

/-! ### Joining at the binding of an operator -/

theorem binding?_of_mem_leftJoiners {op : Operator} {binding : Nat}
    (h : op ∈ leftJoiners binding) : binding? op = some binding ∧ op ≠ .power := by
  unfold leftJoiners at h
  split at h <;> revert op <;> simp [binding?, equalityBinding]

theorem mem_leftJoiners {op : Operator} {binding : Nat} (h : binding? op = some binding)
    (hp : op ≠ .power) : op ∈ leftJoiners binding := by
  cases op <;> simp [binding?, equalityBinding] at h hp <;> subst h <;> simp [leftJoiners]

theorem arity_of_binding? {op : Operator} {binding : Nat} (h : binding? op = some binding) :
    op.arity = 2 := by
  cases op <;> simp [binding?] at h <;> rfl

theorem arity_of_sign {op : Operator} (h : op = .negate ∨ op = .not) : op.arity = 1 := by
  rcases h with rfl | rfl <;> rfl

theorem arity_of_nullTest {op : Operator} (h : op = .isNull ∨ op = .isNotNull) : op.arity = 1 := by
  rcases h with rfl | rfl <;> rfl

def operandLevel (binding : Nat) : Nat :=
  if binding < 9 then binding + 1 else binding

theorem binding?_lt_iff {op : Operator} {binding : Nat} (h : binding? op = some binding) :
    binding < 9 ↔ op ≠ .power := by
  cases op <;> simp [binding?, equalityBinding] at h <;> subst h <;> simp

theorem binding?_bounds {op : Operator} {binding : Nat} (h : binding? op = some binding) :
    binding ≤ 9 ∧ yieldsTo op binding ≤ signBinding ∧ binding ≤ operandLevel binding := by
  cases op <;> simp [binding?, equalityBinding] at h <;> subst h <;> decide

namespace Parses

theorem join {ts us : List Token} {a b : Term} {op : Operator} {least level binding : Nat}
    (p : Position) (double : op.arity = 2) (hb : binding? op = some binding)
    (hleast : least ≤ binding) (hlevel : level ≤ binding)
    (ha : Parses (.chain least (yieldsTo op binding)) ts a)
    (hr : Parses (.chain (operandLevel binding) 0) us b) :
    Parses (.chain least level) (ts ++ ⟨.action (.operator op), p⟩ :: us)
      (.binary op p double a b) := by
  by_cases hp : op = .power
  · subst hp
    obtain rfl : 9 = binding := Option.some.inj hb
    exact power p hleast hlevel ha hr
  · have hlt : binding < 9 := (binding?_lt_iff hb).mpr hp
    simp only [yieldsTo, if_neg hp] at ha
    simp only [operandLevel, if_pos hlt] at hr
    exact left p double (mem_leftJoiners hb hp) hleast hlevel ha hr

/-! ### Chains -/

theorem chain_mono {ts : List Token} {t : Term} {least level level' : Nat}
    (h : Parses (.chain least level) ts t) (hl : level' ≤ level) :
    Parses (.chain least level') ts t := by
  cases h with
  | signed _ _ ht => exact signed _ _ ht
  | left p double hop hleast hlevel ha hb =>
    exact left p double hop hleast (Nat.le_trans hl hlevel) ha hb
  | power p hleast hlevel ha hb => exact power p hleast (Nat.le_trans hl hlevel) ha hb
  | nullTest _ p single hop hleast ht => exact nullTest _ p single hop hleast ht

/-- Nothing joins operands as tightly as a sign. -/
theorem signed_of_chain {ts : List Token} {t : Term} {least level : Nat}
    (h : Parses (.chain least level) ts t) (hl : signBinding ≤ least) : Parses .signed ts t := by
  have hs : signBinding = 10 := rfl
  cases h with
  | signed _ _ ht => exact ht
  | left p double hop hleast hlevel ha hb =>
    obtain ⟨hbinding, hp⟩ := binding?_of_mem_leftJoiners hop
    have hlt : _ < 9 := (binding?_lt_iff hbinding).mpr hp
    omega
  | power p hleast hlevel ha hb => omega
  | nullTest _ p single hop hleast ht => omega

theorem starts {phrase : Phrase} {ts : List Token} {t : Term} (h : Parses phrase ts t) :
    ∃ token rest, ts = token :: rest ∧ token.kind ≠ .mark .rightParen := by
  induction h with
  | constant v p => exact ⟨_, _, rfl, nofun⟩
  | name n p => exact ⟨_, _, rfl, nofun⟩
  | group p q _ _ => exact ⟨_, _, rfl, nofun⟩
  | emptyCall f n p q r => exact ⟨_, _, rfl, nofun⟩
  | firstArgument f n p q _ _ => exact ⟨_, _, rfl, nofun⟩
  | sign p single _ _ _ => exact ⟨_, _, rfl, nofun⟩
  | primary _ ih | indexed _ ih | signed _ _ _ ih | chain _ ih => exact ih
  | call _ _ ih | nullTest _ _ _ _ _ _ ih | nextArgument _ _ _ ih _ | element _ _ _ _ ih _
  | left _ _ _ _ _ _ _ ih _ | power _ _ _ _ _ ih _ | choice _ _ _ _ _ ih _ _ =>
    obtain ⟨token, rest, rfl, hk⟩ := ih
    exact ⟨token, _, rfl, hk⟩

end Parses

end Reckon
