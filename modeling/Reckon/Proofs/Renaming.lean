import Reckon.Evaluation
import Reckon.Proofs.Frames

/-!
# Renaming

Assembling never looks at names or places: of tokens with others it makes the program with these, or
refuses them at the same token with a fault of the same code, and with the same fault where the
names are the same. Evaluating looks names up and does nothing else with them, so a renamed program
does what the program does where every new name stands for what the old one did.
-/

namespace Reckon

section

variable (f : String → String) (g : Position → Position)

def Action.rename : Action → Action
  | .name n => .name (f n)
  | .call function count => .call (f function) count
  | a => a

def Instruction.rename (i : Instruction) : Instruction :=
  ⟨i.action.rename f, i.position⟩

/-- What means nothing is renamed as well. -/
def TokenKind.rename : TokenKind → TokenKind
  | .action a => .action (a.rename f)
  | .unknown text => .unknown (f text)
  | kind => kind

def Token.rename (t : Token) : Token :=
  ⟨t.kind.rename f, t.position⟩

def Program.rename (p : Program) : Program :=
  ⟨p.instructions.map (Instruction.rename f)⟩

def Instruction.relabel (i : Instruction) : Instruction :=
  ⟨i.action.rename f, g i.position⟩

def Token.relabel (t : Token) : Token :=
  ⟨t.kind.rename f, g t.position⟩

def Program.relabel (p : Program) : Program :=
  ⟨p.instructions.map (Instruction.relabel f g)⟩

def Frame.relabel : Frame → Frame
  | .operator op position binding => .operator op (g position) binding
  | .paren => .paren
  | .call function position count => .call (f function) (g position) count
  | .bracket position => .bracket (g position)
  | .question position => .question (g position)
  | .colon position => .colon (g position)

def Awaiting.relabel : Awaiting → Awaiting
  | .parenOf function position => .parenOf (f function) (g position)
  | awaiting => awaiting

def Assembly.relabel (a : Assembly) : Assembly :=
  ⟨a.output.map (Instruction.relabel f g), a.frames.map (Frame.relabel f g),
    a.awaiting.relabel f g⟩

end

def located {α : Type} (outcome : Except SyntaxError α) : Except (String × Position) α :=
  outcome.mapError fun e => (e.fault.code, e.position)

/-- Of an error, what is looked at of its fault, and its place moved. -/
def seen {δ α : Type} (look : SyntaxFault → δ) (g : Position → Position)
    (outcome : Except SyntaxError α) : Except (δ × Position) α :=
  outcome.mapError fun e => (look e.fault, g e.position)

structure Blind {δ : Type} (look : SyntaxFault → δ) (f : String → String) : Prop where
  unexpected (kind : TokenKind) : look (unexpected (kind.rename f)) = look (unexpected kind)
  unclosedCall (function : String) :
    look (.unclosedCall (f function)) = look (.unclosedCall function)
  expectedParen (function : String) :
    look (.expectedParen (f function)) = look (.expectedParen function)

theorem blind_code (f : String → String) : Blind SyntaxFault.code f where
  unexpected kind := by
    cases kind with
    | _ => rfl
  unclosedCall _ := rfl
  expectedParen _ := rfl

theorem Action.rename_id (a : Action) : a.rename id = a := by
  cases a with
  | _ => rfl

theorem TokenKind.rename_id (kind : TokenKind) : kind.rename id = kind := by
  cases kind with
  | action a => exact congrArg action a.rename_id
  | _ => rfl

theorem blind_id {δ : Type} (look : SyntaxFault → δ) : Blind look id where
  unexpected kind := by rw [kind.rename_id]
  unclosedCall _ := rfl
  expectedParen _ := rfl

/-- Two computations in two steps end alike, up to what is looked at of errors, if their first steps
do, and their second ones from then on. -/
theorem mapError_bind {ε δ α α' β β' : Type} {look look' : ε → δ} {x : Except ε α}
    {x' : Except ε α'} {next : α → Except ε β} {next' : α' → Except ε β'} {g : α → α'} {h : β → β'}
    (hx : x'.mapError look' = (x.mapError look).map g)
    (hnext : ∀ a, (next' (g a)).mapError look' = ((next a).mapError look).map h) :
    (x' >>= next').mapError look' = ((x >>= next).mapError look).map h := by
  cases x with
  | error e =>
    cases x' with
    | error e' => exact congrArg Except.error (Except.error.inj hx)
    | ok a' => exact absurd hx nofun
  | ok a =>
    cases x' with
    | error e' => exact absurd hx nofun
    | ok a' =>
      obtain rfl : a' = g a := Except.ok.inj hx
      exact hnext a

theorem mapError_bind_congr {ε δ α β : Type} {look : ε → δ} {x x' : Except ε α}
    {next next' : α → Except ε β} (hx : x'.mapError look = x.mapError look)
    (hnext : ∀ a, (next' a).mapError look = (next a).mapError look) :
    (x' >>= next').mapError look = (x >>= next).mapError look := by
  have hsame {γ : Type} (y : Except δ γ) : y.map id = y := congrFun Except.map_id y
  have hbind : (x' >>= next').mapError look = ((x >>= next).mapError look).map id := by
    refine mapError_bind (g := id) ?_ fun a => ?_
    · rw [hsame, hx]
    · rw [hsame]
      exact hnext a
  rw [hbind, hsame]

/-! ### Assembling -/

section

variable {f : String → String}

theorem endsOperand_rename (kind : TokenKind) :
    (kind.rename f).endsOperand = kind.endsOperand := by
  cases kind with
  | action a =>
    cases a with
    | _ => rfl
  | _ => rfl

theorem isEnding_rename (kind : TokenKind) : (kind.rename f).isEnding = kind.isEnding := by
  cases kind with
  | _ => rfl

section

variable {δ : Type} {look : SyntaxFault → δ} {g : Position → Position}

theorem Blind.unclosed (h : Blind look f) (frames : List Frame) (kind : TokenKind) :
    look (unclosed (frames.map (Frame.relabel f g)) (kind.rename f)) =
      look (unclosed frames kind) := by
  cases frames with
  | nil => exact h.unexpected kind
  | cons frame frames =>
    cases frame with
    | operator => exact h.unexpected kind
    | colon => exact h.unexpected kind
    | call function position count => exact h.unclosedCall function
    | _ => rfl

theorem applyOperators_relabel (least : Nat) (frames : List Frame) (output : List Instruction) :
    applyOperators least (frames.map (Frame.relabel f g)) (output.map (Instruction.relabel f g)) =
      ((applyOperators least frames output).1.map (Frame.relabel f g),
        (applyOperators least frames output).2.map (Instruction.relabel f g)) := by
  induction frames generalizing output with
  | nil => rfl
  | cons frame frames ih =>
    cases frame with
    | operator op position binding =>
      by_cases h : binding < least
      · simp only [List.map_cons, Frame.relabel, applyOperators, if_pos h]
      · simp only [List.map_cons, Frame.relabel, applyOperators, if_neg h]
        exact ih (⟨.operator op, position⟩ :: output)
    | _ => rfl

theorem closeLevel_relabel (frames : List Frame) (output : List Instruction) :
    closeLevel (frames.map (Frame.relabel f g)) (output.map (Instruction.relabel f g)) =
      ((closeLevel frames output).1.map (Frame.relabel f g),
        (closeLevel frames output).2.map (Instruction.relabel f g)) := by
  induction frames generalizing output with
  | nil => rfl
  | cons frame frames ih =>
    cases frame with
    | operator op position binding => exact ih (⟨.operator op, position⟩ :: output)
    | colon position => exact ih (⟨.operator .ternary, position⟩ :: output)
    | _ => rfl

namespace Assembly

section

variable (hlook : Blind look f) (a : Assembly) (token : Token)

include hlook

theorem takeOperand_relabel :
    seen look id ((a.relabel f g).takeOperand (token.relabel f g)) =
      (seen look g (a.takeOperand token)).map (relabel f g) := by
  obtain ⟨kind, position⟩ := token
  have hrefused : seen look id (.error ⟨unexpected (kind.rename f), g position⟩) =
      (seen look g (.error ⟨unexpected kind, position⟩)).map (relabel f g) :=
    congrArg (fun fault => Except.error (fault, g position)) (hlook.unexpected kind)
  cases kind with
  | action action =>
    cases action with
    | operator op =>
      by_cases h : op = .negate ∨ op = .not
      · simp only [takeOperand, Token.relabel, TokenKind.rename, Action.rename, if_pos h]
        rfl
      · simp only [takeOperand, Token.relabel, TokenKind.rename, Action.rename, if_neg h]
        exact hrefused
    | _ => rfl
  | mark m =>
    cases m with
    | leftParen => rfl
    | _ => exact hrefused
  | _ => exact hrefused

/-- Closing a level does what taking the group away does to the labels. -/
theorem closing_relabel {close : List Frame → List Instruction → Option Assembly}
    (hclose : ∀ frames output, close (frames.map (Frame.relabel f g))
      (output.map (Instruction.relabel f g)) = (close frames output).map (relabel f g)) :
    seen look id ((a.relabel f g).closing (token.relabel f g) close) =
      (seen look g (a.closing token close)).map (relabel f g) := by
  have hlevel : closeLevel (a.relabel f g).frames (a.relabel f g).output = _ :=
    closeLevel_relabel a.frames a.output
  simp only [closing, hlevel, hclose]
  cases close (closeLevel a.frames a.output).1 (closeLevel a.frames a.output).2 with
  | some next => rfl
  | none =>
    exact congrArg (fun fault => Except.error (fault, g token.position))
      (hlook.unclosed (closeLevel a.frames a.output).1 token.kind)

omit hlook in
theorem closer_relabel (m : Mark) (frames : List Frame) (output : List Instruction) :
    closer m (frames.map (Frame.relabel f g)) (output.map (Instruction.relabel f g)) =
      (closer m frames output).map (relabel f g) := by
  cases m with
  | leftParen => rfl
  | leftBracket => rfl
  | question => rfl
  | _ =>
    cases frames with
    | nil => rfl
    | cons frame frames =>
      cases frame with
      | _ => rfl

theorem takeOperator_relabel (indexable : Bool) :
    seen look id ((a.relabel f g).takeOperator indexable (token.relabel f g)) =
      (seen look g (a.takeOperator indexable token)).map (relabel f g) := by
  have hcloses (m : Mark) : seen look id ((a.relabel f g).closing (token.relabel f g) (closer m)) =
      (seen look g (a.closing token (closer m))).map (relabel f g) :=
    closing_relabel hlook a token (closer_relabel m)
  have hrefused :
      seen look id ((a.relabel f g).closing (token.relabel f g) fun _ _ => none) =
        (seen look g (a.closing token fun _ _ => none)).map (relabel f g) :=
    closing_relabel hlook a token fun _ _ => rfl
  have happly (least : Nat) :
      applyOperators least (a.relabel f g).frames (a.relabel f g).output = _ :=
    applyOperators_relabel least a.frames a.output
  obtain ⟨kind, position⟩ := token
  cases kind with
  | action action =>
    cases action with
    | operator op =>
      simp only [takeOperator, Token.relabel, TokenKind.rename, Action.rename, happly]
      by_cases hnull : op = .isNull ∨ op = .isNotNull
      · rw [if_pos hnull, if_pos hnull]
        rfl
      · rw [if_neg hnull, if_neg hnull]
        cases binding? op with
        | none => exact hrefused
        | some binding => rfl
    | _ => exact hrefused
  | mark m =>
    cases m with
    | leftBracket =>
      cases indexable with
      | true => rfl
      | false => exact hrefused
    | question =>
      simp only [takeOperator, Token.relabel, TokenKind.rename, happly]
      rfl
    | leftParen => exact hcloses .leftParen
    | rightParen => exact hcloses .rightParen
    | rightBracket => exact hcloses .rightBracket
    | comma => exact hcloses .comma
    | colon => exact hcloses .colon
  | _ => exact hrefused

theorem takeFirstArgument_relabel :
    seen look id ((a.relabel f g).takeFirstArgument (token.relabel f g)) =
      (seen look g (a.takeFirstArgument token)).map (relabel f g) := by
  have hoperand := takeOperand_relabel (g := g) hlook a token
  obtain ⟨output, frames, awaiting⟩ := a
  obtain ⟨kind, position⟩ := token
  cases kind with
  | mark m =>
    cases m with
    | rightParen =>
      cases frames with
      | nil => exact hoperand
      | cons frame frames =>
        cases frame with
        | call function position count => rfl
        | _ => exact hoperand
    | _ => exact hoperand
  | _ => exact hoperand

theorem takeParen_relabel (function : String) (position : Position) :
    seen look id ((a.relabel f g).takeParen (f function) (g position) (token.relabel f g)) =
      (seen look g (a.takeParen function position token)).map (relabel f g) := by
  obtain ⟨kind, place⟩ := token
  have hrefused : seen look id (.error ⟨.expectedParen (f function), g place⟩) =
      (seen look g (.error ⟨.expectedParen function, place⟩)).map (relabel f g) :=
    congrArg (fun fault => Except.error (fault, g place)) (hlook.expectedParen function)
  cases kind with
  | mark m =>
    cases m with
    | leftParen => rfl
    | _ => exact hrefused
  | _ => exact hrefused

/-- What one token does. -/
theorem take_relabel :
    seen look id ((a.relabel f g).take (token.relabel f g)) =
      (seen look g (a.take token)).map (relabel f g) := by
  have hoperand := takeOperand_relabel (g := g) hlook a token
  have hargument := takeFirstArgument_relabel (g := g) hlook a token
  have hoperator := takeOperator_relabel (g := g) hlook a token
  have hparen := takeParen_relabel (g := g) hlook a token
  obtain ⟨output, frames, awaiting⟩ := a
  cases awaiting with
  | operand => exact hoperand
  | parenOf function position => exact hparen function position
  | firstArgument => exact hargument
  | operator indexable => exact hoperator indexable

theorem finish_relabel (position : Position) :
    seen look id ((a.relabel f g).finish (g position)) =
      (seen look g (a.finish position)).map (Program.relabel f g) := by
  obtain ⟨output, frames, awaiting⟩ := a
  cases awaiting with
  | operator indexable =>
    simp only [finish, relabel, Awaiting.relabel, closeLevel_relabel, List.isEmpty_map]
    by_cases hempty : (closeLevel frames output).1.isEmpty = true
    · rw [if_pos hempty, if_pos hempty, ← List.map_reverse]
      rfl
    · rw [if_neg hempty, if_neg hempty]
      exact congrArg (fun fault => Except.error (fault, g position))
        (hlook.unclosed (closeLevel frames output).1 .ending)
  | parenOf function place =>
    exact congrArg (fun fault => Except.error (fault, g position)) (hlook.expectedParen function)
  | _ => rfl

/-- What many tokens do. -/
theorem run_relabel (position : Position) (tokens : List Token) :
    seen look id ((a.relabel f g).run (g position) (tokens.map (Token.relabel f g))) =
      (seen look g (a.run position tokens)).map (Program.relabel f g) := by
  induction tokens generalizing a with
  | nil => exact finish_relabel hlook a position
  | cons token tokens ih =>
    have hend : (token.relabel f g).kind.isEnding = token.kind.isEnding :=
      isEnding_rename token.kind
    rw [List.map_cons, run_cons, run_cons, hend]
    by_cases he : token.kind.isEnding = true
    · rw [if_pos he, if_pos he]
      exact finish_relabel hlook a token.position
    · rw [if_neg he, if_neg he]
      exact mapError_bind (take_relabel hlook a token) ih

end

end Assembly

/-- The end of no tokens stands at the start. -/
theorem assemble_relabel (hlook : Blind look f) (hstart : g .start = .start)
    (tokens : List Token) :
    seen look id (Program.assemble (tokens.map (Token.relabel f g))) =
      (seen look g (Program.assemble tokens)).map (Program.relabel f g) := by
  have hplaces : (tokens.map (Token.relabel f g)).map Token.position =
      (tokens.map Token.position).map g := by
    rw [List.map_map, List.map_map]
    rfl
  have hend : (endAfter ((tokens.map (Token.relabel f g)).map Token.position)).position =
      g (endAfter (tokens.map Token.position)).position := by
    rw [hplaces, endAfter, endAfter, List.getLast?_map]
    cases (tokens.map Token.position).getLast? with
    | none => exact hstart.symm
    | some position => rfl
  rw [Program.assemble, Program.assemble, hend]
  exact Assembly.run_relabel hlook .start _ tokens

end

theorem assemble_rename (tokens : List Token) :
    located (Program.assemble (tokens.map (Token.rename f))) =
      (located (Program.assemble tokens)).map (Program.rename f) :=
  assemble_relabel (blind_code f) (g := id) rfl tokens

/-! ### Evaluating -/

variable (rule : TextRule) (known : Variables) (functions : Functions) (moments : Moments)

theorem Instruction.run_rename (moment : Moment) (i : Instruction) (stack : ValueStack) :
    ((i.rename f).run rule known functions moment stack).mapError EvaluationError.code =
      (i.run rule (known ∘ f) (functions ∘ f) moment stack).mapError EvaluationError.code := by
  obtain ⟨action, position⟩ := i
  cases action with
  | name n =>
    simp only [Instruction.run, Instruction.rename, Action.rename, Function.comp_apply]
    cases known (f n) with
    | none => rfl
    | some v => rfl
  | call function count =>
    simp only [Instruction.run, Instruction.rename, Action.rename, Function.comp_apply]
    cases functions (f function) with
    | none => rfl
    | some g => rfl
  | _ => rfl

theorem Program.runFrom_rename (done : Nat) (instructions : List Instruction)
    (stack : ValueStack) :
    (runFrom rule known functions moments done (instructions.map (Instruction.rename f))
        stack).mapError EvaluationError.code =
      (runFrom rule (known ∘ f) (functions ∘ f) moments done instructions stack).mapError
        EvaluationError.code := by
  induction instructions generalizing done stack with
  | nil => rfl
  | cons i instructions ih =>
    exact mapError_bind_congr (i.run_rename rule known functions _ stack) (ih (done + 1))

theorem Program.evaluate_rename (p : Program) :
    ((p.rename f).evaluate rule known functions moments).mapError EvaluationError.code =
      (p.evaluate rule (known ∘ f) (functions ∘ f) moments).mapError EvaluationError.code :=
  mapError_bind_congr (runFrom_rename rule known functions moments 0 p.instructions .empty)
    fun _ => rfl

end

end Reckon
