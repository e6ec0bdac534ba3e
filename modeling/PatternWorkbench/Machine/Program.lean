import PatternWorkbench.Machine.Flow

/-!
# Programs

A program is an array of instructions. Each names the address at which the run
goes on, so the code of a part reads the same wherever it stands. Of two
addresses the first is preferred.
-/

namespace PatternWorkbench.Machine

open Pattern (Expr Look)
open Unicode (CharSet)

inductive Instr where
  | jump (next : Nat)
  | take (set : CharSet) (next : Nat)
  | check (look : Look) (next : Nat)
  | split (preferred other : Nat)
  | save (slot next : Nat)
  | accept
  deriving Repr

def Instr.accepts : Instr → Bool
  | accept => true
  | _ => false

namespace Flow

/-- How many instructions the code of a flow has. -/
def codeLength : Flow → Nat
  | pass | take _ | check _ => 1
  | seq first second => first.codeLength + second.codeLength
  | either first second => first.codeLength + second.codeLength + 1
  | perhaps _ body | again _ body => body.codeLength + 1
  | capture _ body => body.codeLength + 2

def branch (greedy : Bool) (inner outer : Nat) : Instr :=
  if greedy then .split inner outer else .split outer inner

/-- The code of a flow placed at `base`, which goes on at `exit`. -/
def code (base exit : Nat) : Flow → List Instr
  | pass => [.jump exit]
  | take set => [.take set exit]
  | check look => [.check look exit]
  | seq first second =>
    let middle := base + first.codeLength
    first.code base middle ++ second.code middle exit
  | either first second =>
    let other := base + 1 + first.codeLength
    .split (base + 1) other ::
      (first.code (base + 1) exit ++ second.code other exit)
  | perhaps greedy body =>
    branch greedy (base + 1) exit :: body.code (base + 1) exit
  | again greedy body =>
    let loop := base + body.codeLength
    body.code base loop ++ [branch greedy base exit]
  | capture index body =>
    let close := base + 1 + body.codeLength
    .save (2 * index) (base + 1) ::
      (body.code (base + 1) close ++ [.save (2 * index + 1) exit])

/-- Where code is placed does not change how much of it there is. -/
@[simp]
theorem length_code (base exit : Nat) (flow : Flow) :
    (flow.code base exit).length = flow.codeLength := by
  induction flow generalizing base exit with
  | pass => rfl
  | take set => rfl
  | check look => rfl
  | seq first second ihFirst ihSecond =>
      simp [code, codeLength, ihFirst, ihSecond]
  | either first second ihFirst ihSecond =>
      simp [code, codeLength, ihFirst, ihSecond]
  | perhaps greedy body ih => simp [code, codeLength, ih]
  | again greedy body ih => simp [code, codeLength, ih]
  | capture index body ih => simp [code, codeLength, ih]

theorem codeLength_pos (flow : Flow) : 0 < flow.codeLength := by
  cases flow <;> simp only [codeLength] <;> try omega
  case seq first second =>
    have hfirst := codeLength_pos first
    omega

end Flow

structure Program where
  code : Array Instr
  /-- The capture groups that the code can set, with their names. -/
  groups : List (Nat × Option Text)

/-- The program of an expression, whose run begins at address zero. -/
def Program.ofExpr (expr : Expr) : Program :=
  let flow := Flow.ofExpr expr
  { code := (flow.code 0 flow.codeLength ++ [Instr.accept]).toArray
    groups := expr.captures }

end PatternWorkbench.Machine
