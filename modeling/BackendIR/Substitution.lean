import BackendIR.Instr.Walk

/-!
# Substitutions

A list of rules as a visitor. The first rule that applies to an offer gives the
answer; a rule may be limited to one thing, to one role, bank or width, and to a
number of uses. Everything that is offered is remembered.
-/

namespace BackendIR

/-- When to replace a thing, and by what. What is not given does not matter; a rule
with no replacement keeps the thing. -/
structure Rule (α : Type) where
  thing? : Option α
  replacement? : Option α
  role? : Option Role
  bank? : Option Bank
  width? : Option Width
  uses? : Option Nat

namespace Rule

variable {α : Type} [DecidableEq α]

/-- Whether a rule admits an access. -/
def admits (rule : Rule α) (access : Access) : Bool :=
  rule.role?.all (· == access.role) && rule.bank?.all (· == access.bank) &&
    rule.width?.all (· == access.width)

/-- Whether a rule has uses left and fits an offer. An offer without an access fits
every access. -/
def applies (rule : Rule α) (thing : α) (access? : Option Access) : Bool :=
  rule.uses? != some 0 && rule.thing?.all (· == thing) && access?.all rule.admits

/-- The rule with one use less. -/
def spend (rule : Rule α) : Rule α :=
  { rule with uses? := rule.uses?.map (· - 1) }

/-- The answer of the first rule that applies, and the rules after it was used. -/
def answer (thing : α) (access? : Option Access) : List (Rule α) → Option α × List (Rule α)
  | [] => (none, [])
  | rule :: rest =>
      if rule.applies thing access? then (rule.replacement?, rule.spend :: rest)
      else
        let (reply, others) := answer thing access? rest
        (reply, rule :: others)

end Rule

/-- Rules in use and the offers made so far. -/
structure Substitution (α : Type) where
  rules : List (Rule α)
  offers : List (α × Option Access)

namespace Substitution

variable {α : Type} [DecidableEq α]

/-- A substitution before its first offer. -/
def start (rules : List (Rule α)) : Substitution α := ⟨rules, []⟩

/-- Remember an offer and answer it. -/
def offer (thing : α) (access? : Option Access) : StateM (Substitution α) (Option α) := do
  let substitution ← get
  let (reply, rules) := Rule.answer thing access? substitution.rules
  set (Substitution.mk rules (substitution.offers ++ [(thing, access?)]))
  return reply

/-- The substitution as a visitor that sees things alone. -/
def plainVisitor : PlainVisitor (Substitution α) α :=
  fun thing => offer thing none

/-- The substitution as a visitor that sees accesses. -/
def visitor : Visitor (Substitution α) α :=
  fun thing access => offer thing (some access)

/-- Apply rules to the parts of an instruction; also gives all offers. -/
def applyToParts [Part α] (rules : List (Rule α)) (instr : Instr) (table : ConventionTable) :
    List (α × Option Access) × Except Fault Instr :=
  let (result, final) := (instr.updateParts table visitor).run (start rules)
  (final.offers, result)

/-- Apply rules to whole operands in place; also gives all offers. -/
def applyToOperands (rules : List (Rule Operand)) (instr : Instr) (table : ConventionTable) :
    List (Operand × Option Access) × Except Fault Instr :=
  let (result, final) :=
    (instr.updateOperands table fun operand access => do
      return (← visitor operand access).getD operand).run (start rules)
  (final.offers, result)

end Substitution

end BackendIR
