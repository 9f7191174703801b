import BackendIR.Value

/-!
# Roles and accesses

A role says when an instruction reads and when it writes the value of an operand:
early reads come before any work of the instruction, late writes after all of it.
A zero-extending definition clears the bits above its width. Cold reads cost
little to move to memory. An access is a role with a bank and a width.
-/

namespace BackendIR

/-- How an instruction treats an operand. -/
inductive Role where
  | use
  | coldUse
  | lateUse
  | lateColdUse
  | define
  | zeroDefine
  | useDefine
  | useZeroDefine
  | earlyDefine
  | scratch
  | useAddress
  deriving DecidableEq

namespace Role

/-- All roles. -/
def all : List Role :=
  [.use, .coldUse, .lateUse, .lateColdUse, .define, .zeroDefine, .useDefine, .useZeroDefine,
    .earlyDefine, .scratch, .useAddress]

/-- The role's short name. -/
def name : Role → String
  | .use => "Use"
  | .coldUse => "ColdUse"
  | .lateUse => "LateUse"
  | .lateColdUse => "LateColdUse"
  | .define => "Def"
  | .zeroDefine => "ZDef"
  | .useDefine => "UseDef"
  | .useZeroDefine => "UseZDef"
  | .earlyDefine => "EarlyDef"
  | .scratch => "Scratch"
  | .useAddress => "UseAddr"

/-- Whether the value is read at all. Computing an address does not read it. -/
def isUse : Role → Bool
  | .use | .coldUse | .useDefine | .useZeroDefine | .lateUse | .lateColdUse | .scratch => true
  | .define | .zeroDefine | .earlyDefine | .useAddress => false

/-- Whether the value is read on a cold path. -/
def isColdUse : Role → Bool
  | .coldUse | .lateColdUse => true
  | _ => false

/-- Whether the value is read, and not on a cold path. -/
def isWarmUse (role : Role) : Bool :=
  role.isUse && !role.isColdUse

/-- The same role on a cold path. Only plain uses change. -/
def onColdPath : Role → Role
  | .use => .coldUse
  | .lateUse => .lateColdUse
  | role => role

/-- Whether the value is read before the instruction's work. -/
def isEarlyUse : Role → Bool
  | .use | .coldUse | .useDefine | .useZeroDefine => true
  | _ => false

/-- Whether the value is read after the instruction's work. -/
def isLateUse : Role → Bool
  | .lateUse | .lateColdUse | .scratch => true
  | _ => false

/-- Whether the value is written at all. -/
def isDefine : Role → Bool
  | .define | .useDefine | .zeroDefine | .useZeroDefine | .earlyDefine | .scratch => true
  | _ => false

/-- Whether the value is written before the instruction's work. -/
def isEarlyDefine : Role → Bool
  | .earlyDefine | .scratch => true
  | _ => false

/-- Whether the value is written after the instruction's work. -/
def isLateDefine : Role → Bool
  | .define | .useDefine | .zeroDefine | .useZeroDefine => true
  | _ => false

/-- Whether writing clears the bits above the width. -/
def isZeroDefine : Role → Bool
  | .zeroDefine | .useZeroDefine => true
  | _ => false

end Role

/-- What an instruction does with one operand, in which bank and how wide. -/
structure Access where
  role : Role
  bank : Bank
  width : Width
  deriving DecidableEq

/-- The same access on a cold path. -/
def Access.onColdPath (access : Access) : Access :=
  { access with role := access.role.onColdPath }

/-- The access to temporaries inside an address: general purpose uses of pointer
width, or of the access width where only the address is computed. -/
def Access.inAddress (access : Access) : Access where
  role := .use
  bank := .gp
  width := if access.role = .useAddress then access.width else Width.pointer

end BackendIR
