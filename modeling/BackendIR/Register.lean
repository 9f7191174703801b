import BackendIR.Value

/-!
# Registers

The target has sixteen registers in each bank, numbered as the machine encodes
them. Two general purpose registers have a fixed job: the stack pointer and the
frame pointer, from which stack storage is addressed once the frame is laid out.
-/

namespace BackendIR

/-- A physical register: a bank and the register's number within it. -/
structure Register where
  bank : Bank
  index : Fin 16
  deriving DecidableEq

namespace Register

/-- The general purpose registers in encoding order. -/
def gprs : List Register :=
  (List.finRange 16).map (Register.mk .gp)

/-- The floating point registers in encoding order. -/
def fprs : List Register :=
  (List.finRange 16).map (Register.mk .fp)

/-- Every register, general purpose ones first. -/
def all : List Register :=
  gprs ++ fprs

/-- The catalog has every register. -/
theorem mem_all (register : Register) : register ∈ all := by
  obtain ⟨bank, index⟩ := register
  cases bank <;> simp [all, gprs, fprs]

/-- How many registers a bank has. -/
def count (_bank : Bank) : Nat := 16

/-- The register of a bank with a given number, if there is one. -/
def ofIndex? (bank : Bank) (index : Nat) : Option Register :=
  if inside : index < 16 then some ⟨bank, ⟨index, inside⟩⟩ else none

/-- The stack pointer `rsp`. -/
def stackPointer : Register := ⟨.gp, 4⟩

/-- The frame pointer `rbp`. -/
def framePointer : Register := ⟨.gp, 5⟩

/-- Names of the general purpose registers in encoding order. -/
def gprNames : Vector String 16 :=
  #v["rax", "rcx", "rdx", "rbx", "rsp", "rbp", "rsi", "rdi",
    "r8", "r9", "r10", "r11", "r12", "r13", "r14", "r15"]

/-- The register's name. -/
def name (register : Register) : String :=
  match register.bank with
  | .gp => gprNames.get register.index
  | .fp => "xmm" ++ Numeral.decimal register.index

/-- The register with a given name, if there is one. -/
def ofName? (name : String) : Option Register :=
  all.find? (fun register => register.name == name)

/-- A register is written as its name after a percent sign. -/
def text (register : Register) : String :=
  "%" ++ register.name

/-- Whether calls preserve the register: `rbx` and `r12` to `r15` survive a call,
and no floating point register does. -/
def isCalleeSave (register : Register) : Bool :=
  match register.bank with
  | .gp => register.index == 3 || 12 ≤ register.index
  | .fp => false

/-- The register's contribution to fingerprints: positive for general purpose
registers, negative for floating point ones, and never zero. -/
def fingerprint (register : Register) : Int32 :=
  match register.bank with
  | .gp => 1 + Int32.ofNat register.index
  | .fp => -1 - Int32.ofNat register.index

/-- The catalog order: general purpose registers first, then by number. -/
def le (left right : Register) : Bool :=
  match left.bank, right.bank with
  | .gp, .fp => true
  | .fp, .gp => false
  | _, _ => left.index ≤ right.index

/-- A list of registers in catalog order. -/
def sort (registers : List Register) : List Register :=
  registers.mergeSort le

end Register

end BackendIR
