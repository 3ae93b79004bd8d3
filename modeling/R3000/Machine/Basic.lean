import R3000.Cpu.Basic
import R3000.Memory.Basic

/-!
The machine, a processor on a memory, and the handlers that act on it in place. A handler is a
sequence of steps. A step may fault, which ends the handler; what the steps in front of it have
changed stays changed.
-/

namespace R3000

/-- A processor and its memory. -/
structure Machine where
  cpu : Cpu
  memory : Memory

namespace Machine

/-- A processor at power-on in front of a memory. -/
def powerOn (m : Memory) : Machine := ⟨.powerOn, m⟩

/-- Power-on of the processor; memory keeps the BIOS and nothing else. -/
def reset (s : Machine) : Machine := ⟨.powerOn, s.memory.reset⟩

end Machine

/-- What acts on a machine in place, and may fault on the way. -/
abbrev Handler (α : Type) := ExceptT Fault (StateM Machine) α

namespace Handler

variable {α β : Type}

/-- How a handler ends, and the machine that it leaves. -/
def run (h : Handler α) (s : Machine) : Except Fault α × Machine := h s

/-- Goes on with a result, or ends with a fault. -/
def ofExcept (e : Except Fault α) : Handler α := fun s => (e, s)

/-- Reads the processor. -/
def ofCpu (f : Cpu → α) : Handler α := fun s => (.ok (f s.cpu), s)

/-- Changes the processor. -/
def onCpu (f : Cpu → Cpu) : Handler Unit := fun ⟨cpu, memory⟩ => (.ok (), ⟨f cpu, memory⟩)

/-- Reads the memory. -/
def ofMemory (f : Memory → Except Fault α) : Handler α := fun s => (f s.memory, s)

/-- Acts on the memory. -/
def onMemory (f : Memory → Except Fault α × Memory) : Handler α := fun ⟨cpu, memory⟩ =>
  match f memory with
  | (result, memory) => (result, ⟨cpu, memory⟩)

variable {h : Handler α} {s t : Machine}

theorem run_bind_of_ok {a : α} (hs : h.run s = (.ok a, t)) (k : α → Handler β) :
    run (h >>= k) s = (k a).run t := by
  have hbind : run (h >>= k) s = ExceptT.bindCont k (h.run s).1 (h.run s).2 := rfl
  rw [hbind, hs]
  rfl

/-- Nothing follows a fault, and nothing that the handler has changed is taken back. -/
theorem run_bind_of_error {f : Fault} (hs : h.run s = (.error f, t)) (k : α → Handler β) :
    run (h >>= k) s = (.error f, t) := by
  have hbind : run (h >>= k) s = ExceptT.bindCont k (h.run s).1 (h.run s).2 := rfl
  rw [hbind, hs]
  rfl

example (f : Fault) (g : Cpu → Cpu) (s : Machine) :
    run (do onCpu g; throw f) s = ((.error f : Except Fault Unit), ⟨g s.cpu, s.memory⟩) := rfl

end Handler

end R3000
