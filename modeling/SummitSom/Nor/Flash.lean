import SummitSom.Bytes.Memory

set_option autoImplicit false

namespace Nor

open Bytes

-- What a serial NOR flash takes a command for. A page program gives the bytes
-- it loads, each with its address.
inductive Command where
  | writeEnable
  | unprotect
  | erase (start size : Nat)
  | program (data : List (Nat × UInt8))
  | idle

-- The latch is what a write enable sets and the next change clears.
structure Flash where
  cells : Memory UInt8
  latch : Bool
  isProtected : Nat → Bool

-- Programming clears bits and never sets one.
def programByte (address : Nat) (byte : UInt8) (data : List (Nat × UInt8)) : UInt8 :=
  data.foldl (fun byte cell => if cell.1 = address then byte &&& cell.2 else byte) byte

def Command.change (address : Nat) (byte : UInt8) : Command → UInt8
  | .erase start size => if start ≤ address ∧ address < start + size then 0xFF else byte
  | .program data => programByte address byte data
  | _ => byte

def Command.changes : Command → Bool
  | .unprotect => true
  | .erase _ _ => true
  | .program _ => true
  | _ => false

def Command.latch (latch : Bool) (command : Command) : Bool :=
  match command with
  | .writeEnable => true
  | .idle => latch
  | _ => false

def Command.protection (isProtected : Nat → Bool) : Command → Nat → Bool
  | .unprotect => fun _ => false
  | _ => isProtected

def Flash.step (flash : Flash) (command : Command) : Flash :=
  if command.changes ∧ flash.latch = false then flash
  else
    { cells := fun address =>
        if flash.isProtected address then flash.cells address else command.change address (flash.cells address)
      latch := command.latch flash.latch
      isProtected := command.protection flash.isProtected }

def Flash.run (flash : Flash) (commands : List Command) : Flash := commands.foldl Flash.step flash

def changed (address : Nat) (byte : UInt8) (commands : List Command) : UInt8 :=
  commands.foldl (Command.change address) byte

-- Every command that changes something finds the latch set.
def Latched (latch : Bool) : List Command → Prop
  | [] => True
  | command :: rest => (command.changes → latch = true) ∧ Latched (command.latch latch) rest

def latchAfter (latch : Bool) (commands : List Command) : Bool := commands.foldl Command.latch latch

section Runs

variable (flash : Flash)

theorem changed_append (address : Nat) (byte : UInt8) (first second : List Command) :
    changed address byte (first ++ second) = changed address (changed address byte first) second := by
  rw [changed, List.foldl_append]
  rfl

theorem latched_append (latch : Bool) (first second : List Command) :
    Latched latch (first ++ second) ↔ Latched latch first ∧ Latched (latchAfter latch first) second := by
  induction first generalizing latch with
  | nil => exact ⟨fun after => ⟨trivial, after⟩, fun both => both.2⟩
  | cons command rest ih =>
      simp only [List.cons_append, Latched, ih, latchAfter, List.foldl_cons, and_assoc]

theorem step_taken (command : Command) (taken : command.changes → flash.latch = true) :
    (flash.step command).latch = command.latch flash.latch ∧
      (∀ address, (flash.step command).cells address =
        if flash.isProtected address then flash.cells address else command.change address (flash.cells address)) ∧
      ((∀ address, flash.isProtected address = false) → ∀ address, (flash.step command).isProtected address = false) := by
  have goes : ¬ (command.changes ∧ flash.latch = false) := fun both => by
    rw [taken both.1] at both
    exact Bool.noConfusion both.2
  rw [Flash.step, if_neg goes]
  refine ⟨rfl, fun address => rfl, fun free address => ?_⟩
  cases command with
  | unprotect => rfl
  | writeEnable | erase start size | program data | idle => exact free address

-- Commands that change nothing leave a protected flash as it is, too.
theorem run_quiet (commands : List Command) (quiet : ∀ command ∈ commands, command.changes = false) :
    (flash.run commands).cells = flash.cells := by
  induction commands generalizing flash with
  | nil => rfl
  | cons command rest ih =>
      have first := quiet command List.mem_cons_self
      have onward := ih (flash.step command) fun other member => quiet other (List.mem_cons_of_mem _ member)
      have kept : (flash.step command).cells = flash.cells := by
        have goes : ¬ (command.changes ∧ flash.latch = false) := fun both => by
          rw [first] at both
          exact Bool.noConfusion both.1
        rw [Flash.step, if_neg goes]
        funext address
        cases command with
        | writeEnable | idle => exact ite_self _
        | unprotect | erase start size | program data => cases first
      exact onward.trans kept

theorem unprotect_frees (ready : flash.latch = true) :
    (flash.step .unprotect).cells = flash.cells ∧ ∀ address, (flash.step .unprotect).isProtected address = false := by
  rw [Flash.step, if_neg fun both => by rw [ready] at both; exact Bool.noConfusion both.2]
  exact ⟨funext fun address => ite_self _, fun address => rfl⟩

-- On an unprotected flash with the latch set in time, every command does its
-- work, so a cell holds what the commands make of it one after the other.
theorem run_latched (commands : List Command) (free : ∀ address, flash.isProtected address = false)
    (latched : Latched flash.latch commands) (address : Nat) :
    (flash.run commands).cells address = changed address (flash.cells address) commands := by
  induction commands generalizing flash with
  | nil => rfl
  | cons command rest ih =>
      obtain ⟨latch, cells, kept⟩ := step_taken flash command latched.1
      have onward := ih (flash.step command) (kept free) (by rw [latch]; exact latched.2)
      rw [cells address, free address, if_neg Bool.false_ne_true] at onward
      exact onward

-- Once the protection is off, that holds from any latch and any protection.
theorem run_unprotected (commands : List Command) (latched : Latched false commands) (address : Nat) :
    (flash.run (.writeEnable :: .unprotect :: commands)).cells address =
      changed address (flash.cells address) commands := by
  have opened := run_quiet flash [.writeEnable] fun command member => by rw [List.mem_singleton.mp member]; rfl
  obtain ⟨cells, free⟩ := unprotect_frees (flash.step .writeEnable) rfl
  have latch : ((flash.step .writeEnable).step .unprotect).latch = false := rfl
  have rest := run_latched ((flash.step .writeEnable).step .unprotect) commands free (by rw [latch]; exact latched) address
  rw [cells] at rest
  exact rest.trans (congrArg (fun cells => changed address (cells address) commands) opened)

def Command.isIdle : Command → Bool
  | .idle => true
  | _ => false

theorem run_without_idle (commands : List Command) :
    flash.run commands = flash.run (commands.filter fun command => !command.isIdle) := by
  induction commands generalizing flash with
  | nil => rfl
  | cons command rest ih =>
      cases command with
      | idle =>
          have nothing : flash.step .idle = flash := by
            rw [Flash.step, if_neg fun both => Bool.noConfusion both.1]
            simp only [Command.change, ite_self]
            rfl
          rw [List.filter_cons_of_neg (by decide), ← ih flash, Flash.run, List.foldl_cons, nothing]
          rfl
      | writeEnable | unprotect | erase start size | program data =>
          rw [List.filter_cons_of_pos (by rfl)]
          exact ih _

end Runs

section Cells

variable (address : Nat)

theorem program_absent (byte : UInt8) (data : List (Nat × UInt8)) (absent : ∀ cell ∈ data, cell.1 ≠ address) :
    programByte address byte data = byte := by
  induction data generalizing byte with
  | nil => rfl
  | cons cell rest ih =>
      rw [programByte, List.foldl_cons, if_neg (absent cell List.mem_cons_self)]
      exact ih byte fun other member => absent other (List.mem_cons_of_mem _ member)

-- Loading a byte again where it has been programmed changes nothing.
theorem program_same (byte value : UInt8) (data : List (Nat × UInt8))
    (same : ∀ cell ∈ data, cell.1 = address → cell.2 = value) (ready : byte &&& value = value) :
    programByte address byte data = byte ∨ programByte address byte data = value := by
  induction data generalizing byte with
  | nil => exact .inl rfl
  | cons cell rest ih =>
      have later : ∀ other ∈ rest, other.1 = address → other.2 = value := fun other member =>
        same other (List.mem_cons_of_mem _ member)
      rw [programByte, List.foldl_cons]
      by_cases here : cell.1 = address
      · rw [if_pos here, same cell List.mem_cons_self here, ready]
        rcases ih value later (UInt8.and_self) with kept | set
        · exact .inr kept
        · exact .inr set
      · rw [if_neg here]
        exact ih byte later ready

theorem program_present (byte value : UInt8) (data : List (Nat × UInt8))
    (same : ∀ cell ∈ data, cell.1 = address → cell.2 = value) (ready : byte &&& value = value)
    (present : ∃ cell ∈ data, cell.1 = address) : programByte address byte data = value := by
  induction data generalizing byte with
  | nil =>
      obtain ⟨cell, member, _⟩ := present
      exact absurd member List.not_mem_nil
  | cons cell rest ih =>
      have later : ∀ other ∈ rest, other.1 = address → other.2 = value := fun other member =>
        same other (List.mem_cons_of_mem _ member)
      rw [programByte, List.foldl_cons]
      by_cases here : cell.1 = address
      · rw [if_pos here, same cell List.mem_cons_self here, ready]
        rcases program_same address value value rest later UInt8.and_self with kept | set
        · exact kept
        · exact set
      · rw [if_neg here]
        obtain ⟨other, member, there⟩ := present
        rcases List.mem_cons.mp member with first | after
        · exact absurd (first ▸ there) here
        · exact ih byte later ready ⟨other, after, there⟩

-- Whether a command erases the cell, and the bytes it loads into it.
def Command.Erases (command : Command) : Prop :=
  match command with
  | .erase start size => start ≤ address ∧ address < start + size
  | _ => False

def Command.Loads (command : Command) (byte : UInt8) : Prop :=
  match command with
  | .program data => (address, byte) ∈ data
  | _ => False

theorem change_kept (byte : UInt8) (command : Command) (erases : ¬ command.Erases address)
    (loads : ∀ value, ¬ command.Loads address value) : command.change address byte = byte := by
  cases command with
  | erase start size => exact if_neg erases
  | program data =>
      apply program_absent address byte data
      rintro ⟨place, value⟩ member rfl
      exact loads value member
  | writeEnable | unprotect | idle => rfl

theorem change_erased (byte : UInt8) (command : Command) (erases : command.Erases address) :
    command.change address byte = 0xFF := by
  cases command with
  | erase start size => exact if_pos erases
  | program data | writeEnable | unprotect | idle => exact False.elim erases

theorem change_loaded (byte value : UInt8) (command : Command) (ready : byte &&& value = value)
    (same : ∀ other, command.Loads address other → other = value) (loads : command.Loads address value) :
    command.change address byte = value := by
  cases command with
  | program data =>
      apply program_present address byte value data ?_ ready ⟨(address, value), loads, rfl⟩
      rintro ⟨place, other⟩ member rfl
      exact same other member
  | erase start size | writeEnable | unprotect | idle => exact False.elim loads

theorem changed_erased (byte : UInt8) (commands : List Command)
    (loads : ∀ command ∈ commands, ∀ value, ¬ command.Loads address value)
    (erases : byte = 0xFF ∨ ∃ command ∈ commands, command.Erases address) : changed address byte commands = 0xFF := by
  induction commands generalizing byte with
  | nil => simpa [changed] using erases
  | cons command rest ih =>
      apply ih _ fun other member => loads other (List.mem_cons_of_mem _ member)
      by_cases here : command.Erases address
      · exact .inl (change_erased address byte command here)
      · rw [change_kept address byte command here (loads command List.mem_cons_self)]
        simpa [here] using erases

theorem changed_untouched (byte : UInt8) (commands : List Command)
    (loads : ∀ command ∈ commands, ∀ value, ¬ command.Loads address value)
    (erases : ∀ command ∈ commands, ¬ command.Erases address) : changed address byte commands = byte := by
  induction commands with
  | nil => rfl
  | cons command rest ih =>
      rw [changed, List.foldl_cons,
        change_kept address byte command (erases command List.mem_cons_self) (loads command List.mem_cons_self)]
      exact ih (fun other member => loads other (List.mem_cons_of_mem _ member)) fun other member =>
        erases other (List.mem_cons_of_mem _ member)

theorem changed_loaded (byte value : UInt8) (commands : List Command) (ready : byte &&& value = value)
    (erases : ∀ command ∈ commands, ¬ command.Erases address)
    (same : ∀ command ∈ commands, ∀ other, command.Loads address other → other = value)
    (loads : byte = value ∨ ∃ command ∈ commands, command.Loads address value) : changed address byte commands = value := by
  induction commands generalizing byte with
  | nil => simpa [changed] using loads
  | cons command rest ih =>
      have onward : ∀ now : UInt8, now &&& value = value →
          (now = value ∨ ∃ other ∈ rest, other.Loads address value) → changed address now rest = value :=
        fun now still later => ih now still (fun other member => erases other (List.mem_cons_of_mem _ member))
          (fun other member => same other (List.mem_cons_of_mem _ member)) later
      by_cases here : command.Loads address value
      · rw [changed, List.foldl_cons,
          change_loaded address byte value command ready (same command List.mem_cons_self) here]
        exact onward value UInt8.and_self (.inl rfl)
      · have none : ∀ other, ¬ command.Loads address other := fun other loaded =>
          here (same command List.mem_cons_self other loaded ▸ loaded)
        rw [changed, List.foldl_cons,
          change_kept address byte command (erases command List.mem_cons_self) none]
        apply onward byte ready
        simpa [here] using loads

end Cells

end Nor
