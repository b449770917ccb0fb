import Mathlib.Algebra.Order.Ring.Int

/-!
# The register character device

`tc_cdev_read`, `tc_cdev_write` and `llseek` of `streamio-ctrl-drv.c`, the
registers being plain memory.  One variable indexes the registers and the
buffer, and the loop bound is a count, so that a call away from position zero
skips the start of the buffer and as much of its end.
-/

namespace StreamIO.Driver

/-- `REG_SIZE`. -/
def regSize : Nat := 4

/-- `REG_LENGTH`. -/
def regLength : Nat := 512

/-- An open file of the device: the registers, the `addr` of its
`transmit_ctx`, its position, and an account of the registers that were
stored to. -/
structure ControlFile where
  registers : Nat → UInt32
  addr : Nat
  fPos : Int
  stored : List Nat

/-- The third argument of `llseek`.  For any other value the new position is
what the variable happens to hold. -/
inductive Whence where
  | seekSet
  | seekEnd
  | seekCur
  | other (newpos : Int)

namespace ControlFile

/-- `tc_cdev_open`.  Nothing changes `addr` later. -/
def tcCdevOpen (registers : Nat → UInt32) : ControlFile :=
  { registers := registers, addr := 0, fPos := 0, stored := [] }

/-- `llseek`, with `-EINVAL` for a negative position. -/
def llseek (file : ControlFile) (offset : Int) (whence : Whence) :
    ControlFile × Int :=
  let newpos :=
    match whence with
    | .seekSet => offset
    | .seekEnd => (regLength : Int)
    | .seekCur => file.addr + offset
    | .other newpos => newpos
  if newpos < 0 then (file, -22) else ({ file with fPos := newpos }, newpos)

/-- `file->f_pos / REG_SIZE` as an `unsigned int`. -/
def position (file : ControlFile) : Nat :=
  (file.fPos / regSize).toNat % 2 ^ 32

/-- `min(size / REG_SIZE, REG_LENGTH - tc->addr)`. -/
def limit (file : ControlFile) (size : Nat) : Nat :=
  min (size / regSize) (regLength - file.addr)

/-- The loop of `tc_cdev_read`, of `count` rounds. -/
def readRegisters (registers : Nat → UInt32) :
    (count addr : Nat) → List UInt32 → List UInt32
  | 0, _, buffer => buffer
  | count + 1, addr, buffer =>
      readRegisters registers count (addr + 1)
        (buffer.set addr (registers addr))

/-- `tc_cdev_read`: the file, the result and the words copied to the user.
`reachable` is whether the user's buffer can be written, `-EFAULT` being
returned otherwise. -/
def tcCdevRead (file : ControlFile) (size : Nat) (reachable : Bool) :
    ControlFile × Int × List UInt32 :=
  let readSize := file.limit size
  let exactSize := readSize * regSize
  let buffer := readRegisters file.registers (readSize - file.position)
    file.position (List.replicate (size / regSize) 0)
  if reachable then
    ({ file with fPos := file.fPos + exactSize }, exactSize,
      buffer.take readSize)
  else (file, -14, [])

/-- The loop of `tc_cdev_write`, of `count` rounds. -/
def writeRegisters (buffer : List UInt32) :
    (count addr : Nat) → ControlFile → ControlFile
  | 0, _, file => file
  | count + 1, addr, file =>
      writeRegisters buffer count (addr + 1)
        { file with
          registers := Function.update file.registers addr
            (buffer.getD addr 0)
          stored := file.stored ++ [addr] }

/-- `tc_cdev_write` of whole words. -/
def tcCdevWrite (file : ControlFile) (words : List UInt32)
    (reachable : Bool) : ControlFile × Int :=
  let size := regSize * words.length
  let writeSize := file.limit size
  if reachable then
    let written := writeRegisters words (writeSize - file.position)
      file.position file
    ({ written with fPos := written.fPos + (writeSize * regSize : Nat) },
      size)
  else (file, -14)

end ControlFile

open ControlFile

/-- `xs` is written at register `p` and read back there: the words are
returned as far as there are registers, the other registers stay, and both
results are the bytes that went over. -/
def ReadsBack (registers : Nat → UInt32) (p : Nat) (xs : List UInt32) :
    Prop :=
  let sought := ((tcCdevOpen registers).llseek (regSize * p) .seekSet).1
  let written := sought.tcCdevWrite xs true
  let back := (written.1.llseek (regSize * p) .seekSet).1
  let read := back.tcCdevRead (regSize * xs.length) true
  let count := min xs.length (regLength - p)
  read.2.2 = xs.take count ∧
    (∀ register, ¬(p ≤ register ∧ register < p + count) →
      read.1.registers register = registers register) ∧
    written.2 = regSize * written.1.stored.length ∧
    read.2.1 = regSize * read.2.2.length

theorem length_readRegisters (registers : Nat → UInt32) (count addr : Nat)
    (buffer : List UInt32) :
    (readRegisters registers count addr buffer).length = buffer.length := by
  induction count generalizing addr buffer with
  | zero => rfl
  | succ count induction =>
      rw [readRegisters, induction, List.length_set]

theorem getElem?_readRegisters (registers : Nat → UInt32)
    (count addr : Nat) (buffer : List UInt32) {index : Nat}
    (inside : index < buffer.length) :
    (readRegisters registers count addr buffer)[index]? =
      if addr ≤ index ∧ index < addr + count then some (registers index)
      else buffer[index]? := by
  induction count generalizing addr buffer with
  | zero =>
      have never : ¬(addr ≤ index ∧ index < addr + 0) := by omega
      rw [readRegisters, if_neg never]
  | succ count induction =>
      rw [readRegisters, induction (addr + 1) _ (by simpa using inside)]
      by_cases here : addr = index
      · subst here
        rw [if_neg (by omega), if_pos (by omega), List.getElem?_set_self inside]
      · have same : (addr + 1 ≤ index ∧ index < addr + 1 + count) ↔
            (addr ≤ index ∧ index < addr + (count + 1)) := by omega
        rw [List.getElem?_set_ne here]
        simp only [same]

theorem registers_writeRegisters (buffer : List UInt32) (count addr : Nat)
    (file : ControlFile) (register : Nat) :
    (writeRegisters buffer count addr file).registers register =
      if addr ≤ register ∧ register < addr + count then
        buffer.getD register 0
      else file.registers register := by
  induction count generalizing addr file with
  | zero =>
      have never : ¬(addr ≤ register ∧ register < addr + 0) := by omega
      rw [writeRegisters, if_neg never]
  | succ count induction =>
      rw [writeRegisters, induction]
      by_cases here : register = addr
      · subst here
        rw [if_neg (by omega), if_pos (by omega)]
        exact Function.update_self _ _ _
      · have same : (addr + 1 ≤ register ∧ register < addr + 1 + count) ↔
            (addr ≤ register ∧ register < addr + (count + 1)) := by omega
        simp only [same, Function.update_of_ne here]

theorem stored_writeRegisters (buffer : List UInt32) (count addr : Nat)
    (file : ControlFile) :
    (writeRegisters buffer count addr file).stored =
      file.stored ++ List.range' addr count := by
  induction count generalizing addr file with
  | zero => exact (List.append_nil _).symm
  | succ count induction =>
      rw [writeRegisters, induction, List.range'_succ, List.append_assoc]
      rfl

theorem addr_writeRegisters (buffer : List UInt32) (count addr : Nat)
    (file : ControlFile) :
    (writeRegisters buffer count addr file).addr = file.addr := by
  induction count generalizing addr file with
  | zero => rfl
  | succ count induction => rw [writeRegisters, induction]

theorem llseek_set (file : ControlFile) (p : Nat) :
    (file.llseek (regSize * p) .seekSet).1 =
      { file with fPos := regSize * p } := by
  have positive : ¬((regSize : Int) * p < 0) := by
    simp only [regSize]
    omega
  simp only [llseek, if_neg positive]

theorem position_sought (file : ControlFile) (p : Nat) :
    ({ file with fPos := regSize * p } : ControlFile).position =
      p % 2 ^ 32 := by
  have quotient : ((regSize : Int) * p / regSize).toNat = p := by
    simp only [regSize]
    omega
  rw [position, quotient]

theorem limit_words {file : ControlFile} (addr : file.addr = 0)
    (length : Nat) :
    file.limit (regSize * length) = min length regLength := by
  have quotient : regSize * length / regSize = length := by
    simp only [regSize]
    omega
  rw [limit, quotient, addr, Nat.sub_zero]

theorem tcCdevWrite_sought (file : ControlFile) (addr : file.addr = 0)
    (p : Nat) (xs : List UInt32) :
    let sought := (file.llseek (regSize * p) .seekSet).1
    let written := sought.tcCdevWrite xs true
    let rounds := min xs.length regLength - p % 2 ^ 32
    (∀ register, written.1.registers register =
      if p % 2 ^ 32 ≤ register ∧ register < p % 2 ^ 32 + rounds then
        xs.getD register 0
      else file.registers register) ∧
    written.1.addr = 0 ∧
    written.1.stored.length = file.stored.length + rounds ∧
    written.2 = regSize * xs.length := by
  have whole : ({ file with fPos := regSize * p } : ControlFile).limit
      (regSize * xs.length) = min xs.length regLength := limit_words addr _
  simp only [llseek_set, tcCdevWrite, whole, position_sought, if_true,
    registers_writeRegisters, addr_writeRegisters, stored_writeRegisters,
    List.length_append, List.length_range', implies_true, true_and]
  exact ⟨addr, Nat.cast_mul regSize xs.length⟩

theorem tcCdevRead_sought (file : ControlFile) (addr : file.addr = 0)
    (p length : Nat) :
    let sought := (file.llseek (regSize * p) .seekSet).1
    let read := sought.tcCdevRead (regSize * length) true
    let count := min length regLength
    read.1.registers = file.registers ∧
    read.2.1 = regSize * count ∧
    read.2.2.length = count ∧
    ∀ index, index < count → read.2.2[index]? =
      if p % 2 ^ 32 ≤ index then some (file.registers index) else some 0 := by
  have whole : ({ file with fPos := regSize * p } : ControlFile).limit
      (regSize * length) = min length regLength := limit_words addr _
  have words : regSize * length / regSize = length := by
    simp only [regSize]
    omega
  simp only [llseek_set, tcCdevRead, whole, position_sought, if_true, words,
    true_and]
  refine ⟨?_, ?_, ?_⟩
  · push_cast
    exact Int.mul_comm _ _
  · rw [List.length_take, length_readRegisters, List.length_replicate]
    omega
  · intro index inside
    have within : index < (List.replicate length (0 : UInt32)).length := by
      rw [List.length_replicate]
      omega
    rw [List.getElem?_take_of_lt inside, getElem?_readRegisters _ _ _ _ within]
    by_cases reached : p % 2 ^ 32 ≤ index
    · rw [if_pos (by omega), if_pos reached]
    · rw [if_neg (by omega), if_neg reached]
      simp at within
      simp [within]

/-- What a write of `xs` at `p` and a read at `p` come to. -/
theorem readsBack_data (registers : Nat → UInt32) (p : Nat)
    (xs : List UInt32) :
    ∃ data : List UInt32, data.length = min xs.length regLength ∧
      (∀ index, index < min xs.length regLength → p % 2 ^ 32 ≤ index →
        data[index]? = some (xs.getD index 0)) ∧
      (ReadsBack registers p xs ↔
        data = xs.take (min xs.length (regLength - p)) ∧
          (∀ register,
            ¬(p ≤ register ∧
              register < p + min xs.length (regLength - p)) →
            (if p % 2 ^ 32 ≤ register ∧ register < p % 2 ^ 32 +
                (min xs.length regLength - p % 2 ^ 32) then
              xs.getD register 0
            else registers register) = registers register) ∧
          xs.length = min xs.length regLength - p % 2 ^ 32) := by
  obtain ⟨stored, addr, storedLength, writeResult⟩ :=
    tcCdevWrite_sought (tcCdevOpen registers) rfl p xs
  obtain ⟨kept, readResult, readLength, words⟩ :=
    tcCdevRead_sought _ addr p xs.length
  have opened : (tcCdevOpen registers).stored.length = 0 := rfl
  rw [opened, Nat.zero_add] at storedLength
  refine ⟨_, readLength, ?_, ?_⟩
  · intro index inside reached
    rw [words index inside, if_pos reached, stored, if_pos (by omega)]
  · have same : ∀ first second : Nat,
        (regSize : Int) * first = regSize * second ↔ first = second := by
      intro first second
      simp only [regSize]
      omega
    simp only [ReadsBack, writeResult, storedLength, kept, readResult,
      readLength, stored, same, and_true]
    rfl

/-- Some words come back only from position zero. -/
theorem ReadsBack.at_zero {registers : Nat → UInt32} {p : Nat}
    {xs : List UInt32} (back : ReadsBack registers p xs)
    (positive : 0 < xs.length) : p = 0 ∧ xs.length ≤ regLength := by
  obtain ⟨data, length, _, exactly⟩ := readsBack_data registers p xs
  obtain ⟨same, _, all⟩ := exactly.mp back
  refine ⟨?_, by omega⟩
  by_contra elsewhere
  have beyond : regLength - p = 0 := by
    simp only [regLength] at *
    omega
  rw [same, beyond, Nat.min_zero, List.take_zero, List.length_nil] at length
  omega

theorem readsBack_nil (registers : Nat → UInt32) (p : Nat) :
    ReadsBack registers p [] := by
  obtain ⟨data, length, _, exactly⟩ := readsBack_data registers p []
  apply exactly.mpr
  refine ⟨?_, ?_, ?_⟩
  · rw [List.take_nil]
    apply List.length_eq_zero_iff.mp
    rw [length, List.length_nil, Nat.zero_min]
  · intro register _
    apply if_neg
    simp
  · simp

theorem readsBack_zero (registers : Nat → UInt32) {xs : List UInt32}
    (fits : xs.length ≤ regLength) : ReadsBack registers 0 xs := by
  obtain ⟨data, length, words, exactly⟩ := readsBack_data registers 0 xs
  have whole : min xs.length regLength = xs.length := Nat.min_eq_left fits
  rw [whole] at length words
  apply exactly.mpr
  rw [Nat.sub_zero, whole, List.take_length]
  refine ⟨?_, ?_, by simp⟩
  · apply List.ext_getElem?
    intro index
    by_cases inside : index < xs.length
    · rw [words index inside (Nat.zero_le _)]
      simp [inside]
    · rw [List.getElem?_eq_none (by omega),
        List.getElem?_eq_none (by omega)]
  · intro register outside
    apply if_neg
    simpa using outside

/-- What is written comes back exactly at position zero, if it is no longer
than the registers, or if nothing is written at all. -/
theorem reads_back_iff (registers : Nat → UInt32) (p : Nat)
    (xs : List UInt32) :
    ReadsBack registers p xs ↔
      xs = [] ∨ p = 0 ∧ xs.length ≤ regLength := by
  constructor
  · intro back
    by_cases empty : xs = []
    · exact Or.inl empty
    · exact Or.inr (back.at_zero (List.length_pos_iff.mpr empty))
  · rintro (rfl | ⟨rfl, fits⟩)
    · exact readsBack_nil registers p
    · exact readsBack_zero registers fits

theorem write_at_one_not_read_back :
    ¬∀ (registers : Nat → UInt32) (p : Nat), p ≤ 512 →
      ∀ xs : List UInt32, ReadsBack registers p xs := by
  intro always
  have back := always (fun _ => 0) 1 (by decide) [7, 8]
  exact absurd back.1 (by decide)

end StreamIO.Driver
