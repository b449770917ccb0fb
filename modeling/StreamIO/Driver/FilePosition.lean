import StreamIO.Library.ScriptedRun
import StreamIO.Driver.RegisterDevice

/-!
# The position of the register character device

The calls of an open file as the VFS makes them.  `tc_cdev_read` and
`tc_cdev_write` move `f_pos` itself and leave the copy alone that they are
given as `*offset`; the VFS stores that copy back after a transfer, so that
only `llseek` moves the position in the end.
-/

namespace StreamIO.Driver

open StreamIO.Library

/-- What is written: the whole words and the bytes behind them. -/
structure UserWords where
  words : List UInt32
  behind : Fin regSize

def UserWords.size (user : UserWords) : Nat :=
  regSize * user.words.length + user.behind

/-- A call on the open file.  `reachable` is whether the copy from or to the
user succeeds. -/
inductive PositionCall where
  | llseek (offset : Int64) (whence : Whence)
  | read (size : Nat) (reachable : Bool)
  | write (user : UserWords) (reachable : Bool)

namespace ControlFile

/-- `tc_cdev_write` of any number of bytes. -/
def tcCdevWriteBytes (file : ControlFile) (user : UserWords)
    (reachable : Bool) : ControlFile × Int :=
  let writeSize := file.limit user.size
  if reachable then
    let written := writeRegisters user.words (writeSize - file.position)
      file.position file
    ({ written with fPos := written.fPos + (writeSize * regSize : Nat) },
      user.size)
  else (file, -14)

/-- The VFS stores the copy of the position back if the call succeeded. -/
def storesOffset (offset : Int) (after : ControlFile) (result : Int) :
    ControlFile :=
  if 0 ≤ result then { after with fPos := offset } else after

def vfsRead (file : ControlFile) (size : Nat) (reachable : Bool) :
    ControlFile × Int × List UInt32 :=
  let after := file.tcCdevRead size reachable
  (storesOffset file.fPos after.1 after.2.1, after.2)

def vfsWrite (file : ControlFile) (user : UserWords) (reachable : Bool) :
    ControlFile × Int :=
  let after := file.tcCdevWriteBytes user reachable
  (storesOffset file.fPos after.1 after.2, after.2)

def call (file : ControlFile) : PositionCall → ControlFile
  | .llseek offset whence => (file.llseek offset.toInt whence).1
  | .read size reachable => (file.vfsRead size reachable).1
  | .write user reachable => (file.vfsWrite user reachable).1

/-- The bytes that were transferred move the position. -/
def Advances (file after : ControlFile) (result : Int) : Prop :=
  after.fPos = if 0 ≤ result then file.fPos + result else file.fPos

/-- The seek goes to the target, or it is rejected and moves nothing if there
is no such position. -/
def SeeksTo (file : ControlFile) (after : ControlFile × Int)
    (target : Int) : Prop :=
  if 0 ≤ target ∧ target < 2 ^ 63 then
    after.2 = target ∧ after.1.fPos = target
  else after.2 < 0 ∧ after.1.fPos = file.fPos

/-- How many registers a read may still return. -/
def available (file : ControlFile) (size : Nat) : Nat :=
  min (size / regSize) (regLength - (file.fPos / regSize).toNat)

/-- The registers from the position on. -/
def following (file : ControlFile) (count : Nat) : List UInt32 :=
  (List.range count).map fun index =>
    file.registers ((file.fPos / regSize).toNat + index)

/-- The rules of a file of `REG_LENGTH` registers. -/
def FollowsRules (file : ControlFile) : PositionCall → Prop
  | .llseek offset .seekSet =>
      file.SeeksTo (file.llseek offset.toInt .seekSet) offset.toInt
  | .llseek offset .seekCur =>
      file.SeeksTo (file.llseek offset.toInt .seekCur)
        (file.fPos + offset.toInt)
  | .llseek offset .seekEnd =>
      file.SeeksTo (file.llseek offset.toInt .seekEnd)
        ((regSize * regLength : Nat) + offset.toInt)
  | .llseek offset (.other newpos) =>
      (file.llseek offset.toInt (.other newpos)).2 < 0 ∧
        (file.llseek offset.toInt (.other newpos)).1.fPos = file.fPos
  | .read size reachable =>
      let after := file.vfsRead size reachable
      file.Advances after.1 after.2.1 ∧
        (0 ≤ after.2.1 →
          after.2.1 = (regSize * file.available size : Nat) ∧
            after.2.2 = file.following (file.available size))
  | .write user reachable =>
      let after := file.vfsWrite user reachable
      file.Advances after.1 after.2

/-- The calls that follow the rules: seeks from the start, other seeks where
they come to the same, and transfers that fail or move nothing. -/
def Unmoving (file : ControlFile) : PositionCall → Prop
  | .llseek _ .seekSet => True
  | .llseek offset .seekCur => file.fPos = 0 ∨ file.fPos + offset.toInt < 0
  | .llseek offset .seekEnd => offset = -1536
  | .llseek _ (.other newpos) => newpos < 0
  | .read size reachable => reachable = false ∨ size < regSize
  | .write user reachable => reachable = false ∨ user.size = 0

variable {file : ControlFile}

theorem tcCdevWriteBytes_whole (file : ControlFile) (words : List UInt32)
    (reachable : Bool) :
    file.tcCdevWriteBytes { words := words, behind := ⟨0, by decide⟩ }
        reachable = file.tcCdevWrite words reachable := rfl

/-- Nothing sets `addr`, and no call leaves a position that is not one. -/
structure Opened (file : ControlFile) : Prop where
  addr : file.addr = 0
  fPos : 0 ≤ file.fPos
  bound : file.fPos < 2 ^ 63

/-- The end of `llseek` goes to the target if that is the new position, or if
both are out of range. -/
theorem seeksTo_iff (newpos target : Int) :
    file.SeeksTo
      (if newpos < 0 then (file, -22)
        else ({ file with fPos := newpos }, newpos)) target ↔
      if 0 ≤ target ∧ target < 2 ^ 63 then newpos = target
      else newpos < 0 := by
  by_cases rejected : newpos < 0
  · rw [if_pos rejected, SeeksTo]
    by_cases inside : 0 ≤ target ∧ target < 2 ^ 63
    · rw [if_pos inside, if_pos inside]
      simp only
      omega
    · rw [if_neg inside, if_neg inside]
      simp [rejected]
  · rw [if_neg rejected, SeeksTo]
    by_cases inside : 0 ≤ target ∧ target < 2 ^ 63
    · rw [if_pos inside, if_pos inside]
      exact and_self_iff
    · rw [if_neg inside, if_neg inside]
      simp only
      omega

theorem llseek_set_iff (offset : Int64) :
    file.FollowsRules (.llseek offset .seekSet) ↔
      file.Unmoving (.llseek offset .seekSet) := by
  have bound := offset.toInt_lt
  rw [FollowsRules, Unmoving, llseek, seeksTo_iff, iff_true]
  split
  · rfl
  · omega

/-- `SEEK_CUR` takes `addr`, which is zero, for the position. -/
theorem llseek_cur_iff (opened : Opened file) (offset : Int64) :
    file.FollowsRules (.llseek offset .seekCur) ↔
      file.Unmoving (.llseek offset .seekCur) := by
  have bound := offset.toInt_lt
  have positive := opened.fPos
  have position := opened.bound
  rw [FollowsRules, Unmoving, llseek, seeksTo_iff, opened.addr]
  simp only [Nat.cast_zero, Int.zero_add]
  split
  · omega
  · omega

theorem llseek_end_iff (offset : Int64) :
    file.FollowsRules (.llseek offset .seekEnd) ↔
      file.Unmoving (.llseek offset .seekEnd) := by
  have value : offset = -1536 ↔ offset.toInt = -1536 := by
    rw [← Int64.toInt_inj]
    rfl
  have registers : (regLength : Int) = 512 := rfl
  have bytes : ((regSize * regLength : Nat) : Int) = 2048 := rfl
  rw [FollowsRules, Unmoving, value, llseek, seeksTo_iff, registers, bytes]
  split
  · omega
  · omega

theorem llseek_other_iff (offset : Int64) (newpos : Int) :
    file.FollowsRules (.llseek offset (.other newpos)) ↔
      file.Unmoving (.llseek offset (.other newpos)) := by
  rw [FollowsRules, Unmoving, llseek]
  by_cases rejected : newpos < 0
  · simp [rejected]
  · simp [rejected]

theorem advances_storesOffset {after : ControlFile} {result : Int}
    (succeeded : 0 ≤ result) :
    file.Advances (storesOffset file.fPos after result) result ↔
      result = 0 := by
  rw [Advances, storesOffset, if_pos succeeded, if_pos succeeded]
  simp only
  omega

theorem read_iff (opened : Opened file) (size : Nat) (reachable : Bool) :
    file.FollowsRules (.read size reachable) ↔
      file.Unmoving (.read size reachable) := by
  cases reachable with
  | false =>
      simp [FollowsRules, Unmoving, vfsRead, tcCdevRead, storesOffset,
        Advances]
  | true =>
      have words : file.limit size = min (size / regSize) regLength := by
        rw [limit, opened.addr, Nat.sub_zero]
      have result : (file.tcCdevRead size true).2.1 =
          (file.limit size * regSize : Nat) := rfl
      have succeeded : 0 ≤ (file.tcCdevRead size true).2.1 := by
        rw [result]
        exact Int.natCast_nonneg _
      simp only [FollowsRules, Unmoving, vfsRead]
      rw [advances_storesOffset succeeded, result, words]
      constructor
      · rintro ⟨nothing, _⟩
        apply Or.inr
        simp only [regSize, regLength] at nothing ⊢
        omega
      · rintro (failed | small)
        · cases failed
        · have empty : size / regSize = 0 := Nat.div_eq_of_lt small
          have transferred : (file.tcCdevRead size true).2.2 = [] := by
            simp only [tcCdevRead, words, empty, Nat.zero_min, if_true,
              List.take_zero]
          simp only [transferred, available, empty, Nat.zero_min,
            Nat.zero_mul, Nat.mul_zero, following, List.range_zero,
            List.map_nil, Nat.cast_zero, and_self, implies_true]

theorem write_iff (user : UserWords) (reachable : Bool) :
    file.FollowsRules (.write user reachable) ↔
      file.Unmoving (.write user reachable) := by
  cases reachable with
  | false =>
      simp [FollowsRules, Unmoving, vfsWrite, tcCdevWriteBytes, storesOffset,
        Advances]
  | true =>
      have result : (file.tcCdevWriteBytes user true).2 = user.size := rfl
      have succeeded : 0 ≤ (file.tcCdevWriteBytes user true).2 := by
        rw [result]
        exact Int.natCast_nonneg _
      simp only [FollowsRules, Unmoving, vfsWrite]
      rw [advances_storesOffset succeeded, result]
      simp

theorem followsRules_iff (opened : Opened file) (call : PositionCall) :
    file.FollowsRules call ↔ file.Unmoving call := by
  cases call with
  | llseek offset whence =>
      cases whence with
      | seekSet => exact llseek_set_iff offset
      | seekCur => exact llseek_cur_iff opened offset
      | seekEnd => exact llseek_end_iff offset
      | other newpos => exact llseek_other_iff offset newpos
  | read size reachable => exact read_iff opened size reachable
  | write user reachable => exact write_iff user reachable

theorem fPos_storesOffset {offset : Int} {after : ControlFile} {result : Int}
    (succeeded : 0 ≤ result) :
    (storesOffset offset after result).fPos = offset := by
  rw [storesOffset, if_pos succeeded]

theorem addr_storesOffset (offset : Int) (after : ControlFile)
    (result : Int) : (storesOffset offset after result).addr = after.addr := by
  rw [storesOffset]
  split
  · rfl
  · rfl

theorem vfsRead_fields (size : Nat) (reachable : Bool) :
    (file.vfsRead size reachable).1.fPos = file.fPos ∧
      (file.vfsRead size reachable).1.addr = file.addr := by
  cases reachable with
  | false => exact ⟨rfl, rfl⟩
  | true =>
      constructor
      · exact fPos_storesOffset (Int.natCast_nonneg _)
      · exact addr_storesOffset _ _ _

theorem vfsWrite_fields (user : UserWords) (reachable : Bool) :
    (file.vfsWrite user reachable).1.fPos = file.fPos ∧
      (file.vfsWrite user reachable).1.addr = file.addr := by
  cases reachable with
  | false => exact ⟨rfl, rfl⟩
  | true =>
      constructor
      · exact fPos_storesOffset (Int.natCast_nonneg _)
      · rw [vfsWrite, addr_storesOffset]
        exact addr_writeRegisters _ _ _ _

theorem Opened.llseek (opened : Opened file) {newpos : Int}
    (bound : newpos < 2 ^ 63) :
    Opened (if newpos < 0 then (file, -22)
      else (({ file with fPos := newpos }, newpos) :
        ControlFile × Int)).1 := by
  by_cases rejected : newpos < 0
  · rw [if_pos rejected]
    exact opened
  · rw [if_neg rejected]
    exact ⟨opened.addr, Int.not_lt.mp rejected, bound⟩

theorem Opened.transfer (opened : Opened file) {after : ControlFile}
    (fields : after.fPos = file.fPos ∧ after.addr = file.addr) :
    Opened after := by
  constructor
  · rw [fields.2]
    exact opened.addr
  · rw [fields.1]
    exact opened.fPos
  · rw [fields.1]
    exact opened.bound

theorem Opened.call (opened : Opened file) (call : PositionCall)
    (unmoving : file.Unmoving call) : Opened (file.call call) := by
  cases call with
  | llseek offset whence =>
      apply opened.llseek
      cases whence with
      | seekSet => exact offset.toInt_lt
      | seekCur =>
          simp only [opened.addr, Nat.cast_zero, Int.zero_add]
          exact offset.toInt_lt
      | seekEnd =>
          simp only [regLength]
          decide
      | other newpos =>
          have rejected : newpos < 0 := unmoving
          exact Int.lt_trans rejected (by decide)
  | read size reachable =>
      exact opened.transfer (vfsRead_fields size reachable)
  | write user reachable =>
      exact opened.transfer (vfsWrite_fields user reachable)

theorem opened_tcCdevOpen (registers : Nat → UInt32) :
    Opened (tcCdevOpen registers) :=
  ⟨rfl, Int.le_refl 0, Int.pow_pos (by decide)⟩

/-- By the rules a read goes on where the one before it stopped. -/
theorem following_append (count more : Nat) {next : ControlFile}
    (registers : next.registers = file.registers)
    (opened : Opened file)
    (advanced : next.fPos = file.fPos + (regSize * count : Nat)) :
    file.following (count + more) =
      file.following count ++ next.following more := by
  have positive := opened.fPos
  have position : (next.fPos / regSize).toNat =
      (file.fPos / regSize).toNat + count := by
    rw [advanced]
    simp only [regSize]
    omega
  rw [following, following, following, List.range_add, List.map_append,
    List.map_map, registers, position]
  congr 1
  apply List.map_congr_left
  intro index _
  rw [Function.comp_apply, Nat.add_assoc]

/-- The calls after an open follow the rules of a file exactly if none of them
is one that would have to move the position from where it is. -/
theorem follows_rules_iff (registers : Nat → UInt32)
    (calls : List PositionCall) :
    EveryStep call FollowsRules (tcCdevOpen registers) calls ↔
      EveryStep call Unmoving (tcCdevOpen registers) calls := by
  have agree : ∀ file next, Opened file →
      (file.FollowsRules next ↔ file.Unmoving next) := by
    intro file next opened
    exact followsRules_iff opened next
  have kept : ∀ file next, Opened file → file.Unmoving next →
      Opened (file.call next) := by
    intro file next opened unmoving
    exact opened.call next unmoving
  exact everyStep_congr agree kept (opened_tcCdevOpen registers) calls

theorem read_leaves_position :
    ¬∀ (registers : Nat → UInt32) (calls : List PositionCall),
      EveryStep call FollowsRules (tcCdevOpen registers) calls := by
  intro always
  have follows := (always (fun _ => 0) [.read 4 true]).1.1
  rw [Advances] at follows
  exact absurd follows (by decide)

end ControlFile

end StreamIO.Driver
