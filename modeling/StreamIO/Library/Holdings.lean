import Mathlib.Data.List.Nodup
import Mathlib.Data.List.Perm.Basic

/-!
# Who holds what

Things that are live or not, and owners that hold some of them.  The account
is in order when each live thing is held exactly once, by the base or by one
of the owners, and nothing else is held at all.  Owners can be kept in an
association list.
-/

namespace StreamIO.Library

variable {Thing : Type u} {Owner : Type v}

/-- What is live after more was acquired. -/
def acquire (live taken : Thing → Bool) : Thing → Bool :=
  fun thing => live thing || taken thing

/-- What is live after some was released. -/
def relinquish (live given : Thing → Bool) : Thing → Bool :=
  fun thing => live thing && !given thing

theorem relinquish_relinquish (live first second : Thing → Bool) :
    relinquish (relinquish live first) second =
      relinquish live fun thing => first thing || second thing := by
  funext thing
  simp only [relinquish, Bool.not_or, Bool.and_assoc]

/-- Every thing is held as often as it is live. -/
def Accounts (held : Owner → Thing → Bool) (live base : Thing → Bool)
    (owners : List Owner) : Prop :=
  ∀ thing, (live thing).toNat =
    (base thing).toNat + owners.countP fun owner => held owner thing

/-- Release for one owner after the other. -/
def relinquishAll (released : Owner → Thing → Bool) (live : Thing → Bool)
    (owners : List Owner) : Thing → Bool :=
  owners.foldl (fun live owner => relinquish live (released owner)) live

theorem relinquishAll_apply (released : Owner → Thing → Bool)
    (live : Thing → Bool) (owners : List Owner) (thing : Thing) :
    relinquishAll released live owners thing = true ↔
      live thing = true ∧ ∀ owner ∈ owners, released owner thing = false := by
  induction owners generalizing live with
  | nil => simp [relinquishAll]
  | cons owner owners induction =>
      have later := induction (relinquish live (released owner))
      simp only [relinquishAll, List.foldl_cons] at later ⊢
      rw [later]
      simp [relinquish, and_assoc]

theorem relinquishAll_congr {released given : Owner → Thing → Bool}
    {owners : List Owner}
    (same : ∀ owner ∈ owners, released owner = given owner)
    (live : Thing → Bool) :
    relinquishAll released live owners = relinquishAll given live owners := by
  funext thing
  apply Bool.eq_iff_iff.mpr
  rw [relinquishAll_apply, relinquishAll_apply]
  apply and_congr_right
  intro _
  apply forall₂_congr
  intro owner member
  rw [same owner member]

namespace Accounts

variable {held : Owner → Thing → Bool} {live base : Thing → Bool}
  {owners front back : List Owner} {owner : Owner}

theorem countP_held_cons (held : Owner → Thing → Bool) (owner : Owner)
    (owners : List Owner) (thing : Thing) :
    (owner :: owners).countP (fun other => held other thing) =
      owners.countP (fun other => held other thing) +
        (held owner thing).toNat := by
  rw [List.countP_cons]
  cases held owner thing with
  | false => rfl
  | true => rfl

theorem start (held : Owner → Thing → Bool) (base : Thing → Bool) :
    Accounts held base base [] := by
  intro thing
  rw [List.countP_nil, Nat.add_zero]

theorem perm (account : Accounts held live base front)
    (same : front.Perm back) : Accounts held live base back := by
  intro thing
  rw [account thing, same.countP_eq]

/-- What is live is held. -/
theorem live_iff (account : Accounts held live base owners) (thing : Thing) :
    live thing = true ↔
      base thing = true ∨ ∃ owner ∈ owners, held owner thing = true := by
  have counted := account thing
  rw [← Bool.toNat_eq_one, ← @Bool.toNat_eq_one (base thing),
    ← List.countP_pos_iff]
  have liveBound := Bool.toNat_le (live thing)
  omega

theorem apart (account : Accounts held live base (front ++ owner :: back))
    {thing : Thing} (holds : held owner thing = true) :
    live thing = true ∧ base thing = false ∧
      ∀ other ∈ front ++ back, held other thing = false := by
  have counted := account thing
  rw [List.countP_append, countP_held_cons, holds, Bool.toNat_true]
    at counted
  have liveBound := Bool.toNat_le (live thing)
  have others : (front ++ back).countP (fun other => held other thing) =
      0 := by
    rw [List.countP_append]
    omega
  refine ⟨?_, ?_, ?_⟩
  · apply Bool.toNat_eq_one.mp
    omega
  · apply Bool.toNat_eq_zero.mp
    omega
  · intro other member
    have notHeld := List.countP_eq_zero.mp others other member
    exact Bool.eq_false_iff.mpr notHeld

theorem acquire (account : Accounts held live base owners)
    (fresh : ∀ thing, held owner thing = true → live thing = false) :
    Accounts held (acquire live (held owner)) base (owner :: owners) := by
  intro thing
  have counted := account thing
  rw [countP_held_cons, Library.acquire]
  cases holds : held owner thing with
  | false =>
      rw [Bool.or_false]
      exact counted
  | true =>
      rw [fresh thing holds] at counted ⊢
      rw [Bool.toNat_false] at counted
      rw [Bool.or_true, Bool.toNat_true]
      omega

theorem relinquish (account : Accounts held live base (owner :: owners)) :
    Accounts held (relinquish live (held owner)) base owners := by
  intro thing
  have counted := account thing
  have liveBound := Bool.toNat_le (live thing)
  rw [countP_held_cons] at counted
  rw [Library.relinquish]
  cases holds : held owner thing with
  | false =>
      rw [holds] at counted
      rw [Bool.not_false, Bool.and_true]
      exact counted
  | true =>
      rw [holds, Bool.toNat_true] at counted
      rw [Bool.not_true, Bool.and_false, Bool.toNat_false]
      omega

theorem relinquishAll (account : Accounts held live base (front ++ back)) :
    Accounts held (relinquishAll held live front) base back := by
  induction front generalizing live with
  | nil => exact account
  | cons owner front induction => exact induction account.relinquish

/-- An owner that keeps something back leaves it live with nobody to hold
it. -/
theorem kept_back {released : Owner → Thing → Bool}
    (account : Accounts held live base (front ++ back))
    (within : ∀ owner thing, released owner thing = true →
      held owner thing = true)
    (member : owner ∈ front) {thing : Thing}
    (holds : held owner thing = true)
    (keeps : released owner thing = false) :
    Library.relinquishAll released live front thing = true ∧
      base thing = false ∧ ∀ other ∈ back, held other thing = false := by
  obtain ⟨before, after, rfl⟩ := List.append_of_mem member
  rw [List.append_assoc, List.cons_append] at account
  obtain ⟨isLive, notBase, others⟩ := account.apart holds
  have notReleased : ∀ other ∈ before ++ after,
      released other thing = false := by
    intro other otherMember
    apply Bool.eq_false_iff.mpr
    intro gives
    have notHeld := others other (by
      rw [← List.append_assoc]
      exact List.mem_append_left _ otherMember)
    rw [within other thing gives] at notHeld
    cases notHeld
  refine ⟨?_, notBase, ?_⟩
  · apply (relinquishAll_apply released live _ thing).mpr
    refine ⟨isLive, ?_⟩
    intro other otherMember
    rcases List.mem_append.mp otherMember with early | late
    · exact notReleased other (List.mem_append_left _ early)
    · rcases List.mem_cons.mp late with rfl | late
      · exact keeps
      · exact notReleased other (List.mem_append_right _ late)
  · intro other otherMember
    apply others
    rw [← List.append_assoc]
    exact List.mem_append_right _ otherMember

end Accounts

section Entries

variable {Key : Type u} {Value : Type v} [DecidableEq Key]
  {entries : List (Key × Value)} {key : Key}

theorem lookup_split {value : Value}
    (looked : entries.lookup key = some value)
    (distinct : (entries.map Prod.fst).Nodup) :
    ∃ earlier later, entries = earlier ++ (key, value) :: later ∧
      (entries.filter fun entry => entry.1 ≠ key) = earlier ++ later := by
  obtain ⟨earlier, later, split, _⟩ := List.lookup_eq_some_iff.mp looked
  refine ⟨earlier, later, split, ?_⟩
  rw [split, List.map_append, List.map_cons, List.nodup_middle,
    List.nodup_cons] at distinct
  rw [split, List.filter_append, List.filter_cons_of_neg (by simp),
    ← List.filter_append]
  apply List.filter_eq_self.mpr
  intro entry entryMember
  have other : entry.1 ≠ key := by
    intro equal
    apply distinct.1
    rw [← List.map_append]
    exact List.mem_map.mpr ⟨entry, entryMember, equal⟩
  simpa using other

end Entries

end StreamIO.Library
