import Mathlib.Data.Multiset.Filter
import Mathlib.Tactic.Common

/-!
Contract: numbered resources that are acquired, used and released.

A ledger holds the number of the next resource and the resources that are live.
It accepts a trace of uses in which each acquired resource is the next one, and
every resource that is used or released is live.

Owns: the ledger, and what a trace that it accepts does with each resource.

Does not own: any concrete resource.
-/

namespace MhWallet.Effect

inductive Use where
  | acquire (resource : Nat)
  | use (resource : Nat)
  | release (resource : Nat)
deriving DecidableEq, Repr

/-- The live resources, each once and each issued. -/
structure Ledger where
  issued : Nat
  live : Multiset Nat
  bounded : ∀ resource ∈ live, resource < issued
  nodup : live.Nodup

namespace Ledger

/-- The ledger before the first acquisition. -/
def empty : Ledger where
  issued := 0
  live := 0
  bounded := by simp
  nodup := Multiset.nodup_zero

def step (ledger : Ledger) : Use → Option Ledger
  | .acquire resource =>
      if resource = ledger.issued then
        some {
          issued := ledger.issued + 1
          live := ledger.issued ::ₘ ledger.live
          bounded := by
            intro resource member
            rcases Multiset.mem_cons.mp member with rfl | member
            · exact Nat.lt_succ_self _
            · exact Nat.lt_succ_of_lt (ledger.bounded resource member)
          nodup := Multiset.nodup_cons.mpr
            ⟨fun member => Nat.lt_irrefl _ (ledger.bounded _ member), ledger.nodup⟩ }
      else none
  | .use resource => if resource ∈ ledger.live then some ledger else none
  | .release resource =>
      if resource ∈ ledger.live then
        some {
          issued := ledger.issued
          live := ledger.live.erase resource
          bounded := fun _ member => ledger.bounded _ (Multiset.mem_of_mem_erase member)
          nodup := ledger.nodup.erase resource }
      else none

/-- The ledger after a trace, if it accepts the trace. -/
def run (ledger : Ledger) (trace : List Use) : Option Ledger :=
  trace.foldlM step ledger

variable {ledger reached : Ledger} {trace : List Use}

@[simp] theorem run_nil (ledger : Ledger) : ledger.run [] = some ledger := rfl

theorem run_cons (ledger : Ledger) (use : Use) (trace : List Use) :
    ledger.run (use :: trace) = (ledger.step use).bind fun next => next.run trace := rfl

theorem run_append (ledger : Ledger) (first second : List Use) :
    ledger.run (first ++ second) = (ledger.run first).bind fun middle => middle.run second :=
  List.foldlM_append

theorem run_append_some (ran : ledger.run trace = some reached) (later : List Use) :
    ledger.run (trace ++ later) = reached.run later := by
  rw [run_append, ran]
  rfl

/-! ## Each step -/

theorem step_acquire (ledger : Ledger) :
    ∃ next, ledger.step (.acquire ledger.issued) = some next ∧
      next.issued = ledger.issued + 1 ∧ next.live = ledger.issued ::ₘ ledger.live :=
  ⟨_, if_pos rfl, rfl, rfl⟩

theorem step_use {resource : Nat} (live : resource ∈ ledger.live) :
    ledger.step (.use resource) = some ledger :=
  if_pos live

theorem step_release {resource : Nat} (live : resource ∈ ledger.live) :
    ∃ next, ledger.step (.release resource) = some next ∧
      next.issued = ledger.issued ∧ next.live = ledger.live.erase resource :=
  ⟨_, if_pos live, rfl, rfl⟩

/-- Uses of live resources leave the ledger as it is. -/
theorem run_of_uses (allLive : ∀ use ∈ trace, ∃ resource ∈ ledger.live, use = .use resource) :
    ledger.run trace = some ledger := by
  induction trace with
  | nil => rfl
  | cons use trace inductionHypothesis =>
      obtain ⟨resource, live, rfl⟩ := allLive use List.mem_cons_self
      rw [run_cons, step_use live]
      exact inductionHypothesis fun use member => allLive use (List.mem_cons_of_mem _ member)

/-- What an accepted step does to the live resources. -/
theorem step_count {use : Use} {next : Ledger} (accepted : ledger.step use = some next)
    (resource : Nat) :
    next.live.count resource + (if use = .release resource then 1 else 0) =
      ledger.live.count resource + (if use = .acquire resource then 1 else 0) := by
  cases use with
  | acquire acquired =>
      rw [step] at accepted
      split at accepted
      next first =>
        rw [Option.some.injEq] at accepted
        subst accepted first
        by_cases same : resource = ledger.issued
        · simp [same]
        · simp [Multiset.count_cons_of_ne same, Ne.symm same]
      next => simp at accepted
  | use used =>
      rw [step] at accepted
      split at accepted
      next =>
        rw [Option.some.injEq] at accepted
        subst accepted
        simp
      next => simp at accepted
  | release released =>
      rw [step] at accepted
      split at accepted
      next live =>
        rw [Option.some.injEq] at accepted
        subst accepted
        by_cases same : resource = released
        · subst same
          have positive := Multiset.one_le_count_iff_mem.mpr live
          simp [Multiset.count_erase_self]
          omega
        · simp [Multiset.count_erase_of_ne same, Ne.symm same]
      next => simp at accepted

theorem step_issued_le {use : Use} {next : Ledger} (accepted : ledger.step use = some next) :
    ledger.issued ≤ next.issued := by
  cases use <;> rw [step] at accepted <;> split at accepted
  all_goals
    simp at accepted
  all_goals
    subst accepted
    simp

/-! ## What an accepted trace does with a resource -/

/-- Conservation: what is live at the end was live or acquired, and was not
released. -/
theorem count_run (ran : ledger.run trace = some reached) (resource : Nat) :
    reached.live.count resource + trace.count (.release resource) =
      ledger.live.count resource + trace.count (.acquire resource) := by
  induction trace generalizing ledger with
  | nil =>
      simp at ran
      rw [ran]
      simp
  | cons use trace inductionHypothesis =>
      rw [run_cons, Option.bind_eq_some_iff] at ran
      obtain ⟨next, accepted, rest⟩ := ran
      have stepped := step_count accepted resource
      have later := inductionHypothesis rest
      simp only [List.count_cons, beq_iff_eq]
      omega

/-- A resource that was issued is not acquired again. -/
theorem acquire_not_mem (ran : ledger.run trace = some reached) {resource : Nat}
    (issued : resource < ledger.issued) : Use.acquire resource ∉ trace := by
  induction trace generalizing ledger with
  | nil => exact List.not_mem_nil
  | cons use trace inductionHypothesis =>
      rw [run_cons, Option.bind_eq_some_iff] at ran
      obtain ⟨next, accepted, rest⟩ := ran
      have later := inductionHypothesis rest
        (Nat.lt_of_lt_of_le issued (step_issued_le accepted))
      intro member
      rcases List.mem_cons.mp member with rfl | member
      · rw [step, if_neg (Nat.ne_of_lt issued)] at accepted
        simp at accepted
      · exact later member

/-- A resource that was issued and is not live is not used. -/
theorem not_mem_of_dead (ran : ledger.run trace = some reached) {resource : Nat}
    (issued : resource < ledger.issued) (dead : resource ∉ ledger.live) :
    Use.use resource ∉ trace ∧ Use.release resource ∉ trace := by
  induction trace generalizing ledger with
  | nil => exact ⟨List.not_mem_nil, List.not_mem_nil⟩
  | cons use trace inductionHypothesis =>
      rw [run_cons, Option.bind_eq_some_iff] at ran
      obtain ⟨next, accepted, rest⟩ := ran
      have stepped := step_count accepted resource
      have absent : ledger.live.count resource = 0 := Multiset.count_eq_zero.mpr dead
      have notAcquired : use ≠ .acquire resource := by
        intro same
        subst same
        rw [step, if_neg (Nat.ne_of_lt issued)] at accepted
        simp at accepted
      rw [if_neg notAcquired, absent] at stepped
      have deadNext : resource ∉ next.live := Multiset.count_eq_zero.mp (by omega)
      obtain ⟨unused, unreleased⟩ := inductionHypothesis rest
        (Nat.lt_of_lt_of_le issued (step_issued_le accepted)) deadNext
      have notUsed : Use.use resource ≠ use := by
        intro same
        subst same
        rw [step, if_neg dead] at accepted
        simp at accepted
      have notReleased : Use.release resource ≠ use := by
        intro same
        subst same
        rw [step, if_neg dead] at accepted
        simp at accepted
      exact ⟨by simp [notUsed, unused], by simp [notReleased, unreleased]⟩

/-- A released resource is gone for good. -/
theorem not_mem_after_release {before after : List Use} {resource : Nat}
    (ran : ledger.run (before ++ .release resource :: after) = some reached) :
    Use.use resource ∉ after ∧ Use.release resource ∉ after := by
  rw [run_append, Option.bind_eq_some_iff] at ran
  obtain ⟨middle, _, ran⟩ := ran
  rw [run_cons, Option.bind_eq_some_iff] at ran
  obtain ⟨next, accepted, rest⟩ := ran
  rw [step] at accepted
  split at accepted
  next live =>
    rw [Option.some.injEq] at accepted
    subst accepted
    exact not_mem_of_dead rest (middle.bounded resource live)
      (fun member => (middle.nodup.mem_erase_iff.mp member).1 rfl)
  next => simp at accepted

/-- Every resource is acquired at most once. -/
theorem count_acquire_le_one (ran : ledger.run trace = some reached) (resource : Nat) :
    trace.count (.acquire resource) ≤ 1 := by
  induction trace generalizing ledger with
  | nil => simp
  | cons use trace inductionHypothesis =>
      rw [run_cons, Option.bind_eq_some_iff] at ran
      obtain ⟨next, accepted, rest⟩ := ran
      by_cases acquired : use = .acquire resource
      · subst acquired
        rw [step] at accepted
        split at accepted
        next first =>
          rw [Option.some.injEq] at accepted
          subst accepted first
          have absent := acquire_not_mem rest (Nat.lt_succ_self ledger.issued)
          rw [List.count_cons_self, List.count_eq_zero.mpr absent]
        next => simp at accepted
      · rw [List.count_cons_of_ne acquired]
        exact inductionHypothesis rest

/-- From an empty ledger a resource that is used was acquired before, and not
released since. -/
theorem used_after_acquire {before after : List Use} {resource : Nat}
    (ran : empty.run (before ++ .use resource :: after) = some reached) :
    Use.acquire resource ∈ before ∧ Use.release resource ∉ before := by
  rw [run_append, Option.bind_eq_some_iff] at ran
  obtain ⟨middle, earlier, ran⟩ := ran
  rw [run_cons, Option.bind_eq_some_iff] at ran
  obtain ⟨next, accepted, _⟩ := ran
  rw [step] at accepted
  split at accepted
  next live =>
    have balance := count_run earlier resource
    have once := count_acquire_le_one earlier resource
    have positive := Multiset.one_le_count_iff_mem.mpr live
    rw [show empty.live.count resource = 0 from rfl] at balance
    exact ⟨List.count_pos_iff.mp (by omega), List.count_eq_zero.mp (by omega)⟩
  next => simp at accepted

/-- From an empty ledger every resource is released at most once. -/
theorem count_release_le_one (ran : empty.run trace = some reached) (resource : Nat) :
    trace.count (.release resource) ≤ 1 := by
  have balance := count_run ran resource
  have once := count_acquire_le_one ran resource
  rw [show empty.live.count resource = 0 from rfl] at balance
  omega

/-- From an empty ledger a resource that was acquired and is not live in the end
was released exactly once. -/
theorem count_release_eq_one (ran : empty.run trace = some reached) {resource : Nat}
    (acquired : Use.acquire resource ∈ trace) (gone : resource ∉ reached.live) :
    trace.count (.release resource) = 1 := by
  have balance := count_run ran resource
  have once := count_acquire_le_one ran resource
  have some : 0 < trace.count (.acquire resource) := List.count_pos_iff.mpr acquired
  rw [Multiset.count_eq_zero.mpr gone, show empty.live.count resource = 0 from rfl] at balance
  omega

end Ledger

end MhWallet.Effect
