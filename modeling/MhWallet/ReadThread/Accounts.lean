import MhWallet.ReadThread.Monitor

/-!
Contract: in every state that the threads of an open device can reach, whatever
the order of their steps, one thread at most holds the mutex, and every report
that the callback received has left the list once or is still in it.

Owns: the invariant, with one lemma for what a step does to the list.

Does not own: whether a sleeping thread is woken.
-/

namespace MhWallet.ReadThread

open MhWallet.Effect

@[simp] theorem Place.woken_holds (place : Place) : place.woken.Holds ↔ place.Holds := by
  cases place <;> rfl

namespace Monitor

variable {ι : Type} [DecidableEq ι] {backend : Backend} {actor : Actor ι}
  {state after : Monitor ι}

/-! ## Places -/

@[simp] theorem move_place (state : Monitor ι) (client other : ι) (place : Place) :
    (state.move client place).place other =
      if other = client then place else state.place other := by
  simp [move, Function.update_apply]

@[simp] theorem enter_place (state : Monitor ι) (client other : ι) (place : Place) :
    (state.enter client place).place other =
      if other = client then place else state.place other :=
  move_place state client other place

/-- The place of a thread that has done what it decided. -/
def reached (call : ReadCall) : Decision → Place
  | .takes rpt _ => .outside (some (returnData rpt call.length))
  | .returns bytesRead => .outside (some ⟨bytesRead, []⟩)
  | .loops => .looping call
  | .sleeps => .asleep call

theorem carryOut_place (state : Monitor ι) (client other : ι) (call : ReadCall)
    (decision : Decision) :
    (state.carryOut client call decision).place other =
      if other = client then reached call decision else state.place other := by
  cases decision <;> exact move_place _ _ _ _

theorem carryOut_holder (state : Monitor ι) (client : ι) (call : ReadCall)
    (decision : Decision) :
    (state.carryOut client call decision).holder =
      if decision = .loops then state.holder else none := by
  cases decision <;> rfl

/-! ## The mutex -/

/-- The holder of the mutex is the one thread that is between taking it and
giving it back. -/
def Exclusive (state : Monitor ι) : Prop :=
  ∀ client, (state.place client).Holds ↔ state.holder = some client

omit [DecidableEq ι] in
theorem Exclusive.same_places (exclusive : Exclusive state)
    (places : ∀ client, (after.place client).Holds ↔ (state.place client).Holds)
    (holder : after.holder = state.holder) : Exclusive after := by
  intro client
  rw [places, holder]
  exact exclusive client

theorem Exclusive.move (exclusive : Exclusive state) {client : ι} {place : Place}
    (same : place.Holds ↔ (state.place client).Holds) :
    Exclusive (state.move client place) := by
  apply exclusive.same_places
  · intro other
    rw [move_place]
    split
    next isClient => rw [isClient, same]
    next => rfl
  · rfl

theorem Exclusive.enter (exclusive : Exclusive state) {client : ι} {place : Place}
    (free : state.holder = none) (holds : place.Holds) :
    Exclusive (state.enter client place) := by
  intro other
  rw [enter_place]
  have idle := exclusive other
  rw [free] at idle
  by_cases same : other = client
  · simp [same, holds, Monitor.enter]
  · have differ : client ≠ other := fun equal => same equal.symm
    simpa [same, Monitor.enter, differ] using idle

theorem Exclusive.carryOut (exclusive : Exclusive state) {client : ι}
    (holds : (state.place client).Holds) (call : ReadCall) (decision : Decision) :
    Exclusive (state.carryOut client call decision) := by
  have holder : state.holder = some client := (exclusive client).mp holds
  intro other
  rw [carryOut_place, carryOut_holder]
  have own := exclusive other
  rw [holder] at own
  by_cases same : other = client
  · cases decision <;> simp [same, reached, Place.Holds, holder]
  · have differ : client ≠ other := fun equal => same equal.symm
    cases decision <;> simp_all [Place.Holds]

omit [DecidableEq ι] in
@[simp] theorem poll_place (loop : EventLoop) : (state.poll backend loop).place = state.place := by
  cases loop <;> cases backend <;> simp only [poll] <;> split <;> rfl

omit [DecidableEq ι] in
@[simp] theorem poll_holder (loop : EventLoop) :
    (state.poll backend loop).holder = state.holder := by
  cases loop <;> cases backend <;> simp only [poll] <;> split <;> rfl

/-- A step of another thread leaves the places alone, or wakes sleepers. -/
theorem Step.exclusive (step : Step backend actor state after) (exclusive : Exclusive state) :
    Exclusive after := by
  cases step with
  | call call place opened =>
      apply exclusive.move
      rw [place]
      rfl
  | lock place free => exact exclusive.enter free trivial
  | test place =>
      apply exclusive.carryOut
      rw [place]
      trivial
  | loop place =>
      apply exclusive.carryOut
      rw [place]
      trivial
  | wake res place timed =>
      apply exclusive.move
      rw [place]
      rfl
  | relock place free => exact exclusive.enter free trivial
  | resume place =>
      apply exclusive.carryOut
      rw [place]
      trivial
  | poll place =>
      apply exclusive.same_places
      · simp
      · simp
  | dispatch status libusb place pending =>
      cases status <;> exact exclusive
  | handled libusb place => exact exclusive
  | broken libusb place => exact exclusive
  | submit submitted place =>
      cases submitted <;> exact exclusive
  | report rpt mac place => exact exclusive
  | removal mac place => exact exclusive
  | returned code mac place =>
      cases code <;> exact exclusive
  | attach signalled place free wakes =>
      apply exclusive.same_places
      · intro client
        simp only [attachReport]
        split
        next => exact Place.woken_holds _
        next => rfl
      · rfl
  | broadcast place free =>
      apply exclusive.same_places
      · intro client
        exact Place.woken_holds _
      · rfl
  | close opened quiet => exact exclusive
  | join place reader => exact exclusive
  | drain place free => exact exclusive

theorem exclusive_of_reachable (reachable : (system ι backend).Reachable state) :
    Exclusive state := by
  apply reachable.invariant
  · rintro _ ⟨submitted, rfl⟩ client
    simp [opened, Place.Holds]
  · rintro before after _ exclusive ⟨actor, step⟩
    exact step.exclusive exclusive

omit [DecidableEq ι] in
/-- A thread that is inside under the mutex excludes everything that needs it. -/
theorem Exclusive.not_holds (exclusive : Exclusive state) (free : state.holder = none)
    (client : ι) : ¬ (state.place client).Holds := by
  rw [exclusive, free]
  exact Option.some_ne_none client ∘ Eq.symm

/-! ## The list -/

/-- What a step does to the list of reports. -/
inductive Moves (state after : Monitor ι) : Prop where
  | keeps (reports : after.dev.inputReports = state.dev.inputReports)
      (gone : after.gone = state.gone) (arrived : after.arrived = state.arrived)
      (carried : after.reader.carried = state.reader.carried)
  | receives (rpt : Bytes) (reports : after.dev.inputReports = state.dev.inputReports)
      (gone : after.gone = state.gone) (arrived : after.arrived = state.arrived ++ [rpt])
      (idle : state.reader.carried = []) (carried : after.reader.carried = [rpt])
  | attaches (rpt : Bytes)
      (reports : after.dev.inputReports = (attach state.dev.inputReports rpt).2)
      (gone : after.gone = state.gone ++
        (attach state.dev.inputReports rpt).1.toList.map fun oldest => (oldest, .popped))
      (arrived : after.arrived = state.arrived)
      (carries : state.reader.carried = [rpt]) (carried : after.reader.carried = [])
  | delivers (client : ι) (rpt : Bytes)
      (reports : state.dev.inputReports = rpt :: after.dev.inputReports)
      (gone : after.gone = state.gone ++ [(rpt, .delivered client)])
      (arrived : after.arrived = state.arrived)
      (carried : after.reader.carried = state.reader.carried)
  | drains (reports : after.dev.inputReports = [])
      (gone : after.gone = state.gone ++
        state.dev.inputReports.map fun rpt => (rpt, .drained))
      (arrived : after.arrived = state.arrived)
      (carried : after.reader.carried = state.reader.carried)

theorem carryOut_moves {client : ι} {call : ReadCall} {decision : Decision}
    (takes : decision.Takes state.dev) : Moves state (state.carryOut client call decision) := by
  cases decision with
  | takes rpt rest => exact .delivers client rpt (takes rpt rest rfl) rfl rfl rfl
  | returns bytesRead => exact .keeps rfl rfl rfl rfl
  | loops => exact .keeps rfl rfl rfl rfl
  | sleeps => exact .keeps rfl rfl rfl rfl

omit [DecidableEq ι] in
theorem poll_moves {loop : EventLoop} (place : state.reader = .polling loop) :
    Moves state (state.poll backend loop) := by
  have idle : state.reader.carried = [] := congrArg Reader.carried place
  cases loop <;> cases backend <;> simp only [poll] <;> split <;>
    exact .keeps rfl rfl rfl idle.symm

theorem Step.moves (step : Step backend actor state after) : Moves state after := by
  cases step with
  | call call place opened => exact .keeps rfl rfl rfl rfl
  | lock place free => exact .keeps rfl rfl rfl rfl
  | test place => exact carryOut_moves (firstTests_takes _ _ _)
  | loop place => exact carryOut_moves (loopHead_takes _ _ _)
  | wake res place timed => exact .keeps rfl rfl rfl rfl
  | relock place free => exact .keeps rfl rfl rfl rfl
  | resume place => exact carryOut_moves (afterWait_takes _ _ _ _)
  | poll place => exact poll_moves place
  | dispatch status libusb place pending =>
      have idle : state.reader.carried = [] := congrArg Reader.carried place
      cases status with
      | completed rpt => exact .receives rpt rfl rfl rfl idle rfl
      | cancelled => exact .keeps rfl rfl rfl rfl
      | noDevice => exact .keeps rfl rfl rfl rfl
      | timedOut => exact .keeps rfl rfl rfl idle.symm
      | other => exact .keeps rfl rfl rfl idle.symm
  | handled libusb place => exact .keeps rfl rfl rfl (congrArg Reader.carried place).symm
  | broken libusb place => exact .keeps rfl rfl rfl (congrArg Reader.carried place).symm
  | submit submitted place =>
      have idle : state.reader.carried = [] := congrArg Reader.carried place
      cases submitted <;> exact .keeps rfl rfl rfl idle.symm
  | report rpt mac place => exact .receives rpt rfl rfl rfl (congrArg Reader.carried place) rfl
  | removal mac place => exact .keeps rfl rfl rfl rfl
  | returned code mac place =>
      have idle : state.reader.carried = [] := congrArg Reader.carried place
      cases code <;> exact .keeps rfl rfl rfl idle.symm
  | @attach _ loop rpt signalled place free wakes =>
      refine .attaches rpt rfl rfl rfl (congrArg Reader.carried place) ?_
      cases backend <;> rfl
  | broadcast place free =>
      refine .keeps rfl rfl rfl ?_
      rw [place]
      cases backend <;> rfl
  | close opened quiet => exact .keeps rfl rfl rfl rfl
  | join place reader =>
      refine .keeps rfl rfl rfl ?_
      rw [reader]
      cases backend <;> rfl
  | drain place free => exact .drains rfl rfl rfl rfl

/-- Every report received has left the list, is in it or is about to be attached,
in the order of arrival; and a report is popped only for 32 later ones. -/
structure Accounted (state : Monitor ι) : Prop where
  balance : state.gone.map Prod.fst ++ state.dev.inputReports ++ state.reader.carried =
    state.arrived
  bounded : state.dev.inputReports.length ≤ capacity
  popped : ∀ index rpt, state.gone[index]? = some (rpt, .popped) →
    index + 1 + capacity ≤ state.arrived.length

omit [DecidableEq ι] in
/-- Reports that leave the list otherwise than by being popped. -/
private theorem Accounted.popped_append (accounted : Accounted state)
    {left : List (Bytes × Fate ι)} (gone : after.gone = state.gone ++ left)
    (others : ∀ entry ∈ left, entry.2 ≠ .popped)
    (later : state.arrived.length ≤ after.arrived.length) (index : Nat) (rpt : Bytes)
    (entry : after.gone[index]? = some (rpt, .popped)) :
    index + 1 + capacity ≤ after.arrived.length := by
  rw [gone, List.getElem?_append] at entry
  split at entry
  next => exact Nat.le_trans (accounted.popped index rpt entry) later
  next => exact absurd rfl (others _ (List.mem_of_getElem? entry))

omit [DecidableEq ι] in
theorem Accounted.moves (accounted : Accounted state) (moves : Moves state after) :
    Accounted after := by
  cases moves with
  | keeps reports gone arrived carried =>
      refine ⟨?_, ?_, ?_⟩
      · rw [reports, gone, arrived, carried]
        exact accounted.balance
      · rw [reports]
        exact accounted.bounded
      · rw [gone, arrived]
        exact accounted.popped
  | receives rpt reports gone arrived idle carried =>
      refine ⟨?_, ?_, ?_⟩
      · have balance := accounted.balance
        rw [idle, List.append_nil] at balance
        rw [reports, gone, arrived, carried, balance]
      · rw [reports]
        exact accounted.bounded
      · have nothing : after.gone = state.gone ++ [] := by
          rw [gone, List.append_nil]
        exact accounted.popped_append nothing (by simp) (by simp [arrived])
  | attaches rpt reports gone arrived carries carried =>
      have balance := accounted.balance
      rw [carries] at balance
      refine ⟨?_, ?_, ?_⟩
      · calc after.gone.map Prod.fst ++ after.dev.inputReports ++ after.reader.carried
            = state.gone.map Prod.fst ++ ((attach state.dev.inputReports rpt).1.toList ++
                (attach state.dev.inputReports rpt).2) := by
              rw [reports, gone, carried]
              simp [Function.comp_def]
          _ = state.gone.map Prod.fst ++ state.dev.inputReports ++ [rpt] := by
              rw [attach_append, List.append_assoc]
          _ = after.arrived := by rw [balance, arrived]
      · rw [reports]
        exact attach_length_le accounted.bounded rpt
      · intro index oldest entry
        rw [gone, List.getElem?_append] at entry
        rw [arrived]
        split at entry
        next => exact accounted.popped index oldest entry
        next beyond =>
          -- Only a full list loses its first report.
          have total := congrArg List.length balance
          rw [attach_fst] at entry
          split at entry
          next full =>
            have within := (List.getElem?_eq_some_iff.mp entry).1
            have single : state.dev.inputReports.head?.toList.length ≤ 1 :=
              Option.length_toList_le
            simp only [List.length_map, List.length_append, List.length_cons,
              List.length_nil] at total within
            omega
          next => simp at entry
  | delivers client rpt reports gone arrived carried =>
      refine ⟨?_, ?_, ?_⟩
      · have balance := accounted.balance
        rw [reports] at balance
        rw [gone, arrived, carried, ← balance]
        simp
      · have bounded := accounted.bounded
        rw [reports, List.length_cons] at bounded
        omega
      · apply accounted.popped_append gone
        · simp
        · exact Nat.le_of_eq (congrArg List.length arrived.symm)
  | drains reports gone arrived carried =>
      refine ⟨?_, ?_, ?_⟩
      · rw [reports, gone, arrived, carried, ← accounted.balance]
        simp [Function.comp_def]
      · rw [reports]
        exact Nat.zero_le _
      · apply accounted.popped_append gone
        · simp
        · exact Nat.le_of_eq (congrArg List.length arrived.symm)

theorem accounted_of_reachable (reachable : (system ι backend).Reachable state) :
    Accounted state := by
  apply reachable.invariant
  · rintro _ ⟨submitted, rfl⟩
    exact ⟨rfl, Nat.zero_le _, by simp [opened]⟩
  · rintro before after _ accounted ⟨actor, step⟩
    exact accounted.moves step.moves

/-- What the readers were given, in the order in which they were given it. -/
def delivered (state : Monitor ι) : List Bytes :=
  state.gone.filterMap fun
    | (rpt, .delivered _) => some rpt
    | _ => none

omit [DecidableEq ι] in
theorem delivered_sublist (state : Monitor ι) :
    state.delivered.Sublist (state.gone.map Prod.fst) := by
  unfold delivered
  induction state.gone with
  | nil => simp
  | cons entry rest inductionHypothesis =>
      obtain ⟨rpt, fate⟩ := entry
      cases fate with
      | delivered client => simpa using inductionHypothesis
      | popped => simpa using inductionHypothesis.cons rpt
      | drained => simpa using inductionHypothesis.cons rpt

/-- In every reachable state, whatever threads read and in whatever order: the
reports that have left the list, those in it and the one being attached are the
reports received, each once and in order; at most 32 wait; and a report is lost only
once 32 later ones have been received. -/
theorem reports_accounted (reachable : (system ι backend).Reachable state) :
    state.gone.map Prod.fst ++ state.dev.inputReports ++ state.reader.carried =
        state.arrived ∧
      state.delivered.Sublist state.arrived ∧
      state.dev.inputReports.length ≤ 32 ∧
      ∀ index rpt, state.gone[index]? = some (rpt, .popped) →
        index + 1 + 32 ≤ state.arrived.length := by
  have accounted := accounted_of_reachable reachable
  refine ⟨accounted.balance, ?_, accounted.bounded, accounted.popped⟩
  rw [← accounted.balance, List.append_assoc]
  exact (delivered_sublist state).trans (List.sublist_append_left _ _)

/-- A report that one thread has read. -/
theorem reports_accounted_delivered :
    ∃ state : Monitor Unit, state.gone = [([7], .delivered ())] ∧
      state.gone.map Prod.fst ++ state.dev.inputReports ++ state.reader.carried =
        state.arrived := by
  have start : (system Unit .libusb).Reachable (opened true) := .of_initial ⟨true, rfl⟩
  have polled := start.next ⟨_, .poll rfl⟩
  have received := polled.next ⟨_, .dispatch (.completed [7]) rfl rfl rfl⟩
  have attached := received.next ⟨_, .attach none rfl rfl (by
    intro client call
    exact Place.noConfusion)⟩
  have calling := attached.next ⟨.client (), .call (hidRead 64) rfl rfl⟩
  have testing := calling.next ⟨.client (), .lock rfl rfl⟩
  have returned := testing.next ⟨.client (), .test rfl⟩
  exact ⟨_, rfl, (reports_accounted returned).1⟩

end Monitor

end MhWallet.ReadThread
