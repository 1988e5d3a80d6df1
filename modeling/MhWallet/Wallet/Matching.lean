import MhWallet.Framing.Fifo
import MhWallet.Wallet.Connection

/-!
Contract: which response a call of `nanos_wallet::exchange` returns, over every
sequence of calls on one open device.

A call reads the oldest report in the queue after it has written its request.
Only `wrong_seqno_error` empties the queue; a call that throws for another
reason leaves its response to the next one.

Owns: the runs of calls, the state between two calls, and the condition under
which a call returns the response to its own request.

Does not own: what the device answers, and when foreign reports arrive.
-/

namespace MhWallet

open MhWallet.Bytes MhWallet.Effect MhWallet.Method MhWallet.Framing

namespace Fifo

/-- The oldest report in the queue is no response. -/
def Unspoiled (fifo : Fifo) : Prop :=
  ∀ number answer, fifo.queue.head? ≠ some (.response number answer)

/-- Every response in the queue is to an APDU that has been written. -/
def Dated (fifo : Fifo) : Prop :=
  ∀ number answer, .response number answer ∈ fifo.queue → number < fifo.answered

variable {peer : Peer} {fifo : Fifo}

theorem Dated.tick (dated : fifo.Dated) : (peer.tick fifo).Dated := by
  intro number answer member
  rcases List.mem_append.mp member with old | arrived
  · exact dated number answer old
  · simp at arrived

theorem unspoiled_of_empty (empty : fifo.queue = []) : fifo.Unspoiled := by
  intro number answer
  rw [empty]
  simp

end Fifo

/-- A fetched answer is an old one or the own one. -/
theorem Peer.Fetched.dated {peer : Peer} {request : Bytes} {before after : Fifo}
    {entry : Queued} (fetched : peer.Fetched request before after entry)
    (dated : before.Dated) : after.Dated := by
  intro number answer member
  rw [fetched.answered]
  rcases fetched.mem_cases (.inr member) with old | ⟨_, _, foreign⟩ | own
  · exact Nat.lt_succ_of_lt (dated number answer old)
  · simp at foreign
  · rw [Queued.response.injEq] at own
    rw [own.1]
    exact Nat.lt_succ_self _

namespace NanosWallet

/-- The state before an attempt of a call, or between two calls: no counter and
no request is left over. -/
structure Serving (held : List Mutex) (wallet : NanosWallet) (world : World Fifo) : Prop where
  held : world.held = held
  room : wallet.mFramer.mBuffer.length ≤ 64
  clean : wallet.mFramer.Clean
  pending : world.env.pending = []
  dated : world.env.Dated

variable {tb : Toolbox} {peer : Peer} {held : List Mutex} {wallet : NanosWallet}
  {world : World Fifo} {apdu : Apdu} {resCode : Option UInt16} {handle : Handle}

theorem Serving.ready (serving : Serving held wallet world)
    (noDevice : ∀ object, Mutex.device object ∉ held) : Ready wallet world where
  free := by
    rw [serving.held]
    exact noDevice _
  room := serving.room

/-- An attempt with an open device reads one report, which decides how it
ends. -/
theorem Serving.attempt (serving : Serving held wallet world)
    (noDevice : ∀ object, Mutex.device object ∉ held) (small : apdu.payloadSize ≤ 255)
    (live : wallet.mFramer.mIo.mDev = some handle)
    {outcome : Except Stop (Bytes × Option UInt16)} {framer : FrameIoApdu}
    {reached : World Fifo}
    (ran : (FrameIoApdu.exchange tb peer.device apdu resCode).run ⟨wallet.mFramer, world⟩ =
      (outcome, ⟨framer, reached⟩)) :
    ∃ entry, outcome = entry.outcome resCode ∧
      Serving held { wallet with mFramer := framer } reached ∧
      framer.mIo = wallet.mFramer.mIo ∧
      peer.Fetched apdu.encoded world.env reached.env entry := by
  have ready := serving.ready noDevice
  obtain ⟨entry, next, after, fetches, clean, fetched⟩ :=
    FrameIoApdu.exchange_fetches tb small live ready.free ready.room serving.clean
      serving.pending resCode
  rw [fetches] at ran
  simp only [Prod.mk.injEq, Scene.mk.injEq] at ran
  obtain ⟨rfl, rfl, rfl⟩ := ran
  obtain ⟨readyAfter, device, env, reports, results, sameWorld, _⟩ :=
    ready.afterAttempt tb peer.device live fetches (entry.outcome_ended resCode)
  refine ⟨entry, rfl, ?_, device, fetched⟩
  exact {
    held := by
      rw [sameWorld]
      exact serving.held
    room := readyAfter.room
    clean := clean
    pending := fetched.pending
    dated := fetched.dated serving.dated }

/-- Reopening leaves an empty queue, or no handle. -/
theorem Serving.reopen (serving : Serving held wallet world)
    (noDevice : ∀ object, Mutex.device object ∉ held)
    (live : wallet.mFramer.mIo.mDev = some handle) :
    ∃ next after, (NanosWallet.reopen peer.device).run ⟨wallet, world⟩ =
        (.ok (), ⟨next, after⟩) ∧
      Serving held next after ∧ after.env.answered = world.env.answered ∧
      (next.mFramer.mIo.mDev ≠ none → after.env.queue = []) := by
  let closed := wallet.afterClose peer.device world handle
  let opened := wallet.closedDevice.openAnswer peer.device closed.env
  have answer : opened = peer.opened (peer.tick world.env) := peer.openAnswer_eq _ _
  have env : (wallet.closedDevice.afterOpen peer.device closed).env = opened.2 := rfl
  have ran := reopen_run peer.device live (serving.ready noDevice).free
  have clean : FrameIoApdu.Clean { wallet.mFramer with
      mIo := { wallet.closedDevice with mDev := closed.newHandle opened.1 } } :=
    ⟨serving.clean.offset, serving.clean.count⟩
  rcases peer.opened_cases (peer.tick world.env) with succeeded | failed
  · rw [answer, succeeded] at env
    refine ⟨_, _, ran, ⟨serving.held, serving.room, clean, ?_, ?_⟩, ?_, ?_⟩
    · rw [env]
    · rw [env]
      intro number answer member
      exact absurd member List.not_mem_nil
    · rw [env]
      rfl
    · rw [env]
      exact fun _ => rfl
  · rw [answer, failed] at env
    refine ⟨_, _, ran, ⟨serving.held, serving.room, clean, ?_, ?_⟩, ?_, ?_⟩
    · rw [env]
      exact serving.pending
    · rw [env]
      exact serving.dated.tick.tick
    · rw [env]
      rfl
    · intro reopened
      apply absurd _ reopened
      show closed.newHandle opened.1 = none
      rw [answer, failed]
      rfl

/-! ## One call -/

/-- The answer is the response to one of the requests written in between. -/
def Own (peer : Peer) (apdu : Apdu) (resCode : Option UInt16) (before after : Fifo)
    (answer : Bytes × Option UInt16) : Prop :=
  ∃ number, before.answered ≤ number ∧ number < after.answered ∧
    answer = (peer.respond number apdu.encoded).returned resCode

/-- The state before an attempt of a call that started in `start`. -/
structure Attempting (start : Fifo) (wallet : NanosWallet) (world : World Fifo) : Prop where
  serving : Serving [.wallet] wallet world
  since : start.answered ≤ world.env.answered
  unspoiled : start.Unspoiled → wallet.mFramer.mIo.mDev ≠ none → world.env.Unspoiled
  spoiled : ∀ number stale, start.queue.head? = some (.response number stale) →
    world.env.queue.head? = some (.response number stale)

/-- What a call that started in `start` owes to its caller. -/
def Matched (peer : Peer) (apdu : Apdu) (resCode : Option UInt16) (start : Fifo)
    (outcome : Except Stop (Bytes × Option UInt16)) (wallet : NanosWallet)
    (world : World Fifo) : Prop :=
  ∀ answer, outcome = .ok answer → wallet.mFramer.mIo.mDev ≠ none →
    (start.Unspoiled → Own peer apdu resCode start world.env answer) ∧
    ∀ number stale, start.queue.head? = some (.response number stale) →
      answer = stale.returned resCode

private theorem noDevice : ∀ object, Mutex.device object ∉ [Mutex.wallet] := by simp

/-- An attempt that reads this report is what the call owes. -/
private theorem Attempting.matched {start : Fifo} {entry : Queued} {wallet next : NanosWallet}
    {world reached : World Fifo} (attempting : Attempting start wallet world)
    (live : wallet.mFramer.mIo.mDev ≠ none)
    (fetched : peer.Fetched apdu.encoded world.env reached.env entry) :
    Matched peer apdu resCode start (entry.outcome resCode) next reached := by
  intro answer returned _
  constructor
  · intro unspoiled
    rcases fetched.entry_cases with oldest | ⟨_, ⟨stray, rfl⟩ | rfl⟩
    · cases entry with
      | foreign stray => simp [Queued.outcome] at returned
      | response number stale =>
          exact absurd oldest (attempting.unspoiled unspoiled live number stale)
    · simp [Queued.outcome] at returned
    · refine ⟨world.env.answered, attempting.since, ?_, ?_⟩
      · rw [fetched.answered]
        exact Nat.lt_succ_self _
      · exact (Except.ok.inj returned).symm
  · intro number stale oldest
    have still := attempting.spoiled number stale oldest
    rcases fetched.entry_cases with same | ⟨empty, _⟩
    · rw [still, Option.some.injEq] at same
      rw [← same] at returned
      exact (Except.ok.inj returned).symm
    · simp [empty] at still

/-- The rounds of a call, whatever it started from. -/
private theorem matched_rule (start : Fifo) :
    LoopRule tb peer.device apdu resCode (Attempting start)
      (fun outcome wallet world => Serving [.wallet] wallet world ∧
        Matched peer apdu resCode start outcome wallet world) where
  broken := by
    intro wallet world attempting null
    have serving := attempting.serving
    refine ⟨⟨serving.held, serving.room, serving.clean, serving.pending, serving.dated⟩, ?_⟩
    intro answer _ live
    exact absurd null live
  ended := by
    intro wallet world handle outcome framer reached attempting live ran _
    by_cases small : apdu.payloadSize ≤ 255
    · obtain ⟨entry, rfl, serving, device, fetched⟩ :=
        attempting.serving.attempt noDevice small live ran
      exact ⟨serving, attempting.matched (by simp [live]) fetched⟩
    · rw [FrameIoApdu.exchange_run_of_large tb peer.device (by omega)] at ran
      simp only [Prod.mk.injEq, Scene.mk.injEq] at ran
      obtain ⟨rfl, rfl, rfl⟩ := ran
      exact ⟨attempting.serving, fun answer returned => by simp at returned⟩
  retried := by
    intro wallet world handle expected given framer reached attempting live ran
    by_cases small : apdu.payloadSize ≤ 255
    · obtain ⟨entry, refused, serving, device, fetched⟩ :=
        attempting.serving.attempt noDevice small live ran
      have liveStopped : ({ wallet with mFramer := framer } : NanosWallet).mFramer.mIo.mDev =
          some handle := by
        show framer.mIo.mDev = some handle
        rw [device, live]
      obtain ⟨next, after, reopened, servingNext, answered, empty⟩ :=
        serving.reopen noDevice liveStopped
      refine ⟨next, after, reopened, ⟨servingNext, ?_, ?_, ?_⟩, servingNext, ?_⟩
      · rw [answered, fetched.answered]
        exact Nat.le_succ_of_le attempting.since
      · intro _ liveNext
        exact Fifo.unspoiled_of_empty (empty liveNext)
      · -- An old response is not refused.
        intro number stale oldest
        have still := attempting.spoiled number stale oldest
        rcases fetched.entry_cases with same | ⟨none, _⟩
        · rw [still, Option.some.injEq] at same
          rw [← same] at refused
          simp [Queued.outcome] at refused
        · simp [none] at still
      · intro answer returned
        simp at returned
    · rw [FrameIoApdu.exchange_run_of_large tb peer.device (by omega)] at ran
      simp at ran

/-- The state right after the call took the mutex of the wallet. -/
theorem Serving.entered (serving : Serving [] wallet world) :
    Serving [.wallet] wallet (world.acquire .wallet) where
  held := by
    show Mutex.wallet :: world.held = _
    rw [serving.held]
  room := serving.room
  clean := serving.clean
  pending := serving.pending
  dated := serving.dated

/-- A call between two calls: it comes back to such a state, with what it
owes. -/
theorem Serving.exchange (serving : Serving [] wallet world) (retries : Nat)
    (ended : Ended ((NanosWallet.exchange tb peer.device retries apdu resCode).run
      ⟨wallet, world⟩).1) :
    let ran := (NanosWallet.exchange tb peer.device retries apdu resCode).run ⟨wallet, world⟩
    Serving [] ran.2.self ran.2.world ∧
      Matched peer apdu resCode world.env ran.1 ran.2.self ran.2.world := by
  intro ran
  have free : Mutex.wallet ∉ world.held := World.free_of_idle serving.held _
  have entered : Attempting world.env wallet (world.acquire .wallet) :=
    ⟨serving.entered, Nat.le_refl _, fun unspoiled _ => unspoiled, fun _ _ oldest => oldest⟩
  have rule : LoopRule tb peer.device apdu resCode _ _ := matched_rule world.env
  rcases rule.call free (fun _ => entered) retries with
    ⟨_, refused⟩ | ⟨outcome, next, reached, _, ⟨after, matched⟩, called⟩
  · have same : ran = _ := refused
    rw [same]
    refine ⟨⟨serving.held, serving.room, serving.clean, serving.pending, serving.dated⟩, ?_⟩
    intro answer returned
    simp at returned
  · have same : ran = _ := called
    have back : Ended ran.1 := ended
    rw [same] at back
    rw [if_pos back] at same
    rw [same]
    refine ⟨⟨?_, after.room, after.clean, after.pending, after.dated⟩, matched⟩
    show List.erase _ _ = _
    rw [after.held]
    rfl

/-! ## Every sequence of calls -/

/-- A wallet right after its device was opened. -/
structure JustOpened (scene : Scene NanosWallet Fifo) : Prop where
  idle : scene.world.held = []
  room : scene.self.mFramer.mBuffer.length ≤ 64
  clean : scene.self.mFramer.Clean
  queue : scene.world.env.queue = []
  pending : scene.world.env.pending = []

/-- A connection attempt that succeeds leaves such a wallet. -/
theorem JustOpened.ofAttempt {vendorId productId : UInt16} {scene : Scene NanosWallet Fifo}
    (locked : scene.world.held = [.wallet])
    (opened : (attempt tb peer.device vendorId productId scene).1 = true) :
    JustOpened (left (attempt tb peer.device vendorId productId scene).2) := by
  let device := (dialed tb vendorId productId scene).self.mFramer.mIo
  have accepted : (device.openAnswer peer.device scene.world.env).1 = true := by
    rw [attempt] at opened
    dsimp only at opened
    split at opened
    next accepted => exact accepted
    next => simp at opened
  have env : (attempt tb peer.device vendorId productId scene).2.world.env =
      (device.openAnswer peer.device scene.world.env).2 := by
    unfold attempt
    dsimp only
    split <;> rfl
  obtain ⟨_, _, _, offset, count⟩ := attempt_framer tb peer.device vendorId productId scene
  rw [Peer.openAnswer_eq] at accepted env
  rcases peer.opened_cases scene.world.env with empties | fails
  · rw [empties] at env
    refine ⟨?_, ?_, ⟨offset, count⟩, ?_, ?_⟩
    · show List.erase _ _ = _
      rw [attempt_held, locked]
      rfl
    · exact Nat.le_of_eq (attempt_room tb peer.device vendorId productId scene)
    · exact congrArg Fifo.queue env
    · exact congrArg Fifo.pending env
  · rw [fails] at accepted
    simp at accepted

/-- The scenes between two calls of `exchange` on a wallet whose device was
opened; the calls before came back, each by a return or by an exception. -/
inductive Served (tb : Toolbox) (peer : Peer) : Scene NanosWallet Fifo → Prop
  | opened {scene : Scene NanosWallet Fifo} (opened : JustOpened scene) : Served tb peer scene
  | exchange {scene : Scene NanosWallet Fifo} (served : Served tb peer scene) (retries : Nat)
      (apdu : Apdu) (resCode : Option UInt16)
      (ended : Ended ((exchange tb peer.device retries apdu resCode).run scene).1) :
      Served tb peer ((exchange tb peer.device retries apdu resCode).run scene).2

variable {scene reached : Scene NanosWallet Fifo}

theorem Served.serving (served : Served tb peer scene) : Serving [] scene.self scene.world := by
  induction served with
  | opened opened =>
      refine ⟨opened.idle, opened.room, opened.clean, opened.pending, ?_⟩
      intro number answer member
      rw [opened.queue] at member
      exact absurd member List.not_mem_nil
  | exchange served retries apdu resCode ended inductionHypothesis =>
      exact (inductionHypothesis.exchange retries ended).1

/-- In every sequence of calls, a call that returns with an open device returns
the response to its own request if it starts without a response at the head of
the queue; otherwise it returns that one, which is older. -/
theorem exchange_matches_response (served : Served tb peer scene) (retries : Nat)
    {answer : Bytes × Option UInt16}
    (returned : (exchange tb peer.device retries apdu resCode).run scene =
      (.ok answer, reached))
    (live : reached.self.mFramer.mIo.mDev ≠ none) :
    (scene.world.env.Unspoiled →
      Own peer apdu resCode scene.world.env reached.world.env answer) ∧
    ∀ number stale, scene.world.env.queue.head? = some (.response number stale) →
      number < scene.world.env.answered ∧ answer = stale.returned resCode := by
  have serving := served.serving
  have ended : Ended ((exchange tb peer.device retries apdu resCode).run scene).1 := by
    rw [returned]
    trivial
  obtain ⟨_, matched⟩ := serving.exchange retries ended
  have same : (exchange tb peer.device retries apdu resCode).run ⟨scene.self, scene.world⟩ =
      (.ok answer, reached) := returned
  rw [same] at matched
  obtain ⟨own, old⟩ := matched answer rfl live
  refine ⟨own, fun number stale oldest => ⟨?_, old number stale oldest⟩⟩
  exact serving.dated number stale (List.mem_of_mem_head? oldest)

/-- A device that answers each APDU with its number; the foreign reports arrive
with the first write after the device was opened. -/
def numbering (strays : List Stray) : Peer where
  respond number _ := { data := [.ofNat number], status := codeSuccess, fits := by simp }
  strays moment := if moment = 3 then strays else []
  attached _ := [{ path := "", vendorId := ledgerVid, productId := nanosPid }]
  opens _ := true

/-- A new wallet that has connected to the device. -/
def numbered (strays : List Stray) : Scene NanosWallet Fifo :=
  ((init Toolbox.reference (numbering strays).device nanosPid).run
    ⟨{ mFramer := .fresh Toolbox.reference (newDevice 1), mValid := false },
      { World.initial { queue := [], pending := [], answered := 0, clock := 0 } with
        objects := 2 }⟩).2

/-- The wallet after a call of `exchange`. -/
def asked (strays : List Stray) (scene : Scene NanosWallet Fifo) : Scene NanosWallet Fifo :=
  ((exchange Toolbox.reference (numbering strays).device 1 getAppVersionApdu (some 0)).run
    scene).2

/-- A report with the sequence number 1, and one of another channel. -/
def lateReport : Stray where
  report := inputReport [] 1
  size := inputReport_length [] 1
  foreign := by decide

def alienReport : Stray where
  report := List.replicate 64 0
  size := List.length_replicate
  foreign := by decide

theorem exchange_matches_response_of_late :
    Own (numbering [lateReport]) getAppVersionApdu (some 0)
      (asked [lateReport] (numbered [lateReport])).world.env
      (asked [lateReport] (asked [lateReport] (numbered [lateReport]))).world.env
      ([2], some codeSuccess) := by
  have opened : JustOpened (numbered [lateReport]) :=
    ⟨by decide +kernel, by decide +kernel, ⟨by decide +kernel, by decide +kernel⟩,
      List.isEmpty_iff.mp (by decide +kernel), by decide +kernel⟩
  have served : Served Toolbox.reference (numbering [lateReport])
      (asked [lateReport] (numbered [lateReport])) :=
    .exchange (.opened opened) 1 getAppVersionApdu (some 0) (by decide +kernel)
  have returned : (exchange Toolbox.reference (numbering [lateReport]).device 1
      getAppVersionApdu (some 0)).run (asked [lateReport] (numbered [lateReport])) =
      (.ok ([2], some codeSuccess),
        asked [lateReport] (asked [lateReport] (numbered [lateReport]))) :=
    Action.run_of_outcome (by decide +kernel)
  have unspoiled : (asked [lateReport] (numbered [lateReport])).world.env.Unspoiled :=
    Fifo.unspoiled_of_empty (List.isEmpty_iff.mp (by decide +kernel))
  exact (exchange_matches_response served 1 returned (by decide +kernel)).1 unspoiled

/-- The call after one that threw for a bad channel id returns the response that
the earlier one left. -/
theorem exchange_returns_earlier_response :
    ¬ ∀ (tb : Toolbox) (peer : Peer) (scene reached : Scene NanosWallet Fifo) (retries : Nat)
        (apdu : Apdu) (resCode : Option UInt16) (answer : Bytes × Option UInt16),
      Served tb peer scene →
      (exchange tb peer.device retries apdu resCode).run scene = (.ok answer, reached) →
      reached.self.mFramer.mIo.mDev ≠ none →
      Own peer apdu resCode scene.world.env reached.world.env answer := by
  intro answersOwn
  have opened : JustOpened (numbered [alienReport]) :=
    ⟨by decide +kernel, by decide +kernel, ⟨by decide +kernel, by decide +kernel⟩,
      List.isEmpty_iff.mp (by decide +kernel), by decide +kernel⟩
  have threw : Served Toolbox.reference (numbering [alienReport])
      (asked [alienReport] (numbered [alienReport])) :=
    .exchange (.opened opened) 1 getAppVersionApdu (some 0) (by decide +kernel)
  have returned : (exchange Toolbox.reference (numbering [alienReport]).device 1
      getAppVersionApdu (some 0)).run (asked [alienReport] (numbered [alienReport])) =
      (.ok ([0], some codeSuccess),
        asked [alienReport] (asked [alienReport] (numbered [alienReport]))) :=
    Action.run_of_outcome (by decide +kernel)
  obtain ⟨number, since, before, same⟩ := answersOwn Toolbox.reference (numbering [alienReport])
    _ _ 1 getAppVersionApdu (some 0) ([0], some codeSuccess) threw returned (by decide +kernel)
  have first : (asked [alienReport] (numbered [alienReport])).world.env.answered = 1 := by
    decide +kernel
  have second : (asked [alienReport] (asked [alienReport]
      (numbered [alienReport]))).world.env.answered = 2 := by
    decide +kernel
  obtain rfl : number = 1 := by omega
  exact absurd same (by decide +kernel)

/-! ## Foreign reports that are only out of step -/

/-- Only foreign reports wait in the queue. -/
def OnlyForeign (peer : Peer) (fifo : Fifo) : Prop :=
  ∀ item ∈ fifo.queue, ∃ stray, peer.Sends stray ∧ item = .foreign stray

theorem OnlyForeign.unspoiled {fifo : Fifo} (only : OnlyForeign peer fifo) : fifo.Unspoiled := by
  intro number answer oldest
  obtain ⟨stray, _, same⟩ := only _ (List.mem_of_mem_head? oldest)
  simp at same

/-- Every foreign report carries the channel id and the command tag of the
protocol, and a wrong sequence number. -/
def OutOfStep (peer : Peer) : Prop :=
  ∀ stray, peer.Sends stray → ∃ given, stray.fault = .wrongSeqno 0 given

/-- No round of a call leaves a response behind. -/
private theorem onlyForeign_rule (outOfStep : OutOfStep peer) :
    LoopRule tb peer.device apdu resCode
      (fun wallet world => Serving [.wallet] wallet world ∧
        (wallet.mFramer.mIo.mDev ≠ none → OnlyForeign peer world.env))
      (fun _ wallet world =>
        wallet.mFramer.mIo.mDev ≠ none → OnlyForeign peer world.env) where
  broken := by
    intro wallet world _ null live
    exact absurd null live
  ended := by
    intro wallet world handle outcome framer reached ⟨serving, only⟩ live ran final _
    have foreign := only (by simp [live])
    by_cases small : apdu.payloadSize ≤ 255
    · obtain ⟨entry, rfl, _, _, fetched⟩ := serving.attempt noDevice small live ran
      have refused : ∀ stray, peer.Sends stray → entry ≠ .foreign stray := by
        intro stray sent same
        obtain ⟨given, fault⟩ := outOfStep stray sent
        apply final
        rw [same, Queued.outcome, fault]
        trivial
      rcases fetched.mem_cases (.inl rfl) with old | ⟨stray, sent, same⟩ | own
      · obtain ⟨stray, sent, same⟩ := foreign entry old
        exact absurd same (refused stray sent)
      · exact absurd same (refused stray sent)
      · apply fetched.foreign_behind _ own
        intro item member
        obtain ⟨stray, _, same⟩ := foreign item member
        exact ⟨stray, same⟩
    · rw [FrameIoApdu.exchange_run_of_large tb peer.device (by omega)] at ran
      simp only [Prod.mk.injEq, Scene.mk.injEq] at ran
      obtain ⟨_, _, rfl⟩ := ran
      exact foreign
  retried := by
    intro wallet world handle expected given framer reached ⟨serving, _⟩ live ran
    by_cases small : apdu.payloadSize ≤ 255
    · obtain ⟨entry, _, servingStopped, device, _⟩ := serving.attempt noDevice small live ran
      have liveStopped : ({ wallet with mFramer := framer } : NanosWallet).mFramer.mIo.mDev =
          some handle := by
        show framer.mIo.mDev = some handle
        rw [device, live]
      obtain ⟨next, after, reopened, servingNext, _, empty⟩ :=
        servingStopped.reopen noDevice liveStopped
      have only : next.mFramer.mIo.mDev ≠ none → OnlyForeign peer after.env := by
        intro liveNext item member
        rw [empty liveNext] at member
        exact absurd member List.not_mem_nil
      exact ⟨next, after, reopened, ⟨servingNext, only⟩, only⟩
    · rw [FrameIoApdu.exchange_run_of_large tb peer.device (by omega)] at ran
      simp at ran

/-- With such reports no call leaves a response to the next one. -/
theorem Served.onlyForeign (outOfStep : OutOfStep peer) (served : Served tb peer scene) :
    scene.self.mFramer.mIo.mDev ≠ none → OnlyForeign peer scene.world.env := by
  induction served with
  | opened opened =>
      intro _ item member
      rw [opened.queue] at member
      exact absurd member List.not_mem_nil
  | @exchange scene served retries apdu resCode ended inductionHypothesis =>
      have serving := served.serving
      have free : Mutex.wallet ∉ scene.world.held := World.free_of_idle serving.held _
      have rule : LoopRule tb peer.device apdu resCode _ _ := onlyForeign_rule outOfStep
      rcases rule.call free (fun _ => ⟨serving.entered, inductionHypothesis⟩) retries with
        ⟨_, refused⟩ | ⟨outcome, next, after, _, only, called⟩
      · have same : (NanosWallet.exchange tb peer.device retries apdu resCode).run scene = _ :=
          refused
        rw [same]
        exact inductionHypothesis
      · have same : (NanosWallet.exchange tb peer.device retries apdu resCode).run scene = _ :=
          called
        rw [same]
        dsimp only
        split <;> exact only

/-- Where foreign reports are only out of step, every call that returns with an
open device returns the response to its own request. -/
theorem exchange_matches_of_outOfStep (outOfStep : OutOfStep peer)
    (served : Served tb peer scene) (retries : Nat) {answer : Bytes × Option UInt16}
    (returned : (exchange tb peer.device retries apdu resCode).run scene =
      (.ok answer, reached))
    (live : reached.self.mFramer.mIo.mDev ≠ none) :
    Own peer apdu resCode scene.world.env reached.world.env answer := by
  have free : Mutex.wallet ∉ scene.world.held := World.free_of_idle served.serving.held _
  have started : scene.self.mFramer.mIo.mDev ≠ none := by
    intro null
    apply live
    rcases valid : scene.self.mValid with _ | _
    · have refused : (exchange tb peer.device retries apdu resCode).run scene = _ :=
        exchange_run_of_invalid tb peer.device free valid retries
      rw [refused] at returned
      simp at returned
    · have broken : (exchange tb peer.device retries apdu resCode).run scene = _ :=
        exchange_run_of_null tb peer.device free valid null retries
      rw [broken] at returned
      rw [← (Prod.mk.inj returned).2]
      exact null
  exact (exchange_matches_response served retries returned live).1
    (served.onlyForeign outOfStep started).unspoiled

end NanosWallet

end MhWallet
