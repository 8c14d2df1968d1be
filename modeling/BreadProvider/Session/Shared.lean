import BreadProvider.Interaction.Linear
import BreadProvider.Session.Statistics

/-!
# Provider — the counters of a shared session

The counters and flags of a session are kept under its mutex. Here is that no
update is lost and no answer is stale, however many threads call the session:
what it remembers is what the calls that have returned did, in the order in
which they returned.
-/

namespace BreadProvider

open Interaction Session

variable {α τ : Type} {E : Environment TransportInterface τ}

/-- The calls on the session that have returned, with what each performed on
the transport. -/
def made (log : LockedLog SessionInterface TransportInterface Session) :
    List SessionStep :=
  (history log).map (·.2)

/-- The counters agree with the calls of all threads together. -/
structure SharedStatistics (x : LockedPool SessionInterface TransportInterface
    α Session τ) : Prop where
  /-- Where no call is under way, the session remembers what was done. -/
  tallies : holder x.log = none → Tallies (made x.log) x.world.state
  /-- What a call answered agrees with the calls that returned before it. -/
  answers : Trace.AllAfter (fun before step => Answers before step.event) []
    (made x.log)
  guarded : ∀ step ∈ made x.log, Guarded step.below
  /-- Whichever threads ask, a recovery is reported once: between two reports
  an operation at the address has succeeded. -/
  onceEach : ∀ a pre first mid second post,
    made x.log = pre ++ first :: mid ++ second :: post →
    first.event = ⟨.takeRecovery a, true⟩ →
    second.event = ⟨.takeRecovery a, true⟩ →
    ∃ step ∈ mid, (outcomeAt a step).any (·.ok) = true

/-- What is recovered after a take was recovered since. -/
theorem Recovered.since {a : UInt8} {pre mid : List SessionStep}
    {first : SessionStep} (h : Recovered a (pre ++ first :: mid))
    (hfirst : first.event.op = .takeRecovery a) :
    ∃ step ∈ mid, (outcomeAt a step).any (·.ok) = true := by
  obtain ⟨before, step, after, hsplit, hok, -, hlater⟩ := h
  rcases Trace.split_append hsplit with ⟨mid', -, hafter⟩ | ⟨mid', -, hrest⟩
  · -- A success before the take would have been taken with it.
    exact absurd hfirst (hlater first (by rw [hafter]; simp))
  · rcases Trace.split_cons hrest with ⟨-, rfl, -⟩ | ⟨mid'', -, rfl⟩
    · obtain ⟨⟨op, ans⟩, below⟩ := step
      obtain rfl : op = .takeRecovery a := hfirst
      simp [outcomeAt, ioStatus] at hok
    · exact ⟨step, by simp, hok⟩

theorem shared_session_statistics {options : SessionOptions} {t : τ}
    {x : LockedPool SessionInterface TransportInterface α Session τ}
    (hrun : Pool.Run (Program.locked Session.handle) E.locked
      ⟨false, Session.new options, t⟩ x) : SharedStatistics x := by
  obtain ⟨s', t', hseq, hfree⟩ := hrun.linear
  have hstep : ∀ (record : List SessionStep) (o : SessionOp) (r : o.Ans)
      (s s' : Session) (t t' : τ) (below : List (Event TransportInterface)),
      Tallies record s → (Session.handle o s).Runs E t below (r, s') t' →
      (Answers record ⟨o, r⟩ ∧ Guarded below) ∧
        Tallies (record ++ [⟨⟨o, r⟩, below⟩]) s' := by
    intro record o r s s' t t' below htallies hcall
    exact ⟨⟨handle_answers hcall htallies, handle_guarded hcall⟩,
      htallies.step (handle_stepEffect hcall)⟩
  obtain ⟨htallies, hall⟩ := hseq.inv hstep (Tallies.new options)
    (P := fun record step => Answers record step.event ∧ Guarded step.below)
  constructor
  · intro hnone
    rw [hfree hnone]
    exact htallies
  · exact hall.mono fun _ _ h => h.1
  · intro step hmem
    obtain ⟨pre, post, hsplit⟩ := List.append_of_mem hmem
    exact (hall pre step post hsplit).2
  · intro a pre first mid second post hsplit hfirst hsecond
    have hanswer := (hall (pre ++ first :: mid) second post hsplit).1
    rw [hsecond, List.nil_append] at hanswer
    exact Recovered.since (hanswer.mp rfl) (by rw [hfirst])

namespace Reference

/-- One send, of one thread. -/
def sendOnce : Program SessionInterface SessionStatus :=
  (SessionOp.send 0x08 { opcode := 0x01 }).perform

/-- Two sends under the lock, the first of which fails. -/
theorem sendOnce_twice :
    ∃ first out w second out' w',
      (sendOnce.locked Session.handle).Runs
        (Environment.any TransportInterface).locked
        ⟨false, Session.new { busPath := "/dev/i2c-1", retryCount := 0 }, ()⟩
        first out w ∧
      (sendOnce.locked Session.handle).Runs
        (Environment.any TransportInterface).locked w second out' w' ∧
      tally 0x08 (made (first.map (0, ·) ++ second.map (1, ·)))
        = { ok := 1, failed := 1, hasSuccess := true } := by
  let nack : SessionStatus := .failure .writeFailed "NACK"
  repeat apply Exists.intro
  refine ⟨?first, ?second, ?counted⟩
  case first =>
    exact ⟨(), _, _, ⟨rfl, rfl⟩, rfl, _, _, _, ⟨rfl, rfl⟩, rfl,
      true, _, _, ⟨(), trivial, rfl⟩, rfl, nack, _, _, ⟨(), trivial, rfl⟩, rfl,
      (), _, _, rfl, rfl, (), _, _, rfl, rfl, rfl, rfl, rfl⟩
  case second =>
    exact ⟨(), _, _, ⟨rfl, rfl⟩, rfl, _, _, _, ⟨rfl, rfl⟩, rfl,
      true, _, _, ⟨(), trivial, rfl⟩, rfl,
      .success, _, _, ⟨(), trivial, rfl⟩, rfl,
      (), _, _, rfl, rfl, (), _, _, rfl, rfl, rfl, rfl, rfl⟩
  case counted => rfl

end Reference

open Reference in
/-- A send that fails in one thread, then one that succeeds in another. -/
theorem shared_session_statistics_two :
    ∃ x : LockedPool SessionInterface TransportInterface SessionStatus Session
        Unit,
      tally 0x08 (made x.log) = { ok := 1, failed := 1, hasSuccess := true } ∧
      SharedStatistics x := by
  obtain ⟨first, out, w, second, out', w', hfirst, hsecond, htally⟩ :=
    sendOnce_twice
  have hspawned : Pool.Run (Program.locked Session.handle)
      (Environment.any TransportInterface).locked
      ⟨false, Session.new { busPath := "/dev/i2c-1", retryCount := 0 }, ()⟩
      { world := ⟨false, Session.new { busPath := "/dev/i2c-1"
                                       retryCount := 0 }, ()⟩
        threads := [(sendOnce, sendOnce.locked Session.handle),
          (sendOnce, sendOnce.locked Session.handle)] } :=
    .tail (.tail .refl (.spawn _ sendOnce)) (.spawn _ sendOnce)
  have hdone := (hspawned.finish (i := 0) rfl hfirst).finish (i := 1) rfl hsecond
  exact ⟨_, htally, shared_session_statistics hdone⟩

end BreadProvider
