import BreadProvider.Board
import BreadProvider.Interaction.Locked
import BreadProvider.Session.Spec

/-!
# Provider — a session shared between threads

The dispatch thread, the keepalive thread and any others call one session,
whose operations take its mutex. A device stages one reply, for the last
SET_REPLY it received: here is that no caller gets the reply to another's
query, nor disturbs it.
-/

namespace BreadProvider

open Interaction Session

variable {α τ : Type} {E : Environment TransportInterface τ}

/-! ## The statement -/

/-- Threads that call one session, each with the program it runs. -/
abbrev SessionPool (α τ : Type) :=
  LockedPool SessionInterface TransportInterface α Session τ

abbrev SharedOp := LockedOp SessionInterface TransportInterface Session

/-- Devices that stage the reply for the last SET_REPLY they received and lose
none that was sent. What is staged waits out a delay. -/
structure Staging (E : Environment TransportInterface τ) where
  staged : τ → UInt8 → Option UInt8
  /-- `frame` is the reply of the device at an address to an opcode. -/
  Reply : τ → UInt8 → UInt8 → RawFrame → Prop
  sent : ∀ {a op t status t'}, E (.send a (setReplyQuery op)) t status t' →
    status.ok = true → staged t' a = some op
  waits : ∀ {us t r t'}, E (.delayUs us) t r t' → staged t' = staged t
  reads : ∀ {a us t r t'}, E (.read a us) t r t' → r.1.ok = true →
    ∃ op frame, staged t a = some op ∧ r.2 = some frame ∧ Reply t a op frame

/-- The transport is handed a frame, or read. -/
def SharedOp.exchanges : SharedOp → Prop
  | .below (.send _ _) | .below (.read _ _) => True
  | _ => False

/-- No queries get in each other's way. -/
structure QueriesIsolated (devices : Staging E) (x : SessionPool α τ) :
    Prop where
  /-- A query that succeeds returns what its last attempt read: the reply of
  the device it asked to what it asked for. -/
  answers : ∀ pre i a op status out u post,
    x.log = pre ++ (i, ⟨.leave (.queryRead a op) (status, out), u⟩) :: post →
    status.ok = true → ∃ frame, out = some frame ∧
      ∃ earlier asked us ds read t t',
        sinceEnter pre = earlier ++ [⟨.send a (setReplyQuery op), asked⟩,
          ⟨.delayUs ds, ()⟩, ⟨.read a us, (read, some frame)⟩] ∧
        E (.read a us) t (read, some frame) t' ∧
        devices.Reply t a op frame
  /-- Between the SET_REPLY of an attempt and its read, the transport is handed
  no other frame and not read, by any caller. -/
  undisturbed : ∀ pre i a op status mid b us r post,
    x.log = pre ++ (i, ⟨.below (.send a (setReplyQuery op)), status⟩) ::
      mid ++ (i, ⟨.below (.read b us), r⟩) :: post →
    (∀ e ∈ mid, e.1 = i → (∀ o r, e.2.op ≠ .leave o r) ∧
      ¬ SharedOp.exchanges e.2.op) →
    ∀ e ∈ mid, ¬ SharedOp.exchanges e.2.op
  /-- From the first attempt of a call to its last, no other caller does
  anything. -/
  exclusive : ∀ pre i o mid r u v post,
    x.log = pre ++ (i, ⟨.enter o, u⟩) :: mid ++ (i, ⟨.leave o r, v⟩) :: post →
    (∀ e ∈ mid, e.1 = i → ∀ o r, e.2.op ≠ .leave o r) →
    ∀ e ∈ mid, e.1 = i

/-! ## One query -/

/-- The loop answers with its last attempt. -/
theorem attemptFrom_last {β σ : Type} {F : Environment TransportInterface σ}
    {fn : Program TransportInterface (SessionStatus × Option β)}
    {more attempt : Nat} {out : Option β} {s s' : σ}
    {tr : List (Event TransportInterface)} {r : SessionStatus × Option β}
    (h : (attemptFrom fn more attempt out).Runs F s tr r s') :
    ∃ earlier last s₁ x o, tr = earlier ++ last ∧ fn.Runs F s₁ last x s' ∧
      r.1.ok = x.1.ok ∧ r.2 = x.2.or o := by
  induction more generalizing attempt out s tr with
  | zero =>
      rw [attemptFrom_zero] at h
      obtain ⟨t, x, s₁, t', hfn, ⟨rfl, rfl, rfl⟩, rfl⟩ := Program.runs_bind.mp h
      exact ⟨[], t, s, x, out, by simp, hfn, rfl, rfl⟩
  | succ more ih =>
      rw [attemptFrom_succ] at h
      obtain ⟨t, x, s₁, t', hfn, hrest, rfl⟩ := Program.runs_bind.mp h
      by_cases hretry : x.1.retries = true
      · rw [if_pos hretry] at hrest
        obtain ⟨earlier, last, s₂, y, o, rfl, hlast, hr⟩ := ih hrest
        exact ⟨t ++ earlier, last, s₂, y, o, by simp, hlast, hr⟩
      · rw [if_neg hretry] at hrest
        obtain ⟨rfl, rfl, rfl⟩ := hrest
        exact ⟨[], t, s, x, out, by simp, hfn, rfl, rfl⟩

/-- An attempt that succeeds reads the reply it staged. -/
theorem queryAttempt_staged (devices : Staging E) {options : SessionOptions}
    {a op : UInt8} {t t' : τ} {tr : List (Event TransportInterface)}
    {x : SessionStatus × Option RawFrame}
    (h : (queryAttempt options a op).Runs E t tr x t') (hok : x.1.ok = true) :
    ∃ frame, x.2 = some frame ∧ ∃ asked us ds read t₁ t₂,
      tr = [⟨.send a (setReplyQuery op), asked⟩, ⟨.delayUs ds, ()⟩,
        ⟨.read a us, (read, some frame)⟩] ∧
      E (.read a us) t₁ (read, some frame) t₂ ∧
      devices.Reply t₁ a op frame := by
  rw [queryAttempt_eq] at h
  obtain ⟨asked, t₁, rest, hsend, rfl, h⟩ := h
  beta_reduce at h
  by_cases hasked : asked.ok = true
  · rw [if_pos hasked] at h
    obtain ⟨_, t₂, rest, hdelay, rfl, r, t₃, rest, hread, rfl, rfl, rfl, rfl⟩ :=
      h
    obtain ⟨op', frame, hstaged, hframe, hreply⟩ := devices.reads hread hok
    -- Nothing came between the SET_REPLY and the read.
    have hsame : some op = some op' :=
      calc some op = devices.staged t₁ a := (devices.sent hsend hasked).symm
        _ = devices.staged t₂ a := by rw [devices.waits hdelay]
        _ = some op' := hstaged
    obtain rfl := Option.some.inj hsame
    obtain ⟨read, out⟩ := x
    obtain rfl : out = some frame := hframe
    exact ⟨frame, rfl, asked, _, _, read, t₂, _, rfl, hread, hreply⟩
  · rw [if_neg hasked] at h
    obtain ⟨rfl, rfl, rfl⟩ := h
    exact absurd hok hasked

theorem queryRead_staged (devices : Staging E) {s s' : Session} {a op : UInt8}
    {t t' : τ} {tr : List (Event TransportInterface)} {status : SessionStatus}
    {out : Option RawFrame}
    (h : (s.queryRead a op).Runs E t tr ((status, out), s') t')
    (hok : status.ok = true) :
    ∃ frame, out = some frame ∧ ∃ earlier asked us ds read t₁ t₂,
      tr = earlier ++ [⟨.send a (setReplyQuery op), asked⟩,
        ⟨.delayUs ds, ()⟩, ⟨.read a us, (read, some frame)⟩] ∧
      E (.read a us) t₁ (read, some frame) t₂ ∧
      devices.Reply t₁ a op frame := by
  rw [queryRead_eq] at h
  rcases ioOperation_runs h with ⟨hfailed, -⟩ | ⟨t₁, tr', -, -, hloop, rfl, -⟩
  · rw [hok] at hfailed
    exact absurd hfailed.symm Bool.false_ne_true
  · obtain ⟨earlier, last, t₂, x, o, rfl, hlast, hstatus, hout⟩ :=
      attemptFrom_last hloop
    have hx : x.1.ok = true := hstatus.symm.trans hok
    obtain ⟨frame, hframe, asked, us, ds, read, t₃, t₄, rfl, hread, hreply⟩ :=
      queryAttempt_staged devices hlast hx
    refine ⟨frame, ?_, ⟨.isOpen, true⟩ :: earlier, asked, us, ds, read, t₃, t₄,
      by simp, hread, hreply⟩
    rw [show out = x.2.or o from hout, hframe]
    rfl

/-! ## Every interleaving -/

theorem query_read_isolated (devices : Staging E) {s : Session} {t : τ}
    {x : SessionPool α τ}
    (hrun : Pool.Run (Program.locked Session.handle) E.locked ⟨false, s, t⟩ x) :
    QueriesIsolated devices x := by
  have hlog := hrun.atomic.2
  have hturn : Trace.AllAfter Turn [] x.log := hlog.mono fun _ _ h => h.1
  constructor
  · intro pre i a op status out u post hsplit hok
    obtain ⟨w, w', hcall⟩ :=
      (hlog pre _ post hsplit).2 (.queryRead a op) (status, out) rfl
    rw [List.nil_append] at hcall
    exact queryRead_staged devices hcall hok
  · intro pre i a op status mid b us r post hsplit hmid e he
    have hown : e.1 = i := by
      refine Turn.between hturn hsplit (by rintro _ _ ⟨⟩) ?_ e he
      intro e he hi
      exact (hmid e he hi).1
    exact (hmid e he hown).2
  · intro pre i o mid r u v post hsplit hmid
    exact Turn.between hturn hsplit (by rintro _ _ ⟨⟩) hmid

namespace Reference

/-- Devices that reply with the opcode they were asked for. -/
def echoBus : Environment TransportInterface (UInt8 → Option UInt8)
  | .isOpen, t, r, t' => r = true ∧ t' = t
  | .send a frame, t, status, t' =>
      status = .success ∧ t' = if frame.IsQuery then
        Function.update t a frame.payload.head? else t
  | .read a _, t, r, t' =>
      t' = t ∧ r = match t a with
        | none => (.failure .readFailed "nothing staged", none)
        | some op => (.success, some { opcode := op })
  | _, t, _, t' => t' = t

def echoStaging : Staging echoBus where
  staged t := t
  Reply _ _ op frame := frame = { opcode := op }
  sent := by
    intro a op t status t' hsend _
    obtain ⟨-, rfl⟩ := hsend
    have hquery : (setReplyQuery op).IsQuery := ⟨rfl, by simp [setReplyQuery]⟩
    rw [if_pos hquery, Function.update_self]
    rfl
  waits := by
    intro us t r t' hdelay
    exact hdelay
  reads := by
    intro a us t r t' hread hok
    obtain ⟨-, hr⟩ := hread
    cases hstaged : t a with
    | none =>
        rw [hstaged] at hr
        rw [hr] at hok
        exact absurd hok Bool.false_ne_true
    | some op =>
        rw [hstaged] at hr
        exact ⟨op, _, rfl, congrArg Prod.snd hr, rfl⟩

/-- One query of one device. -/
def ask (op : UInt8) :
    Program SessionInterface (SessionStatus × Option RawFrame) :=
  (SessionOp.queryRead 0x08 op).perform

/-- The query under the lock, action by action. -/
theorem ask_runs (op : UInt8) : ∃ tr status w,
    ((ask op).locked Session.handle).Runs echoBus.locked
      ⟨false, Session.new {}, fun _ => none⟩ tr
      (status, some { opcode := op }) w ∧ status.ok = true ∧
    ∃ pre, tr = pre ++ [⟨.leave (.queryRead 0x08 op)
      (status, some { opcode := op }), ()⟩] := by
  let staged : UInt8 → Option UInt8 :=
    Function.update (fun _ => none) 0x08 (some op)
  let reply : SessionStatus × Option RawFrame :=
    (.success, some { opcode := op })
  have hread : echoBus (.read 0x08 100000) staged reply staged := by
    refine ⟨rfl, ?_⟩
    have hstaged : staged 0x08 = some op := Function.update_self _ _ _
    rw [hstaged]
  apply Exists.intro
  apply Exists.intro
  apply Exists.intro
  apply And.intro
  · exact ⟨(), _, _, ⟨rfl, rfl⟩, rfl,
      _, _, _, ⟨rfl, rfl⟩, rfl,
      true, _, _, ⟨_, ⟨rfl, rfl⟩, rfl⟩, rfl,
      -- SET_REPLY, the delay and the read
      .success, _, _, ⟨staged, ⟨rfl, rfl⟩, rfl⟩, rfl,
      (), _, _, ⟨_, rfl, rfl⟩, rfl,
      reply, _, _, ⟨_, hread, rfl⟩, rfl,
      (), _, _, rfl, rfl, (), _, _, rfl, rfl, rfl, rfl, rfl⟩
  · exact ⟨rfl, [_, _, _, _, _, _, _], rfl⟩

end Reference

open Reference in
/-- A query beside another thread gets what it asked for. -/
theorem query_read_isolated_echo :
    ∃ x : SessionPool (SessionStatus × Option RawFrame) (UInt8 → Option UInt8),
      (∃ status : SessionStatus, status.ok = true ∧
        (1, ⟨.leave (.queryRead 0x08 0x80)
          (status, some { opcode := 0x80 }), ()⟩) ∈ x.log) ∧
      QueriesIsolated echoStaging x := by
  obtain ⟨tr, status, w, hrun, hok, pre, rfl⟩ := ask_runs 0x80
  let base : LockedWorld Session (UInt8 → Option UInt8) :=
    ⟨false, Session.new {}, fun _ => none⟩
  have hspawned : Pool.Run (Program.locked Session.handle) echoBus.locked base
      { world := base
        threads := [(ask 0x7E, (ask 0x7E).locked Session.handle),
          (ask 0x80, (ask 0x80).locked Session.handle)] } :=
    .tail (.tail .refl (.spawn _ (ask 0x7E))) (.spawn _ (ask 0x80))
  have hdone := hspawned.finish (i := 1) rfl hrun
  refine ⟨_, ⟨status, hok, ?_⟩, query_read_isolated echoStaging hdone⟩
  simp

end BreadProvider
