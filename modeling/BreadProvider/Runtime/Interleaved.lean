import BreadProvider.Interaction.Threads
import BreadProvider.Provider.Handles
import BreadProvider.Runtime.Lifecycle

/-!
# Provider — interleaved requests

Start-ups, resets and requests side by side, one critical section at a time.
A publication replaces snapshot and session together, but a request takes the
two one after the other: here is when it gets a pair that was published
together, and when it does not.
-/

namespace BreadProvider

open Interaction Inventory

variable {c : Contracts} {τ : Type} {E : Environment SystemInterface τ}
  {base : τ}

/-! ## Publications in a log -/

abbrev ProviderPool (τ : Type) :=
  Pool ProviderInterface ProviderTask (Option Response) (ProviderWorld τ)

abbrev ProviderLog := List (Nat × Event ProviderInterface)

/-- A publication, and the thread that made it. -/
structure Publication where
  thread : Nat
  state : RuntimeState
  session : Option Nat
  keepalive : Option Watchdog.Keepalive

def Publication.event (pub : Publication) : Nat × Event ProviderInterface :=
  (pub.thread, ⟨.publish pub.state pub.session pub.keepalive, ()⟩)

def publicationOf : Nat × Event ProviderInterface → Option Publication
  | (thread, ⟨.publish state session keepalive, _⟩) =>
      some { thread, state, session, keepalive }
  | _ => none

def lastPublication (log : ProviderLog) : Option Publication :=
  (log.filterMap publicationOf).getLast?

/-- The globals as the last publication left them. -/
def inForce (log : ProviderLog) : Process :=
  match lastPublication log with
  | none => {}
  | some pub => ({} : Process).publish pub.state pub.session pub.keepalive

def isSnapshot (i : Nat) (e : Nat × Event ProviderInterface) : Bool :=
  e.1 == i && match e.2.op with
    | .snapshot => true
    | _ => false

/-- What was performed before thread `i` took its snapshot. -/
def beforeSnapshot (log : ProviderLog) (i : Nat) : ProviderLog :=
  log.takeWhile fun e => !isSnapshot i e

/-- What was performed from then on. -/
def sinceSnapshot (log : ProviderLog) (i : Nat) : ProviderLog :=
  log.dropWhile fun e => !isSnapshot i e

/-! ## The statement -/

/-- The device record and the session a request works with were published by
one start-up: the publication its snapshot shows is of that session. -/
def Matched (x : ProviderPool τ) (log : ProviderLog) (i id : Nat) : Prop :=
  ∃ state pub config budgetMs,
    (⟨.snapshot, state⟩ : Event ProviderInterface) ∈ Pool.own log i ∧
    lastPublication (beforeSnapshot log i) = some pub ∧
    x.label pub.thread = some (.start config budgetMs) ∧
    state.devices = pub.state.devices ∧ state.config = pub.state.config ∧
    pub.session = some id

def IsRequest (x : ProviderPool τ) (i : Nat) : Prop :=
  ∃ request, x.label i = some (.serve request)

/-- Every session a request is given, and every session it uses, goes with
its snapshot. -/
structure PairsMatch (x : ProviderPool τ) : Prop where
  given : ∀ pre i id post, IsRequest x i →
    x.log = pre ++ (i, ⟨.session, some id⟩) :: post → Matched x pre i id
  used : ∀ pre i id op r post, IsRequest x i →
    x.log = pre ++ (i, ⟨.io id op, r⟩) :: post → Matched x pre i id

/-- The globals were replaced since thread `i` took its snapshot, and there
is a session again. -/
def Overtaken (log : ProviderLog) (i : Nat) : Prop :=
  ∃ pub, lastPublication (sinceSnapshot log i) = some pub ∧
    pub.session ≠ none

/-- No request asks for the session once it is overtaken. -/
def Unovertaken (x : ProviderPool τ) : Prop :=
  ∀ pre i session post, IsRequest x i →
    x.log = pre ++ (i, ⟨.session, session⟩) :: post → ¬ Overtaken pre i

/-! ## Logs -/

theorem lastPublication_append (l l' : ProviderLog) :
    lastPublication (l ++ l')
      = (lastPublication l').or (lastPublication l) := by
  unfold lastPublication
  rw [List.filterMap_append, List.getLast?_append]

theorem lastPublication_publish (log : ProviderLog) (i : Nat)
    (state : RuntimeState) (session : Option Nat)
    (keepalive : Option Watchdog.Keepalive) :
    lastPublication (log ++ [(i, ⟨.publish state session keepalive, ()⟩)])
      = some { thread := i, state, session, keepalive } := by
  rw [lastPublication_append]
  rfl

theorem lastPublication_keeps (log : ProviderLog) (i : Nat)
    {o : ProviderOp} (r : o.Ans) (ho : o.Keeps) :
    lastPublication (log ++ [(i, ⟨o, r⟩)]) = lastPublication log := by
  have hnone : publicationOf (i, ⟨o, r⟩) = none := by
    cases o with
    | publish state session keepalive => exact absurd rfl (ho _ _ _)
    | steadyNow | checkHost _ | makeSession _ _ | snapshot | session
      | noteContact _ | recordSafeOutputs _ _ | io _ _ => rfl
  rw [lastPublication_append]
  unfold lastPublication
  rw [List.filterMap_cons_none hnone]
  rfl

theorem mem_of_lastPublication {log : ProviderLog} {pub : Publication}
    (h : lastPublication log = some pub) : pub.event ∈ log := by
  obtain ⟨⟨i, o, r⟩, hmem, hpub⟩ :=
    List.mem_filterMap.mp (List.mem_of_getLast? h)
  cases o with
  | publish state session keepalive =>
      obtain rfl := Option.some.inj hpub
      exact hmem
  | steadyNow | checkHost _ | makeSession _ _ | snapshot | session
    | noteContact _ | recordSafeOutputs _ _ | io _ _ => cases hpub

theorem snapshot_split (log : ProviderLog) (i : Nat) :
    beforeSnapshot log i ++ sinceSnapshot log i = log :=
  List.takeWhile_append_dropWhile

theorem isSnapshot_iff {i : Nat} {e : Nat × Event ProviderInterface} :
    isSnapshot i e = true ↔ ∃ state, e = (i, ⟨.snapshot, state⟩) := by
  obtain ⟨j, o, r⟩ := e
  constructor
  · intro h
    have ⟨hj, ho⟩ := Bool.and_eq_true_iff.mp h
    obtain rfl : j = i := by simpa using hj
    cases o with
    | snapshot => exact ⟨r, rfl⟩
    | steadyNow | checkHost _ | makeSession _ _ | session | noteContact _
      | recordSafeOutputs _ _ | publish _ _ _ | io _ _ => cases ho
  · rintro ⟨state, heq⟩
    rw [heq]
    simp [isSnapshot]

/-- Once the snapshot is taken, what follows does not move it. -/
theorem beforeSnapshot_append {log : ProviderLog} {i : Nat}
    (h : ∃ e ∈ log, isSnapshot i e = true) (later : ProviderLog) :
    beforeSnapshot (log ++ later) i = beforeSnapshot log i := by
  obtain ⟨e, he, hsnap⟩ := h
  unfold beforeSnapshot
  induction log with
  | nil => cases he
  | cons x rest ih =>
      rw [List.cons_append]
      by_cases hx : isSnapshot i x = true
      · rw [List.takeWhile_cons_of_neg (by simp [hx]),
          List.takeWhile_cons_of_neg (by simp [hx])]
      · rw [List.takeWhile_cons_of_pos (by simp [hx]),
          List.takeWhile_cons_of_pos (by simp [hx]), ih]
        rcases List.mem_cons.mp he with rfl | he
        · exact absurd hsnap hx
        · exact he

/-- The snapshot itself stands where the log is cut. -/
theorem sinceSnapshot_eq {log : ProviderLog} {i : Nat}
    (h : ∃ e ∈ log, isSnapshot i e = true) :
    ∃ state rest, sinceSnapshot log i = (i, ⟨.snapshot, state⟩) :: rest := by
  obtain ⟨e, he, hsnap⟩ := h
  unfold sinceSnapshot
  induction log with
  | nil => cases he
  | cons x rest ih =>
      by_cases hx : isSnapshot i x = true
      · obtain ⟨state, rfl⟩ := isSnapshot_iff.mp hx
        rw [List.dropWhile_cons_of_neg (by simp [hx])]
        exact ⟨state, rest, rfl⟩
      · rw [List.dropWhile_cons_of_pos (by simp [hx])]
        rcases List.mem_cons.mp he with rfl | he
        · exact absurd hsnap hx
        · exact ih he

/-! ## What one thread does -/

instance (o : ProviderInterface.Op) : Nonempty (ProviderInterface.Ans o) := by
  cases o with
  | steadyNow => exact ⟨(0 : Int)⟩
  | checkHost _ => exact ⟨({} : HostReport)⟩
  | makeSession _ _ => exact ⟨(0 : Nat)⟩
  | snapshot => exact ⟨({} : RuntimeState)⟩
  | session => exact ⟨(none : Option Nat)⟩
  | noteContact _ | recordSafeOutputs _ _ | publish _ _ _ => exact ⟨()⟩
  | io _ op =>
      cases op with
      | openSession | send _ _ => exact ⟨SessionStatus.success⟩
      | close | recordRejection _ => exact ⟨()⟩
      | isOpen | takeRecovery _ | lastOpFailed _ => exact ⟨false⟩
      | scan _ => exact ⟨((SessionStatus.success, none) :
          SessionStatus × Option (List ScanResult))⟩
      | read _ | queryRead _ _ => exact ⟨((SessionStatus.success, none) :
          SessionStatus × Option RawFrame)⟩
      | statsFor _ => exact ⟨({} : AddressStats)⟩

/-- A request looks at the state once, first of all, and uses no session it
was not given. -/
def Follows (before : List (Event ProviderInterface))
    (e : Event ProviderInterface) : Prop :=
  (before = [] ↔ e.op = .snapshot) ∧ e.op.Keeps ∧
  ∀ id op, e.op = .io id op →
    (⟨.session, some id⟩ : Event ProviderInterface) ∈ before

/-- A session is published by the start-up that made it, and after nothing
else was published by it. -/
def Opens (task : ProviderTask) (before : List (Event ProviderInterface))
    (e : Event ProviderInterface) : Prop :=
  ∀ state id keepalive, e.op = .publish state (some id) keepalive →
    (∃ config budgetMs, task = .start config budgetMs) ∧
    MadeIn before id ∧ ∀ e' ∈ before, e'.op.Keeps

def TaskLaw (task : ProviderTask) (before : List (Event ProviderInterface))
    (e : Event ProviderInterface) : Prop :=
  Opens task before e ∧ ∀ request, task = .serve request → Follows before e

section Requests

variable {σ α : Type} {F : Environment ProviderInterface σ}
  {before : List (Event ProviderInterface)}

/-- The operations of a request on a session it has. -/
def ProviderOp.OnGiven (session : Nat) (o : ProviderOp) : Prop :=
  (∃ op, o = .io session op) ∨ ∃ id metric, o = .recordSafeOutputs id metric

theorem follows_first {k : RuntimeState → Program ProviderInterface α} {s : σ}
    (hk : ∀ state s₁, (k state).Ensures F s₁ fun tr _ _ =>
      Trace.AllAfter Follows [⟨.snapshot, state⟩] tr) :
    (@Program.call ProviderInterface α .snapshot k).Ensures F s fun tr _ _ =>
      Trace.AllAfter Follows [] tr := by
  refine Program.ensures_call.mpr fun state s₁ _ => ?_
  refine (hk state s₁).mono fun _ _ _ h => .cons ?_ h
  refine ⟨⟨fun _ => rfl, fun _ => rfl⟩, ?_, ?_⟩
  · rintro _ _ _ ⟨⟩
  · rintro _ _ ⟨⟩

theorem follows_call {o : ProviderOp} {k : o.Ans → Program ProviderInterface α}
    {s : σ} (hbefore : before ≠ []) (ho : o = .session ∨ ∃ id, o = .noteContact id)
    (hk : ∀ r s₁, (k r).Ensures F s₁ fun tr _ _ =>
      Trace.AllAfter Follows (before ++ [⟨o, r⟩]) tr) :
    (@Program.call ProviderInterface α o k).Ensures F s fun tr _ _ =>
      Trace.AllAfter Follows before tr := by
  refine Program.ensures_call.mpr fun r s₁ _ => ?_
  refine (hk r s₁).mono fun _ _ _ h => .cons ?_ h
  rcases ho with rfl | ⟨id, rfl⟩
  · refine ⟨⟨fun h => absurd h hbefore, by rintro ⟨⟩⟩, ?_, ?_⟩
    · rintro _ _ _ ⟨⟩
    · rintro _ _ ⟨⟩
  · refine ⟨⟨fun h => absurd h hbefore, by rintro ⟨⟩⟩, ?_, ?_⟩
    · rintro _ _ _ ⟨⟩
    · rintro _ _ ⟨⟩

theorem follows_every {p : Program ProviderInterface α} {session : Nat}
    {s : σ} (hgiven : (⟨.session, some session⟩ :
      Event ProviderInterface) ∈ before)
    (hp : p.Every (ProviderOp.OnGiven session)) :
    p.Ensures F s fun tr _ _ => Trace.AllAfter Follows before tr := by
  rintro tr a s' hr pre e post rfl
  have hgiven : (⟨.session, some session⟩ : Event ProviderInterface)
      ∈ before ++ pre := List.mem_append_left _ hgiven
  have hne : before ++ pre ≠ [] := List.ne_nil_of_mem hgiven
  rcases hp.runs hr e (by simp) with ⟨op, ho⟩ | ⟨id, metric, ho⟩
  · unfold Follows
    rw [ho]
    refine ⟨⟨fun h => absurd h hne, by rintro ⟨⟩⟩, by rintro _ _ _ ⟨⟩, ?_⟩
    rintro _ _ ⟨⟩
    exact hgiven
  · unfold Follows
    rw [ho]
    refine ⟨⟨fun h => absurd h hne, by rintro ⟨⟩⟩, by rintro _ _ _ ⟨⟩, ?_⟩
    rintro _ _ ⟨⟩

theorem follows_bind {β : Type} {p : Program ProviderInterface α}
    {f : α → Program ProviderInterface β} {s : σ}
    (hp : p.Ensures F s fun tr _ _ => Trace.AllAfter Follows before tr)
    (hf : ∀ t a s₁, (f a).Ensures F s₁ fun tr _ _ =>
      Trace.AllAfter Follows (before ++ t) tr) :
    (p >>= f).Ensures F s fun tr _ _ => Trace.AllAfter Follows before tr :=
  hp.bind fun t a s₁ h => (hf t a s₁).mono fun _ _ _ h' => h.append h'

theorem onSession_given (session : Nat) (p : Program SessionInterface α) :
    (onSession session p).Every (ProviderOp.OnGiven session) :=
  (onSession_every p.every_true session).mono fun _ ⟨op, _, ho⟩ =>
    .inl ⟨op, ho⟩

namespace BreadProviderRuntime

theorem handleRecovery_given (session : Nat) (device : InventoryDevice)
    (config : ProviderConfig) :
    (handleRecovery c (some session) device config).Every
      (ProviderOp.OnGiven session) := by
  rw [handleRecovery_eq]
  refine ⟨.inl ⟨_, rfl⟩, fun taken => ?_⟩
  beta_reduce
  split
  · refine Program.Every.bind ?_ fun _ => onSession_given session _
    unfold driveAfterRecovery
    split
    · exact (onSession_given session _).bind fun _ =>
        ⟨.inr ⟨_, _, rfl⟩, fun _ => trivial⟩
    · trivial
  · trivial

theorem handleRecovery_follows {session : Option Nat}
    (hgiven : (⟨.session, session⟩ : Event ProviderInterface) ∈ before)
    (device : InventoryDevice) (config : ProviderConfig) (s : σ) :
    (handleRecovery c session device config).Ensures F s fun tr _ _ =>
      Trace.AllAfter Follows before tr := by
  cases session with
  | none => exact Program.ensures_ret.mpr .nil
  | some session =>
      exact follows_every hgiven (handleRecovery_given session device config)

theorem callDevice_follows {session : Option Nat}
    (hgiven : (⟨.session, session⟩ : Event ProviderInterface) ∈ before)
    (device : InventoryDevice) (functionId : Nat) (args : ValueMap) (s : σ) :
    (callDevice c session device functionId args).Ensures F s fun tr _ _ =>
      Trace.AllAfter Follows before tr := by
  unfold callDevice
  split
  · exact Program.ensures_ret.mpr .nil
  · cases session with
    | none => exact Program.ensures_ret.mpr .nil
    | some session => exact follows_every hgiven (onSession_given session _)

theorem read_follows (deviceId : String) (signalIds : List String) (s : σ) :
    (read c deviceId signalIds).Ensures F s fun tr _ _ =>
      Trace.AllAfter Follows [] tr := by
  rw [read_eq]
  refine follows_first fun state s₁ => ?_
  cases findDevice state.devices deviceId with
  | none => exact Program.ensures_ret.mpr .nil
  | some device =>
      refine follows_call (by simp) (.inr ⟨_, rfl⟩) fun _ s₂ => ?_
      refine follows_call (by simp) (.inl rfl) fun session s₃ => ?_
      cases session with
      | none => exact Program.ensures_ret.mpr .nil
      | some session =>
          refine follows_bind (follows_every (by simp)
            (onSession_given session _)) fun t br s₄ => ?_
          split
          · exact follows_bind (handleRecovery_follows (by simp) _ _ _)
              fun _ _ _ => Program.ensures_ret.mpr .nil
          · exact Program.ensures_ret.mpr .nil

theorem call_follows (deviceId : String) (functionId : Nat) (args : ValueMap)
    (s : σ) :
    (call c deviceId functionId args).Ensures F s fun tr _ _ =>
      Trace.AllAfter Follows [] tr := by
  rw [call_eq]
  refine follows_first fun state s₁ => ?_
  cases findDevice state.devices deviceId with
  | none => exact Program.ensures_ret.mpr .nil
  | some device =>
      refine follows_call (by simp) (.inr ⟨_, rfl⟩) fun _ s₂ => ?_
      split
      · exact Program.ensures_ret.mpr .nil
      · refine follows_call (by simp) (.inl rfl) fun session s₃ => ?_
        refine follows_bind (callDevice_follows (by simp) _ _ _ _)
          fun t br s₄ => ?_
        split
        · -- The session is asked for once more, for the recovery.
          refine follows_call (by simp) (.inl rfl) fun session s₅ => ?_
          exact follows_bind (handleRecovery_follows (by simp) _ _ _)
            fun _ _ _ => Program.ensures_ret.mpr .nil
        · exact Program.ensures_ret.mpr .nil

theorem deviceHealth_follows (deviceId : String) (s : σ) :
    (deviceHealth c deviceId).Ensures F s fun tr _ _ =>
      Trace.AllAfter Follows [] tr := by
  rw [deviceHealth_eq]
  refine follows_first fun state s₁ => ?_
  cases findDevice state.devices deviceId with
  | none => exact Program.ensures_ret.mpr .nil
  | some device =>
      refine follows_call (by simp) (.inl rfl) fun session s₂ => ?_
      cases session with
      | none => exact Program.ensures_ret.mpr .nil
      | some session =>
          exact follows_every (by simp) (onSession_given session _)

end BreadProviderRuntime

theorem serve_follows (request : Request) (s : σ) :
    (serve c request).Ensures F s fun tr _ _ =>
      Trace.AllAfter Follows [] tr := by
  cases request with
  | read deviceId signalIds =>
      exact follows_bind (BreadProviderRuntime.read_follows deviceId
        signalIds s)
        fun _ _ _ => Program.ensures_ret.mpr .nil
  | call deviceId functionId args =>
      exact follows_bind (BreadProviderRuntime.call_follows deviceId
        functionId args s)
        fun _ _ _ => Program.ensures_ret.mpr .nil
  | deviceHealth deviceId =>
      exact follows_bind (BreadProviderRuntime.deviceHealth_follows
        deviceId s)
        fun _ _ _ => Program.ensures_ret.mpr .nil

end Requests

theorem Publishes.opens {config : ProviderConfig} {budgetMs : Int}
    {L : RuntimeState → Prop} {tr : List (Event ProviderInterface)}
    (h : Publishes L tr) :
    Trace.AllAfter (Opens (.start config budgetMs)) [] tr := by
  obtain ⟨pre, state, session, keepalive, rfl, hown, hmade, -, -⟩ := h
  refine .append ?_ ?_
  · refine .of_forall fun e he before => ?_
    intro state id keepalive hop
    exact absurd hop ((hown e he).2 state (some id) keepalive)
  · refine .cons ?_ .nil
    rintro _ id _ ⟨⟩
    exact ⟨⟨config, budgetMs, rfl⟩, hmade id rfl, fun e he => (hown e he).2⟩

/-- Each task keeps its law, whatever it is answered. -/
theorem task_law (task : ProviderTask) :
    (task.program c).Ensures (Environment.any ProviderInterface) ()
      fun tr _ _ => Trace.AllAfter (TaskLaw task) [] tr := by
  cases task with
  | start config budgetMs =>
      have hany : Runtime.Publishing c (Environment.any ProviderInterface)
          config fun _ => True :=
        ⟨fun _ _ => trivial, fun _ _ _ _ _ _ _ _ _ _ => trivial,
          fun _ => trivial⟩
      refine (Runtime.initializeRuntime_publishes hany budgetMs ()).bind
        fun tr _ _ h => ?_
      refine Program.ensures_ret.mpr ?_
      rw [List.append_nil]
      exact h.opens.mono fun _ _ ho => ⟨ho, nofun⟩
  | reset =>
      refine Program.ensures_call.mpr fun _ _ _ => ?_
      refine Program.ensures_ret.mpr (.cons ⟨?_, nofun⟩ .nil)
      rintro _ _ _ ⟨⟩
  | serve request =>
      refine (serve_follows request ()).bind fun tr _ _ h => ?_
      refine Program.ensures_ret.mpr ?_
      rw [List.append_nil]
      refine h.mono fun before e hfollows => ⟨?_, fun _ _ => hfollows⟩
      intro state id keepalive hop
      exact absurd hop (hfollows.2.1 state (some id) keepalive)

/-! ## What the threads share -/

/-- A pool of tasks, from a process that has done nothing. -/
def ProviderPool.Run (c : Contracts) (E : Environment SystemInterface τ)
    (base : τ) (x : ProviderPool τ) : Prop :=
  Pool.Run (ProviderTask.program c) (providerEnv c E) (freshWorld base) x

variable {x : ProviderPool τ}

theorem ProviderPool.Run.law (h : ProviderPool.Run c E base x)
    {pre post : ProviderLog} {i : Nat} {e : Event ProviderInterface}
    (hlog : x.log = pre ++ (i, e) :: post) :
    ∃ task, x.label i = some task ∧ TaskLaw task (Pool.own pre i) e :=
  Pool.Run.own_event task_law h hlog

/-- The globals are the last publication's. -/
theorem ProviderPool.Run.inForce (h : ProviderPool.Run c E base x) :
    SameRoster (inForce x.log) x.world.state := by
  refine @Pool.Run.inv _ _ _ _ _ _ _ _ (fun w log =>
    SameRoster (BreadProvider.inForce log) w.state) (.refl _) ?_ h
  intro w log i o r w' hw hE
  by_cases ho : o.Keeps
  · unfold BreadProvider.inForce
    rw [lastPublication_keeps log i r ho]
    exact SameRoster.trans hw (providerEnv_keeps ho hE)
  · unfold ProviderOp.Keeps at ho
    push Not at ho
    obtain ⟨state, session, keepalive, rfl⟩ := ho
    obtain ⟨p, hp⟩ := providerEnv_published hE
    unfold BreadProvider.inForce
    rw [lastPublication_publish, hp]
    exact ⟨rfl, rfl, rfl⟩

/-- A session has one maker. -/
theorem ProviderPool.Run.maker (h : ProviderPool.Run c E base x) {i j id : Nat}
    (hi : MadeIn (Pool.own x.log i) id) (hj : MadeIn (Pool.own x.log j) id) :
    i = j := by
  have hinv : (∀ i id, MadeIn (Pool.own x.log i) id → id < x.world.state.made) ∧
      ∀ i j id, MadeIn (Pool.own x.log i) id → MadeIn (Pool.own x.log j) id →
        i = j := by
    refine @Pool.Run.inv _ _ _ _ _ _ _ _ (fun w log =>
      (∀ i id, MadeIn (Pool.own log i) id → id < w.state.made) ∧
      ∀ i j id, MadeIn (Pool.own log i) id → MadeIn (Pool.own log j) id →
        i = j) ⟨?_, ?_⟩ ?_ h
    · rintro _ _ ⟨_, _, ⟨⟩⟩
    · rintro _ _ _ ⟨_, _, ⟨⟩⟩
    · rintro w log k o r w' ⟨hbound, hone⟩ ⟨w₁, hnoise, tr, htr, -⟩
      have hmade := noise_made hnoise
      obtain ⟨hmono, hmake, -⟩ := Process.handle_made htr
      -- A session is an old one, or the one made now, by thread `k`.
      have hsplit : ∀ i id, MadeIn (Pool.own (log ++ [(k, ⟨o, r⟩)]) i) id →
          MadeIn (Pool.own log i) id ∨ i = k ∧ id = w₁.state.made ∧
            w'.state.made = w₁.state.made + 1 := by
        rintro i id ⟨bus, options, hmem⟩
        rcases List.mem_append.mp (Pool.mem_own.mp hmem) with hmem | hmem
        · exact .inl ⟨bus, options, Pool.mem_own.mpr hmem⟩
        · obtain ⟨rfl, he⟩ := Prod.mk.inj (List.mem_singleton.mp hmem)
          exact .inr ⟨rfl, hmake bus options id he.symm⟩
      constructor
      · intro i id hid
        rcases hsplit i id hid with hold | ⟨-, hid, hnext⟩
        · have := hbound i id hold
          omega
        · omega
      · intro i j id hid hjd
        rcases hsplit i id hid with hold | ⟨hik, hid, -⟩
        · rcases hsplit j id hjd with hold' | ⟨-, hjd, -⟩
          · exact hone i j id hold hold'
          · have := hbound i id hold
            omega
        · rcases hsplit j id hjd with hold' | ⟨hjk, -, -⟩
          · have := hbound j id hold'
            omega
          · rw [hik, hjk]
  exact hinv.2 i j id hi hj

/-! ## Snapshot and session -/

theorem ProviderPool.Run.snapshot (h : ProviderPool.Run c E base x)
    {pre post : ProviderLog} {i : Nat} {state : RuntimeState}
    (hlog : x.log = pre ++ (i, ⟨.snapshot, state⟩) :: post) :
    state.devices = (BreadProvider.inForce pre).state.devices ∧
      state.config = (BreadProvider.inForce pre).state.config := by
  obtain ⟨y, _, _, w, hy, rfl, -, hE, -⟩ := Pool.Run.moment h hlog
  have hforce := ProviderPool.Run.inForce hy
  have hstate : state = y.world.state.state := (providerEnv_snapshot hE).2
  rw [hstate]
  exact ⟨hforce.devices, hforce.config⟩

theorem ProviderPool.Run.session (h : ProviderPool.Run c E base x)
    {pre post : ProviderLog} {i : Nat} {session : Option Nat}
    (hlog : x.log = pre ++ (i, ⟨.session, session⟩) :: post) :
    session = (BreadProvider.inForce pre).session := by
  obtain ⟨y, _, _, w, hy, rfl, -, hE, -⟩ := Pool.Run.moment h hlog
  have hforce := ProviderPool.Run.inForce hy
  have hsession : session = y.world.state.session := (providerEnv_session hE).2
  rw [hsession]
  exact hforce.session

theorem ProviderPool.Run.follows (h : ProviderPool.Run c E base x)
    {pre post : ProviderLog} {i : Nat} {e : Event ProviderInterface}
    (hi : IsRequest x i) (hlog : x.log = pre ++ (i, e) :: post) :
    Follows (Pool.own pre i) e := by
  obtain ⟨request, hrequest⟩ := hi
  obtain ⟨task, htask, hlaw⟩ := h.law hlog
  rw [hrequest] at htask
  obtain rfl := Option.some.inj htask
  exact hlaw.2 request rfl

/-- Whatever else a request does, it has taken its snapshot before. -/
theorem ProviderPool.Run.snapshot_first (h : ProviderPool.Run c E base x)
    {pre post : ProviderLog} {i : Nat} {e : Event ProviderInterface}
    (hi : IsRequest x i) (hlog : x.log = pre ++ (i, e) :: post)
    (he : e.op ≠ .snapshot) : ∃ s ∈ pre, isSnapshot i s = true := by
  have hsome : Pool.own pre i ≠ [] :=
    fun hnil => he ((h.follows hi hlog).1.mp hnil)
  obtain ⟨f, hf⟩ := List.exists_mem_of_ne_nil _ hsome
  have hfind : (pre.find? fun s => s.1 == i).isSome :=
    List.find?_isSome.mpr ⟨(i, f), Pool.mem_own.mp hf, by simp⟩
  obtain ⟨⟨j, s⟩, hs⟩ := Option.isSome_iff_exists.mp hfind
  obtain ⟨hj, before, after, rfl, hnone⟩ :=
    List.find?_eq_some_iff_append.mp hs
  obtain rfl : j = i := by simpa using hj
  -- It is the first that thread `j` performs.
  have hown : Pool.own before j = [] := by
    refine List.eq_nil_iff_forall_not_mem.mpr fun e he => ?_
    have := hnone _ (Pool.mem_own.mp he)
    simp at this
  have hfirst := h.follows (e := s) hi (by
    rw [hlog, List.append_assoc]
    rfl)
  have hop : s.op = .snapshot := hfirst.1.mp hown
  obtain ⟨o, r⟩ := s
  obtain rfl : o = .snapshot := hop
  exact ⟨_, by simp, isSnapshot_iff.mpr ⟨r, rfl⟩⟩

/-- A publication of a session, in its place. -/
theorem ProviderPool.Run.opens (h : ProviderPool.Run c E base x)
    {pre post : ProviderLog} {pub : Publication} {id : Nat}
    (hsession : pub.session = some id)
    (hlog : x.log = pre ++ pub.event :: post) :
    (∃ config budgetMs, x.label pub.thread = some (.start config budgetMs)) ∧
      MadeIn (Pool.own pre pub.thread) id ∧
      ∀ e ∈ Pool.own pre pub.thread, e.op.Keeps := by
  obtain ⟨task, htask, hopens, -⟩ := h.law hlog
  obtain ⟨⟨config, budgetMs, rfl⟩, hmade, hkeeps⟩ :=
    hopens pub.state id pub.keepalive (by rw [hsession])
  exact ⟨⟨config, budgetMs, htask⟩, hmade, hkeeps⟩

/-- No session is published twice. -/
theorem ProviderPool.Run.published_once (h : ProviderPool.Run c E base x)
    {l l' later : ProviderLog} {pub pub' : Publication} {id : Nat}
    (hlog : x.log = l ++ l' ++ later)
    (hpub : lastPublication l = some pub) (hid : pub.session = some id)
    (hpub' : lastPublication l' = some pub') : pub'.session ≠ some id := by
  intro hid'
  obtain ⟨a, b, rfl⟩ := List.append_of_mem (mem_of_lastPublication hpub)
  obtain ⟨a', b', rfl⟩ := List.append_of_mem (mem_of_lastPublication hpub')
  have hfirst : x.log
      = a ++ pub.event :: (b ++ (a' ++ pub'.event :: b') ++ later) := by
    rw [hlog]
    simp
  have hsecond : x.log
      = (a ++ pub.event :: (b ++ a')) ++ pub'.event :: (b' ++ later) := by
    rw [hlog]
    simp
  obtain ⟨-, hmade, -⟩ := h.opens hid hfirst
  obtain ⟨-, hmade', hkeeps⟩ := h.opens hid' hsecond
  have hmaker : MadeIn (Pool.own x.log pub.thread) id := by
    rw [hfirst, Pool.own_append]
    exact hmade.append _
  have hmaker' : MadeIn (Pool.own x.log pub'.thread) id := by
    rw [hsecond, Pool.own_append]
    exact hmade'.append _
  have hthread : pub.thread = pub'.thread := h.maker hmaker hmaker'
  -- The second publication is of a thread that had published before.
  have hmem : (⟨.publish pub.state pub.session pub.keepalive, ()⟩ :
      Event ProviderInterface)
        ∈ Pool.own (a ++ pub.event :: (b ++ a')) pub'.thread := by
    rw [← hthread]
    exact Pool.mem_own.mpr (List.mem_append_right _ List.mem_cons_self)
  exact hkeeps _ hmem _ _ _ rfl

theorem inForce_session {log : ProviderLog} {id : Nat}
    (h : (inForce log).session = some id) :
    ∃ pub, lastPublication log = some pub ∧ pub.session = some id := by
  unfold inForce at h
  cases hlast : lastPublication log with
  | none =>
      rw [hlast] at h
      cases h
  | some pub =>
      rw [hlast] at h
      exact ⟨pub, rfl, h⟩

theorem ProviderPool.Run.matched (h : ProviderPool.Run c E base x)
    {pre post : ProviderLog} {i id : Nat} (hi : IsRequest x i)
    (hlog : x.log = pre ++ (i, ⟨.session, some id⟩) :: post)
    (hover : ¬ Overtaken pre i) : Matched x pre i id := by
  obtain ⟨pub, hlast, hid⟩ := inForce_session (h.session hlog).symm
  have hsplit := snapshot_split pre i
  have hpub : lastPublication (beforeSnapshot pre i) = some pub := by
    rw [← hsplit, lastPublication_append] at hlast
    cases hsince : lastPublication (sinceSnapshot pre i) with
    | none =>
        rw [hsince, Option.none_or] at hlast
        exact hlast
    | some pub' =>
        rw [hsince, Option.some_or] at hlast
        obtain rfl := Option.some.inj hlast
        refine absurd ⟨pub', hsince, ?_⟩ hover
        rw [hid]
        exact Option.some_ne_none id
  obtain ⟨state, rest, hsince⟩ :=
    sinceSnapshot_eq (h.snapshot_first hi hlog (by rintro ⟨⟩))
  rw [hsince] at hsplit
  have hsnap : x.log = beforeSnapshot pre i ++ (i, ⟨.snapshot, state⟩) ::
      (rest ++ (i, ⟨.session, some id⟩) :: post) := by
    rw [hlog]
    nth_rewrite 1 [← hsplit]
    simp
  obtain ⟨hdevices, hconfig⟩ := h.snapshot hsnap
  unfold BreadProvider.inForce at hdevices hconfig
  rw [hpub] at hdevices hconfig
  obtain ⟨before, after, hbefore⟩ :=
    List.append_of_mem (mem_of_lastPublication hpub)
  rw [hbefore, List.append_assoc] at hsnap
  obtain ⟨⟨config, budgetMs, hlabel⟩, -, -⟩ := h.opens hid hsnap
  refine ⟨state, pub, config, budgetMs, ?_, hpub, hlabel, hdevices, hconfig,
    hid⟩
  refine Pool.mem_own.mpr ?_
  rw [← hsplit]
  simp

theorem Matched.later {pre : ProviderLog} {i id : Nat}
    (h : Matched x pre i id) (later : ProviderLog) :
    Matched x (pre ++ later) i id := by
  obtain ⟨state, pub, config, budgetMs, hsnap, hpub, hrest⟩ := h
  have htaken : ∃ e ∈ pre, isSnapshot i e = true :=
    ⟨_, Pool.mem_own.mp hsnap, isSnapshot_iff.mpr ⟨state, rfl⟩⟩
  refine ⟨state, pub, config, budgetMs, ?_, ?_, hrest⟩
  · rw [Pool.own_append]
    exact List.mem_append_left _ hsnap
  · rw [beforeSnapshot_append htaken]
    exact hpub

/-- A request that is overtaken is given the session of another start-up. -/
theorem PairsMatch.unovertaken (h : ProviderPool.Run c E base x)
    (hmatch : PairsMatch x) : Unovertaken x := by
  rintro pre i session post hi hlog ⟨pub', hsince, hsome⟩
  obtain ⟨id, hid'⟩ := Option.ne_none_iff_exists'.mp hsome
  have hsplit := snapshot_split pre i
  have hsession : session = some id := by
    rw [h.session hlog]
    unfold BreadProvider.inForce
    rw [← hsplit, lastPublication_append, hsince]
    exact hid'
  rw [hsession] at hlog
  obtain ⟨_, pub, _, _, -, hpub, -, -, -, hid⟩ :=
    hmatch.given pre i id post hi hlog
  rw [← hsplit] at hlog
  exact h.published_once hlog hpub hid hsince hid'

/-- Requests work with a device and a session published together exactly in
the interleavings where none asks for the session after being overtaken. -/
theorem pairs_match_iff (h : ProviderPool.Run c E base x) :
    PairsMatch x ↔ Unovertaken x := by
  constructor
  · exact fun hmatch => hmatch.unovertaken h
  · intro hover
    have hgiven : ∀ pre i id post, IsRequest x i →
        x.log = pre ++ (i, ⟨.session, some id⟩) :: post →
        Matched x pre i id := by
      intro pre i id post hi hlog
      exact h.matched hi hlog (hover pre i (some id) post hi hlog)
    refine ⟨hgiven, ?_⟩
    intro pre i id op r post hi hlog
    have hmem := (h.follows hi hlog).2.2 id op rfl
    obtain ⟨a, b, rfl⟩ := List.append_of_mem (Pool.mem_own.mp hmem)
    rw [List.append_assoc] at hlog
    exact (hgiven a i id _ hi hlog).later _

/-- Requests that start once the last start-up has published are not
overtaken. -/
theorem Unovertaken.of_served {starts served : ProviderLog}
    (hlog : x.log = starts ++ served)
    (hstarts : ∀ e ∈ starts, ¬ IsRequest x e.1)
    (hserved : ∀ e ∈ served, e.2.op.Keeps) : Unovertaken x := by
  rintro pre i session post hi hsplit ⟨pub, hsince, -⟩
  rw [hlog] at hsplit
  rcases Trace.split_append hsplit with ⟨mid, hmid, -⟩ | ⟨mid, rfl, hmid⟩
  · refine hstarts (i, ⟨.session, session⟩) ?_ hi
    rw [hmid]
    exact List.mem_append_right _ List.mem_cons_self
  · -- The snapshot of `i` is among what was served.
    have hquiet : ∀ e ∈ starts, (!isSnapshot i e) = true := by
      intro e he
      by_contra hsnap
      obtain ⟨state, rfl⟩ := isSnapshot_iff.mp (by simpa using hsnap)
      exact hstarts _ he hi
    unfold sinceSnapshot at hsince
    rw [List.dropWhile_append_of_pos hquiet] at hsince
    have hpub : pub.event ∈ mid :=
      (List.dropWhile_sublist _).mem (mem_of_lastPublication hsince)
    exact hserved pub.event (by rw [hmid]; simp [hpub]) _ _ _ rfl

/-! ## Two start-ups and a read between them -/

namespace Reference

/-- One DCMT on the canned bus, left as it is at start-up. -/
def leftConfig : ProviderConfig where
  busPath := "mock://bench"
  outputsOnStartup := .leave
  devices := [{ id := "stirrer", type := .dcmt, address := 0x08 }]

theorem leftConfig_mock : Runtime.isMockMode leftConfig = true := by
  show "mock://".isPrefixOf "mock://bench" = true
  decide +kernel

abbrev anySystem : Environment SystemInterface Unit :=
  Environment.any SystemInterface

/-- The session just made opens. -/
theorem opens_new (p : Process) (options : SessionOptions)
    (hvalid : (Session.validateOpenOptions options).ok = true) :
    ∃ tr q, (Process.handle (.io p.made .openSession)
        (p.makeSession options)).Runs anySystem () tr
          ({ SessionStatus.success with attempts := 1 }, q) () ∧
      q.made = p.made + 1 := by
  have hnew : (p.makeSession options).sessions p.made = Session.new options :=
    Process.setSession_self p p.made (Session.new options)
  have hopens : (onTransport p.made (Session.handle .openSession
      ((p.makeSession options).sessions p.made))).Runs anySystem ()
      [⟨.bus p.made .isOpen, false⟩,
        ⟨.bus p.made (.openTransport options), SessionStatus.success⟩]
      ({ SessionStatus.success with attempts := 1 }, Session.new options)
      () := by
    rw [hnew]
    refine ⟨false, (), _, trivial, rfl, ?_⟩
    show (onTransport p.made (if (Session.validateOpenOptions options).ok
      then _ else _)).Runs _ _ _ _ _
    rw [if_pos hvalid]
    exact ⟨SessionStatus.success, (), _, trivial, rfl, rfl, rfl, rfl⟩
  exact ⟨_, _, Program.runs_bind.mpr ⟨_, _, (), [], hopens, ⟨rfl, rfl, rfl⟩,
    rfl⟩, rfl⟩

/-- A start-up publishes the session it made and its one device. -/
theorem left_started (w : ProviderWorld Unit) :
    ∃ tr w' pre state keepalive,
      ((ProviderTask.start leftConfig 0).program .reference).Runs
        (providerEnv .reference anySystem) w tr none w' ∧
      tr = pre ++ [⟨.publish state (some w.state.made) keepalive, ()⟩] ∧
      w'.state.state = state ∧
      ∃ d, findDevice state.devices "stirrer" = some d := by
  obtain ⟨_, q, hopen, -⟩ := opens_new w.state
    (makeSessionOptions leftConfig) rfl
  simp only [ProviderTask.program, Runtime.initializeRuntime,
    Runtime.initializeUntil, leftConfig_mock, if_true]
  exact ⟨_, _, [_, _, _], _, _, ⟨_, _, _,
      providerEnv_alone ⟨(), (), _, trivial, rfl, rfl, rfl, rfl⟩, rfl,
      _, _, _, providerEnv_alone hopen, rfl,
      _, _, _, providerEnv_alone ⟨(0 : Int), (), _, trivial, rfl, rfl, rfl,
        rfl⟩, rfl,
      _, _, _, providerEnv_alone ⟨rfl, rfl, rfl⟩, rfl, rfl, rfl, rfl⟩,
    rfl, rfl, _, rfl⟩

/-- A start-up as a thread of its own. -/
theorem left_spawned {x : ProviderPool Unit}
    (h : ProviderPool.Run .reference anySystem () x) :
    ∃ (y : ProviderPool Unit) (pre : List (Event ProviderInterface))
      (state : RuntimeState) (keepalive : Option Watchdog.Keepalive),
      ProviderPool.Run .reference anySystem () y ∧
      y.threads = x.threads ++ [(.start leftConfig 0, .ret none)] ∧
      y.log = x.log ++ (pre ++ [(⟨.publish state (some x.world.state.made)
        keepalive, ()⟩ : Event ProviderInterface)]).map (x.threads.length, ·) ∧
      y.world.state.state = state ∧
      ∃ d, findDevice state.devices "stirrer" = some d := by
  obtain ⟨_, w, pre, state, keepalive, hrun, rfl, hstate, hfind⟩ :=
    left_started x.world
  have hspawn := Relation.ReflTransGen.tail h (.spawn x (.start leftConfig 0))
  have hthread : (x.threads ++ [(ProviderTask.start leftConfig 0,
      (ProviderTask.start leftConfig 0).program .reference)])[x.threads.length]?
      = some (.start leftConfig 0,
        (ProviderTask.start leftConfig 0).program .reference) := by
    simp
  refine ⟨_, pre, state, keepalive, Pool.Run.finish hspawn hthread hrun, ?_,
    rfl, hstate, hfind⟩
  show (x.threads ++ [_]).set x.threads.length _ = _
  rw [List.set_append_right _ _ (Nat.le_refl _), Nat.sub_self]
  rfl

def readStirrer : ProviderTask := .serve (.read "stirrer" [])

theorem readStirrer_program {state : RuntimeState} {d : InventoryDevice}
    (hfind : findDevice state.devices "stirrer" = some d) :
    ∃ k, readStirrer.program .reference
        = @Program.call ProviderInterface _ .snapshot k ∧
      ∃ k', k state = @Program.call ProviderInterface _ (.noteContact "stirrer")
        fun _ => @Program.call ProviderInterface _ .session k' := by
  have hprogram : readStirrer.program .reference
      = ((BreadProviderRuntime.read .reference "stirrer" [] >>= fun br =>
          .ret (.read br)) >>= fun r => .ret (some r)) := rfl
  rw [hprogram, BreadProviderRuntime.read_eq]
  refine ⟨_, rfl, ?_⟩
  beta_reduce
  rw [hfind]
  exact ⟨_, rfl⟩

/-- A start-up, and a read about to ask for its session. -/
theorem stirrer_noted : ∃ (x : ProviderPool Unit)
    (first : List (Event ProviderInterface)) (state : RuntimeState)
    (k : Option Nat → Program ProviderInterface (Option Response)),
    ProviderPool.Run .reference anySystem () x ∧
    x.threads = [(.start leftConfig 0, .ret none),
      (readStirrer, @Program.call ProviderInterface _ .session k)] ∧
    x.log = first.map (0, ·)
      ++ [(1, ⟨.snapshot, state⟩), (1, ⟨.noteContact "stirrer", ()⟩)] := by
  obtain ⟨y, pre, state, keepalive, hy, hthreads, hlog, hstate, d, hfind⟩ :=
    left_spawned (x := { world := freshWorld () }) .refl
  obtain ⟨k, hprogram, k', hk⟩ := readStirrer_program hfind
  have hspawned := Relation.ReflTransGen.tail hy (.spawn y readStirrer)
  have hfirst : (y.threads ++ [(readStirrer,
      readStirrer.program .reference)])[1]?
      = some (readStirrer, @Program.call ProviderInterface _ .snapshot k) := by
    rw [hthreads, hprogram]
    rfl
  have hsnapped := Relation.ReflTransGen.tail hspawned
    (.perform hfirst (providerEnv_alone ⟨rfl, rfl, rfl⟩))
  have hsecond : ((y.threads ++ [(readStirrer,
      readStirrer.program .reference)]).set 1
        (readStirrer, k y.world.state.state))[1]?
      = some (readStirrer, @Program.call ProviderInterface _
        (.noteContact "stirrer") fun _ =>
          @Program.call ProviderInterface _ .session k') := by
    rw [hthreads, hstate, hk]
    rfl
  have hnoted := Relation.ReflTransGen.tail hsnapped
    (.perform hsecond (providerEnv_alone ⟨rfl, rfl, rfl⟩))
  refine ⟨_, pre ++ [⟨.publish state (some 0) keepalive, ()⟩],
    y.world.state.state, k', hnoted, ?_, ?_⟩
  · show ((y.threads ++ [_]).set 1 _).set 1 _ = _
    rw [hthreads]
    rfl
  · show y.log ++ [_] ++ [_] = _
    rw [hlog, List.append_assoc]
    rfl

/-- All starts over before the read is given its session. -/
theorem stirrer_overtaken : ∃ (x : ProviderPool Unit) (pre : ProviderLog)
    (session : Option Nat), ProviderPool.Run .reference anySystem () x ∧
      IsRequest x 1 ∧ x.log = pre ++ [(1, ⟨.session, session⟩)] ∧
      Overtaken pre 1 := by
  obtain ⟨y, first, state, k, hy, hthreads, hlog⟩ := stirrer_noted
  obtain ⟨z, pre, state', keepalive, hz, hthreads', hlog', -, -⟩ :=
    left_spawned hy
  have hthread : z.threads[1]? = some (readStirrer,
      @Program.call ProviderInterface _ .session k) := by
    rw [hthreads', hthreads]
    rfl
  have hgiven := Relation.ReflTransGen.tail hz
    (.perform hthread (providerEnv_alone ⟨rfl, rfl, rfl⟩))
  refine ⟨_, z.log, _, hgiven, ⟨.read "stirrer" [], ?_⟩, rfl, ?_⟩
  · show ((z.threads.set 1 _)[1]?).map _ = _
    rw [hthreads', hthreads]
    rfl
  · have hquiet : ∀ e ∈ first.map ((0 : Nat), ·),
        (!isSnapshot 1 e) = true := by
      intro e he
      obtain ⟨e', -, rfl⟩ := List.mem_map.mp he
      rfl
    unfold Overtaken sinceSnapshot
    rw [hlog', hlog, List.append_assoc, List.dropWhile_append_of_pos hquiet,
      List.map_append]
    exact ⟨_, lastPublication_publish (_ :: _ :: pre.map _) _ state' _
      keepalive, Option.some_ne_none _⟩

/-- Nothing starts over before the read is given its session. -/
theorem stirrer_given : ∃ (x : ProviderPool Unit) (pre : ProviderLog)
    (session : Option Nat), ProviderPool.Run .reference anySystem () x ∧
      x.log = pre ++ [(1, ⟨.session, session⟩)] ∧ Unovertaken x := by
  obtain ⟨y, first, state, k, hy, hthreads, hlog⟩ := stirrer_noted
  have hthread : y.threads[1]? = some (readStirrer,
      @Program.call ProviderInterface _ .session k) := by
    rw [hthreads]
    rfl
  have hgiven := Relation.ReflTransGen.tail hy
    (.perform hthread (providerEnv_alone ⟨rfl, rfl, rfl⟩))
  refine ⟨_, y.log, _, hgiven, rfl, ?_⟩
  have hsplit : y.log ++ [(1, ⟨.session, y.world.state.session⟩)]
      = first.map (0, ·) ++ [(1, ⟨.snapshot, state⟩),
        (1, ⟨.noteContact "stirrer", ()⟩),
        (1, ⟨.session, y.world.state.session⟩)] := by
    rw [hlog, List.append_assoc]
    rfl
  refine Unovertaken.of_served hsplit ?_ ?_
  · intro e he
    obtain ⟨e', -, rfl⟩ := List.mem_map.mp he
    rintro ⟨request, hrequest⟩
    have hstart : ((y.threads.set 1 (readStirrer,
        k y.world.state.session))[0]?).map (·.1)
        = some (.start leftConfig 0) := by
      rw [hthreads]
      rfl
    cases hstart.symm.trans hrequest
  · intro e he
    simp only [List.mem_cons, List.not_mem_nil, or_false] at he
    rcases he with rfl | rfl | rfl <;> rintro _ _ _ ⟨⟩

end Reference

open Reference in
/-- A read served from the start-up before it. -/
theorem pairs_match_iff_given : ∃ (x : ProviderPool Unit) (pre : ProviderLog)
    (session : Option Nat), x.log = pre ++ [(1, ⟨.session, session⟩)] ∧
      PairsMatch x := by
  obtain ⟨x, pre, session, hx, hlog, hover⟩ := stirrer_given
  exact ⟨x, pre, session, hlog, (pairs_match_iff hx).mpr hover⟩

open Reference in
/-- A read given the session of a start-up that its device is not of. -/
theorem requests_mismatched :
    ¬ ∀ x : ProviderPool Unit,
      ProviderPool.Run .reference anySystem () x → PairsMatch x := by
  intro hall
  obtain ⟨x, pre, session, hx, hi, hlog, hover⟩ := stirrer_overtaken
  exact (hall x hx).unovertaken hx pre 1 session [] hi hlog hover

end BreadProvider
