import BreadProvider.CannedBus.Link
import BreadProvider.CannedBus.MockRuns

/-!
# Provider — a mock provider is its bench

A mock provider without faults, started and serving requests with its
keepalive feeding in between, answers as its bench does and leaves its canned
devices as the bench's boards are.
-/

namespace BreadProvider

open Interaction Inventory CrumbsCannedBus

variable {c : Contracts} {codec : CrumbsCodec}

/-- What the bench takes from CRUMBS and from the headers. -/
structure MockContracts (c : Contracts) (codec : CrumbsCodec) : Prop where
  codec : codec.Lawful
  ack : c.crumbs.AckRoundTrip
  queries : c.QueriesDistinct
  opcodes : c.OpcodesDistinct
  reserved : c.SetReplyReserved
  payloads : c.PayloadLayout

/-- Devices at addresses of their own, which a session accepts. -/
structure Apart (devices : List InventoryDevice) : Prop where
  address : ∀ d ∈ devices,
    (Session.validateAddress (addressByte d.address)).ok = true
  own : ∀ d ∈ devices, ∀ d' ∈ devices,
    addressByte d'.address = addressByte d.address → d' = d

/-! ## The boards behind a session -/

/-- A session of the process and the stack below it. -/
def stack (id : Nat) (w : ProviderWorld MockBuses) :
    Session × CrumbsTransport × CrumbsCannedBus :=
  (w.state.sessions id, w.base id)

/-- The boards answer behind session `id`, and the keepalive feeds no
others. -/
structure OnBench (c : Contracts) (b : Bench) (id : Nat)
    (w : ProviderWorld MockBuses) : Prop where
  boards : ∀ d ∈ b.devices, ∃ ack, OnLine c d ⟨b.twin d, ack⟩ (stack id w)
  fed : ∀ k, w.state.keepalive = some k →
    k.session = id ∧ ∀ f ∈ k.fed, f.device ∈ b.devices

/-- The operations that are no input or output. -/
def ProviderOp.books : ProviderOp → Bool
  | .io _ _ | .publish _ _ _ | .makeSession _ _ => false
  | _ => true

section Operations

variable {b : Bench} {id : Nat} {device : InventoryDevice}
variable {w w' : ProviderWorld MockBuses}

/-- An operation on the session is one on its stack. -/
theorem io_stack {op : SessionOp} {r : op.Ans}
    (h : Environment.recorded Process.handle (mockSystem c codec) (.io id op) w
      r w') :
    mockSession c codec op (stack id w) r (stack id w') ∧
      w'.state.keepalive = w.state.keepalive := by
  obtain ⟨tr, hrun, -⟩ := h
  obtain ⟨t, s, x, hx, hstate, hbase⟩ := io_mock hrun
  have hstack : stack id w' = (s, x) := by
    unfold stack
    rw [hstate, hbase, Process.setSession_self, Function.update_self]
  rw [hstack, hstate]
  exact ⟨⟨t, hx⟩, rfl⟩

/-- What is asked for one board changes that board, as its line says. -/
theorem OnBench.io (hm : MockContracts c codec) (hapart : Apart b.devices)
    (hdevice : device ∈ b.devices) (hw : OnBench c b id w) {l : Line}
    (hl : OnLine c device l (stack id w)) {op : SessionOp}
    (hop : Asks c device op) {r : op.Ans}
    (h : Environment.recorded Process.handle (mockSystem c codec) (.io id op) w
      r w') :
    ∃ l', line c device.type op l r l' ∧ OnLine c device l' (stack id w') ∧
      OnBench c (b.set device l'.twin) id w' := by
  obtain ⟨hE, hkeep⟩ := io_stack h
  obtain ⟨l', hline, hl', hother⟩ :=
    hl.handle hm.codec hm.queries (hapart.address device hdevice) hop hE
  refine ⟨l', hline, hl', fun d hd => ?_, fun k hk => hw.fed k (hkeep ▸ hk)⟩
  by_cases ha : addressByte d.address = addressByte device.address
  · obtain rfl := hapart.own device hdevice d hd ha
    refine ⟨l'.ack, ?_⟩
    rw [b.set_twin]
    exact hl'
  · obtain ⟨ack, hack⟩ := hw.boards d hd
    refine ⟨ack, ?_⟩
    rw [b.set_twin_ne ha]
    exact hack.elsewhere ha hother

/-- There is no recovery to take, and looking for one changes nothing. -/
theorem OnBench.take (hapart : Apart b.devices) (hdevice : device ∈ b.devices)
    (hw : OnBench c b id w) {r : Bool}
    (h : Environment.recorded Process.handle (mockSystem c codec)
      (.io id (.takeRecovery (addressByte device.address))) w r w') :
    r = false ∧ OnBench c b id w' := by
  obtain ⟨hE, hkeep⟩ := io_stack h
  obtain ⟨ack, hl⟩ := hw.boards device hdevice
  obtain ⟨hr, hl', hother⟩ := hl.take hE
  refine ⟨hr, fun d hd => ?_, fun k hk => hw.fed k (hkeep ▸ hk)⟩
  by_cases ha : addressByte d.address = addressByte device.address
  · obtain rfl := hapart.own device hdevice d hd ha
    exact ⟨ack, hl'⟩
  · obtain ⟨ack', hack⟩ := hw.boards d hd
    exact ⟨ack', hack.elsewhere ha hother⟩

/-- Feeding changes nothing. -/
theorem OnBench.feed (hm : MockContracts c codec) (hapart : Apart b.devices)
    (hw : OnBench c b id w) {o : ProviderOp} {r : o.Ans}
    (ho : keepaliveFeeds c w o)
    (h : Environment.recorded Process.handle (mockSystem c codec) o w r w') :
    OnBench c b id w' ∧ ∀ d ∈ b.devices, ∀ l, OnLine c d l (stack id w) →
      OnLine c d l (stack id w') := by
  obtain ⟨k, hk, op, ⟨f, hf, hop⟩, rfl⟩ := ho
  obtain ⟨hid, hfed⟩ := hw.fed k hk
  subst hid
  have hdevice := hfed f hf
  have hasks : Asks c f.device op := by
    rcases hop with rfl | rfl
    · exact .query _ (.inr (.inr rfl))
    · exact .reject
  have hsame : ∀ l r l', line c f.device.type op l r l' → l' = l := by
    intro l r l' hline
    rcases hop with rfl | rfl
    · exact hline.1
    · exact hline
  obtain ⟨ack, hl⟩ := hw.boards f.device hdevice
  obtain ⟨l₁, hline, -, hbench⟩ := hw.io hm hapart hdevice hl hasks h
  rw [hsame _ _ _ hline, b.set_twin_self] at hbench
  refine ⟨hbench, fun d hd l hd' => ?_⟩
  obtain ⟨hE, -⟩ := io_stack h
  by_cases ha : addressByte d.address = addressByte f.device.address
  · obtain rfl := hapart.own f.device hdevice d hd ha
    obtain ⟨l₂, hline, hl₂, -⟩ := hw.io hm hapart hdevice hd' hasks h
    rw [hsame _ _ _ hline] at hl₂
    exact hl₂
  · obtain ⟨_, -, -, hother⟩ := hl.handle hm.codec hm.queries
      (hapart.address f.device hdevice) hasks hE
    exact hd'.elsewhere ha hother

theorem OnBench.noise (hm : MockContracts c codec) (hapart : Apart b.devices)
    (hw : OnBench c b id w)
    (h : Relation.ReflTransGen ((Environment.recorded Process.handle
      (mockSystem c codec)).NoiseStep (keepaliveFeeds c)) w w') :
    OnBench c b id w' ∧ ∀ d ∈ b.devices, ∀ l, OnLine c d l (stack id w) →
      OnLine c d l (stack id w') := by
  refine @Environment.noise_inv _ _ _ _ (fun x => OnBench c b id x ∧
    ∀ d ∈ b.devices, ∀ l, OnLine c d l (stack id w) →
      OnLine c d l (stack id x)) ?_ _ _ h ⟨hw, fun _ _ _ hl => hl⟩
  intro o x r x' ho hx hE
  obtain ⟨hbench, hlines⟩ := hx.1.feed hm hapart ho hE
  exact ⟨hbench, fun d hd l hl => hlines d hd l (hx.2 d hd l hl)⟩

/-- Nor does what leaves the stack as it is, and has nothing more fed. -/
theorem OnBench.congr (hw : OnBench c b id w)
    (hstack : stack id w' = stack id w)
    (hfed : ∀ k, w'.state.keepalive = some k → ∃ k₀,
      w.state.keepalive = some k₀ ∧ k.session = k₀.session ∧
        ∀ f ∈ k.fed, ∃ f₀ ∈ k₀.fed, f.device = f₀.device) :
    OnBench c b id w' := by
  refine ⟨fun d hd => ?_, fun k hk => ?_⟩
  · rw [hstack]
    exact hw.boards d hd
  · obtain ⟨k₀, hk₀, hsession, hdevices⟩ := hfed k hk
    obtain ⟨hid, hall⟩ := hw.fed k₀ hk₀
    refine ⟨hsession.trans hid, fun f hf => ?_⟩
    obtain ⟨f₀, hf₀, heq⟩ := hdevices f hf
    rw [heq]
    exact hall f₀ hf₀

/-- Keeping the books changes nothing. -/
theorem OnBench.book (hm : MockContracts c codec) (hapart : Apart b.devices)
    (hw : OnBench c b id w) {o : ProviderOp} (ho : o.books = true) {r : o.Ans}
    (h : providerEnv c (mockSystem c codec) o w r w') : OnBench c b id w' := by
  obtain ⟨w₁, hnoise, tr, hrun, -⟩ := h
  have hw₁ := (hw.noise hm hapart hnoise).1
  have hkeep : w'.state.keepalive = w₁.state.keepalive → ∀ k,
      w'.state.keepalive = some k → ∃ k₀, w₁.state.keepalive = some k₀ ∧
        k.session = k₀.session ∧
        ∀ f ∈ k.fed, ∃ f₀ ∈ k₀.fed, f.device = f₀.device :=
    fun heq k hk => ⟨k, heq ▸ hk, rfl, fun f hf => ⟨f, hf, rfl⟩⟩
  cases o with
  | io _ _ | publish _ _ _ | makeSession _ _ => cases ho
  | snapshot | session =>
      obtain ⟨-, hans, hbase⟩ := hrun
      have hstate := (Prod.mk.inj hans).2
      refine hw₁.congr ?_ (hkeep (by rw [hstate]))
      unfold stack
      rw [hbase, hstate]
  | recordSafeOutputs _ _ =>
      obtain ⟨-, hans, hbase⟩ := hrun
      have hstate := (Prod.mk.inj hans).2
      refine hw₁.congr ?_ (hkeep (by rw [hstate]; rfl))
      unfold stack
      rw [hbase, hstate]
      rfl
  | steadyNow | checkHost _ =>
      obtain ⟨_, base, _, hsystem, -, -, hans, hlast⟩ := hrun
      have hbase : w'.base = w₁.base := hlast.trans hsystem
      have hstate := (Prod.mk.inj hans).2
      refine hw₁.congr ?_ (hkeep (by rw [hstate]))
      unfold stack
      rw [hbase, hstate]
  | noteContact deviceId =>
      obtain ⟨-, hans, hbase⟩ := hrun
      have hstate := (Prod.mk.inj hans).2
      refine hw₁.congr ?_ fun k hk => ?_
      · unfold stack
        rw [hbase, hstate]
        rfl
      · rw [hstate] at hk
        obtain ⟨k₀, hk₀, rfl⟩ := Option.map_eq_some_iff.mp hk
        refine ⟨k₀, hk₀, rfl, fun f hf => ?_⟩
        obtain ⟨f₀, hf₀, rfl⟩ := List.mem_map.mp hf
        refine ⟨f₀, hf₀, ?_⟩
        split <;> rfl

/-- What a device program comes to against its board, it comes to against the
process, with the bench's board as it leaves it. -/
theorem OnBench.onSession {α : Type} {Q : α → Twin → Prop}
    {p : Program SessionInterface α} (hm : MockContracts c codec)
    (hapart : Apart b.devices) (hdevice : device ∈ b.devices)
    (hw : OnBench c b id w) (hp : p.Every (Asks c device))
    (hQ : ∀ l, l.twin = b.twin device →
      p.Ensures (line c device.type) l fun _ a l' => Q a l'.twin) :
    (onSession id p).Ensures (providerEnv c (mockSystem c codec)) w
      fun _ a w' => ∃ t, Q a t ∧ OnBench c (b.set device t) id w' := by
  intro tr a w' hrun
  obtain ⟨ack, hl⟩ := hw.boards device hdevice
  obtain ⟨t, hrun⟩ := hrun.ofTranslate
  have hstep : ∀ (o : SessionOp) (x : ProviderWorld MockBuses) (l : Line)
      (r : o.Ans) (x' : ProviderWorld MockBuses), Asks c device o →
      OnLine c device l (stack id x) ∧ OnBench c (b.set device l.twin) id x →
      @Environment.through SessionInterface ProviderInterface _
        (fun op => (ProviderOp.io id op).perform)
        (providerEnv c (mockSystem c codec)) o x r x' →
      ∃ l', line c device.type o l r l' ∧ OnLine c device l' (stack id x') ∧
        OnBench c (b.set device l'.twin) id x' := by
    intro o x l r x' ho hx hthrough
    obtain ⟨hl, hbench⟩ := hx
    obtain ⟨_, hperform⟩ := hthrough
    obtain ⟨x₁, hnoise, hrecorded⟩ := (Program.runs_perform.mp hperform).1
    have hapart' : Apart (b.set device l.twin).devices := hapart
    obtain ⟨hbench₁, hlines⟩ := hbench.noise hm hapart' hnoise
    obtain ⟨l', hline, hl', hbench'⟩ := hbench₁.io hm hapart' hdevice
      (hlines device hdevice l hl) ho hrecorded
    rw [Bench.set_set] at hbench'
    exact ⟨l', hline, hl', hbench'⟩
  have hstart : OnBench c (b.set device (b.twin device)) id w := by
    rw [b.set_twin_self]
    exact hw
  obtain ⟨l', hl', -, hbench⟩ := hrun.simulate hp hstep ⟨hl, hstart⟩
  exact ⟨l'.twin, hQ _ rfl _ _ _ hl', hbench⟩

end Operations

/-! ## Requests -/

/-- The process serves the bench: its roster, its session and its boards. -/
structure Embodies (c : Contracts) (b : Bench) (id : Nat)
    (w : ProviderWorld MockBuses) : Prop where
  devices : w.state.state.devices = b.devices
  session : w.state.session = some id
  boards : OnBench c b id w

section Requests

variable {b : Bench} {id : Nat} {device : InventoryDevice}
variable {w w' : ProviderWorld MockBuses}

theorem Embodies.book (hm : MockContracts c codec) (hapart : Apart b.devices)
    (hw : Embodies c b id w) {o : ProviderOp} (ho : o.books = true) {r : o.Ans}
    (h : providerEnv c (mockSystem c codec) o w r w') :
    Embodies c b id w' := by
  have hkeeps : o.Keeps := by
    intro state session keepalive heq
    rw [heq] at ho
    cases ho
  have hsame := providerEnv_keeps hkeeps h
  exact ⟨hsame.devices.trans hw.devices, hsame.session.trans hw.session,
    hw.boards.book hm hapart ho h⟩

theorem Embodies.onSession {α : Type} {Q : α → Twin → Prop}
    {p : Program SessionInterface α} (hm : MockContracts c codec)
    (hapart : Apart b.devices) (hdevice : device ∈ b.devices)
    (hw : Embodies c b id w) (hp : p.Every (Asks c device))
    (hQ : ∀ l, l.twin = b.twin device →
      p.Ensures (line c device.type) l fun _ a l' => Q a l'.twin) :
    (onSession id p).Ensures (providerEnv c (mockSystem c codec)) w
      fun _ a w' => ∃ t, Q a t ∧ Embodies c (b.set device t) id w' := by
  refine ((hw.boards.onSession hm hapart hdevice hp hQ).and
    (keeps_roster (onSession_keeps p id) w)).mono ?_
  intro _ a w' h
  obtain ⟨⟨t, hQ, hboards⟩, hsame⟩ := h
  exact ⟨t, hQ, hsame.devices.trans hw.devices,
    hsame.session.trans hw.session, hboards⟩

/-- There is never anything to recover from. -/
theorem Embodies.handleRecovery (hm : MockContracts c codec)
    (hapart : Apart b.devices) (hdevice : device ∈ b.devices)
    (hw : Embodies c b id w) (config : ProviderConfig) :
    (BreadProviderRuntime.handleRecovery c (some id) device config).Ensures
      (providerEnv c (mockSystem c codec)) w fun _ _ w' =>
        Embodies c b id w' := by
  rw [BreadProviderRuntime.handleRecovery_eq]
  refine Program.ensures_call.mpr fun taken w₁ hE => ?_
  have hkeeps : (ProviderOp.io id (.takeRecovery
      (addressByte device.address))).Keeps := by
    intro state session keepalive heq
    cases heq
  have hsame := providerEnv_keeps hkeeps hE
  obtain ⟨w₂, hnoise, hrecorded⟩ := hE
  obtain ⟨rfl, hboards⟩ :=
    (hw.boards.noise hm hapart hnoise).1.take hapart hdevice hrecorded
  exact Program.ensures_ret.mpr ⟨hsame.devices.trans hw.devices,
    hsame.session.trans hw.session, hboards⟩

theorem Embodies.read (hm : MockContracts c codec) (hapart : Apart b.devices)
    (hw : Embodies c b id w) (deviceId : String) (ids : List String) :
    (BreadProviderRuntime.read c deviceId ids).Ensures
      (providerEnv c (mockSystem c codec)) w fun _ br w' =>
        br = b.read c deviceId ids ∧ Embodies c b id w' := by
  rw [BreadProviderRuntime.read_eq]
  refine Program.ensures_call.mpr fun state w₁ hE => ?_
  obtain ⟨-, hstate⟩ := providerEnv_snapshot hE
  have hw₁ := hw.book hm hapart rfl hE
  rw [hstate, hw.devices, Bench.read]
  cases hfind : findDevice b.devices deviceId with
  | none => exact Program.ensures_ret.mpr ⟨rfl, hw₁⟩
  | some device =>
      have hdevice := (findDevice_id hfind).1
      refine Program.ensures_call.mpr fun _ w₂ hE => ?_
      have hw₂ := hw₁.book hm hapart rfl hE
      refine Program.ensures_call.mpr fun session w₃ hE => ?_
      obtain ⟨-, hsession⟩ := providerEnv_session hE
      have hw₃ := hw₂.book hm hapart rfl hE
      rw [hsession, hw₂.session]
      refine (hw₃.onSession (Q := fun br t =>
          br = (b.twin device).reading c device ids ∧ t = b.twin device)
        hm hapart hdevice (readSignals_asks ids) ?_).bind ?_
      · intro l hl
        refine (readSignals_line device ids l).mono fun _ br l' h => ?_
        obtain ⟨rfl, rfl⟩ := h
        rw [hl]
        exact ⟨rfl, rfl⟩
      · intro _ br w₄ hread
        obtain ⟨t, ⟨rfl, rfl⟩, hw₄⟩ := hread
        rw [b.set_twin_self] at hw₄
        split
        · exact (hw₄.handleRecovery hm hapart hdevice _).bind
            fun _ _ _ hw₅ => Program.ensures_ret.mpr ⟨rfl, hw₅⟩
        · exact Program.ensures_ret.mpr ⟨rfl, hw₄⟩

theorem Embodies.callDevice (hm : MockContracts c codec)
    (hapart : Apart b.devices) (hdevice : device ∈ b.devices)
    (hw : Embodies c b id w) (functionId : Nat) (args : ValueMap) :
    (BreadProviderRuntime.callDevice c (some id) device functionId
      args).Ensures (providerEnv c (mockSystem c codec)) w fun _ br w' =>
        ∃ t, (br, t) = (b.twin device).call c device functionId args ∧
          Embodies c (b.set device t) id w' := by
  unfold BreadProviderRuntime.callDevice Twin.call
  cases hbuild : (adapterFor c device.type).buildFrame functionId args with
  | error refused =>
      refine Program.ensures_ret.mpr ⟨b.twin device, rfl, ?_⟩
      rw [b.set_twin_self]
      exact hw
  | ok frame =>
      have hframe := buildFrame_isCommand hm.payloads hm.reserved hbuild
      refine hw.onSession hm hapart hdevice (transmit_asks hframe) ?_
      intro l hl
      refine (transmit_line hm.ack hm.queries device frame l).mono ?_
      intro _ res l' h
      rw [h, hl]

theorem Embodies.call (hm : MockContracts c codec) (hapart : Apart b.devices)
    (hw : Embodies c b id w) (deviceId : String) (functionId : Nat)
    (args : ValueMap) :
    (BreadProviderRuntime.call c deviceId functionId args).Ensures
      (providerEnv c (mockSystem c codec)) w fun _ br w' => ∃ b',
        (br, b') = b.call c deviceId functionId args ∧ Embodies c b' id w' := by
  rw [BreadProviderRuntime.call_eq]
  refine Program.ensures_call.mpr fun state w₁ hE => ?_
  obtain ⟨-, hstate⟩ := providerEnv_snapshot hE
  have hw₁ := hw.book hm hapart rfl hE
  rw [hstate, hw.devices, Bench.call]
  cases hfind : findDevice b.devices deviceId with
  | none => exact Program.ensures_ret.mpr ⟨b, rfl, hw₁⟩
  | some device =>
      have hdevice := (findDevice_id hfind).1
      refine Program.ensures_call.mpr fun _ w₂ hE => ?_
      have hw₂ := hw₁.book hm hapart rfl hE
      dsimp only
      by_cases hexists : (!functionExists device functionId "") = true
      · rw [if_pos hexists, if_pos hexists]
        exact Program.ensures_ret.mpr ⟨b, rfl, hw₂⟩
      rw [if_neg hexists, if_neg hexists]
      refine Program.ensures_call.mpr fun session w₃ hE => ?_
      obtain ⟨-, hsession⟩ := providerEnv_session hE
      have hw₃ := hw₂.book hm hapart rfl hE
      rw [hsession, hw₂.session]
      refine (hw₃.callDevice hm hapart hdevice functionId args).bind ?_
      intro _ br w₄ hcall
      obtain ⟨t, ht, hw₄⟩ := hcall
      rw [← ht]
      have hapart : Apart (b.set device t).devices := hapart
      split
      · refine Program.ensures_call.mpr fun session w₅ hE => ?_
        obtain ⟨-, hsession⟩ := providerEnv_session hE
        have hw₅ := hw₄.book hm hapart rfl hE
        rw [hsession, hw₄.session]
        exact (hw₅.handleRecovery hm hapart hdevice _).bind
          fun _ _ _ hw₆ => Program.ensures_ret.mpr ⟨_, rfl, hw₆⟩
      · exact Program.ensures_ret.mpr ⟨_, rfl, hw₄⟩

theorem Embodies.deviceHealth (hm : MockContracts c codec)
    (hapart : Apart b.devices) (harmed : b.Armed c) (hw : Embodies c b id w)
    (deviceId : String) :
    (BreadProviderRuntime.deviceHealth c deviceId).Ensures
      (providerEnv c (mockSystem c codec)) w fun _ _ w' =>
        Embodies c b id w' := by
  rw [BreadProviderRuntime.deviceHealth_eq]
  refine Program.ensures_call.mpr fun state w₁ hE => ?_
  obtain ⟨-, hstate⟩ := providerEnv_snapshot hE
  have hw₁ := hw.book hm hapart rfl hE
  rw [hstate, hw.devices]
  cases hfind : findDevice b.devices deviceId with
  | none => exact Program.ensures_ret.mpr hw₁
  | some device =>
      have hdevice := (findDevice_id hfind).1
      refine Program.ensures_call.mpr fun session w₂ hE => ?_
      obtain ⟨-, hsession⟩ := providerEnv_session hE
      have hw₂ := hw₁.book hm hapart rfl hE
      rw [hsession, hw₁.session]
      refine (hw₂.onSession (Q := fun _ t => t = b.twin device) hm hapart
        hdevice (sessionHealth_asks (armFrame_isCommand hm.reserved device) _)
        fun l hl => sessionHealth_line (harmed.rearm hm.opcodes hdevice) _
          hl).mono ?_
      intro _ extra w₃ h
      obtain ⟨t, rfl, hw₃⟩ := h
      rw [b.set_twin_self] at hw₃
      exact hw₃

/-- A request is served as the bench would serve it. -/
theorem Embodies.serve (hm : MockContracts c codec) (hapart : Apart b.devices)
    (harmed : b.Armed c) (hw : Embodies c b id w) (request : Request) :
    (serve c request).Ensures (providerEnv c (mockSystem c codec)) w
      fun _ response w' => ∃ b', b.Serves c request response b' ∧
        Embodies c b' id w' := by
  cases request with
  | read deviceId ids =>
      refine (hw.read hm hapart deviceId ids).bind fun _ br w₁ h => ?_
      exact Program.ensures_ret.mpr ⟨b, ⟨h.1, rfl⟩, h.2⟩
  | call deviceId functionId args =>
      refine (hw.call hm hapart deviceId functionId args).bind
        fun _ br w₁ h => ?_
      obtain ⟨b', hcall, hw₁⟩ := h
      exact Program.ensures_ret.mpr ⟨b', hcall, hw₁⟩
  | deviceHealth deviceId =>
      refine (hw.deviceHealth hm hapart harmed deviceId).bind
        fun _ extra w₁ hw₁ => ?_
      exact Program.ensures_ret.mpr ⟨b, rfl, hw₁⟩

end Requests

/-! ## The bench keeps its shape -/

/-- A call leaves the timeout of its board. -/
theorem Twin.call_timeout (hop : c.OpcodesDistinct) (device : InventoryDevice)
    (t : Twin) (functionId : Nat) (args : ValueMap) :
    (t.call c device functionId args).2.watchdogTimeoutMs
      = t.watchdogTimeoutMs := by
  unfold Twin.call
  split
  · rfl
  · rename_i frame hbuild
    unfold Twin.transmit
    split
    · rfl
    · refine Twin.run_timeout fun heq => ?_
      refine functionOpcode_ne_setWatchdog hop device.type functionId ?_
      rw [buildFrame_opcode hbuild, heq]

theorem Bench.call_kept (hop : c.OpcodesDistinct) {b : Bench}
    (hapart : Apart b.devices) (harmed : b.Armed c) (deviceId : String)
    (functionId : Nat) (args : ValueMap) :
    (b.call c deviceId functionId args).2.devices = b.devices ∧
      (b.call c deviceId functionId args).2.Armed c := by
  unfold Bench.call
  cases hfind : findDevice b.devices deviceId with
  | none => exact ⟨rfl, harmed⟩
  | some device =>
      dsimp only
      split
      · exact ⟨rfl, harmed⟩
      · refine ⟨rfl, harmed.set (hapart.own device (findDevice_id hfind).1) ?_⟩
        exact Twin.call_timeout hop device _ _ _

theorem Bench.Serves.kept (hop : c.OpcodesDistinct) {b b' : Bench}
    {request : Request} {response : Response}
    (h : b.Serves c request response b') (hapart : Apart b.devices)
    (harmed : b.Armed c) : b'.devices = b.devices ∧ b'.Armed c := by
  cases request with
  | read deviceId ids =>
      cases response with
      | read br =>
          obtain rfl := h.2
          exact ⟨rfl, harmed⟩
      | call br | deviceHealth extra => exact h.elim
  | call deviceId functionId args =>
      cases response with
      | call br =>
          obtain rfl : b' = _ := (Prod.mk.inj h).2
          exact Bench.call_kept hop hapart harmed deviceId functionId args
      | read br | deviceHealth extra => exact h.elim
  | deviceHealth deviceId =>
      cases response with
      | deviceHealth extra =>
          obtain rfl : b' = b := h
          exact ⟨rfl, harmed⟩
      | read br | call br => exact h.elim

/-! ## Start-up -/

section Start

variable {config : ProviderConfig} {b : Bench} {id : Nat}
variable {w w' : ProviderWorld MockBuses}

theorem OnBench.drive (hm : MockContracts c codec) (hapart : Apart b.devices)
    {device : InventoryDevice} (hdevice : device ∈ b.devices)
    (hw : OnBench c b id w) :
    (BreadProvider.onSession id (SafeOutputs.drive c device)).Ensures
      (providerEnv c (mockSystem c codec)) w fun _ _ w' =>
        OnBench c (b.set device ((b.twin device).runAll c device.type
          (SafeOutputs.safeFrames c device.type))) id w' := by
  have hsteps := SafeOutputs.steps_unrefused hm.opcodes device
  have hframes := safeFrames_isCommand hm.reserved device.type
  refine (hw.onSession (Q := fun _ t => t = (b.twin device).runAll c device.type
      (SafeOutputs.safeFrames c device.type)) hm hapart hdevice
    (driveSteps_asks hsteps hframes {}) fun l hl => ?_).mono ?_
  · refine (driveSteps_line hm.ack hm.queries hsteps {} l).mono ?_
    intro _ result l' h
    rw [h, hl]
  · intro _ result w' h
    obtain ⟨t, rfl, hw'⟩ := h
    exact hw'

theorem OnBench.applyOutputsPolicy (hm : MockContracts c codec)
    {devices : List InventoryDevice} (hapart : Apart b.devices)
    (hsub : ∀ d ∈ devices, d ∈ b.devices) (hw : OnBench c b id w)
    (metrics : StringMap) :
    (Runtime.applyOutputsPolicy c id config devices metrics).Ensures
      (providerEnv c (mockSystem c codec)) w fun _ _ w' =>
        OnBench c (devices.foldl (Bench.driven c config) b) id w' := by
  induction devices generalizing b metrics w with
  | nil => exact Program.ensures_ret.mpr hw
  | cons device rest ih =>
      have hrest : ∀ d ∈ rest, d ∈ b.devices :=
        fun d hd => hsub d (List.mem_cons_of_mem _ hd)
      have hdevice := hsub device List.mem_cons_self
      rw [Runtime.applyOutputsPolicy, List.foldl_cons, Bench.driven]
      by_cases hleave : config.outputsOnStartup = .leave
      · rw [if_pos hleave, if_pos hleave]
        exact ih hapart hrest hw _
      · rw [if_neg hleave, if_neg hleave]
        have hset : ∀ t, Apart (b.set device t).devices := fun _ => hapart
        refine (hw.drive hm hapart hdevice).bind fun _ result w₁ hw₁ => ?_
        exact ih (hset _) hrest hw₁ _

theorem OnBench.armAll (hm : MockContracts c codec)
    {devices : List InventoryDevice} (hapart : Apart b.devices)
    (hsub : ∀ d ∈ devices, d ∈ b.devices) (hw : OnBench c b id w) :
    (Runtime.armAll c id devices).Ensures
      (providerEnv c (mockSystem c codec)) w fun _ _ w' =>
        OnBench c (devices.foldl (Bench.armed c) b) id w' := by
  induction devices generalizing b w with
  | nil => exact Program.ensures_ret.mpr hw
  | cons device rest ih =>
      have hrest : ∀ d ∈ rest, d ∈ b.devices :=
        fun d hd => hsub d (List.mem_cons_of_mem _ hd)
      have hdevice := hsub device List.mem_cons_self
      have harmed : (BreadProvider.onSession id
          (Watchdog.armIfConfigured c device)).Ensures
          (providerEnv c (mockSystem c codec)) w fun _ _ w' =>
            OnBench c (b.armed c device) id w' := by
        refine (hw.onSession (Q := fun _ t => t = if Watchdog.Arms c device then
            (b.twin device).run c device.type (Watchdog.armFrame c device)
          else b.twin device) hm hapart hdevice
          (armIfConfigured_asks (armFrame_isCommand hm.reserved device))
          fun l hl => ?_).mono ?_
        · refine (armIfConfigured_line device l).mono fun _ _ l' h => ?_
          rw [h, hl]
        · intro _ _ w' h
          obtain ⟨t, rfl, hw'⟩ := h
          rw [Bench.armed]
          split_ifs at hw' ⊢
          · exact hw'
          · rwa [b.set_twin_self] at hw'
      rw [Runtime.armAll, List.foldl_cons]
      have hsame := b.armed_devices c device
      refine harmed.bind fun _ _ w₁ hw₁ => ih ?_ ?_ hw₁
      · rw [hsame]
        exact hapart
      · rw [hsame]
        exact hrest

/-- A start-up ends serving the bench it has driven and armed. -/
theorem finishStartup_embodies (hm : MockContracts c codec)
    (hapart : Apart b.devices) (hw : OnBench c b id w) {state : RuntimeState}
    (hstate : state.devices = b.devices) :
    (Runtime.finishStartup c id state).Ensures
      (providerEnv c (mockSystem c codec)) w fun _ _ w' => Embodies c
        (state.devices.foldl (Bench.armed c)
          (state.devices.foldl (Bench.driven c state.config) b)) id w' := by
  let driven := state.devices.foldl (Bench.driven c state.config) b
  let armed := state.devices.foldl (Bench.armed c) driven
  have hdriven : driven.devices = b.devices := b.driven_foldl_devices c _ _
  have harmed : armed.devices = b.devices :=
    (driven.armed_foldl_devices c _).trans hdriven
  unfold Runtime.finishStartup
  refine (hw.applyOutputsPolicy hm hapart (fun _ hd => hstate ▸ hd) ∅).bind
    fun _ safeOutputs w₁ hw₁ => ?_
  have hapart₁ : Apart driven.devices := hdriven ▸ hapart
  have hsub : ∀ d ∈ state.devices, d ∈ driven.devices := by
    rw [hdriven, hstate]
    exact fun _ hd => hd
  refine (hw₁.armAll hm hapart₁ hsub).bind fun _ _ w₂ hw₂ => ?_
  have hapart₂ : Apart armed.devices := harmed ▸ hapart
  refine Program.ensures_call.mpr fun armedAt w₃ hE => ?_
  have hw₃ : OnBench c armed id w₃ := hw₂.book hm hapart₂ rfl hE
  refine Program.ensures_call.mpr fun _ w₄ hE => Program.ensures_ret.mpr ?_
  obtain ⟨hpublished, hsession⟩ := providerEnv_publish hE
  refine ⟨?_, hsession, ?_⟩
  · rw [hpublished]
    exact hstate.trans harmed.symm
  · obtain ⟨w₅, hnoise, _, ⟨-, hans, hbase⟩, -⟩ := hE
    have hw₅ := (hw₃.noise hm hapart₂ hnoise).1
    have hprocess := (Prod.mk.inj hans).2
    refine ⟨fun d hd => ?_, fun k hk => ?_⟩
    · obtain ⟨ack, hl⟩ := hw₅.boards d hd
      refine ⟨ack, ?_⟩
      unfold stack at hl ⊢
      rw [hbase, hprocess]
      exact hl
    · -- The keepalive of this start-up, for devices of the roster.
      rw [hprocess] at hk
      obtain rfl := Option.some.inj hk
      refine ⟨rfl, fun f hf => ?_⟩
      obtain ⟨d, hd, rfl⟩ := List.mem_map.mp hf
      rw [harmed]
      exact hstate ▸ (List.mem_filter.mp hd).1

theorem seeded_apart (hvalid : config.Valid) :
    Apart (buildSeedInventory c config) where
  address _ hd := (seededRoster hvalid hd).address
  own _ hd d' hd' h := (seededRoster hvalid hd).own d' hd' h

/-- The bus is seeded with boards that have run nothing. -/
theorem MockOpened.onBench (hvalid : config.Valid)
    (h : MockOpened c config w) :
    OnBench c { devices := buildSeedInventory c config } 0 w := by
  refine ⟨fun d hd => ⟨⟨0, 0, 0, 0⟩, ?_⟩, fun k hk => ?_⟩
  · refine ⟨?_, h.isOpen, ?_, { typeId := breadTypeId c d.type }, ?_, ?_⟩
    · rw [stack, h.session]
      exact ⟨rfl, rfl⟩
    · rw [stack, h.bus]
    · rw [stack, h.bus]
      exact cannedRoster_device hvalid hd
    · exact ⟨rfl, rfl, rfl, rfl, rfl, rfl, rfl, rfl⟩
  · rw [h.keepalive] at hk
    cases hk

theorem start_embodies (hm : MockContracts c codec) (hvalid : config.Valid)
    (hmock : Runtime.isMockMode config = true)
    (hclean : c.faultSpecAny (c.splitBusQuery config.busPath).2 = .ok false)
    (base : MockBuses) (budgetMs : Int) :
    (Runtime.initializeRuntime c config budgetMs).Ensures
      (providerEnv c (mockSystem c codec)) (freshWorld base) fun _ _ w' =>
        Embodies c (Bench.start c config) 0 w' :=
  start_opens hvalid hmock hclean (fun _ hw => finishStartup_embodies hm
    (seeded_apart hvalid) (hw.onBench hvalid) rfl) base budgetMs

theorem Bench.start_armed (hop : c.OpcodesDistinct) (hvalid : config.Valid) :
    (Bench.start c config).Armed c := by
  let devices := buildSeedInventory c config
  let driven := devices.foldl (Bench.driven c config) { devices }
  have hdriven : driven.devices = devices := Bench.driven_foldl_devices c _ _ _
  have hstart : (Bench.start c config).devices = devices :=
    (driven.armed_foldl_devices c devices).trans hdriven
  intro d hd harms
  rw [hstart] at hd
  refine Bench.armed_foldl hop (fun e he => ?_) ?_ ?_ (.inl hd) harms
  · rw [hdriven]
    exact he
  · rw [hdriven]
    exact (seeded_apart hvalid).own
  · rw [hdriven]
    exact hd

end Start

/-! ## Whole runs -/

/-- The bench serves the requests of a history, with its responses. -/
inductive Bench.Run (c : Contracts) : Bench → List Done → Bench → Prop where
  | nil (b : Bench) : Run c b [] b
  | serve {b b₁ b' : Bench} {done : Done} {rest : List Done}
      {request : Request} {response : Response}
      (htask : done.task = .serve request)
      (hresponse : done.response = some response)
      (hserves : b.Serves c request response b₁) (hrest : Run c b₁ rest b') :
      Run c b (done :: rest) b'

theorem served_run {b : Bench} {id : Nat} {w w' : ProviderWorld MockBuses}
    {served : List Done} (hm : MockContracts c codec)
    (hapart : Apart b.devices) (harmed : b.Armed c) (hw : Embodies c b id w)
    (hrun : ProviderRun c (mockSystem c codec) w served w')
    (hserve : ∀ done ∈ served, ∃ request, done.task = .serve request) :
    ∃ b', b.Run c served b' ∧ b'.devices = b.devices ∧
      Embodies c b' id w' := by
  induction served generalizing b w with
  | nil =>
      obtain rfl := hrun.eq_of_nil
      exact ⟨b, .nil b, rfl, hw⟩
  | cons done rest ih =>
      obtain ⟨w₁, tr, steps, hfirst, -, hrest⟩ := hrun.uncons
      obtain ⟨request, htask⟩ := hserve done List.mem_cons_self
      rw [htask] at hfirst
      obtain ⟨t₁, response, w₂, t₂, hserved, ⟨-, hresponse, rfl⟩, -⟩ :=
        Program.runs_bind.mp hfirst
      obtain ⟨b₁, hserves, hw₁⟩ :=
        hw.serve hm hapart harmed request _ _ _ hserved
      obtain ⟨hdevices, harmed₁⟩ := hserves.kept hm.opcodes hapart harmed
      obtain ⟨b', hrest', hdevices', hw'⟩ := ih (hdevices ▸ hapart) harmed₁ hw₁
        hrest fun d hd => hserve d (List.mem_cons_of_mem _ hd)
      exact ⟨b', .serve htask hresponse hserves hrest',
        hdevices'.trans hdevices, hw'⟩

theorem Embodies.twin {b : Bench} {id : Nat} {w : ProviderWorld MockBuses}
    (hw : Embodies c b id w) {device : InventoryDevice}
    (hdevice : device ∈ b.devices) :
    ∃ dev, cannedDevice w device = some dev ∧
      Twin.ofDevice dev = b.twin device := by
  obtain ⟨ack, hl⟩ := hw.boards.boards device hdevice
  obtain ⟨dev, hdev, hholds⟩ := hl.held
  refine ⟨dev, ?_, ?_⟩
  · rw [cannedDevice, hw.session]
    exact hdev
  · rw [Twin.ofDevice, hholds.outputs, hholds.timeout]

/-- A mock provider without faults is its bench: whatever requests it serves
once started, and whenever its keepalive feeds, the responses are those of the
bench from its start on, and every canned device is then as its board is. -/
theorem mock_run_refines_bench (hm : MockContracts c codec)
    {config : ProviderConfig} (hvalid : config.Valid)
    (hmock : Runtime.isMockMode config = true)
    (hclean : c.faultSpecAny (c.splitBusQuery config.busPath).2 = .ok false)
    {base : MockBuses} {history : List Done} {w : ProviderWorld MockBuses}
    (hrun : ProviderRun c (mockSystem c codec) (freshWorld base) history w)
    (hhistory : MockHistory config history) :
    ∃ b, (Bench.start c config).Run c history.tail b ∧
      ∀ device ∈ buildSeedInventory c config, ∃ dev,
        cannedDevice w device = some dev ∧
          Twin.ofDevice dev = b.twin device := by
  obtain ⟨started, served, budgetMs, rfl, hstart, hserve⟩ := hhistory
  obtain ⟨w₁, tr, steps, hfirst, -, hrest⟩ := hrun.uncons
  rw [hstart] at hfirst
  obtain ⟨t₁, _, w₂, t₂, hinit, ⟨-, -, rfl⟩, -⟩ := Program.runs_bind.mp hfirst
  have hw := start_embodies hm hvalid hmock hclean base budgetMs _ _ _ hinit
  have hdevices : (Bench.start c config).devices
      = buildSeedInventory c config := Bench.start_devices c config
  obtain ⟨b, hserved, hsame, hw'⟩ := served_run hm
    (hdevices ▸ seeded_apart hvalid) (Bench.start_armed hm.opcodes hvalid) hw
    hrest hserve
  refine ⟨b, hserved, fun device hdevice => hw'.twin ?_⟩
  rw [hsame, hdevices]
  exact hdevice

theorem Reference.mockContracts : MockContracts .reference Reference.codec where
  codec := codec_lawful
  ack := ackRoundTrip
  queries := queriesDistinct
  opcodes := opcodesDistinct
  reserved := setReplyReserved
  payloads := payloadLayout

open Reference in
/-- A stirrer is started, and put in a closed loop. -/
theorem mock_run_refines_bench_stirrer : ∃ done b,
    done.task = .serve (.call "stirrer" 3 (modeArgs "closed_position")) ∧
    (Bench.start .reference stirrerConfig).Run .reference [done] b := by
  obtain ⟨first, w₁, hfirst, htask₁, -, -, -⟩ := stirrer_start_runs
  obtain ⟨done, w, htask, -, -, -, hrun⟩ := hfirst.runTask
    (.serve (.call "stirrer" 3 (modeArgs "closed_position")))
  have hhistory : MockHistory stirrerConfig [first, done] :=
    ⟨first, [done], 0, rfl, htask₁, by simp [htask]⟩
  obtain ⟨b, hb, -⟩ := mock_run_refines_bench mockContracts stirrerConfig_valid
    stirrerConfig_mock (by decide +kernel) hrun hhistory
  exact ⟨done, b, htask, hb⟩

end BreadProvider
