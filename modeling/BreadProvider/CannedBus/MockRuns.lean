import BreadProvider.CannedBus.MockReads
import BreadProvider.Runtime.Permitted

/-!
# Provider — whole runs of a mock provider

A mock provider is started once and then serves requests. Which of its reads
are ok, and in which runs all of them.
-/

namespace BreadProvider

open Interaction Inventory CrumbsCannedBus

section Mock

variable {c : Contracts} {codec : CrumbsCodec}

/-- One start under `config`, then requests. -/
def MockHistory (config : ProviderConfig) (history : List Done) : Prop :=
  ∃ started served budgetMs, history = started :: served ∧
    started.task = .start config budgetMs ∧
    ∀ done ∈ served, ∃ request, done.task = .serve request

/-- A request that puts a DCMT with encoders into a closed loop. -/
def Request.PutsClosed (device : InventoryDevice) (request : Request) : Prop :=
  device.type = .dcmt ∧ device.encoders = true ∧ request.AsksClosed device

/-- The canned device of a roster entry. -/
def cannedDevice (w : ProviderWorld MockBuses) (device : InventoryDevice) :
    Option DeviceState :=
  w.state.session.bind fun id =>
    (w.base id).2.devices (addressByte device.address)

/-- A read of these signals, next, returns, and always ok. -/
def ReadsOk (c : Contracts) (codec : CrumbsCodec)
    (w : ProviderWorld MockBuses) (device : InventoryDevice)
    (ids : List String) : Prop :=
  let task := ProviderTask.serve (.read device.id ids)
  let E := providerEnv c (mockSystem c codec)
  (∃ tr response w', (task.program c).Runs E w tr response w') ∧
    ∀ tr response w', (task.program c).Runs E w tr response w' →
      ∃ br, response = some (.read br) ∧ br.ok = true

theorem mockSystem_responsive : (mockSystem c codec).Responsive := by
  intro o m
  cases o with
  | steadyNow => exact ⟨(0 : Int), m, rfl⟩
  | checkHost _ => exact ⟨({} : HostReport), m, rfl⟩
  | makeTransport id bus =>
      cases bus with
      | canned _ devices => exact ⟨(), _, rfl⟩
      | linux _ _ | faulty _ _ _ => exact ⟨(), _, ({}, {}), rfl⟩
  | bus id op =>
      obtain ⟨r, x, hr⟩ :=
        ((Environment.answering_responsive _).lower _ :
          (mockTransport c codec).Responsive) op (m id)
      exact ⟨r, _, x, hr, rfl⟩

theorem providerEnv_responsive :
    (providerEnv c (mockSystem c codec)).Responsive :=
  (mockSystem_responsive.recorded _).noisy _

/-! ## The canned buses as a function -/

/-- The canned buses as a function, with a clock that stands still. -/
def mockAnswer (c : Contracts) (codec : CrumbsCodec) :
    (o : SystemOp) → MockBuses → o.Ans × MockBuses
  | .steadyNow, m => ((0 : Int), m)
  | .checkHost _, m => (({} : HostReport), m)
  | .makeTransport id (.canned _ devices), m =>
      ((), Function.update m id ({}, seededBus devices))
  | .makeTransport id _, m => ((), Function.update m id ({}, {}))
  | .bus id op, m =>
      let x := (CrumbsTransport.handle codec op (m id).1).exec
        (answer c codec) (m id).2
      (x.1.1, Function.update m id (x.1.2, x.2))

theorem mockAnswer_system (o : SystemOp) (m : MockBuses) :
    mockSystem c codec o m (mockAnswer c codec o m).1
      (mockAnswer c codec o m).2 := by
  cases o with
  | steadyNow | checkHost _ => rfl
  | makeTransport id bus =>
      cases bus with
      | canned _ devices => rfl
      | linux _ _ | faulty _ _ _ => exact ⟨_, rfl⟩
  | bus id op =>
      let x := (CrumbsTransport.handle codec op (m id).1).exec
        (answer c codec) (m id).2
      obtain ⟨tr, hr⟩ := Program.exec_runs (h := answer c codec)
        (CrumbsTransport.handle codec op (m id).1) (m id).2
      exact ⟨(x.1.2, x.2), ⟨tr, hr⟩, rfl⟩

/-- Run a task on the mock stack. -/
def runTask (c : Contracts) (codec : CrumbsCodec) (task : ProviderTask)
    (p : Process) (m : MockBuses) : (Option Response × Process) × MockBuses :=
  ((task.program c).interp Process.handle p).exec (mockAnswer c codec) m

theorem runTask_runs (task : ProviderTask) (w : ProviderWorld MockBuses) :
    ∃ tr w' steps, (task.program c).Runs (providerEnv c (mockSystem c codec)) w
        tr (runTask c codec task w.state w.base).1.1 w' ∧
      w'.state = (runTask c codec task w.state w.base).1.2 ∧
      w'.base = (runTask c codec task w.state w.base).2 ∧
      w'.record = w.record ++ steps := by
  obtain ⟨_, hexec⟩ := Program.exec_runs (h := mockAnswer c codec)
    ((task.program c).interp Process.handle w.state) w.base
  have himp : ∀ (o : SystemOp) m (r : o.Ans) m',
      @Environment.answering SystemInterface _ (mockAnswer c codec) o m r m' →
      mockSystem c codec o m r m' := by
    intro o m r m' h
    have h : mockAnswer c codec o m = (r, m') := h
    have hstep := @mockAnswer_system c codec o m
    rwa [h] at hstep
  obtain ⟨t, ht⟩ := (hexec.mono himp).ofInterp
  have hstep : ∀ (o : ProviderOp) (x : Process × MockBuses)
      (w : ProviderWorld MockBuses) (r : o.Ans) (x' : Process × MockBuses),
      True → w.state = x.1 ∧ w.base = x.2 →
      Environment.lower Process.handle (mockSystem c codec) o x r x' →
      ∃ w', providerEnv c (mockSystem c codec) o w r w' ∧
        w'.state = x'.1 ∧ w'.base = x'.2 := by
    intro o x w r x' _ hx hE
    obtain ⟨tr, hr⟩ := hE
    rw [← hx.1, ← hx.2] at hr
    exact ⟨_, providerEnv_alone hr, rfl, rfl⟩
  obtain ⟨w', hrun, hstate, hbase⟩ := ht.simulate (Program.every_true _)
    hstep ⟨rfl, rfl⟩
  have hfeed : ∀ (x : ProviderWorld MockBuses) (o : ProviderOp),
      keepaliveFeeds c x o → o.Feed := fun _ _ => keepaliveFeeds_feed
  obtain ⟨steps, hrecord, -⟩ :=
    @Program.Runs.interleaves _ _ _ _ _ Process.handle _ ProviderOp.Feed
      (keepaliveFeeds c) hfeed _ _ _ _ _ hrun
  exact ⟨t, w', steps, hrun, hstate, hbase, hrecord⟩

/-- One more task, by the function. -/
theorem ProviderRun.runTask {w₀ w : ProviderWorld MockBuses}
    {history : List Done} (task : ProviderTask)
    (hrun : ProviderRun c (mockSystem c codec) w₀ history w) :
    ∃ done w', done.task = task ∧
      done.response = (runTask c codec task w.state w.base).1.1 ∧
      w'.state = (runTask c codec task w.state w.base).1.2 ∧
      w'.base = (runTask c codec task w.state w.base).2 ∧
      ProviderRun c (mockSystem c codec) w₀ (history ++ [done]) w' := by
  obtain ⟨tr, w', steps, htask, hstate, hbase, hrecord⟩ :=
    @runTask_runs c codec task w
  exact ⟨_, w', rfl, rfl, hstate, hbase, .task hrun htask hrecord⟩

section Run

variable {config : ProviderConfig} {device : InventoryDevice}
variable {P : UInt8 → Prop} {base : MockBuses} {w : ProviderWorld MockBuses}

/-- Where every request leaves the mode in `P`, a run does. -/
theorem mockRun_serving (hcodec : codec.Lawful) (hop : c.OpcodesDistinct)
    (hvalid : config.Valid) (hmock : Runtime.isMockMode config = true)
    (hclean : c.faultSpecAny (c.splitBusQuery config.busPath).2 = .ok false)
    (hdevice : device ∈ buildSeedInventory c config) (hzero : P 0)
    (hopen : P c.dcmt.modeOpenLoop) {history : List Done}
    (hrun : ProviderRun c (mockSystem c codec) (freshWorld base) history w)
    (hhistory : MockHistory config history)
    (hframes : ∀ done ∈ history, ∀ request, done.task = .serve request →
      device.id = request.deviceId → ∀ frame,
        ServedFrame c request device frame →
          KeepsMode c device.type P frame) :
    MockServing c (buildSeedInventory c config) 0 device P w := by
  obtain ⟨started, served, budgetMs, rfl, hstart, hserve⟩ := hhistory
  obtain ⟨w₁, tr, steps, hfirst, -, hrest⟩ := hrun.uncons
  rw [hstart] at hfirst
  obtain ⟨t₁, _, w₂, t₂, hinit, ⟨-, -, rfl⟩, -⟩ := Program.runs_bind.mp hfirst
  have hserving := start_serving hcodec hop hvalid hmock hclean hdevice hzero
    hopen base budgetMs _ _ _ hinit
  have hroster := seededRoster hvalid hdevice
  refine (@ProviderRun.inv c _ _ (fun task => ∃ done ∈ served, task = done.task)
    (MockServing c (buildSeedInventory c config) 0 device P) (fun _ => True)
    ?_ _ _ _ hrest (fun done hdone => ⟨done, hdone, rfl⟩) hserving).1
  intro task w tr response w' steps htask hw hrun _
  obtain ⟨done, hdone, rfl⟩ := htask
  obtain ⟨request, hrequest⟩ := hserve done hdone
  rw [hrequest] at hrun
  obtain ⟨t₁, _, w₂, t₂, hserved, ⟨-, -, rfl⟩, -⟩ := Program.runs_bind.mp hrun
  have hkept := hw.request hcodec hroster.own
    (hframes done (List.mem_cons_of_mem _ hdone) request hrequest)
  exact ⟨hkept _ _ _ hserved, trivial⟩

/-- What the next read makes of the mode it finds. -/
theorem MockServing.readsOk_iff (hcodec : codec.Lawful) (hc : c.StateLayout)
    (hroster : SeededRoster c config device) {mode : UInt8}
    (hw : MockServing c (buildSeedInventory c config) 0 device (· = mode) w)
    (ids : List String) :
    ReadsOk c codec w device ids ↔ Readable c device.type mode := by
  have hestop : device.type = .rlht →
      hasFlag device.capabilityProfile.flags c.rlht.capEstopCount = false := by
    intro hrlht
    rw [hroster.flags hrlht]
    exact hc.rlhtBaseline
  have hread : ∀ tr response w',
      ((ProviderTask.serve (.read device.id ids)).program c).Runs
        (providerEnv c (mockSystem c codec)) w tr response w' →
      ∃ br, response = some (.read br) ∧
        (br.ok = true ↔ Readable c device.type mode) := by
    intro tr response w' hrun
    obtain ⟨_, served, _, _, hserve, ⟨-, rfl, -⟩, -⟩ :=
      Program.runs_bind.mp hrun
    obtain ⟨_, br, _, _, hbr, ⟨-, rfl, -⟩, -⟩ := Program.runs_bind.mp hserve
    exact ⟨br, rfl, hw.read hcodec hc hroster.address hestop hroster.found ids
      _ _ _ hbr⟩
  have hreturns := (@providerEnv_responsive c codec).run
    ((ProviderTask.serve (.read device.id ids)).program c) w
  constructor
  · intro hok
    obtain ⟨tr, response, w', hrun⟩ := hreturns
    obtain ⟨br, rfl, hiff⟩ := hread _ _ _ hrun
    obtain ⟨_, heq, hbr⟩ := hok.2 _ _ _ hrun
    obtain ⟨⟩ := heq
    exact hiff.mp hbr
  · intro hreadable
    refine ⟨hreturns, fun tr response w' hrun => ?_⟩
    obtain ⟨br, rfl, hiff⟩ := hread _ _ _ hrun
    exact ⟨br, rfl, hiff.mpr hreadable⟩

/-- The mode a device is in. -/
theorem MockServing.mode {devices : List InventoryDevice} {id : Nat}
    (hw : MockServing c devices id device P w) :
    ∃ dev, cannedDevice w device = some dev ∧ P dev.outputs.dcmtMode ∧
      MockServing c devices id device (· = dev.outputs.dcmtMode) w := by
  obtain ⟨hdevices, hsession, hisOpen, hopened, dev, hdev, htype, hmode⟩ := hw
  refine ⟨dev, ?_, hmode, hdevices, hsession, hisOpen, hopened, dev, hdev,
    htype, rfl⟩
  rw [cannedDevice, hsession]
  exact hdev

end Run

end Mock

/-! ## A stirrer on the canned bus -/

namespace Reference

theorem exists_ofFn {α : Type} {l : List α} {n : Nat} (h : l.length = n) :
    ∃ f : Fin n → α, l = List.ofFn f := by
  subst h
  exact ⟨l.get, (List.ofFn_get l).symm⟩

theorem stateLayout : Contracts.reference.StateLayout where
  rlht payload h := by
    obtain ⟨f, rfl⟩ := exists_ofFn h
    rfl
  rlhtBaseline := by decide
  dcmt payload h := by
    obtain ⟨f, rfl⟩ := exists_ofFn h
    exact ⟨_, rfl, rfl, rfl, rfl⟩
  dcmtSeed := rfl


def noBuses : MockBuses := fun _ => ({}, {})

def stirrerSpec : DeviceSpec :=
  { id := "stirrer", type := .dcmt, address := 0x08 }

/-- The stirrer as a mock provider seeds it. -/
def stirrerDevice : InventoryDevice :=
  matchedDevice .reference stirrerConfig .configSeeded stirrerSpec .dcmt
    (seedProbe .reference stirrerSpec)

theorem stirrerDevice_seeded :
    stirrerDevice ∈ buildSeedInventory .reference stirrerConfig :=
  (mem_buildSeedInventory stirrerConfig_valid.toDistinct).mpr
    ⟨stirrerSpec, List.mem_singleton.mpr rfl, rfl⟩

/-- The stirrer started, with its buses. -/
def started : (Option Response × Process) × MockBuses :=
  runTask .reference codec (.start stirrerConfig 0) {} noBuses

/-- Then put in a closed loop. -/
def closed : (Option Response × Process) × MockBuses :=
  runTask .reference codec
    (.serve (.call "stirrer" 3 (modeArgs "closed_position"))) started.1.2
    started.2

theorem stirrer_start_runs : ∃ first w,
    ProviderRun .reference (mockSystem .reference codec) (freshWorld noBuses)
      [first] w ∧
    first.task = .start stirrerConfig 0 ∧ first.response = started.1.1 ∧
    w.state = started.1.2 ∧ w.base = started.2 := by
  obtain ⟨first, w, htask, hresponse, hstate, hbase, hrun⟩ :=
    ProviderRun.runTask (.start stirrerConfig 0)
      (@ProviderRun.nil .reference _ (mockSystem .reference codec)
        (freshWorld noBuses))
  exact ⟨first, w, hrun, htask, hresponse, hstate, hbase⟩

end Reference

/-! ## The reads of a mock provider -/

/-- The reads of a mock provider. A read of a device of the roster is ok
exactly if it is an RLHT or its canned DCMT is in open loop then; all reads
are ok where no call put a DCMT with encoders into a closed loop. -/
theorem mock_read_ok_iff (c : Contracts) (codec : CrumbsCodec)
    (hcodec : codec.Lawful) (hc : c.StateLayout) (hop : c.OpcodesDistinct)
    {config : ProviderConfig} (hvalid : config.Valid)
    (hmock : Runtime.isMockMode config = true)
    (hclean : c.faultSpecAny (c.splitBusQuery config.busPath).2 = .ok false)
    {base : MockBuses} {history : List Done} {w : ProviderWorld MockBuses}
    (hrun : ProviderRun c (mockSystem c codec) (freshWorld base) history w)
    (hhistory : MockHistory config history) {device : InventoryDevice}
    (hdevice : device ∈ buildSeedInventory c config) (ids : List String) :
    (ReadsOk c codec w device ids ↔ device.type = .rlht ∨
      ∃ dev, cannedDevice w device = some dev ∧
        dev.outputs.dcmtMode = c.dcmt.modeOpenLoop) ∧
    ((∀ done ∈ history, ∀ request, done.task = .serve request →
        ¬ request.PutsClosed device) →
      ReadsOk c codec w device ids) := by
  have hroster := seededRoster hvalid hdevice
  constructor
  · have hserving := mockRun_serving (P := fun _ => True) hcodec hop hvalid
      hmock hclean hdevice trivial trivial hrun hhistory
      fun _ _ _ _ _ _ _ _ _ => trivial
    obtain ⟨dev, hdev, -, hmode⟩ := hserving.mode
    rw [hmode.readsOk_iff hcodec hc hroster ids, Readable, hdev]
    simp
  · intro hquiet
    have hserving := mockRun_serving (P := (· = c.dcmt.modeOpenLoop)) hcodec hop
      hvalid hmock hclean hdevice hc.dcmtSeed.symm rfl hrun hhistory ?_
    · exact (hserving.readsOk_iff hcodec hc hroster ids).mpr (.inr rfl)
    · intro done hdone request hrequest hid frame hframe
      cases htype : device.type with
      | rlht => exact nofun
      | dcmt =>
          rw [← htype]
          refine hframe.keepsOpen hop hid fun hasks => ?_
          exact hquiet done hdone request hrequest ⟨htype, hasks⟩

open Reference in
/-- A started stirrer reads. -/
theorem mock_read_ok_iff_stirrer : ∃ w,
    ReadsOk .reference codec w stirrerDevice [] := by
  obtain ⟨first, w, hrun, htask, -, -, -⟩ := stirrer_start_runs
  have hhistory : MockHistory stirrerConfig [first] :=
    ⟨first, [], 0, rfl, htask, List.forall_mem_nil _⟩
  refine ⟨w, (mock_read_ok_iff .reference codec codec_lawful stateLayout
    opcodesDistinct stirrerConfig_valid stirrerConfig_mock (by decide +kernel)
    hrun hhistory stirrerDevice_seeded []).2 ?_⟩
  intro done hdone request hrequest
  obtain rfl := List.mem_singleton.mp hdone
  rw [htask] at hrequest
  cases hrequest

/-- The answer of a call or a read, ok. -/
def Response.isOk : Option Response → Bool
  | some (.read result) => result.ok
  | some (.call result) => result.ok
  | _ => false

open Reference in
/-- Put in a closed loop by a call it offers, it no longer does. -/
theorem mock_read_refused : ∃ first second w,
    ProviderRun .reference (mockSystem .reference codec) (freshWorld noBuses)
      [first, second] w ∧
    stirrerConfig.Valid ∧ Runtime.isMockMode stirrerConfig = true ∧
    first.task = .start stirrerConfig 0 ∧ first.response = none ∧
    second.task = .serve (.call "stirrer" 3 (modeArgs "closed_position")) ∧
    Response.isOk second.response = true ∧
    stirrerDevice ∈ buildSeedInventory .reference stirrerConfig ∧
    (∃ f ∈ stirrerDevice.capabilities.functions, f.functionId = 3 ∧
      f.Admits (modeArgs "closed_position")) ∧
    ¬ ReadsOk .reference codec w stirrerDevice [] := by
  obtain ⟨first, w₁, hfirst, htask₁, hresponse₁, hstate₁, hbase₁⟩ :=
    stirrer_start_runs
  obtain ⟨second, w, htask, hresponse, hstate, hbase, hrun⟩ := hfirst.runTask
    (.serve (.call "stirrer" 3 (modeArgs "closed_position")))
  rw [hstate₁, hbase₁] at hresponse hstate hbase
  refine ⟨first, second, w, hrun, stirrerConfig_valid, stirrerConfig_mock,
    htask₁, ?_, htask, ?_, stirrerDevice_seeded, ?_, ?_⟩
  · rw [hresponse₁]
    decide +kernel
  · rw [hresponse]
    decide +kernel
  · have hf : ∃ f ∈ stirrerDevice.capabilities.functions, f.functionId = 3 := by
      decide +kernel
    obtain ⟨f, hf, hid⟩ := hf
    have hpub : Published .reference stirrerDevice :=
      buildInventory_published _ stirrerDevice_seeded
    have hmodes : dcmtModes .reference (publishedFlags .reference stirrerDevice)
        = ["open_loop", "closed_position", "closed_speed"] := by decide
    refine ⟨f, hf, hid, ?_⟩
    rw [hpub] at hf
    rw [FunctionSpec.Admits, Dcmt.setMode_args hf hid, List.forall_mem_singleton,
      hmodes, admits_stringArg]
    exact ⟨"closed_position", rfl, by decide⟩
  · intro hok
    obtain ⟨tr, w', steps, hread, -⟩ := @runTask_runs .reference codec
      (.serve (.read "stirrer" [])) w
    obtain ⟨answer, hanswer, hok⟩ := hok.2 _ _ _ hread
    have hisOk : Response.isOk (runTask .reference codec
        (.serve (.read "stirrer" [])) closed.1.2 closed.2).1.1 = true := by
      rw [hstate, hbase] at hanswer
      have hanswer : (runTask .reference codec (.serve (.read "stirrer" []))
        closed.1.2 closed.2).1.1 = some (.read answer) := hanswer
      rw [hanswer]
      exact hok
    revert hisOk
    decide +kernel

end BreadProvider
