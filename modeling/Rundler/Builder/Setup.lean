import Rundler.Types.Primitives

/-! # Builder task: creating the bundle senders

`BuilderTask::run` first creates the bundle senders: for each entry point in order, for
`i = 0 … num_bundle_builders - 1`, `create_bundle_builder` takes the next private key from one
iterator shared by all calls (a local signer), or leases a KMS key when none is left, builds the
sender, and spawns it as its own task. Any failing step returns at once through `?`; the senders
spawned before it keep running, and the keys already taken stay taken.

The setup is an `EStateM` program over the runtime (`Runtime`): the keys not yet taken and every
sender task spawned so far. The state survives an error, as spawned tasks survive a `?`. How
each fallible step turns out (signer connection, transaction sender, tracker) is given by an
oracle, `SetupOracle`; every result holds for every oracle.

* `createBundleBuilder_ok`, `createBundleBuilder_error` — one call spawns exactly one sender
  signed by the key at its position, or fails having spawned nothing;
* `KeysInv` — the `k`-th sender spawned signs with `private_keys[k]`, or with KMS past the
  keys; every call that succeeds keeps it (`createBundleBuilder_keysInv`), and so does every
  loop (`createEntryPointBuilders_ok`);
* `setup_senders` — a setup that succeeds creates the planned senders in order, signed as
  `KeysInv` says;
* `setup_error` — a setup that fails has created a prefix of the planned senders, signed the
  same way;
* `setup_ok_iff` — the setup succeeds exactly when every entry point is supplied and every step
  of every planned sender succeeds;
* `setup_index_nodup` — with distinct entry point addresses, no two senders serve one entry point
  with one index.
-/

namespace Rundler.Builder

/-! ## The configuration -/

/-- `EntryPointVersion`. -/
inductive EntryPointVersion
  | v0_6
  | v0_7
  | unspecified
deriving DecidableEq, Repr

/-- `EntryPointBuilderSettings`. Its mempool configs only reach the simulator. -/
structure EntryPointBuilderSettings where
  address : Address
  version : EntryPointVersion
  numBundleBuilders : UInt64
  bundleBuilderIndexOffset : UInt64

/-- The part of `Args` that the setup and `run` read; the rest is copied into the settings of
each sender. -/
structure Args where
  unsafeMode : Bool
  privateKeys : List String
  redisLockTtlMillis : UInt64
  remoteAddress : Option String
  entryPoints : List EntryPointBuilderSettings

/-- `BuilderTask`: its arguments, and whether the v0.6 and v0.7 entry point providers were
supplied (`ep_06`, `ep_07`). -/
structure BuilderTask where
  args : Args
  ep06 : Bool
  ep07 : Bool

/-- `BundlerSigner`: a local key, or a key leased from KMS. -/
inductive BundlerSigner
  | local (privateKey : String)
  | kms
deriving DecidableEq

/-- The simulator a sender is built with. -/
inductive SimulatorKind
  | unsafeSimulator
  | v0_6
  | v0_7
deriving DecidableEq

/-- A spawned bundle sender: its index, entry point, simulator and signer. -/
structure SenderTask where
  index : UInt64
  entryPoint : Address
  version : EntryPointVersion
  simulator : SimulatorKind
  signer : BundlerSigner
deriving DecidableEq

/-! ## The environment -/

/-- How a KMS connection attempt ends within its timeout. -/
inductive KmsConnect
  | connected
  | timedOut
  | failed (e : String)

/-- How each fallible step of the `k`-th `create_bundle_builder` call turns out, and whether the
remote builder server starts. -/
structure SetupOracle where
  localSignerConnect : Nat → String → Except String Unit
  kmsConnect : Nat → UInt64 → KmsConnect
  intoSender : Nat → Except String Unit
  trackerNew : Nat → Except String Unit
  remoteServer : Except String Unit

/-- How `run` stops early: an error through `?`, or a panic. -/
inductive Failure
  | error (msg : String)
  | panic (msg : String)
deriving DecidableEq

/-- The runtime as the setup sees it: the private keys not yet taken (`pk_iter`) and every
sender task spawned so far, in spawn order. -/
structure Runtime where
  pkIter : List String
  senders : List SenderTask

/-- The setup's monad: its state outlives an error. -/
abbrev SetupM := EStateM Failure Runtime

/-! ## The setup -/

/-- `?` on a fallible step. -/
def liftExcept {α : Type} : Except String α → SetupM α
  | .ok a => pure a
  | .error e => throw (.error e)

/-- `pk_iter.next()`. -/
def nextPrivateKey : SetupM (Option String) :=
  modifyGet fun rt => match rt.pkIter with
    | [] => (none, rt)
    | pk :: rest => (some pk, { rt with pkIter := rest })

/-- `tokio::spawn(builder.send_bundles_in_loop())`: the new task's handle is its position among
the spawned tasks. -/
def spawnSender (task : SenderTask) : SetupM Nat :=
  modifyGet fun rt => (rt.senders.length, { rt with senders := rt.senders ++ [task] })

variable (bt : BuilderTask) (oracle : SetupOracle)

/-- The signer of `create_bundle_builder`: the next private key as a local signer, or else a KMS
key leased within a quarter of the lock TTL (`k` is the call's position). -/
def bundlerSigner (k : Nat) : SetupM BundlerSigner := do
  match ← nextPrivateKey with
  | some pk =>
    liftExcept (oracle.localSignerConnect k pk)
    pure (.local pk)
  | none =>
    match oracle.kmsConnect k (bt.args.redisLockTtlMillis / 4) with
    | .timedOut => throw (.error "timeout connecting to KMS")
    | .failed e => throw (.error ("failure connecting to KMS: " ++ e))
    | .connected => pure .kms

/-- `create_bundle_builder`: the signer, the transaction sender and its tracker, then the
spawned sender. -/
def createBundleBuilder (index : UInt64) (ep : EntryPointBuilderSettings)
    (simulator : SimulatorKind) : SetupM Nat := do
  let k := (← get).senders.length
  let signer ← bundlerSigner bt oracle k
  liftExcept (oracle.intoSender k)
  liftExcept (oracle.trackerNew k)
  spawnSender ⟨index, ep.address, ep.version, simulator, signer⟩

/-- `for i in 0..num_bundle_builders`, from `i` with `n` iterations left: a sender with index
`i + bundle_builder_index_offset` and the simulator the mode asks for. -/
def createBuildersFrom (ep : EntryPointBuilderSettings) (simulator : SimulatorKind) :
    Nat → Nat → SetupM (List Nat)
  | _, 0 => pure []
  | i, n + 1 => do
    let handle ← createBundleBuilder bt oracle (UInt64.ofNat i + ep.bundleBuilderIndexOffset) ep
      (if bt.args.unsafeMode then .unsafeSimulator else simulator)
    let handles ← createBuildersFrom ep simulator (i + 1) n
    pure (handle :: handles)

/-- `create_builders_v0_6` and `create_builders_v0_7`: the provider must be supplied, then the
entry point's senders are created. -/
def createBuilders (supplied : Bool) (notSupplied : String) (simulator : SimulatorKind)
    (ep : EntryPointBuilderSettings) : SetupM (List Nat) := do
  if !supplied then throw (.error notSupplied)
  createBuildersFrom bt oracle ep simulator 0 ep.numBundleBuilders.toNat

/-- `create_builders_v0_6`. -/
def createBuildersV06 (ep : EntryPointBuilderSettings) : SetupM (List Nat) :=
  createBuilders bt oracle bt.ep06 "entry point v0.6 not supplied" .v0_6 ep

/-- `create_builders_v0_7`. -/
def createBuildersV07 (ep : EntryPointBuilderSettings) : SetupM (List Nat) :=
  createBuilders bt oracle bt.ep07 "entry point v0.7 not supplied" .v0_7 ep

/-- The body of `run`'s loop over the entry points: the builders of one entry point, by its
version. -/
def createEntryPointBuilder (ep : EntryPointBuilderSettings) : SetupM (List Nat) :=
  match ep.version with
  | .v0_6 => createBuildersV06 bt oracle ep
  | .v0_7 => createBuildersV07 bt oracle ep
  | .unspecified => throw (.panic "Unspecified entry point version")

/-- The loop of `run` over the entry points, collecting the senders' handles. -/
def createEntryPointBuilders : List EntryPointBuilderSettings → SetupM (List Nat)
  | [] => pure []
  | ep :: eps => do
    let handles ← createEntryPointBuilder bt oracle ep
    let rest ← createEntryPointBuilders eps
    pure (handles ++ rest)

/-- The runtime `run` starts from: every private key, no sender. -/
def initRuntime : Runtime := ⟨bt.args.privateKeys, []⟩

/-- The setup of `run`, from its first line to the end of the loop over entry points. -/
def setup : EStateM.Result Failure Runtime (List Nat) :=
  createEntryPointBuilders bt oracle bt.args.entryPoints (initRuntime bt)

/-! ## The plan -/

/-- A sender as the setup plans it, before its signer is chosen. -/
structure PlannedSender where
  index : UInt64
  entryPoint : Address
  version : EntryPointVersion
  simulator : SimulatorKind
deriving DecidableEq

/-- What a spawned sender was planned as. -/
def SenderTask.planned (t : SenderTask) : PlannedSender :=
  ⟨t.index, t.entryPoint, t.version, t.simulator⟩

/-- The senders of one entry point for `i = start … start + n - 1`. -/
def plannedFrom (ep : EntryPointBuilderSettings) (simulator : SimulatorKind) (start n : Nat) :
    List PlannedSender :=
  (List.range' start n).map fun i => ⟨UInt64.ofNat i + ep.bundleBuilderIndexOffset, ep.address,
    ep.version, if bt.args.unsafeMode then .unsafeSimulator else simulator⟩

@[simp] theorem length_plannedFrom (ep : EntryPointBuilderSettings) (simulator : SimulatorKind)
    (start n : Nat) : (plannedFrom bt ep simulator start n).length = n := by
  simp [plannedFrom]

/-- The senders planned for one entry point: its `num_bundle_builders` senders, none for an
unspecified version. -/
def plannedOf (ep : EntryPointBuilderSettings) : List PlannedSender :=
  match ep.version with
  | .v0_6 => plannedFrom bt ep .v0_6 0 ep.numBundleBuilders.toNat
  | .v0_7 => plannedFrom bt ep .v0_7 0 ep.numBundleBuilders.toNat
  | .unspecified => []

/-- The senders a successful setup creates: those of each entry point, in order. -/
def plannedSenders : List EntryPointBuilderSettings → List PlannedSender
  | [] => []
  | ep :: eps => plannedOf bt ep ++ plannedSenders eps

/-- The signer of the `k`-th sender: the `k`-th private key, or KMS past the keys. -/
def signerFor (keys : List String) (k : Nat) : BundlerSigner :=
  if h : k < keys.length then .local keys[k] else .kms

/-- The first key left after `n` keys were taken is the `n`-th key. -/
theorem signerFor_drop_zero (keys : List String) (n : Nat) :
    signerFor (keys.drop n) 0 = signerFor keys n := by
  by_cases h : n < keys.length
  · simp [signerFor, h, Nat.sub_pos_of_lt h]
  · simp [signerFor, h, Nat.sub_eq_zero_of_le (Nat.le_of_not_lt h)]

/-- The `k`-th sender spawned signs with `signerFor keys k`. -/
def SignersInv (keys : List String) (rt : Runtime) : Prop :=
  rt.senders.map SenderTask.signer = (List.range rt.senders.length).map (signerFor keys)

/-- The key discipline of the setup: the keys not yet taken are those past the senders spawned,
and the senders sign as `SignersInv` says. -/
def KeysInv (keys : List String) (rt : Runtime) : Prop :=
  rt.pkIter = keys.drop rt.senders.length ∧ SignersInv keys rt

theorem SignersInv.signer_eq {keys : List String} {rt : Runtime} (hinv : SignersInv keys rt)
    (k : Nat) (hk : k < rt.senders.length) : rt.senders[k].signer = signerFor keys k := by
  have h := congrArg (·[k]?) hinv
  simpa [hk] using h

/-! ## Reasoning about `EStateM` -/

section Bind

variable {ε σ α β : Type}

/-- A bind that succeeds ran both parts. -/
theorem bind_ok {x : EStateM ε σ α} {f : α → EStateM ε σ β} {s s'' : σ} {b : β} :
    (x >>= f) s = .ok b s'' ↔ ∃ a s', x s = .ok a s' ∧ f a s' = .ok b s'' := by
  show EStateM.bind x f s = _ ↔ _
  unfold EStateM.bind
  cases x s <;> simp [and_assoc]

/-- A bind that fails failed in its first part, or in its second after the first succeeded. -/
theorem bind_error {x : EStateM ε σ α} {f : α → EStateM ε σ β} {s s'' : σ} {e : ε} :
    (x >>= f) s = .error e s'' ↔
      x s = .error e s'' ∨ ∃ a s', x s = .ok a s' ∧ f a s' = .error e s'' := by
  show EStateM.bind x f s = _ ↔ _
  unfold EStateM.bind
  cases x s <;> simp [and_assoc]

/-- Running a bind runs its first part, then its second from the state the first left. -/
theorem run_bind (x : EStateM ε σ α) (f : α → EStateM ε σ β) (s : σ) :
    (x >>= f) s = match x s with
      | .ok a s' => f a s'
      | .error e s' => .error e s' := rfl

theorem run_map (f : α → β) (x : EStateM ε σ α) (s : σ) :
    (f <$> x) s = match x s with
      | .ok a s' => .ok (f a) s'
      | .error e s' => .error e s' := rfl

@[simp] theorem run_pure (a : α) (s : σ) : (pure a : EStateM ε σ α) s = .ok a s := rfl

@[simp] theorem run_throw (e : ε) (s : σ) : (throw e : EStateM ε σ α) s = .error e s := rfl

end Bind

@[simp] theorem liftExcept_ok_run {α : Type} (a : α) (rt : Runtime) :
    liftExcept (.ok a) rt = .ok a rt := rfl

@[simp] theorem liftExcept_error_run {α : Type} (e : String) (rt : Runtime) :
    (liftExcept (.error e) : SetupM α) rt = .error (.error e) rt := rfl

/-- `?` on a success passes the value on and leaves the runtime as it was. -/
theorem liftExcept_ok {α : Type} {r : Except String α} {rt rt' : Runtime} {a : α}
    (h : liftExcept r rt = .ok a rt') : r = .ok a ∧ rt' = rt := by
  cases r <;> cases h
  exact ⟨rfl, rfl⟩

/-- `?` on an error leaves the runtime as it was. -/
theorem liftExcept_error {α : Type} {r : Except String α} {rt rt' : Runtime} {e : Failure}
    (h : liftExcept r rt = .error e rt') : rt' = rt := by
  cases r <;> cases h
  rfl

/-- `pk_iter.next()` takes the first key left, if any. -/
theorem nextPrivateKey_eq (rt : Runtime) :
    nextPrivateKey rt = .ok rt.pkIter.head? { rt with pkIter := rt.pkIter.tail } := by
  cases rt with
  | mk pkIter senders => cases pkIter <;> rfl

/-! ## One sender -/

/-- The signer of the `k`-th call connects: its local key, or a KMS key within a quarter of the
lock TTL. -/
def SignerConnects (k : Nat) : BundlerSigner → Prop
  | .local pk => oracle.localSignerConnect k pk = .ok ()
  | .kms => oracle.kmsConnect k (bt.args.redisLockTtlMillis / 4) = .connected

/-- The signer succeeds exactly when it connects; it is the first key left, or KMS, and the key
is taken either way. -/
theorem bundlerSigner_eq_ok_iff {k : Nat} {rt rt' : Runtime} {signer : BundlerSigner} :
    bundlerSigner bt oracle k rt = .ok signer rt' ↔
      SignerConnects bt oracle k (signerFor rt.pkIter 0) ∧ signer = signerFor rt.pkIter 0 ∧
        rt' = { rt with pkIter := rt.pkIter.tail } := by
  obtain ⟨pkIter, senders⟩ := rt
  cases pkIter with
  | nil =>
    cases h : oracle.kmsConnect k (bt.args.redisLockTtlMillis / 4) <;>
      simp [bundlerSigner, run_bind, nextPrivateKey_eq, h, signerFor, SignerConnects, eq_comm]
  | cons pk rest =>
    cases h : oracle.localSignerConnect k pk <;>
      simp [bundlerSigner, run_bind, run_map, nextPrivateKey_eq, h, signerFor, SignerConnects,
        eq_comm]

theorem bundlerSigner_ok {k : Nat} {rt rt' : Runtime} {signer : BundlerSigner}
    (h : bundlerSigner bt oracle k rt = .ok signer rt') :
    signer = signerFor rt.pkIter 0 ∧ rt' = { rt with pkIter := rt.pkIter.tail } :=
  ((bundlerSigner_eq_ok_iff bt oracle).mp h).2

/-- A failed signer leaves the key taken and spawns nothing. -/
theorem bundlerSigner_error {k : Nat} {rt rt' : Runtime} {e : Failure}
    (h : bundlerSigner bt oracle k rt = .error e rt') :
    rt' = { rt with pkIter := rt.pkIter.tail } := by
  obtain hnext | ⟨_, _, hnext, h⟩ := bind_error.mp h <;> rw [nextPrivateKey_eq] at hnext <;>
    cases hnext
  cases rt with
  | mk pkIter senders =>
    cases pkIter with
    | nil =>
      revert h
      cases oracle.kmsConnect k (bt.args.redisLockTtlMillis / 4) <;> intro h <;> cases h <;> rfl
    | cons pk rest =>
      obtain hconn | ⟨_, _, -, hpure⟩ := bind_error.mp h
      · exact liftExcept_error hconn
      · cases hpure

/-- **A call spawns one sender.** When `create_bundle_builder` succeeds it has taken one key,
spawned one sender signed with the key at its position (or KMS past the keys), and returned
that sender's handle. -/
theorem createBundleBuilder_ok {keys : List String} {rt rt' : Runtime} {index : UInt64}
    {ep : EntryPointBuilderSettings} {simulator : SimulatorKind} {handle : Nat}
    (hkeys : rt.pkIter = keys.drop rt.senders.length)
    (h : createBundleBuilder bt oracle index ep simulator rt = .ok handle rt') :
    handle = rt.senders.length ∧
      rt'.senders = rt.senders ++
        [⟨index, ep.address, ep.version, simulator, signerFor keys rt.senders.length⟩] ∧
      rt'.pkIter = keys.drop (rt.senders.length + 1) := by
  obtain ⟨_, _, hget, h⟩ := bind_ok.mp h
  cases hget
  obtain ⟨signer, _, hsig, h⟩ := bind_ok.mp h
  obtain ⟨rfl, rfl⟩ := bundlerSigner_ok bt oracle hsig
  obtain ⟨_, _, hsend, h⟩ := bind_ok.mp h
  obtain ⟨-, rfl⟩ := liftExcept_ok hsend
  obtain ⟨_, _, htrack, h⟩ := bind_ok.mp h
  obtain ⟨-, rfl⟩ := liftExcept_ok htrack
  cases h
  refine ⟨rfl, by rw [hkeys, signerFor_drop_zero], ?_⟩
  simp [hkeys, List.tail_drop]

/-- **A failing call spawns nothing.** Whatever step of `create_bundle_builder` fails, no sender
was spawned by it. -/
theorem createBundleBuilder_error {rt rt' : Runtime} {index : UInt64}
    {ep : EntryPointBuilderSettings} {simulator : SimulatorKind} {e : Failure}
    (h : createBundleBuilder bt oracle index ep simulator rt = .error e rt') :
    rt'.senders = rt.senders := by
  obtain hget | ⟨_, _, hget, h⟩ := bind_error.mp h <;> cases hget
  obtain hsig | ⟨_, _, hsig, h⟩ := bind_error.mp h
  · rw [bundlerSigner_error bt oracle hsig]
  obtain ⟨-, rfl⟩ := bundlerSigner_ok bt oracle hsig
  obtain hsend | ⟨_, _, hsend, h⟩ := bind_error.mp h
  · rw [liftExcept_error hsend]
  obtain ⟨-, rfl⟩ := liftExcept_ok hsend
  obtain htrack | ⟨_, _, htrack, h⟩ := bind_error.mp h
  · rw [liftExcept_error htrack]
  · cases h

/-- A call that succeeds keeps the key discipline. -/
theorem createBundleBuilder_keysInv {keys : List String} {rt rt' : Runtime} {index : UInt64}
    {ep : EntryPointBuilderSettings} {simulator : SimulatorKind} {handle : Nat}
    (hinv : KeysInv keys rt)
    (h : createBundleBuilder bt oracle index ep simulator rt = .ok handle rt') :
    KeysInv keys rt' := by
  obtain ⟨-, hs, hp⟩ := createBundleBuilder_ok bt oracle hinv.1 h
  refine ⟨by simp [hp, hs], ?_⟩
  have hsig : SignersInv keys rt := hinv.2
  unfold SignersInv at hsig ⊢
  simp [hs, hsig, List.range_succ]

/-! ## The loops -/

/-- **One entry point's loop.** From `i` with `n` iterations left, a loop that succeeds spawns
the planned senders in order, returns their handles and keeps the key discipline. -/
theorem createBuildersFrom_ok {keys : List String} {ep : EntryPointBuilderSettings}
    {simulator : SimulatorKind} : ∀ {i n : Nat} {rt rt' : Runtime} {handles : List Nat},
    KeysInv keys rt → createBuildersFrom bt oracle ep simulator i n rt = .ok handles rt' →
    KeysInv keys rt' ∧ handles = List.range' rt.senders.length n ∧
      rt'.senders.map SenderTask.planned =
        rt.senders.map SenderTask.planned ++ plannedFrom bt ep simulator i n
  | _, 0, _, _, _, hinv, h => by
    cases h
    exact ⟨hinv, rfl, by simp [plannedFrom]⟩
  | i, n + 1, rt, _, _, hinv, h => by
    obtain ⟨handle, rt₁, h₁, h⟩ := bind_ok.mp h
    obtain ⟨handles, _, h₂, h⟩ := bind_ok.mp h
    cases h
    obtain ⟨rfl, hs, -⟩ := createBundleBuilder_ok bt oracle hinv.1 h₁
    obtain ⟨hinv₂, rfl, hplan⟩ :=
      createBuildersFrom_ok (createBundleBuilder_keysInv bt oracle hinv h₁) h₂
    refine ⟨hinv₂, by simp [hs, List.range'_succ], ?_⟩
    rw [hplan, hs]
    simp [plannedFrom, List.range'_succ, SenderTask.planned]

/-- `create_builders_v0_6` and `create_builders_v0_7`: a call that succeeds had its provider
supplied, and spawned the entry point's planned senders. -/
theorem createBuilders_ok {keys : List String} {supplied : Bool} {notSupplied : String}
    {simulator : SimulatorKind} {ep : EntryPointBuilderSettings} {rt rt' : Runtime}
    {handles : List Nat} (hinv : KeysInv keys rt)
    (h : createBuilders bt oracle supplied notSupplied simulator ep rt = .ok handles rt') :
    supplied = true ∧ KeysInv keys rt' ∧
      handles = List.range' rt.senders.length ep.numBundleBuilders.toNat ∧
      rt'.senders.map SenderTask.planned = rt.senders.map SenderTask.planned ++
        plannedFrom bt ep simulator 0 ep.numBundleBuilders.toNat := by
  cases supplied
  · cases h
  · exact ⟨rfl, createBuildersFrom_ok bt oracle hinv h⟩

/-- The body of the loop over the entry points: a call that succeeds spawned the entry point's
planned senders. -/
theorem createEntryPointBuilder_ok {keys : List String} {ep : EntryPointBuilderSettings}
    {rt rt' : Runtime} {handles : List Nat} (hinv : KeysInv keys rt)
    (h : createEntryPointBuilder bt oracle ep rt = .ok handles rt') :
    KeysInv keys rt' ∧ handles = List.range' rt.senders.length (plannedOf bt ep).length ∧
      rt'.senders.map SenderTask.planned =
        rt.senders.map SenderTask.planned ++ plannedOf bt ep := by
  unfold createEntryPointBuilder at h
  unfold plannedOf
  cases hv : ep.version <;> rw [hv] at h
  · exact (createBuilders_ok bt oracle hinv h).2.imp_right fun h => by simpa using h
  · exact (createBuilders_ok bt oracle hinv h).2.imp_right fun h => by simpa using h
  · cases h

/-- **The loop over the entry points.** A loop that succeeds spawns the planned senders of
every entry point in order, returns their handles in spawn order and keeps the key
discipline. -/
theorem createEntryPointBuilders_ok {keys : List String} :
    ∀ {eps : List EntryPointBuilderSettings} {rt rt' : Runtime} {handles : List Nat},
    KeysInv keys rt → createEntryPointBuilders bt oracle eps rt = .ok handles rt' →
    KeysInv keys rt' ∧ handles = List.range' rt.senders.length (plannedSenders bt eps).length ∧
      rt'.senders.map SenderTask.planned =
        rt.senders.map SenderTask.planned ++ plannedSenders bt eps
  | [], _, _, _, hinv, h => by
    cases h
    exact ⟨hinv, rfl, by simp [plannedSenders]⟩
  | ep :: eps, rt, _, _, hinv, h => by
    obtain ⟨handles, rt₁, h₁, h⟩ := bind_ok.mp h
    obtain ⟨rest, _, h₂, h⟩ := bind_ok.mp h
    cases h
    obtain ⟨hinv₁, rfl, hplan₁⟩ := createEntryPointBuilder_ok bt oracle hinv h₁
    obtain ⟨hinv₂, rfl, hplan₂⟩ := createEntryPointBuilders_ok hinv₁ h₂
    have hlen : rt₁.senders.length = rt.senders.length + (plannedOf bt ep).length := by
      simpa using congrArg List.length hplan₁
    refine ⟨hinv₂, ?_, ?_⟩
    · rw [hlen, List.range'_append_1]
      simp [plannedSenders, Nat.add_comm]
    · rw [hplan₂, hplan₁, List.append_assoc]
      rfl

/-! ## Failing loops -/

/-- One entry point's loop that fails has spawned a prefix of its planned senders, each
signing as planned. -/
theorem createBuildersFrom_error {keys : List String} {ep : EntryPointBuilderSettings}
    {simulator : SimulatorKind} : ∀ {i n : Nat} {rt rt' : Runtime} {e : Failure},
    KeysInv keys rt → createBuildersFrom bt oracle ep simulator i n rt = .error e rt' →
    SignersInv keys rt' ∧ ∃ l, l <+: plannedFrom bt ep simulator i n ∧
      rt'.senders.map SenderTask.planned = rt.senders.map SenderTask.planned ++ l
  | _, 0, _, _, _, _, h => by cases h
  | i, n + 1, rt, _, _, hinv, h => by
    obtain h₁ | ⟨_, rt₁, h₁, h⟩ := bind_error.mp h
    · -- the call fails: nothing new was spawned
      have hs := createBundleBuilder_error bt oracle h₁
      exact ⟨by rw [SignersInv, hs]; exact hinv.2, [], List.nil_prefix, by rw [hs, List.append_nil]⟩
    obtain h₂ | ⟨_, _, -, h⟩ := bind_error.mp h
    · -- a later call fails
      obtain ⟨-, hs, -⟩ := createBundleBuilder_ok bt oracle hinv.1 h₁
      obtain ⟨hsig, l, hl, hplan⟩ :=
        createBuildersFrom_error (createBundleBuilder_keysInv bt oracle hinv h₁) h₂
      refine ⟨hsig, ⟨UInt64.ofNat i + ep.bundleBuilderIndexOffset, ep.address, ep.version,
        if bt.args.unsafeMode then .unsafeSimulator else simulator⟩ :: l, ?_, ?_⟩
      · simpa [plannedFrom, List.range'_succ] using hl
      · rw [hplan, hs]
        simp [SenderTask.planned]
    · cases h

/-- `create_builders_v0_6` and `create_builders_v0_7` that fail have spawned a prefix of the
entry point's planned senders, each signing as planned. -/
theorem createBuilders_error {keys : List String} {supplied : Bool} {notSupplied : String}
    {simulator : SimulatorKind} {ep : EntryPointBuilderSettings} {rt rt' : Runtime}
    {e : Failure} (hinv : KeysInv keys rt)
    (h : createBuilders bt oracle supplied notSupplied simulator ep rt = .error e rt') :
    SignersInv keys rt' ∧ ∃ l, l <+: plannedFrom bt ep simulator 0 ep.numBundleBuilders.toNat ∧
      rt'.senders.map SenderTask.planned = rt.senders.map SenderTask.planned ++ l := by
  cases supplied
  · -- the provider is missing: nothing is spawned
    cases h
    exact ⟨hinv.2, [], List.nil_prefix, by rw [List.append_nil]⟩
  · exact createBuildersFrom_error bt oracle hinv h

/-- The body of the loop over the entry points that fails has spawned a prefix of the entry
point's planned senders, each signing as planned. -/
theorem createEntryPointBuilder_error {keys : List String} {ep : EntryPointBuilderSettings}
    {rt rt' : Runtime} {e : Failure} (hinv : KeysInv keys rt)
    (h : createEntryPointBuilder bt oracle ep rt = .error e rt') :
    SignersInv keys rt' ∧ ∃ l, l <+: plannedOf bt ep ∧
      rt'.senders.map SenderTask.planned = rt.senders.map SenderTask.planned ++ l := by
  unfold createEntryPointBuilder at h
  unfold plannedOf
  cases hv : ep.version <;> rw [hv] at h
  · exact createBuilders_error bt oracle hinv h
  · exact createBuilders_error bt oracle hinv h
  · -- an unspecified version panics before spawning anything
    cases h
    exact ⟨hinv.2, [], List.nil_prefix, by rw [List.append_nil]⟩

/-- The loop over the entry points that fails has spawned a prefix of the planned senders, each
signing as planned. -/
theorem createEntryPointBuilders_error {keys : List String} :
    ∀ {eps : List EntryPointBuilderSettings} {rt rt' : Runtime} {e : Failure},
    KeysInv keys rt → createEntryPointBuilders bt oracle eps rt = .error e rt' →
    SignersInv keys rt' ∧ ∃ l, l <+: plannedSenders bt eps ∧
      rt'.senders.map SenderTask.planned = rt.senders.map SenderTask.planned ++ l
  | [], _, _, _, _, h => by cases h
  | ep :: eps, rt, _, _, hinv, h => by
    obtain h₁ | ⟨_, rt₁, h₁, h⟩ := bind_error.mp h
    · obtain ⟨hsig, l, hl, hplan⟩ := createEntryPointBuilder_error bt oracle hinv h₁
      exact ⟨hsig, l, hl.trans (List.prefix_append _ _), hplan⟩
    obtain h₂ | ⟨_, _, -, h⟩ := bind_error.mp h
    · obtain ⟨hinv₁, -, hplan₁⟩ := createEntryPointBuilder_ok bt oracle hinv h₁
      obtain ⟨hsig, l, hl, hplan⟩ := createEntryPointBuilders_error hinv₁ h₂
      refine ⟨hsig, plannedOf bt ep ++ l, (List.prefix_append_right_inj _).mpr hl, ?_⟩
      rw [hplan, hplan₁, List.append_assoc]
    · cases h

/-- A setup that succeeds spawns the planned senders, keeps the key discipline from all the
private keys, and returns the handles of all its senders in spawn order. -/
theorem setup_ok {handles : List Nat} {rt : Runtime} (h : setup bt oracle = .ok handles rt) :
    KeysInv bt.args.privateKeys rt ∧ handles = List.range rt.senders.length ∧
      rt.senders.map SenderTask.planned = plannedSenders bt bt.args.entryPoints := by
  have hinit : KeysInv bt.args.privateKeys (initRuntime bt) := ⟨rfl, rfl⟩
  obtain ⟨hinv, rfl, hplan⟩ := createEntryPointBuilders_ok bt oracle hinit h
  have hlen := congrArg List.length hplan
  simp only [initRuntime, List.map_nil, List.nil_append, List.length_map] at hplan hlen
  exact ⟨hinv, by rw [hlen, List.range_eq_range']; rfl, hplan⟩

/-- A setup that fails has spawned a prefix of the planned senders, each signing with the key
at its position. -/
theorem setup_error {e : Failure} {rt : Runtime} (h : setup bt oracle = .error e rt) :
    SignersInv bt.args.privateKeys rt ∧
      rt.senders.map SenderTask.planned <+: plannedSenders bt bt.args.entryPoints := by
  have hinit : KeysInv bt.args.privateKeys (initRuntime bt) := ⟨rfl, rfl⟩
  obtain ⟨hsig, l, hl, hplan⟩ := createEntryPointBuilders_error bt oracle hinit h
  simp only [initRuntime, List.map_nil, List.nil_append] at hplan
  exact ⟨hsig, hplan ▸ hl⟩

/-- **The senders of a successful setup.** They are the planned ones, in the order of the
entry points and, within one, of `i`; the `k`-th signs with `private_keys[k]`, or with KMS past
the keys. Hence with distinct keys no local key signs for two senders, and a KMS signer only
comes after every local key is in use, each by the sender at its position. -/
theorem setup_senders {handles : List Nat} {rt : Runtime} (h : setup bt oracle = .ok handles rt) :
    rt.senders.map SenderTask.planned = plannedSenders bt bt.args.entryPoints ∧
    (∀ k (hk : k < rt.senders.length), rt.senders[k].signer =
      if hk' : k < bt.args.privateKeys.length then .local bt.args.privateKeys[k] else .kms) ∧
    (bt.args.privateKeys.Nodup → ∀ j k (hj : j < rt.senders.length)
      (hk : k < rt.senders.length) (pk : String),
      rt.senders[j].signer = .local pk → rt.senders[k].signer = .local pk → j = k) ∧
    (∀ j (hj : j < rt.senders.length), rt.senders[j].signer = .kms →
      ∀ i (hi : i < bt.args.privateKeys.length), i < j ∧
        ∃ hi' : i < rt.senders.length, rt.senders[i].signer = .local bt.args.privateKeys[i]) := by
  obtain ⟨hinv, -, hplan⟩ := setup_ok bt oracle h
  have hsig := hinv.2.signer_eq
  refine ⟨hplan, hsig, fun hnodup j k hj hk pk hpj hpk => ?_, fun j hj hkms i hi => ?_⟩
  · -- two senders with one local key sit at the same position of the key list
    rw [hsig j hj, signerFor] at hpj
    rw [hsig k hk, signerFor] at hpk
    split_ifs at hpj hpk with hj' hk'
    cases hpj
    exact (hnodup.getElem_inj_iff).mp (BundlerSigner.local.inj hpk).symm
  · -- a KMS signer sits past every key
    rw [hsig j hj, signerFor] at hkms
    split_ifs at hkms with hj'
    have hij : i < j := lt_of_lt_of_le hi (Nat.le_of_not_lt hj')
    exact ⟨hij, lt_trans hij hj, by rw [hsig i (lt_trans hij hj), signerFor, dif_pos hi]⟩

/-- A builder with one private key and one v0.6 entry point at `7` with two senders. -/
def oneKeyTwoSenders : BuilderTask where
  args := ⟨false, ["key0"], 10000, none, [⟨7, .v0_6, 2, 0⟩]⟩
  ep06 := true
  ep07 := false

/-- Every step of the setup succeeds. -/
def allSucceed : SetupOracle :=
  ⟨fun _ _ => .ok (), fun _ _ => .connected, fun _ => .ok (), fun _ => .ok (), .ok ()⟩

/-- The runtime after that setup: the key signs for the first sender, KMS for the second. -/
def oneKeyTwoSendersRuntime : Runtime :=
  ⟨[], [⟨0, 7, .v0_6, .v0_6, .local "key0"⟩, ⟨1, 7, .v0_6, .v0_6, .kms⟩]⟩

theorem setup_senders_oneKeyTwoSenders :
    setup oneKeyTwoSenders allSucceed = .ok [0, 1] oneKeyTwoSendersRuntime ∧
    oneKeyTwoSendersRuntime.senders.map SenderTask.planned =
      plannedSenders oneKeyTwoSenders oneKeyTwoSenders.args.entryPoints ∧
    (∀ k (hk : k < oneKeyTwoSendersRuntime.senders.length),
      oneKeyTwoSendersRuntime.senders[k].signer =
        if hk' : k < oneKeyTwoSenders.args.privateKeys.length then
          .local oneKeyTwoSenders.args.privateKeys[k] else .kms) ∧
    (oneKeyTwoSenders.args.privateKeys.Nodup → ∀ j k
      (hj : j < oneKeyTwoSendersRuntime.senders.length)
      (hk : k < oneKeyTwoSendersRuntime.senders.length) (pk : String),
      oneKeyTwoSendersRuntime.senders[j].signer = .local pk →
        oneKeyTwoSendersRuntime.senders[k].signer = .local pk → j = k) ∧
    (∀ j (hj : j < oneKeyTwoSendersRuntime.senders.length),
      oneKeyTwoSendersRuntime.senders[j].signer = .kms →
      ∀ i (hi : i < oneKeyTwoSenders.args.privateKeys.length), i < j ∧
        ∃ hi' : i < oneKeyTwoSendersRuntime.senders.length,
          oneKeyTwoSendersRuntime.senders[i].signer =
            .local oneKeyTwoSenders.args.privateKeys[i]) :=
  ⟨rfl, setup_senders oneKeyTwoSenders allSucceed rfl⟩

/-! ## When the setup succeeds -/

/-- Every fallible step of the `k`-th `create_bundle_builder` call succeeds: its signer, the
`k`-th of `keys` or KMS past them, connects, and its transaction sender and tracker are built. -/
def StepsSucceed (keys : List String) (k : Nat) : Prop :=
  SignerConnects bt oracle k (signerFor keys k) ∧ oracle.intoSender k = .ok () ∧
    oracle.trackerNew k = .ok ()

/-- The entry point's version is specified and its provider was supplied. -/
def Supplied (ep : EntryPointBuilderSettings) : Prop :=
  match ep.version with
  | .v0_6 => bt.ep06 = true
  | .v0_7 => bt.ep07 = true
  | .unspecified => False

/-- Under the key discipline, a call succeeds exactly when its steps do. -/
theorem createBundleBuilder_ok_iff {keys : List String} {rt : Runtime} {index : UInt64}
    {ep : EntryPointBuilderSettings} {simulator : SimulatorKind}
    (hkeys : rt.pkIter = keys.drop rt.senders.length) :
    (∃ handle rt', createBundleBuilder bt oracle index ep simulator rt = .ok handle rt') ↔
      StepsSucceed bt oracle keys rt.senders.length := by
  rw [StepsSucceed, ← signerFor_drop_zero, ← hkeys]
  constructor
  · rintro ⟨_, _, h⟩
    obtain ⟨_, _, hget, h⟩ := bind_ok.mp h
    cases hget
    obtain ⟨_, _, hsig, h⟩ := bind_ok.mp h
    obtain ⟨hconn, -, rfl⟩ := (bundlerSigner_eq_ok_iff bt oracle).mp hsig
    obtain ⟨_, _, hsend, h⟩ := bind_ok.mp h
    obtain ⟨hsend', rfl⟩ := liftExcept_ok hsend
    obtain ⟨_, _, htrack, -⟩ := bind_ok.mp h
    exact ⟨hconn, hsend', (liftExcept_ok htrack).1⟩
  · rintro ⟨hconn, hsend, htrack⟩
    exact ⟨_, _, bind_ok.mpr ⟨_, _, rfl, bind_ok.mpr ⟨_, _,
      (bundlerSigner_eq_ok_iff bt oracle).mpr ⟨hconn, rfl, rfl⟩, bind_ok.mpr ⟨_, _,
      by rw [hsend]; rfl, bind_ok.mpr ⟨_, _, by rw [htrack]; rfl, rfl⟩⟩⟩⟩⟩

/-- One entry point's loop succeeds exactly when the steps of each of its calls do. -/
theorem createBuildersFrom_ok_iff {keys : List String} {ep : EntryPointBuilderSettings}
    {simulator : SimulatorKind} : ∀ {i n : Nat} {rt : Runtime}, KeysInv keys rt →
    ((∃ handles rt', createBuildersFrom bt oracle ep simulator i n rt = .ok handles rt') ↔
      ∀ j < n, StepsSucceed bt oracle keys (rt.senders.length + j))
  | _, 0, _, _ => ⟨fun _ _ hj => absurd hj (Nat.not_lt_zero _), fun _ => ⟨_, _, rfl⟩⟩
  | i, n + 1, rt, hinv => by
    constructor
    · rintro ⟨_, _, h⟩
      obtain ⟨_, rt₁, h₁, h⟩ := bind_ok.mp h
      obtain ⟨_, _, h₂, -⟩ := bind_ok.mp h
      obtain ⟨-, hs, -⟩ := createBundleBuilder_ok bt oracle hinv.1 h₁
      have hrest := (createBuildersFrom_ok_iff (createBundleBuilder_keysInv bt oracle hinv h₁)).mp
        ⟨_, _, h₂⟩
      rw [hs, List.length_append, List.length_singleton] at hrest
      intro j hj
      cases j with
      | zero => exact (createBundleBuilder_ok_iff bt oracle hinv.1).mp ⟨_, _, h₁⟩
      | succ j => simpa only [Nat.add_right_comm, Nat.add_assoc] using hrest j (by omega)
    · intro hsteps
      obtain ⟨_, rt₁, h₁⟩ :=
        (createBundleBuilder_ok_iff bt oracle hinv.1).mpr (hsteps 0 (Nat.succ_pos n))
      obtain ⟨-, hs, -⟩ := createBundleBuilder_ok bt oracle hinv.1 h₁
      obtain ⟨_, _, h₂⟩ := (createBuildersFrom_ok_iff
        (createBundleBuilder_keysInv bt oracle hinv h₁)).mpr fun j (hj : j < n) => by
          rw [hs, List.length_append, List.length_singleton, Nat.add_assoc, Nat.add_comm 1]
          exact hsteps (j + 1) (by omega)
      exact ⟨_, _, bind_ok.mpr ⟨_, _, h₁, bind_ok.mpr ⟨_, _, h₂, rfl⟩⟩⟩

/-- `create_builders_v0_6` and `create_builders_v0_7` succeed exactly when the provider was
supplied and the steps of each call succeed. -/
theorem createBuilders_ok_iff {keys : List String} {supplied : Bool} {notSupplied : String}
    {simulator : SimulatorKind} {ep : EntryPointBuilderSettings} {rt : Runtime}
    (hinv : KeysInv keys rt) :
    (∃ handles rt', createBuilders bt oracle supplied notSupplied simulator ep rt =
      .ok handles rt') ↔
      supplied = true ∧
        ∀ j < ep.numBundleBuilders.toNat, StepsSucceed bt oracle keys (rt.senders.length + j) := by
  cases supplied
  · exact ⟨fun ⟨_, _, h⟩ => (nomatch h), fun h => (nomatch h.1)⟩
  · exact (createBuildersFrom_ok_iff bt oracle hinv).trans (and_iff_right rfl).symm

/-- The body of the loop over the entry points succeeds exactly when the entry point is
supplied and the steps of each of its calls succeed. -/
theorem createEntryPointBuilder_ok_iff {keys : List String} {ep : EntryPointBuilderSettings}
    {rt : Runtime} (hinv : KeysInv keys rt) :
    (∃ handles rt', createEntryPointBuilder bt oracle ep rt = .ok handles rt') ↔
      Supplied bt ep ∧
        ∀ j < (plannedOf bt ep).length, StepsSucceed bt oracle keys (rt.senders.length + j) := by
  unfold createEntryPointBuilder plannedOf Supplied
  cases ep.version
  · rw [length_plannedFrom]
    exact createBuilders_ok_iff bt oracle hinv
  · rw [length_plannedFrom]
    exact createBuilders_ok_iff bt oracle hinv
  · exact ⟨fun ⟨_, _, h⟩ => (nomatch h), fun h => h.1.elim⟩

/-- A body of the loop that succeeds spawned the entry point's planned senders. -/
theorem createEntryPointBuilder_length {ep : EntryPointBuilderSettings} {keys : List String}
    {rt rt' : Runtime} {handles : List Nat} (hinv : KeysInv keys rt)
    (h : createEntryPointBuilder bt oracle ep rt = .ok handles rt') :
    rt'.senders.length = rt.senders.length + (plannedOf bt ep).length := by
  simpa using congrArg List.length (createEntryPointBuilder_ok bt oracle hinv h).2.2

/-- The loop over the entry points succeeds exactly when every entry point is supplied and the
steps of every planned call succeed. -/
theorem createEntryPointBuilders_ok_iff {keys : List String} :
    ∀ {eps : List EntryPointBuilderSettings} {rt : Runtime}, KeysInv keys rt →
    ((∃ handles rt', createEntryPointBuilders bt oracle eps rt = .ok handles rt') ↔
      (∀ ep ∈ eps, Supplied bt ep) ∧
        ∀ j < (plannedSenders bt eps).length, StepsSucceed bt oracle keys (rt.senders.length + j))
  | [], _, _ => ⟨fun _ => ⟨nofun, fun _ h => absurd h (Nat.not_lt_zero _)⟩, fun _ => ⟨_, _, rfl⟩⟩
  | ep :: eps, rt, hinv => by
    rw [plannedSenders, List.length_append, List.forall_mem_cons]
    constructor
    · rintro ⟨_, _, h⟩
      obtain ⟨_, rt₁, h₁, h⟩ := bind_ok.mp h
      obtain ⟨_, _, h₂, -⟩ := bind_ok.mp h
      obtain ⟨hsup, hsteps₁⟩ := (createEntryPointBuilder_ok_iff bt oracle hinv).mp ⟨_, _, h₁⟩
      obtain ⟨hsups, hsteps₂⟩ := (createEntryPointBuilders_ok_iff
        (createEntryPointBuilder_ok bt oracle hinv h₁).1).mp ⟨_, _, h₂⟩
      rw [createEntryPointBuilder_length bt oracle hinv h₁] at hsteps₂
      refine ⟨⟨hsup, hsups⟩, fun j hj => ?_⟩
      by_cases hj₁ : j < (plannedOf bt ep).length
      · exact hsteps₁ j hj₁
      · -- a call of a later entry point
        have := hsteps₂ (j - (plannedOf bt ep).length) (by omega)
        rwa [Nat.add_assoc, Nat.add_sub_cancel' (by omega)] at this
    · rintro ⟨⟨hsup, hsups⟩, hsteps⟩
      obtain ⟨_, rt₁, h₁⟩ := (createEntryPointBuilder_ok_iff bt oracle hinv).mpr
        ⟨hsup, fun j hj => hsteps j (by omega)⟩
      obtain ⟨_, _, h₂⟩ := (createEntryPointBuilders_ok_iff
        (createEntryPointBuilder_ok bt oracle hinv h₁).1).mpr ⟨hsups, fun j hj => by
          rw [createEntryPointBuilder_length bt oracle hinv h₁, Nat.add_assoc]
          exact hsteps _ (by omega)⟩
      exact ⟨_, _, bind_ok.mpr ⟨_, _, h₁, bind_ok.mpr ⟨_, _, h₂, rfl⟩⟩⟩

/-- **When the setup succeeds.** The setup of `run` succeeds exactly when every entry point has
a specified version whose provider was supplied, and every fallible step of each planned sender
succeeds: the `k`-th sender's signer connects (the `k`-th private key, or KMS past the keys
within a quarter of the lock TTL), and its transaction sender and tracker are built. -/
theorem setup_ok_iff :
    (∃ handles rt, setup bt oracle = .ok handles rt) ↔
      (∀ ep ∈ bt.args.entryPoints, Supplied bt ep) ∧
        ∀ k < (plannedSenders bt bt.args.entryPoints).length,
          StepsSucceed bt oracle bt.args.privateKeys k := by
  have hinit : KeysInv bt.args.privateKeys (initRuntime bt) := ⟨rfl, rfl⟩
  simpa only [initRuntime, List.length_nil, Nat.zero_add] using
    createEntryPointBuilders_ok_iff bt oracle hinit

/-! ## Builder indices -/

/-- Distinct iterations of one entry point's loop give distinct indices `i + offset`. -/
theorem index_injective {offset : UInt64} {i j : Nat} (hi : i < 2 ^ 64) (hj : j < 2 ^ 64)
    (h : UInt64.ofNat i + offset = UInt64.ofNat j + offset) : i = j := by
  have h' := congrArg UInt64.toNat (add_right_cancel h)
  rwa [UInt64.toNat_ofNat_of_lt hi, UInt64.toNat_ofNat_of_lt hj] at h'

/-- The senders planned for one entry point serve that entry point. -/
theorem plannedOf_entryPoint {ep : EntryPointBuilderSettings} {p : PlannedSender}
    (h : p ∈ plannedOf bt ep) : p.entryPoint = ep.address := by
  unfold plannedOf at h
  split at h
  · obtain ⟨_, _, rfl⟩ := List.mem_map.mp h; rfl
  · obtain ⟨_, _, rfl⟩ := List.mem_map.mp h; rfl
  · cases h

/-- The senders planned for one entry point have distinct indices: `i` stays below
`num_bundle_builders`, a `u64`. -/
theorem nodup_plannedFrom_index (ep : EntryPointBuilderSettings) (simulator : SimulatorKind) :
    ((plannedFrom bt ep simulator 0 ep.numBundleBuilders.toNat).map PlannedSender.index).Nodup := by
  have hn := ep.numBundleBuilders.toNat_lt
  rw [plannedFrom, List.map_map]
  refine (List.nodup_range' _ _).map_on fun i hi j hj h => index_injective ?_ ?_ h
  all_goals simp only [List.mem_range'_1] at hi hj; omega

theorem nodup_plannedOf_index (ep : EntryPointBuilderSettings) :
    ((plannedOf bt ep).map PlannedSender.index).Nodup := by
  unfold plannedOf
  split
  · exact nodup_plannedFrom_index bt ep _
  · exact nodup_plannedFrom_index bt ep _
  · exact List.nodup_nil

/-- Every planned sender serves one of the entry points. -/
theorem plannedSenders_entryPoint : ∀ {eps : List EntryPointBuilderSettings} {p : PlannedSender},
    p ∈ plannedSenders bt eps → p.entryPoint ∈ eps.map (·.address)
  | ep :: eps, p, h => by
    rcases List.mem_append.mp h with h | h
    · exact List.mem_cons.mpr (.inl (plannedOf_entryPoint bt h))
    · exact List.mem_cons_of_mem _ (plannedSenders_entryPoint h)

/-- With distinct entry point addresses, no two planned senders share an entry point and an
index. -/
theorem nodup_plannedSenders : ∀ {eps : List EntryPointBuilderSettings},
    (eps.map (·.address)).Nodup →
      ((plannedSenders bt eps).map fun p => (p.entryPoint, p.index)).Nodup
  | [], _ => List.nodup_nil
  | ep :: eps, haddr => by
    rw [List.map_cons, List.nodup_cons] at haddr
    rw [plannedSenders, List.map_append, List.nodup_append]
    refine ⟨?_, nodup_plannedSenders haddr.2, ?_⟩
    · -- one entry point: one address, distinct indices
      exact List.Nodup.of_map Prod.snd
        (by simpa [List.map_map] using nodup_plannedOf_index bt ep)
    · -- two entry points: distinct addresses
      intro x hx₁ hx₂
      obtain ⟨p, hp, rfl⟩ := List.mem_map.mp hx₁
      obtain ⟨q, hq, hpq⟩ := List.mem_map.mp hx₂
      have hq := plannedSenders_entryPoint bt hq
      rw [(Prod.mk.inj hpq).1, plannedOf_entryPoint bt hp] at hq
      exact haddr.1 hq

/-- **One sender per index of an entry point.** When the entry points have distinct addresses,
no two senders of a successful setup serve the same entry point with the same index
`i + bundle_builder_index_offset`, for every configuration and every offset. -/
theorem setup_index_nodup {handles : List Nat} {rt : Runtime}
    (h : setup bt oracle = .ok handles rt) (haddr : (bt.args.entryPoints.map (·.address)).Nodup) :
    (rt.senders.map fun s => (s.entryPoint, s.index)).Nodup := by
  have hplan := (setup_ok bt oracle h).2.2
  have hpairs : rt.senders.map (fun s => (s.entryPoint, s.index)) =
      (rt.senders.map SenderTask.planned).map fun p => (p.entryPoint, p.index) := by
    simp [List.map_map, SenderTask.planned, Function.comp_def]
  rw [hpairs, hplan]
  exact nodup_plannedSenders bt haddr

theorem setup_index_nodup_oneKeyTwoSenders :
    setup oneKeyTwoSenders allSucceed = .ok [0, 1] oneKeyTwoSendersRuntime ∧
    (oneKeyTwoSenders.args.entryPoints.map (·.address)).Nodup ∧
    (oneKeyTwoSendersRuntime.senders.map fun s => (s.entryPoint, s.index)).Nodup :=
  ⟨rfl, List.nodup_singleton _, setup_index_nodup oneKeyTwoSenders allSucceed rfl
    (List.nodup_singleton _)⟩

end Rundler.Builder
