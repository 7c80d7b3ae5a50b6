import Rundler.Builder.Setup

/-! # Builder task: supervising the senders

After its setup, `BuilderTask::run` spawns one task that joins the senders' handles
(`try_join_all(sender_handles).map_ok(|_| ())`), starts the builder runner and the remote builder
server, and awaits the three with `try_join!` over `flatten_handle`. Each task runs on its own:
it ends when it ends, in any order, and it keeps running after `run` has returned and dropped
its handle.

The builder task is a transition system over `World`. The setup is one step: it reads no task's
state, so a sender that ends during the setup commutes with the rest of it. Every other step is
one task ending, one outcome of `try_join_all`, or `try_join!` returning.

* `inv_reachable` — the supervision invariant holds in every reachable world;
* `run_ok_senders_ended` — when `run` returns `Ok(())` every sender it spawned has ended, none by
  panicking;
* `run_err_after_setup_error` — a setup that fails returns its error with every sender spawned
  so far still running: their handles were dropped, which detaches them, and nothing cancels
  them (`run_err_sender_running` is one such run);
* `run_ok_after_sender_err` — a sender's `Err` never reaches `run`: the handles' output is
  `anyhow::Result<()>`, so `try_join_all` stops only at a join error (a panic), and
  `map_ok(|_| ())` drops the senders' results; whenever the setup spawns a sender and the server
  starts, `run` can return `Ok(())` after every sender ended with `Err`.
-/

namespace Rundler.Builder

/-! ## Tasks -/

/-- How a spawned task ends: `Ok(())`, `Err(e)`, or a panic (a `JoinError` at its handle). -/
inductive TaskEnd
  | ok
  | err (e : String)
  | panic (msg : String)
deriving DecidableEq

/-- Whether a task ended by panicking. -/
def TaskEnd.isPanic : TaskEnd → Bool
  | .panic _ => true
  | _ => false

/-- A spawned task: running, or ended. -/
inductive TaskState
  | running
  | ended (r : TaskEnd)
deriving DecidableEq

/-- `handle::flatten_handle` on a task's handle: nothing while the task runs, then its result, a
join error becoming an error. -/
def flattenHandle : TaskState → Option (Except String Unit)
  | .running => none
  | .ended .ok => some (.ok ())
  | .ended (.err e) => some (.error e)
  | .ended (.panic msg) => some (.error msg)

/-- A spawned task flattens to `Ok(())` only when it ended with `Ok(())`. -/
@[simp] theorem bind_flattenHandle_eq_ok (t : Option TaskState) :
    t.bind flattenHandle = some (.ok ()) ↔ t = some (.ended .ok) := by
  rcases t with _ | _ | (_ | _ | _) <;> simp [flattenHandle]

/-! ## The world -/

/-- Where `run` is. -/
inductive Phase
  | starting
  | joining
  | returned (r : Except String Unit)
  | panicked (msg : String)

/-- The builder task's world: where `run` is, every sender task it spawned in spawn order, the
senders whose handles `try_join_all` awaits, and the join task, the builder runner and the remote
server once spawned. -/
structure World where
  phase : Phase
  senders : List TaskState
  handles : List Nat
  joinTask : Option TaskState
  runner : Option TaskState
  server : Option TaskState

/-- Before `run`: nothing spawned. -/
def World.init : World := ⟨.starting, [], [], none, none, none⟩

variable (bt : BuilderTask) (oracle : SetupOracle)

/-- The world after the setup of `run`. When it succeeds, the join task and the runner are
spawned, then the remote server, whose start can fail through `?` (with no remote address the
server is `tokio::spawn(async { Ok(()) })`). When it fails, every sender spawned so far keeps
running and its handle is dropped. -/
def afterSetup : World :=
  match setup bt oracle with
  | .ok handles rt =>
    let started : World := ⟨.joining, rt.senders.map fun _ => .running, handles, some .running,
      some .running, some .running⟩
    match bt.args.remoteAddress, oracle.remoteServer with
    | some _, .error e => { started with phase := .returned (.error e), server := none }
    | _, _ => started
  | .error (.error e) rt => ⟨.returned (.error e), rt.senders.map fun _ => .running, [], none,
      none, none⟩
  | .error (.panic msg) rt => ⟨.panicked msg, rt.senders.map fun _ => .running, [], none, none,
      none⟩

/-- The steps of the builder task. -/
inductive Next : World → World → Prop
  /-- `run` sets up the senders and starts the join task, the runner and the server. -/
  | setup {w : World} : w.phase = .starting → Next w (afterSetup bt oracle)
  /-- The `k`-th sender ends. -/
  | senderEnds {w : World} (k : Nat) (r : TaskEnd) : w.senders[k]? = some .running →
      Next w { w with senders := w.senders.set k (.ended r) }
  /-- `try_join_all` meets a join error: a sender it awaits has panicked. -/
  | joinFails {w : World} (k : Nat) (msg e : String) : w.joinTask = some .running →
      k ∈ w.handles → w.senders[k]? = some (.ended (.panic msg)) →
      Next w { w with joinTask := some (.ended (.err e)) }
  /-- `try_join_all` has every output: each sender it awaits ended without panicking, and
  `map_ok(|_| ())` drops their results. -/
  | joinSucceeds {w : World} : w.joinTask = some .running →
      (∀ k ∈ w.handles, ∃ r, w.senders[k]? = some (.ended r) ∧ r.isPanic = false) →
      Next w { w with joinTask := some (.ended .ok) }
  /-- The builder runner ends. -/
  | runnerEnds {w : World} (r : TaskEnd) : w.runner = some .running →
      Next w { w with runner := some (.ended r) }
  /-- The server ends; without a remote address it is the task that returns `Ok(())`. -/
  | serverEnds {w : World} (r : TaskEnd) : w.server = some .running →
      (bt.args.remoteAddress = none → r = .ok) → Next w { w with server := some (.ended r) }
  /-- `try_join!` meets an error of one of the three: `run` returns `Err`. -/
  | returnsErr {w : World} (t : Option TaskState) (e : String) : w.phase = .joining →
      t ∈ [w.joinTask, w.runner, w.server] → t.bind flattenHandle = some (.error e) →
      Next w { w with phase := .returned (.error ("Builder server error: " ++ e)) }
  /-- `try_join!` has the three results, all `Ok`: `run` returns `Ok(())`. -/
  | returnsOk {w : World} : w.phase = .joining → w.joinTask.bind flattenHandle = some (.ok ()) →
      w.runner.bind flattenHandle = some (.ok ()) → w.server.bind flattenHandle = some (.ok ()) →
      Next w { w with phase := .returned (.ok ()) }

/-- The worlds the builder task can reach. -/
inductive Reachable : World → Prop
  | init : Reachable World.init
  | step {w w' : World} : Reachable w → Next bt oracle w w' → Reachable w'

/-! ## The supervision invariant -/

/-- The supervision invariant: once the join task is spawned it awaits every sender; once it
succeeded every sender it awaits has ended without panicking; and `run` returns `Ok(())` only
after it succeeded. -/
structure Inv (w : World) : Prop where
  handles_eq : w.joinTask.isSome → w.handles = List.range w.senders.length
  joined : w.joinTask = some (.ended .ok) →
    ∀ k ∈ w.handles, ∃ r, w.senders[k]? = some (.ended r) ∧ r.isPanic = false
  returned_ok : w.phase = .returned (.ok ()) → w.joinTask = some (.ended .ok)

theorem init_inv : Inv World.init :=
  ⟨nofun, nofun, nofun⟩

/-- The setup step establishes the invariant, whatever the setup did. -/
theorem afterSetup_inv : Inv (afterSetup bt oracle) := by
  unfold afterSetup
  split
  · rename_i handles rt hsetup
    obtain ⟨-, rfl, -⟩ := setup_ok bt oracle hsetup
    have hstarted : Inv ⟨.joining, rt.senders.map fun _ => .running, List.range rt.senders.length,
        some .running, some .running, some .running⟩ :=
      ⟨fun _ => by simp, nofun, nofun⟩
    split
    · exact ⟨fun _ => hstarted.handles_eq rfl, nofun, nofun⟩
    · exact hstarted
  · exact ⟨nofun, nofun, nofun⟩
  · exact ⟨nofun, nofun, nofun⟩

/-- A sender that has ended is not the one ending now, and stays as it ended. -/
theorem getElem?_set_of_ended {l : List TaskState} {k j : Nat} {r r' : TaskEnd}
    (hk : l[k]? = some .running) (hj : l[j]? = some (.ended r')) :
    (l.set k (.ended r))[j]? = some (.ended r') := by
  have hjk : k ≠ j := by rintro rfl; simp [hk] at hj
  rw [List.getElem?_set_ne hjk, hj]

/-- Every step keeps the invariant. -/
theorem step_inv {w w' : World} (hinv : Inv w) (hnext : Next bt oracle w w') : Inv w' := by
  cases hnext with
  | setup _ => exact afterSetup_inv bt oracle
  | senderEnds k r hrun =>
    refine ⟨fun h => by simpa using hinv.handles_eq h, fun h j hj => ?_, hinv.returned_ok⟩
    obtain ⟨r', hr', hpanic⟩ := hinv.joined h j hj
    exact ⟨r', getElem?_set_of_ended hrun hr', hpanic⟩
  | joinFails k msg e hjoin =>
    refine ⟨fun _ => hinv.handles_eq (by simp [hjoin]), nofun, fun h => ?_⟩
    simp [hinv.returned_ok h] at hjoin
  | joinSucceeds hjoin hall =>
    exact ⟨fun _ => hinv.handles_eq (by simp [hjoin]), fun _ => hall, fun _ => rfl⟩
  | runnerEnds r _ => exact ⟨hinv.handles_eq, hinv.joined, hinv.returned_ok⟩
  | serverEnds r _ _ => exact ⟨hinv.handles_eq, hinv.joined, hinv.returned_ok⟩
  | returnsErr t e _ _ _ => exact ⟨hinv.handles_eq, hinv.joined, nofun⟩
  | returnsOk _ hjoin _ _ =>
    exact ⟨hinv.handles_eq, hinv.joined, fun _ => (bind_flattenHandle_eq_ok _).mp hjoin⟩

/-- The invariant holds in every reachable world. -/
theorem inv_reachable {w : World} (h : Reachable bt oracle w) : Inv w := by
  induction h with
  | init => exact init_inv
  | step _ hnext ih => exact step_inv bt oracle ih hnext

/-! ## Runs -/

/-- When the setup succeeds and the server starts, `run` awaits every sender it spawned. -/
theorem afterSetup_started {handles : List Nat} {rt : Runtime}
    (hsetup : setup bt oracle = .ok handles rt)
    (hserver : bt.args.remoteAddress = none ∨ oracle.remoteServer = .ok ()) :
    afterSetup bt oracle = ⟨.joining, rt.senders.map fun _ => .running, handles, some .running,
      some .running, some .running⟩ := by
  unfold afterSetup
  rw [hsetup]
  rcases hserver with h | h
  · rw [h]
  · cases bt.args.remoteAddress <;> rw [h]

/-- Senders end one after another: from a world whose senders `l₂`, after `l₁`, all run, the
world where each of `l₂` has ended with `r` is reachable. -/
theorem reachable_sendersEnd (r : TaskEnd) : ∀ (l₂ l₁ : List TaskState) {w : World},
    Reachable bt oracle w → w.senders = l₁ ++ l₂ → (∀ t ∈ l₂, t = .running) →
    Reachable bt oracle { w with senders := l₁ ++ l₂.map fun _ => .ended r }
  | [], l₁, w, hw, hs, _ => by
    cases w
    simp only [List.append_nil] at hs
    simpa [← hs] using hw
  | t :: l₂, l₁, w, hw, hs, hrun => by
    obtain rfl : t = .running := hrun t (List.mem_cons_self _ _)
    have hstep := hw.step (Next.senderEnds l₁.length r
      (by rw [hs, List.getElem?_append_right (le_refl _), Nat.sub_self, List.getElem?_cons_zero]))
    have hrest := reachable_sendersEnd r l₂ (l₁ ++ [.ended r]) hstep
      (by simp [hs, List.set_append]) (fun t ht => hrun t (List.mem_cons_of_mem _ ht))
    simpa using hrest

/-- The world where every sender has ended with `r`, the join task, the runner and the server
with `Ok(())`, and `run` has returned `Ok(())`. -/
def allEnded (rt : Runtime) (handles : List Nat) (r : TaskEnd) : World :=
  ⟨.returned (.ok ()), rt.senders.map fun _ => .ended r, handles, some (.ended .ok),
    some (.ended .ok), some (.ended .ok)⟩

/-- When the setup succeeds and the server starts, the senders can all end with `r` (not a
panic), after which `try_join_all` succeeds and `run` returns `Ok(())`. -/
theorem reachable_allEnded {handles : List Nat} {rt : Runtime}
    (hsetup : setup bt oracle = .ok handles rt)
    (hserver : bt.args.remoteAddress = none ∨ oracle.remoteServer = .ok ()) (r : TaskEnd)
    (hr : r.isPanic = false) : Reachable bt oracle (allEnded rt handles r) := by
  obtain ⟨-, rfl, -⟩ := setup_ok bt oracle hsetup
  -- the setup starts every sender, the join task, the runner and the server
  have h₁ : Reachable bt oracle (afterSetup bt oracle) := Reachable.init.step (Next.setup rfl)
  rw [afterSetup_started bt oracle hsetup hserver] at h₁
  -- every sender ends with `r`, then `try_join_all` succeeds
  have h₂ := reachable_sendersEnd bt oracle r _ [] h₁ rfl (by simp)
  have h₃ := h₂.step (Next.joinSucceeds rfl fun k hk => ⟨r, by simp_all, hr⟩)
  -- the runner and the server end with `Ok(())`, and `try_join!` returns
  have h₄ := (h₃.step (Next.runnerEnds .ok rfl)).step (Next.serverEnds .ok rfl fun _ => rfl)
  simpa [allEnded] using h₄.step (Next.returnsOk rfl rfl rfl rfl)

/-! ## Results -/

/-- **`run` returns `Ok(())` only after its senders.** In every reachable world where `run`
has returned `Ok(())`, every sender it spawned has ended, and none by panicking. -/
theorem run_ok_senders_ended {w : World} (h : Reachable bt oracle w)
    (hok : w.phase = .returned (.ok ())) :
    ∀ k (hk : k < w.senders.length), ∃ r, w.senders[k] = .ended r ∧ r.isPanic = false := by
  have hinv := inv_reachable bt oracle h
  have hjoin := hinv.returned_ok hok
  intro k hk
  have hmem : k ∈ w.handles := by
    rw [hinv.handles_eq (by simp [hjoin])]
    exact List.mem_range.mpr hk
  obtain ⟨r, hr, hpanic⟩ := hinv.joined hjoin k hmem
  exact ⟨r, by simpa [hk] using hr, hpanic⟩

theorem run_ok_senders_ended_oneKeyTwoSenders :
    Reachable oneKeyTwoSenders allSucceed (allEnded oneKeyTwoSendersRuntime [0, 1] .ok) ∧
    (allEnded oneKeyTwoSendersRuntime [0, 1] .ok).phase = .returned (.ok ()) ∧
    ∀ k (hk : k < (allEnded oneKeyTwoSendersRuntime [0, 1] .ok).senders.length),
      ∃ r, (allEnded oneKeyTwoSendersRuntime [0, 1] .ok).senders[k] = .ended r ∧
        r.isPanic = false :=
  have h := reachable_allEnded oneKeyTwoSenders allSucceed rfl (.inl rfl) .ok rfl
  ⟨h, rfl, run_ok_senders_ended oneKeyTwoSenders allSucceed h rfl⟩

/-- The setup of `oneKeyTwoSenders` when the tracker of the second sender cannot be built. -/
def trackerFailsAtSecond : SetupOracle :=
  { allSucceed with trackerNew := fun k => if k = 1 then .error "tracker" else .ok () }

/-- `run` returns `Err` with its first sender still running. -/
theorem run_err_sender_running :
    ∃ w, Reachable oneKeyTwoSenders trackerFailsAtSecond w ∧
      w.phase = .returned (.error "tracker") ∧ w.senders = [.running] :=
  ⟨_, Reachable.init.step (Next.setup rfl), rfl, rfl⟩

/-- **A failed setup leaves its senders running.** Whenever the setup fails with an error, `run`
returns that error while every sender spawned so far is still running; they are the first of
the planned senders, each signing with the key at its position. -/
theorem run_err_after_setup_error {e : String} {rt : Runtime}
    (hsetup : setup bt oracle = .error (.error e) rt) :
    ∃ w, Reachable bt oracle w ∧ w.phase = .returned (.error e) ∧
      w.senders = rt.senders.map (fun _ => .running) ∧
      rt.senders.map SenderTask.planned <+: plannedSenders bt bt.args.entryPoints ∧
      ∀ k (hk : k < rt.senders.length), rt.senders[k].signer = signerFor bt.args.privateKeys k := by
  obtain ⟨hsig, hprefix⟩ := setup_error bt oracle hsetup
  have hworld : afterSetup bt oracle = ⟨.returned (.error e), rt.senders.map fun _ => .running, [],
      none, none, none⟩ := by
    rw [afterSetup, hsetup]
  exact ⟨_, Reachable.init.step (Next.setup rfl), by rw [hworld], by rw [hworld], hprefix,
    hsig.signer_eq⟩

/-- The runtime left by `trackerFailsAtSecond`: the first sender, with the key. -/
def firstSenderOnly : Runtime := ⟨[], [⟨0, 7, .v0_6, .v0_6, .local "key0"⟩]⟩

theorem run_err_after_setup_error_trackerFailsAtSecond :
    setup oneKeyTwoSenders trackerFailsAtSecond = .error (.error "tracker") firstSenderOnly ∧
    ∃ w, Reachable oneKeyTwoSenders trackerFailsAtSecond w ∧
      w.phase = .returned (.error "tracker") ∧
      w.senders = firstSenderOnly.senders.map (fun _ => .running) ∧
      firstSenderOnly.senders.map SenderTask.planned <+:
        plannedSenders oneKeyTwoSenders oneKeyTwoSenders.args.entryPoints ∧
      ∀ k (hk : k < firstSenderOnly.senders.length),
        firstSenderOnly.senders[k].signer = signerFor oneKeyTwoSenders.args.privateKeys k :=
  ⟨rfl, run_err_after_setup_error oneKeyTwoSenders trackerFailsAtSecond rfl⟩

/-- **A sender's error never reaches `run`.** Whenever the setup spawns a sender and the server
starts, there is a run where every sender ends with `Err(e)` and `run` returns `Ok(())`. -/
theorem run_ok_after_sender_err (e : String) {handles : List Nat} {rt : Runtime}
    (hsetup : setup bt oracle = .ok handles rt) (hsenders : rt.senders ≠ [])
    (hserver : bt.args.remoteAddress = none ∨ oracle.remoteServer = .ok ()) :
    ∃ w, Reachable bt oracle w ∧ w.phase = .returned (.ok ()) ∧ w.senders ≠ [] ∧
      ∀ t ∈ w.senders, t = .ended (.err e) :=
  ⟨_, reachable_allEnded bt oracle hsetup hserver (.err e) rfl, rfl,
    by simpa [allEnded] using hsenders, by simp [allEnded]⟩

theorem run_ok_after_sender_err_oneKeyTwoSenders :
    setup oneKeyTwoSenders allSucceed = .ok [0, 1] oneKeyTwoSendersRuntime ∧
    oneKeyTwoSendersRuntime.senders ≠ [] ∧
    (oneKeyTwoSenders.args.remoteAddress = none ∨ allSucceed.remoteServer = .ok ()) ∧
    ∃ w, Reachable oneKeyTwoSenders allSucceed w ∧ w.phase = .returned (.ok ()) ∧
      w.senders ≠ [] ∧ ∀ t ∈ w.senders, t = .ended (.err "e") :=
  ⟨rfl, List.cons_ne_nil _ _, .inl rfl, run_ok_after_sender_err oneKeyTwoSenders allSucceed "e" rfl
    (List.cons_ne_nil _ _) (.inl rfl)⟩

end Rundler.Builder
