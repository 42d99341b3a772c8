import RecordStore.Proofs.Offline

namespace RecordStore

/-!
# Runs of the command line

A run gets as far as its arguments, its configuration or its command. A configuration that is loaded
is valid and has a store that knows the types it declares.
-/

/-- A valid configuration has a store, which knows the types that the configuration declares. -/
theorem Store.exists_ofConfig {c : Config} (h : c.Valid) :
    ∃ store, ofConfig c = .ok store ∧ Registry.Remembers c.types store.registry := by
  obtain ⟨registry, hregistry, hremembers⟩ := Registry.remembers_empty.registerAll h.resolves
  refine ⟨⟨registry, .ofLimit c.storage.maxInList, false⟩, ?_, hremembers⟩
  rw [ofConfig, hregistry]
  rfl

namespace CommandLine

variable {w : Workspace} {c : Config} {typeName : String}

theorem valid_of_loadConfig {path : String} (h : w.loadConfig path = .ok c) : c.Valid := by
  unfold Workspace.loadConfig at h
  split at h
  · unfold Config.ofYaml at h
    split at h
    · cases h
    · split at h
      · obtain ⟨rfl, hvalid⟩ := Config.checked_eq_ok_iff.mp h
        exact hvalid
      · cases h
  · cases h

theorem within_readIds {s : Store} (operation : String) (ids : List String) :
    (readIds s typeName operation ids).Within s.registry :=
  (Action.asks_ofExcept _).bind fun _ ↦ Action.asks_ofExcept _

/-! ## What a run leaves -/

theorem isOk_ofResult {α : Type} (lines : α → List String) (outcome : Except Error α) :
    (Printing.ofResult lines outcome).outcome.isOk = outcome.isOk := by
  cases outcome <;> rfl

theorem Printing.exitCode_ne_zero (p : Printing) :
    p.toResult.exitCode ≠ 0 ↔ p.outcome.isOk = false := by
  unfold toResult
  cases p.outcome with
  | ok _ => simp [Except.isOk, Except.toBool]
  | error e => exact iff_of_true (by cases e <;> exact Nat.succ_ne_zero _) rfl

theorem Printing.stdout_toResult (p : Printing) : p.toResult.stdout = p.text := by
  unfold toResult
  cases p.outcome <;> rfl

/-- How far a run gets: the arguments are refused, no configuration is loaded, or the command is
carried out. -/
inductive Course (w : Workspace) (args : List String) : RunResult × Workspace → Prop
  | stopped {stop : Stop} : Invocation.read args = .error stop → Course w args (stop.toResult, w)
  | unloaded {i : Invocation} {e : Error} : Invocation.read args = .ok i →
    w.loadConfig i.configPath = .error e → Course w args ((Printing.failed e).toResult, w)
  | ran {i : Invocation} {c : Config} : Invocation.read args = .ok i →
    w.loadConfig i.configPath = .ok c → Course w args
      ((runCommand w i.json c i.command).1.toResult, (runCommand w i.json c i.command).2)

theorem run_of_loadConfig {args : List String} {i : Invocation} (hread : Invocation.read args = .ok i)
    (hload : w.loadConfig i.configPath = .ok c) :
    run w args = ((runCommand w i.json c i.command).1.toResult,
      (runCommand w i.json c i.command).2) := by
  simp only [run, hread, runInvocation, hload]

end CommandLine

end RecordStore
