/-
  File:      IppPrinterApp/Restarts.lean
  Subject:   Queues over restarts, and over saves that do not finish.

  A restart is a bootstrap on the state file the one before left behind, with whatever devices
  are there this time.

  * `restarts_keep_queues`: **no queue is lost, reordered or doubled**, over any sequence of
    restarts whose saves succeed;
  * `interrupted_save`: a save that fails before it touches the file leaves the old list, one that
    finishes the new one; in between the file does not parse, and the next bootstrap starts from
    the empty state. `queues_dropped` is such a restart.
-/
import IppPrinterApp.Bootstrap
import IppPrinterApp.Lib.Transition

namespace IppPrinterApp

open MergeNew Transition

/-! ## 1. Restarts -/

/-- A restart: the round it runs, and the UUIDs it draws. Its event is the round with the list
    of printers afterwards. -/
def restart (j : SerdeJson) :
    Machine StateFile (Round × (Nat → String)) (Round × List PrinterConfig) where
  step file a :=
    let b := bootstrapPrinters j a.1 a.2 file
    some (b.2, [(a.1, configs b.1)])

/-- A restart that ends with these printers. -/
theorem restart_step {j : SerdeJson} {file : StateFile} {r : Round} {uuids : Nat → String}
    {printers : List PrinterConfig} (h : configs (bootstrapPrinters j r uuids file).1 = printers) :
    (restart j).step file (r, uuids) =
      some (PersistedState.save j printers, [(r, printers)]) := by
  rw [← h]
  rfl

/-- `make_config` keeps the URI of the device. -/
def Round.KeepsUri (r : Round) : Prop :=
  ∀ name info driver uri deviceId cfg,
    r.makeConfig name info driver uri deviceId = some cfg → cfg.deviceUri = uri

/-- What is assumed of a restart: the URI is kept, and loading undoes its save. -/
def SavesAndKeeps (j : SerdeJson) (file : StateFile) (a : Round × (Nat → String)) : Prop :=
  a.1.KeepsUri ∧ j.Undoes (configs (bootstrapPrinters j a.1 a.2 file).1)

theorem Round.KeepsUri.offer {r : Round} (hk : r.KeepsUri) (d : DiscoveredDevice)
    (cfg : PrinterConfig) (h : r.offer d = some cfg) : cfg.deviceUri = d.uri := by
  obtain ⟨driver, _, hcfg⟩ := Option.bind_eq_some_iff.mp h
  exact hk _ _ _ _ _ cfg hcfg

/-- **One restart**: what was loaded stays in front, URIs stay distinct, a device with a driver
    and a configuration has an entry, and the same round once more adds nothing. -/
theorem Round.merged_spec {r : Round} (hk : r.KeepsUri) {known : List PrinterConfig}
    (hn : (known.map (·.deviceUri)).Nodup) :
    known <+: r.merged known ∧ ((r.merged known).map (·.deviceUri)).Nodup ∧
      (∀ d ∈ r.devices, (r.offer d).isSome = true →
        d.uri ∈ (r.merged known).map (·.deviceUri)) ∧
      r.merged (r.merged known) = r.merged known := by
  refine ⟨prefix_merge known r.devices, nodup_merge hk.offer hn r.devices, fun d hd hs => ?_,
    merge_merge hk.offer known r.devices⟩
  exact (mem_keys_merge hk.offer known r.devices d.uri).mpr (Or.inr ⟨d, hd, rfl, hs⟩)

/-- With distinct URIs, a URI that is there is there once. -/
theorem count_uri {printers : List PrinterConfig} (hn : (printers.map (·.deviceUri)).Nodup)
    {uri : String} (h : uri ∈ printers.map (·.deviceUri)) :
    printers.countP (fun cfg => cfg.deviceUri == uri) = 1 := by
  have hc := List.count_eq_one_of_mem hn h
  rw [List.count, List.countP_map] at hc
  exact hc

/-- What holds of the events so far and of the state file. -/
structure Kept (j : SerdeJson) (file₀ : StateFile) (tr : List (Round × List PrinterConfig))
    (file : StateFile) : Prop where
  /-- what was loaded at first is a prefix of every list -/
  first : ∀ e ∈ tr, PersistedState.load j file₀ <+: e.2
  /-- every list is a prefix of the ones after it -/
  grows : tr.Pairwise fun e e' => e.2 <+: e'.2
  distinct : ∀ e ∈ tr, (e.2.map (·.deviceUri)).Nodup
  /-- a device with a driver and a configuration has exactly one entry -/
  entry : ∀ e ∈ tr, ∀ d ∈ e.1.devices, (e.1.offer d).isSome = true →
    e.2.countP (fun cfg => cfg.deviceUri == d.uri) = 1
  /-- the last round once more adds nothing -/
  again : ∀ e, tr.getLast? = some e → ∀ uuids,
    configs (bootstrapPrinters j e.1 uuids file).1 = e.2
  /-- the file holds the last list -/
  last : PersistedState.load j file = (tr.getLast?.map Prod.snd).getD (PersistedState.load j file₀)

/-- The list a restart begins with, and every list before it, is a prefix of what it loads. -/
theorem Kept.prefix_load {j : SerdeJson} {file₀ file : StateFile}
    {tr : List (Round × List PrinterConfig)} (h : Kept j file₀ tr file) :
    PersistedState.load j file₀ <+: PersistedState.load j file ∧
      ∀ e ∈ tr, e.2 <+: PersistedState.load j file := by
  rw [h.last]
  cases tr using List.reverseRecOn with
  | nil => exact ⟨List.prefix_rfl, fun e he => absurd he List.not_mem_nil⟩
  | append_singleton tr e =>
      rw [List.getLast?_concat, Option.map_some, Option.getD_some]
      refine ⟨h.first e (by simp), fun e' he' => ?_⟩
      rcases List.mem_append.mp he' with he' | he'
      · exact (List.pairwise_append.mp h.grows).2.2 e' he' e (List.mem_singleton_self e)
      · rw [List.mem_singleton.mp he']

/-- **The queues over restarts.** -/
theorem restarts_keep_queues {j : SerdeJson} {file₀ file : StateFile}
    {tr : List (Round × List PrinterConfig)}
    (h₀ : ((PersistedState.load j file₀).map (·.deviceUri)).Nodup)
    (h : Run (restart j) (SavesAndKeeps j) file₀ tr file) : Kept j file₀ tr file := by
  refine Run.invariant (I := Kept j file₀) ?_ ?_ h
  · exact
      { first := fun e he => absurd he List.not_mem_nil
        grows := .nil
        distinct := fun e he => absurd he List.not_mem_nil
        entry := fun e he => absurd he List.not_mem_nil
        again := fun e he => (by cases he)
        last := rfl }
  · intro tr file a file' ev hI ⟨hk, hundo⟩ hs
    rw [restart_step (configs_bootstrapPrinters j a.1 a.2 file)] at hs
    cases hs
    rw [configs_bootstrapPrinters] at hundo
    have hload := load_save hundo
    obtain ⟨hfirst, hall⟩ := hI.prefix_load
    have hn : ((PersistedState.load j file).map (·.deviceUri)).Nodup := by
      rw [hI.last]
      cases hl : tr.getLast? with
      | none => exact h₀
      | some e => exact hI.distinct e (List.mem_of_getLast? hl)
    obtain ⟨hpre, hnodup, hmem, hagain⟩ := Round.merged_spec hk hn
    refine
      { first := fun e he => ?_
        grows := ?_
        distinct := fun e he => ?_
        entry := fun e he d hd hs => ?_
        again := fun e he uuids => ?_
        last := ?_ }
    · rcases List.mem_append.mp he with he | he
      · exact hI.first e he
      · rw [List.mem_singleton.mp he]
        exact hfirst.trans hpre
    · refine List.pairwise_append.mpr ⟨hI.grows, List.pairwise_singleton _ _, fun e he e' he' => ?_⟩
      rw [List.mem_singleton.mp he']
      exact (hall e he).trans hpre
    · rcases List.mem_append.mp he with he | he
      · exact hI.distinct e he
      · rw [List.mem_singleton.mp he]
        exact hnodup
    · rcases List.mem_append.mp he with he | he
      · exact hI.entry e he d hd hs
      · rw [List.mem_singleton.mp he] at hd hs ⊢
        exact count_uri hnodup (hmem d hd hs)
    · rw [List.getLast?_concat] at he
      cases he
      rw [configs_bootstrapPrinters, hload, hagain]
    · rw [List.getLast?_concat, hload]
      rfl

namespace Trial

theorem roundOf_keepsUri (devices : List DiscoveredDevice) : (roundOf devices).KeepsUri := by
  intro name info driver uri deviceId cfg h
  cases h
  rfl

/-- The label printer is found at a first start, and is gone at the next. -/
theorem found_at_start :
    configs (bootstrapPrinters (json [known]) (roundOf [labelPrinter]) uuids none).1 = [known] := by
  decide +kernel

theorem kept_while_gone :
    configs (bootstrapPrinters (json [known]) (roundOf []) uuids
      (PersistedState.save (json [known]) [known])).1 = [known] := by
  rw [configs_bootstrapPrinters, merged_of_no_devices rfl, load_save (json_undoes [known])]

end Trial

theorem restarts_keep_queues_trial :
    Kept (Trial.json [Trial.known]) none
      [(Trial.roundOf [Trial.labelPrinter], [Trial.known]), (Trial.roundOf [], [Trial.known])]
      (PersistedState.save (Trial.json [Trial.known]) [Trial.known]) := by
  have h₁ := restart_step Trial.found_at_start
  have h₂ := restart_step Trial.kept_while_gone
  refine @restarts_keep_queues _ none _ _ ?_ (.step (.step .start ?_ h₁) ?_ h₂)
  · exact List.nodup_nil
  · refine ⟨Trial.roundOf_keepsUri _, ?_⟩
    rw [Trial.found_at_start]
    exact Trial.json_undoes [Trial.known]
  · refine ⟨Trial.roundOf_keepsUri _, ?_⟩
    rw [Trial.kept_while_gone]
    exact Trial.json_undoes [Trial.known]

/-! ## 2. Saves that do not finish -/

/-- What a save may leave at the path: the file as it was, if it fails before `fs::write` opens
    it, and otherwise, after the truncation, the first octets of the new text. -/
inductive AfterSave (j : SerdeJson) (printers : List PrinterConfig) (file : StateFile) :
    StateFile → Prop where
  | untouched : AfterSave j printers file file
  | written (k : Nat) (hk : k ≤ (j.toStringPretty printers).toByteArray.size) :
      AfterSave j printers file (some ((j.toStringPretty printers).toByteArray.extract 0 k))

/-- A JSON object cut short is no JSON. -/
def SerdeJson.RejectsCut (j : SerdeJson) (printers : List PrinterConfig) : Prop :=
  ∀ k < (j.toStringPretty printers).toByteArray.size, ∀ s,
    readToString (some ((j.toStringPretty printers).toByteArray.extract 0 k)) = some s →
    j.fromStr s = none

/-- An empty file is loaded like a missing one. -/
theorem load_empty {j : SerdeJson} (h : j.fromStr "" = none) :
    PersistedState.load j (some ByteArray.empty) = [] := by
  have hread : readToString (some ByteArray.empty) = some "" := readToString_toByteArray ""
  unfold PersistedState.load
  rw [hread, Option.bind_some, h, Option.getD_none]

/-- A text cut short is loaded like a missing file. -/
theorem load_cut {j : SerdeJson} {printers : List PrinterConfig} (hc : j.RejectsCut printers)
    {k : Nat} (hk : k < (j.toStringPretty printers).toByteArray.size) :
    PersistedState.load j (some ((j.toStringPretty printers).toByteArray.extract 0 k)) = [] := by
  unfold PersistedState.load
  cases hs : readToString (some ((j.toStringPretty printers).toByteArray.extract 0 k)) with
  | none => rfl
  | some s => rw [Option.bind_some, hc k hk s hs, Option.getD_none]

/-- A bootstrap keeps what it loads. -/
theorem load_prefix_bootstrap (j : SerdeJson) (r : Round) (uuids : Nat → String)
    (file : StateFile) :
    PersistedState.load j file <+: configs (bootstrapPrinters j r uuids file).1 := by
  rw [configs_bootstrapPrinters]
  exact prefix_merge _ _

/-- **What the next bootstrap makes of a save that fails or is interrupted**: a file that was not
    touched restores the list it held, a text that was written to its end the new one; in between
    the bootstrap runs as if there were no file. -/
theorem interrupted_save {j : SerdeJson} {printers : List PrinterConfig}
    (hu : j.Undoes printers) (hc : j.RejectsCut printers) {file file' : StateFile}
    (h : AfterSave j printers file file') (r : Round) (uuids : Nat → String) :
    (file' = file ∧
        PersistedState.load j file <+: configs (bootstrapPrinters j r uuids file').1) ∨
      (file' = PersistedState.save j printers ∧
        printers <+: configs (bootstrapPrinters j r uuids file').1) ∨
      (∃ k < (j.toStringPretty printers).toByteArray.size,
        file' = some ((j.toStringPretty printers).toByteArray.extract 0 k) ∧
        bootstrapPrinters j r uuids file' = bootstrapPrinters j r uuids none) := by
  cases h with
  | untouched => exact Or.inl ⟨rfl, load_prefix_bootstrap j r uuids file⟩
  | written k hk =>
      rcases Nat.lt_or_eq_of_le hk with hlt | rfl
      · refine Or.inr (Or.inr ⟨k, hlt, rfl, ?_⟩)
        unfold bootstrapPrinters
        rw [load_cut hc hlt, load_none]
      · refine Or.inr (Or.inl ⟨by rw [ByteArray.extract_zero_size]; rfl, ?_⟩)
        have hp := load_prefix_bootstrap j r uuids (PersistedState.save j printers)
        rw [load_save hu] at hp
        rw [ByteArray.extract_zero_size]
        exact hp

theorem Trial.json_rejectsCut (printers : List PrinterConfig) :
    (Trial.json printers).RejectsCut printers := by
  intro k hk s hs
  refine if_neg fun e => ?_
  have hsize : s.toByteArray.size = k := by
    unfold readToString String.fromUTF8? at hs
    rw [Option.bind_some] at hs
    split at hs
    · cases hs
      show (ByteArray.extract _ 0 k).size = k
      rw [ByteArray.size_extract]
      omega
    · cases hs
  rw [e] at hsize
  exact absurd hsize (Nat.ne_of_gt hk)

/-- The save of a list of one over a list of one is cut after its first octet. -/
theorem interrupted_save_trial :
    (some ((Trial.stateText [Trial.known]).toByteArray.extract 0 1) =
          PersistedState.save (Trial.json [Trial.known]) [Trial.known] ∧
        PersistedState.load (Trial.json [Trial.known])
            (PersistedState.save (Trial.json [Trial.known]) [Trial.known]) <+:
          configs (bootstrapPrinters (Trial.json [Trial.known]) (Trial.roundOf []) Trial.uuids
            (some ((Trial.stateText [Trial.known]).toByteArray.extract 0 1))).1) ∨
      (some ((Trial.stateText [Trial.known]).toByteArray.extract 0 1) =
          PersistedState.save (Trial.json [Trial.known]) [Trial.known] ∧
        [Trial.known] <+:
          configs (bootstrapPrinters (Trial.json [Trial.known]) (Trial.roundOf []) Trial.uuids
            (some ((Trial.stateText [Trial.known]).toByteArray.extract 0 1))).1) ∨
      (∃ k < (Trial.stateText [Trial.known]).toByteArray.size,
        some ((Trial.stateText [Trial.known]).toByteArray.extract 0 1) =
          some ((Trial.stateText [Trial.known]).toByteArray.extract 0 k) ∧
        bootstrapPrinters (Trial.json [Trial.known]) (Trial.roundOf []) Trial.uuids
            (some ((Trial.stateText [Trial.known]).toByteArray.extract 0 1)) =
          bootstrapPrinters (Trial.json [Trial.known]) (Trial.roundOf []) Trial.uuids none) :=
  interrupted_save (Trial.json_undoes _) (Trial.json_rejectsCut _) (.written 1 (by decide +kernel))
    (Trial.roundOf []) Trial.uuids

/-- A save of the same list again, interrupted right after the truncation; the device is off at
    the restart. -/
theorem queues_dropped :
    ¬ ∀ (j : SerdeJson) (printers : List PrinterConfig) (file file' : StateFile) (r : Round)
        (uuids : Nat → String), j.Undoes printers → j.RejectsCut printers →
        AfterSave j printers file file' →
        PersistedState.load j file <+: configs (bootstrapPrinters j r uuids file').1 ∨
          printers <+: configs (bootstrapPrinters j r uuids file').1 := by
  intro h
  have hsize : 0 < ((Trial.json [Trial.known]).toStringPretty [Trial.known]).toByteArray.size := by
    decide +kernel
  have hempty : configs (bootstrapPrinters (Trial.json [Trial.known]) (Trial.roundOf [])
      Trial.uuids (some ((Trial.stateText [Trial.known]).toByteArray.extract 0 0))).1 = [] := by
    rw [configs_bootstrapPrinters, merged_of_no_devices rfl]
    exact load_cut (Trial.json_rejectsCut [Trial.known]) hsize
  have hp := h (Trial.json [Trial.known]) [Trial.known]
    (PersistedState.save (Trial.json [Trial.known]) [Trial.known]) _ (Trial.roundOf []) Trial.uuids
    (Trial.json_undoes _) (Trial.json_rejectsCut _) (.written 0 (Nat.zero_le _))
  rw [load_save (Trial.json_undoes [Trial.known]), or_self] at hp
  exact List.cons_ne_nil _ _ (List.prefix_nil.mp (hempty ▸ hp))

end IppPrinterApp
