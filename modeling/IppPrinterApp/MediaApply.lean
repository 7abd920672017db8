/-
  File:      IppPrinterApp/MediaApply.lean
  Subject:   What a submitted media form does (`media_apply_handler`, server.rs).

  The handler reads the printer's record, asks the consumer's hook if there is one, finds the
  record again and writes it, and persists the registry. Other requests may change the registry
  and the state file between any two of its accesses, so it is looked at as a call among others
  (`mediaCall`, `Call.among`): its own accesses are noted, the rest is arbitrary.

  * `MediaStage` -- the invariant: for each position of the handler, what has been seen of it and
    what it has done to the shared state;
  * `media_apply_effects`: **an answer other than 200 has changed nothing; 200 has changed the
    first record with the name, by the media the hook was shown, and persisted the registry**;
  * `run_media_call` -- the media requests of a running server are such calls.
-/
import IppPrinterApp.Lib.Call
import IppPrinterApp.System

namespace IppPrinterApp

open Call FirstMatch Transition

/-! ## 1. The handler as a call -/

/-- What the handler shares with the rest of the server: the registry and the state file. -/
abbrev Shared := PrinterRegistry × List PrinterConfig

/-- What moves the handler: its own accesses, and the answer of the hook. -/
inductive MediaInput where
  | enter
  | answer (refusal : Option String)
  | access

/-- What is seen of the handler before its answer. -/
def hookCalls (hooked : Bool) (name : String) (form : MediaForm) : List Event :=
  if hooked then [.mediaHook name form.media] else []

/-- The first access: the task it leaves, and what is seen of it. -/
def mediaEnter (hooked : Bool) (name : String) (form : MediaForm) (printers : PrinterRegistry) :
    MediaTask × List Event :=
  match mediaStart hooked printers name form with
  | .error page => (⟨name, form, .done⟩, [.page name form page])
  | .ok pc => (⟨name, form, pc⟩, hookCalls hooked name form)

/-- **The handler's program**, from its first access on; before that it has no task. -/
def mediaCall (hooked : Bool) (name : String) (form : MediaForm) :
    Program Shared (Option MediaTask) MediaInput Event where
  next sh
    | none, .enter =>
      some ((sh, some (mediaEnter hooked name form sh.1).1), (mediaEnter hooked name form sh.1).2)
    | some t, .answer refusal =>
      (t.answered refusal).map fun r => ((sh, some r.1), (r.2.map (.page name form)).toList)
    | some t, .access =>
      (t.step sh.1).map fun r =>
        (((t.printersAfter sh.1, t.saves.getD sh.2), some r.1), (r.2.map (.page name form)).toList)
    | _, _ => none

/-! ## 2. The stages -/

/-- The access writes the media into the first record with the name, and nothing else. -/
def Loads (name : String) (media : ReadyMedia) (e : Shared × Shared) : Prop :=
  ∃ before record after, e.1.1 = before ++ record :: after ∧
    (∀ p ∈ before, p.config.name ≠ name) ∧ record.config.name = name ∧
    e.2 = (before ++ (record.setReadyMedia media).1 :: after, e.1.2)

/-- The first access found a record with the name whose bounds admit the size. -/
def Checked (name : String) (form : MediaForm) (log : List (Shared × Shared)) : Prop :=
  ∃ e rest record, log = e :: rest ∧ findPrinter e.1.1 name = some record ∧
    form.outOfRange record.config = false

theorem Checked.append {name : String} {form : MediaForm} {log : List (Shared × Shared)}
    (h : Checked name form log) (more : List (Shared × Shared)) :
    Checked name form (log ++ more) := by
  obtain ⟨e, rest, record, rfl, hf, ho⟩ := h
  exact ⟨e, rest ++ more, record, rfl, hf, ho⟩

/-- **The stages of the handler**: what has been seen, where it is, and what its accesses did. -/
inductive MediaStage (hooked : Bool) (name : String) (form : MediaForm) :
    List Event → Option MediaTask → List (Shared × Shared) → Prop where
  | entering : MediaStage hooked name form [] none []
  | refused (sh : Shared) (page : Page) (hp : page.status ≠ 200) :
      MediaStage hooked name form [.page name form page] (some ⟨name, form, .done⟩) [(sh, sh)]
  | asking (log : List (Shared × Shared)) (record : PrinterRecord) (hc : Checked name form log)
      (hq : Quiet log) :
      MediaStage hooked name form (hookCalls hooked name form) (some ⟨name, form, .hook record⟩) log
  | agreed (log : List (Shared × Shared)) (hc : Checked name form log) (hq : Quiet log) :
      MediaStage hooked name form (hookCalls hooked name form) (some ⟨name, form, .write⟩) log
  | turned (log : List (Shared × Shared)) (page : Page) (hp : page.status ≠ 200)
      (hc : Checked name form log) (hq : Quiet log) :
      MediaStage hooked name form (hookCalls hooked name form ++ [.page name form page])
        (some ⟨name, form, .done⟩) log
  | loaded (log : List (Shared × Shared)) (w : Shared × Shared) (updated : PrinterRecord)
      (hc : Checked name form log) (hq : Quiet log) (hw : Loads name form.media w) :
      MediaStage hooked name form (hookCalls hooked name form)
        (some ⟨name, form, .snapshot updated⟩) (log ++ [w])
  | listed (log : List (Shared × Shared)) (w : Shared × Shared) (sh : Shared)
      (updated : PrinterRecord) (hc : Checked name form log) (hq : Quiet log)
      (hw : Loads name form.media w) :
      MediaStage hooked name form (hookCalls hooked name form)
        (some ⟨name, form, .save updated (configs sh.1)⟩) (log ++ [w, (sh, sh)])
  | stored (log : List (Shared × Shared)) (w : Shared × Shared) (sh sh' : Shared) (page : Page)
      (hp : page.status = 200) (hc : Checked name form log) (hq : Quiet log)
      (hw : Loads name form.media w) :
      MediaStage hooked name form (hookCalls hooked name form ++ [.page name form page])
        (some ⟨name, form, .done⟩) (log ++ [w, (sh, sh), (sh', (sh'.1, configs sh.1))])

section Stages

variable {hooked : Bool} {name : String} {form : MediaForm}

/-- The write of a record that is found. -/
theorem loads_write {printers : PrinterRegistry} {file : List PrinterConfig}
    {record : PrinterRecord} (hf : findPrinter printers name = some record) :
    Loads name form.media ((printers, file),
      (updatePrinter printers name fun r => (r.setReadyMedia form.media).1, file)) := by
  obtain ⟨hp, before, after, rfl, hbefore⟩ := List.find?_eq_some_iff_append.mp hf
  have hname : record.config.name = name := findPrinter_name hf
  have hmiss : ∀ p ∈ before, (p.config.name == name) = false := fun p hm => by
    simpa using hbefore p hm
  refine ⟨before, record, after, rfl, fun p hm => ?_, hname, ?_⟩
  · exact beq_eq_false_iff_ne.mp (hmiss p hm)
  · unfold updatePrinter
    rw [updateFirst_append hmiss (by rw [hname]; exact beq_self_eq_true name)]

/-- The first access: a refusal, or the start of the work. -/
theorem stage_enter (sh : Shared) :
    MediaStage hooked name form (mediaEnter hooked name form sh.1).2
      (some (mediaEnter hooked name form sh.1).1) [(sh, sh)] := by
  have hquiet : Quiet [(sh, sh)] := quiet_nil.append sh
  unfold mediaEnter mediaStart
  cases hf : findPrinter sh.1 name with
  | none => exact .refused sh _ (by decide)
  | some record =>
      dsimp only
      cases ho : form.outOfRange record.config with
      | true => exact .refused sh _ (show (400 : Nat) ≠ 200 by decide)
      | false =>
          have hchecked : Checked name form [(sh, sh)] := ⟨_, [], record, rfl, hf, ho⟩
          cases hooked with
          | true => exact .asking _ record hchecked hquiet
          | false => exact .agreed _ hchecked hquiet

/-- The answer of the hook: consent, or a refusal. -/
theorem stage_answer {log : List (Shared × Shared)} {record : PrinterRecord} {t : MediaTask}
    {page : Option Page} {refusal : Option String} (sh : Shared) (hc : Checked name form log)
    (hq : Quiet log)
    (h : (MediaTask.mk name form (.hook record)).answered refusal = some (t, page)) :
    MediaStage hooked name form
      (hookCalls hooked name form ++ (page.map (Event.page name form)).toList) (some t)
      (log ++ [(sh, sh)]) := by
  cases refusal with
  | none =>
      cases h
      rw [Option.map_none, Option.toList_none, List.append_nil]
      exact .agreed _ (hc.append _) (hq.append sh)
  | some reason =>
      cases h
      exact .turned _ _ (show (409 : Nat) ≠ 200 by decide) (hc.append _) (hq.append sh)

/-- The write: of the record found, or the answer that there is none any more. -/
theorem stage_write {log : List (Shared × Shared)} {t : MediaTask} {page : Option Page}
    (sh : Shared) (hc : Checked name form log) (hq : Quiet log)
    (h : (MediaTask.mk name form .write).step sh.1 = some (t, page)) :
    MediaStage hooked name form
      (hookCalls hooked name form ++ (page.map (Event.page name form)).toList) (some t)
      (log ++ [(sh, ((MediaTask.mk name form .write).printersAfter sh.1, sh.2))]) := by
  unfold MediaTask.step at h
  dsimp only at h
  cases hf : findPrinter sh.1 name with
  | none =>
      rw [hf] at h
      cases h
      rw [MediaTask.printersAfter_missing hf]
      exact .turned _ _ (by decide) (hc.append _) (hq.append sh)
  | some record =>
      rw [hf] at h
      cases h
      rw [Option.map_none, Option.toList_none, List.append_nil]
      exact .loaded log _ _ hc hq (loads_write hf)

/-- **Each own access leads from a stage to a stage.** -/
theorem MediaStage.step {tr : List Event} {x x' : Option MediaTask} {log : List (Shared × Shared)}
    {sh sh' : Shared} {i : MediaInput} {ev : List Event} (hs : MediaStage hooked name form tr x log)
    (h : (mediaCall hooked name form).next sh x i = some ((sh', x'), ev)) :
    MediaStage hooked name form (tr ++ ev) x' (log ++ [(sh, sh')]) := by
  cases x with
  | none =>
      cases i with
      | enter =>
          cases h
          cases hs
          exact stage_enter sh
      | answer refusal => cases h
      | access => cases h
  | some t =>
      cases i with
      | enter => cases h
      | answer refusal =>
          obtain ⟨⟨t', page⟩, ha, e⟩ := Option.map_eq_some_iff.mp h
          cases e
          cases hs with
          | asking log record hc hq => exact stage_answer sh hc hq ha
          | _ => cases ha
      | access =>
          obtain ⟨⟨t', page⟩, ha, e⟩ := Option.map_eq_some_iff.mp h
          cases e
          cases hs with
          | agreed log hc hq => exact stage_write sh hc hq ha
          | loaded log w updated hc hq hw =>
              cases ha
              rw [List.append_assoc, Option.map_none, Option.toList_none, List.append_nil]
              exact .listed log w sh updated hc hq hw
          | listed log w sh₁ updated hc hq hw =>
              cases ha
              rw [List.append_assoc]
              exact .stored log w sh₁ sh _ rfl hc hq hw
          | _ => cases ha

end Stages

/-! ## 3. The effects -/

/-- **What a call may have done by the time it is looked at**: its hook is called at most once,
    for its own media, and only if the bounds of the record first found admit the size; an answer
    other than 200 comes after accesses that changed nothing; and 200 comes after the hook, if
    there is one, and after the load of that media into the first record with the name and the
    saving of the registry as it was read after the load, which are the only changes. -/
structure MediaEffects (hooked : Bool) (name : String) (form : MediaForm) (tr : List Event)
    (log : List (Shared × Shared)) : Prop where
  once : ∃ pages : List Page, pages.length ≤ 1 ∧
    (tr = pages.map (.page name form) ∨
      tr = hookCalls hooked name form ++ pages.map (.page name form))
  inRange : Event.mediaHook name form.media ∈ tr → Checked name form log
  unchanged : ∀ page, .page name form page ∈ tr → page.status ≠ 200 → Quiet log
  changed : ∀ page, .page name form page ∈ tr → page.status = 200 →
    (hooked = true → Event.mediaHook name form.media ∈ tr) ∧
    ∃ before w sh sh', log = before ++ [w, (sh, sh), (sh', (sh'.1, configs sh.1))] ∧
      Quiet before ∧ Loads name form.media w

section Effects

variable {hooked : Bool} {name : String} {form : MediaForm} {tr : List Event}

theorem page_mem_calls {page : Page} : Event.page name form page ∉ hookCalls hooked name form := by
  intro h
  unfold hookCalls at h
  split at h
  · cases List.mem_singleton.mp h
  · cases h

theorem page_mem_concat {page page' : Page}
    (h : Event.page name form page ∈ hookCalls hooked name form ++ [.page name form page']) :
    page = page' := by
  rcases List.mem_append.mp h with h | h
  · exact absurd h page_mem_calls
  · cases List.mem_singleton.mp h
    rfl

/-- Every stage shows such effects. -/
theorem MediaStage.effects {x : Option MediaTask} {log : List (Shared × Shared)}
    (h : MediaStage hooked name form tr x log) : MediaEffects hooked name form tr log := by
  -- while nothing but the hook has been seen
  have hcalls : ∀ log, (Checked name form log) →
      MediaEffects hooked name form (hookCalls hooked name form) log := by
    intro log hc
    exact
      { once := ⟨[], Nat.zero_le 1, Or.inr (List.append_nil _).symm⟩
        inRange := fun _ => hc
        unchanged := fun page hm => absurd hm page_mem_calls
        changed := fun page hm => absurd hm page_mem_calls }
  cases h with
  | entering =>
      exact
        { once := ⟨[], Nat.zero_le 1, Or.inl rfl⟩
          inRange := fun hm => absurd hm List.not_mem_nil
          unchanged := fun page hm => absurd hm List.not_mem_nil
          changed := fun page hm => absurd hm List.not_mem_nil }
  | refused sh page hp =>
      have hsame : ∀ page', Event.page name form page' ∈ [Event.page name form page] →
          page' = page := by
        intro page' hm
        cases List.mem_singleton.mp hm
        rfl
      exact
        { once := ⟨[page], Nat.le_refl 1, Or.inl rfl⟩
          inRange := fun hm => by cases List.mem_singleton.mp hm
          unchanged := fun page' hm _ => quiet_nil.append sh
          changed := fun page' hm h200 => absurd (hsame page' hm ▸ h200) hp }
  | asking log record hc hq => exact hcalls log hc
  | agreed log hc hq => exact hcalls log hc
  | loaded log w updated hc hq hw => exact hcalls _ (hc.append _)
  | listed log w sh updated hc hq hw => exact hcalls _ (hc.append _)
  | turned log page hp hc hq =>
      exact
        { once := ⟨[page], Nat.le_refl 1, Or.inr rfl⟩
          inRange := fun _ => hc
          unchanged := fun page' hm _ => hq
          changed := fun page' hm h200 => absurd (page_mem_concat hm ▸ h200) hp }
  | stored log w sh sh' page hp hc hq hw =>
      exact
        { once := ⟨[page], Nat.le_refl 1, Or.inr rfl⟩
          inRange := fun _ => hc.append _
          unchanged := fun page' hm hne => absurd (page_mem_concat hm ▸ hp) hne
          changed := fun page' hm _ => by
            refine ⟨fun hh => ?_, log, w, sh, sh', rfl, hq, hw⟩
            rw [hh]
            exact List.mem_cons_self }

/-- **The effects of every call**, on every registry and state file, whatever the hook answers and
    whatever the others do to both in the meantime. -/
theorem media_apply_effects {sh : Shared} {c : Among Shared (Option MediaTask)}
    (h : Run (among (mediaCall hooked name form)) anyStep (entered sh none) tr c) :
    MediaEffects hooked name form tr c.log :=
  (run_among (I := MediaStage hooked name form) .entering
    (fun _ _ _ _ _ _ _ _ hs hn => hs.step hn) h).effects

end Effects

namespace Trial

/-- A form is submitted, another printer of the name is registered while the hook is awaited, the
    hook agrees, and the handler goes on to its end. -/
def mediaScript : List (Act Shared MediaInput) :=
  [.own .enter, .others ([.new (config "p") "uuid-p", .new (config "p") "uuid-q"], []),
    .own (.answer none), .own .access, .own .access, .own .access]

abbrev mediaForm : MediaForm := ⟨50, 30⟩

abbrev mediaMachine : Machine (Among Shared (Option MediaTask)) (Act Shared MediaInput) Event :=
  among (mediaCall true "p" mediaForm)

abbrev mediaEntered : Among Shared (Option MediaTask) := 
  entered ([.new (config "p") "uuid-p"], [config "p"]) none

end Trial

theorem media_apply_effects_agreed :
    MediaEffects true "p" Trial.mediaForm
        (traceOf Trial.mediaMachine anyStep Trial.mediaEntered Trial.mediaScript)
        (endOf Trial.mediaMachine anyStep Trial.mediaEntered Trial.mediaScript).log ∧
      (traceOf Trial.mediaMachine anyStep Trial.mediaEntered Trial.mediaScript).length = 2 ∧
      (endOf Trial.mediaMachine anyStep Trial.mediaEntered Trial.mediaScript).log.length = 5 :=
  ⟨media_apply_effects (run_endOf (by decide +kernel)), by decide +kernel, by decide +kernel⟩

/-! ## 4. The media requests of a running server -/

/-- **What a step does to the media requests** and to what they share with the others. -/
inductive MediaTasksStep (o : Options) (s : System) : Action → Shared → List MediaTask → Prop where
  | same (a : Action) (sh : Shared) : MediaTasksStep o s a sh s.media
  | posted (name : String) (form : MediaForm) (pc : MediaPc)
      (h : mediaStart o.hooked s.app.printers name form = .ok pc) :
      MediaTasksStep o s (.mediaPost name form) (s.app.printers, s.file)
        (s.media ++ [⟨name, form, pc⟩])
  | answered (i : Nat) (refusal : Option String) (t t' : MediaTask) (page : Option Page)
      (ht : s.media[i]? = some t) (ha : t.answered refusal = some (t', page)) :
      MediaTasksStep o s (.mediaAnswer i refusal) (s.app.printers, s.file) (s.media.set i t')
  | moved (i : Nat) (t t' : MediaTask) (page : Option Page) (ht : s.media[i]? = some t)
      (ha : t.step s.app.printers = some (t', page)) :
      MediaTasksStep o s (.media i) (t.printersAfter s.app.printers, t.saves.getD s.file)
        (s.media.set i t')

section Server

variable {o : Options} {s s' : System} {a : Action} {ev : List Event}

theorem step_media_tasks (h : step o s a = some (s', ev)) :
    MediaTasksStep o s a (s'.app.printers, s'.file) s'.media := by
  cases a with
  | request clock name body =>
      rcases step_request h with ⟨_, _, rfl, _⟩ | ⟨_, _, _, _, _, _, rfl⟩ |
        ⟨_, _, _, _, _, _, rfl⟩ | ⟨_, _, _, _, rfl, _⟩
      · exact .same _ _
      · exact .same _ _
      · exact .same _ _
      · exact .same _ _
  | cancelNext i now =>
      obtain ⟨t, _, ⟨_, _, _, _, rfl⟩ | ⟨_, rfl, _⟩⟩ := step_cancelNext h
      · exact .same _ _
      · exact .same _ _
  | identified i =>
      obtain ⟨_, _, rfl, _⟩ := step_identified h
      exact .same _ _
  | worker i now =>
      obtain ⟨_, _, _, _, _, rfl⟩ := step_worker h
      exact .same _ _
  | outcome i out =>
      obtain ⟨_, _, _, _, rfl⟩ := step_outcome h
      exact .same _ _
  | pollTick =>
      obtain ⟨_, _, rfl⟩ := step_pollTick h
      exact .same _ _
  | pollAnswer status =>
      obtain ⟨_, _, _, _, _, _, rfl, _⟩ := step_pollAnswer h
      exact .same _ _
  | poll =>
      obtain ⟨_, _, _, rfl⟩ := step_poll h
      exact .same _ _
  | mediaPost name form =>
      rcases step_mediaPost h with rfl | ⟨pc, hpc, rfl⟩
      · exact .same _ _
      · exact .posted name form pc hpc
  | mediaAnswer i refusal =>
      obtain ⟨t, t', page, ht, ha, rfl⟩ := step_mediaAnswer h
      exact .answered i refusal t t' page ht ha
  | media i =>
      obtain ⟨t, t', page, ht, ha, rfl⟩ := step_media h
      exact .moved i t t' page ht ha

/-- A media request of the server is where a call among others can be. -/
def IsCall (o : Options) (start sh : Shared) (t : MediaTask) : Prop :=
  ∃ tr log, Run (among (mediaCall o.hooked t.name t.form)) anyStep (entered start none) tr
    ⟨sh, some t, log⟩

theorem IsCall.others {start sh : Shared} {t : MediaTask} (h : IsCall o start sh t) (sh' : Shared) :
    IsCall o start sh' t := by
  obtain ⟨tr, log, hr⟩ := h
  exact ⟨tr, log, run_others hr sh'⟩

theorem MediaTask.answered_same {t t' : MediaTask} {refusal : Option String} {page : Option Page}
    (h : t.answered refusal = some (t', page)) : t'.name = t.name ∧ t'.form = t.form := by
  unfold MediaTask.answered at h
  cases hp : t.pc with
  | hook record =>
      rw [hp] at h
      cases refusal with
      | none =>
          cases h
          exact ⟨rfl, rfl⟩
      | some reason =>
          cases h
          exact ⟨rfl, rfl⟩
  | _ => rw [hp] at h; cases h

theorem MediaTask.step_same {t t' : MediaTask} {printers : PrinterRegistry} {page : Option Page}
    (h : t.step printers = some (t', page)) : t'.name = t.name ∧ t'.form = t.form := by
  unfold MediaTask.step at h
  cases hp : t.pc with
  | write =>
      rw [hp] at h
      cases hf : findPrinter printers t.name with
      | none =>
          rw [hf] at h
          cases h
          exact ⟨rfl, rfl⟩
      | some record =>
          rw [hf] at h
          cases h
          exact ⟨rfl, rfl⟩
  | snapshot updated =>
      rw [hp] at h
      cases h
      exact ⟨rfl, rfl⟩
  | save updated saved =>
      rw [hp] at h
      cases h
      exact ⟨rfl, rfl⟩
  | _ => rw [hp] at h; cases h

/-- A step leads media requests that are calls to media requests that are calls. -/
theorem MediaTasksStep.isCall {start sh : Shared} {ts : List MediaTask}
    (h : MediaTasksStep o s a sh ts)
    (hall : ∀ t ∈ s.media, IsCall o start (s.app.printers, s.file) t) :
    ∀ t ∈ ts, IsCall o start sh t := by
  cases h with
  | same => exact fun t ht => (hall t ht).others _
  | posted name form pc hpc =>
      intro t ht
      rcases List.mem_append.mp ht with ht | ht
      · exact hall t ht
      · rw [List.mem_singleton.mp ht]
        have henter : (mediaCall o.hooked name form).next (s.app.printers, s.file) none .enter =
            some (((s.app.printers, s.file), some ⟨name, form, pc⟩),
              hookCalls o.hooked name form) := by
          show some (((s.app.printers, s.file), some (mediaEnter o.hooked name form _).1), _) = _
          unfold mediaEnter
          rw [hpc]
        exact ⟨_, _, run_own (run_others .start (s.app.printers, s.file)) henter⟩
  | answered i refusal t t' page ht ha =>
      intro u hu
      rcases Pool.mem_set hu with hu | rfl
      · exact hall u hu
      · obtain ⟨tr, log, hr⟩ := hall t (List.mem_of_getElem? ht)
        obtain ⟨hn, hf⟩ := MediaTask.answered_same ha
        have hnext : (mediaCall o.hooked t.name t.form).next (s.app.printers, s.file) (some t)
            (.answer refusal) = some (((s.app.printers, s.file), some u),
              (page.map (Event.page t.name t.form)).toList) := by
          show (t.answered refusal).map _ = _
          rw [ha]
          rfl
        unfold IsCall
        rw [hn, hf]
        exact ⟨_, _, run_own hr hnext⟩
  | moved i t t' page ht ha =>
      intro u hu
      rcases Pool.mem_set hu with hu | rfl
      · exact (hall u hu).others _
      · obtain ⟨tr, log, hr⟩ := hall t (List.mem_of_getElem? ht)
        obtain ⟨hn, hf⟩ := MediaTask.step_same ha
        have hnext : (mediaCall o.hooked t.name t.form).next (s.app.printers, s.file) (some t)
            .access = some (((t.printersAfter s.app.printers, t.saves.getD s.file), some u),
              (page.map (Event.page t.name t.form)).toList) := by
          show (t.step s.app.printers).map _ = _
          rw [ha]
          rfl
        unfold IsCall
        rw [hn, hf]
        exact ⟨_, _, run_own hr hnext⟩

/-- **The media requests of a running server are calls among others**, from the registry and the
    state file it was started with. -/
theorem run_media_call {G : System → Action → Prop} {d : Deployment} {tr : List Event}
    (h : Run (server o) G (boot d) tr s) :
    ∀ t ∈ s.media, IsCall o ((boot d).app.printers, (boot d).file) (s.app.printers, s.file) t :=
  Run.always (I := fun s => ∀ t ∈ s.media,
      IsCall o ((boot d).app.printers, (boot d).file) (s.app.printers, s.file) t)
    (fun _ ht => absurd ht List.not_mem_nil)
    (fun _ _ _ _ hall _ hs => (step_media_tasks hs).isCall hall) h

end Server

end IppPrinterApp
