/-
  File:      IppPrinterApp/Accounts.lean
  Subject:   What is handed in and what comes back: media forms.

  A media form waits for the hook, then for the registry and the file, while other forms and
  requests come in between.

  * `FormsStep`, `step_forms` -- what a step does to the forms under way, and what is seen of it;
  * `forms_answered_once`: in every run, each submitted form is answered once or still under way;
  * `FormsRouted` -- the printer of a form under way is there; so no form that was approved is
    answered with 404;
  * `forms_answered_as_decided`: `Loaded` is answered as often as a form was approved, but for
    those still to be loaded, and 409 as often as the hook refused one.
-/
import IppPrinterApp.Answers
import IppPrinterApp.MediaApply

namespace IppPrinterApp

open Transition Flow

/-! ## 1. Forms under way -/

/-- Forms: the name of the printer and what was entered. -/
abbrev Forms := Multiset (String × MediaForm)

/-- What an action submits. -/
def Action.submits : Action → Forms
  | .mediaPost name form => {(name, form)}
  | _ => 0

/-- The form an event answers. -/
def Event.settles : Event → Forms
  | .page name form _ => {(name, form)}
  | _ => 0

/-- The form, while its request is not through. -/
def MediaTask.underWay (t : MediaTask) : Forms := if t.pc = .done then 0 else {(t.name, t.form)}

/-- The forms under way. -/
def System.openForms (s : System) : Forms := Pool.stock MediaTask.underWay s.media

/-- The actions that serve a media form. -/
def Action.servesForm : Action → Bool
  | .mediaPost .. => true
  | .mediaAnswer .. => true
  | .media _ => true
  | _ => false

/-- The events of the media page. -/
def Event.ofForm : Event → Bool
  | .page .. => true
  | .mediaHook .. => true
  | _ => false

/-- The page a media request answers with, if it does. -/
def MediaTask.shows (t : MediaTask) (page : Option Page) : List Event :=
  (page.map (Event.page t.name t.form)).toList

/-- **What a step does to the forms under way**, and what is seen of it. -/
inductive FormsStep (o : Options) (s : System) : Action → List MediaTask → List Event → Prop where
  | refused (name : String) (form : MediaForm) (page : Page)
      (hp : mediaStart o.hooked s.app.printers name form = .error page) :
      FormsStep o s (.mediaPost name form) s.media [.page name form page]
  | posted (name : String) (form : MediaForm) (pc : MediaPc)
      (hp : mediaStart o.hooked s.app.printers name form = .ok pc) :
      FormsStep o s (.mediaPost name form) (s.media ++ [⟨name, form, pc⟩])
        (hookCalls o.hooked name form)
  | decided (i : Nat) (refusal : Option String) (t t' : MediaTask) (page : Option Page)
      (ht : s.media[i]? = some t) (ha : t.answered refusal = some (t', page)) :
      FormsStep o s (.mediaAnswer i refusal) (s.media.set i t') (t.shows page)
  | moved (i : Nat) (t t' : MediaTask) (page : Option Page) (ht : s.media[i]? = some t)
      (hs : t.step s.app.printers = some (t', page)) :
      FormsStep o s (.media i) (s.media.set i t') (t.shows page)
  | other (a : Action) (ev : List Event) (ha : a.servesForm = false)
      (hev : ∀ e ∈ ev, e.ofForm = false) : FormsStep o s a s.media ev

section Step

variable {o : Options} {s s' : System} {a : Action} {ev tr : List Event}

theorem step_forms (h : step o s a = some (s', ev)) : FormsStep o s a s'.media ev := by
  cases a with
  | request clock name body =>
      rcases step_request h with ⟨_, _, rfl, rfl⟩ | ⟨_, _, _, _, _, rfl, rfl⟩ |
        ⟨_, _, _, _, _, rfl, rfl⟩ | ⟨_, _, _, _, rfl, rfl⟩
      · exact .other _ _ rfl fun e he => by rw [List.mem_singleton.mp he]; rfl
      · exact .other _ _ rfl fun e he => absurd he List.not_mem_nil
      · exact .other _ _ rfl fun e he => by rw [List.mem_singleton.mp he]; rfl
      · exact .other _ _ rfl fun e he => by rw [List.mem_singleton.mp he]; rfl
  | cancelNext i now =>
      obtain ⟨t, _, ⟨_, _, _, rfl, rfl⟩ | ⟨_, rfl, rfl⟩⟩ := step_cancelNext h
      · exact .other _ _ rfl fun e he => absurd he List.not_mem_nil
      · exact .other _ _ rfl fun e he => by rw [List.mem_singleton.mp he]; rfl
  | identified i =>
      obtain ⟨_, _, rfl, rfl⟩ := step_identified h
      exact .other _ _ rfl fun e he => by rw [List.mem_singleton.mp he]; rfl
  | worker i now =>
      obtain ⟨w, _, _, _, rfl, rfl⟩ := step_worker h
      refine .other _ _ rfl fun e he => ?_
      unfold Worker.events at he
      split at he
      · rw [List.mem_singleton.mp he]
        rfl
      · cases he
  | outcome i out =>
      obtain ⟨_, _, _, rfl, rfl⟩ := step_outcome h
      exact .other _ _ rfl fun e he => by rw [List.mem_singleton.mp he]; rfl
  | pollTick =>
      obtain ⟨_, rfl, rfl⟩ := step_pollTick h
      exact .other _ _ rfl fun e he => absurd he List.not_mem_nil
  | pollAnswer status =>
      obtain ⟨_, _, _, _, _, rfl, rfl, _⟩ := step_pollAnswer h
      exact .other _ _ rfl fun e he => absurd he List.not_mem_nil
  | poll =>
      obtain ⟨_, _, rfl, rfl⟩ := step_poll h
      refine .other _ _ rfl fun e he => ?_
      unfold PollerPc.events at he
      split at he
      · rw [List.mem_singleton.mp he]
        rfl
      · cases he
  | mediaPost name form =>
      have e := Option.some.inj h
      unfold mediaPostStep at e
      split at e
      · rename_i page hp
        cases e
        exact .refused name form page hp
      · rename_i pc hp
        cases e
        exact .posted name form pc hp
  | mediaAnswer i refusal =>
      change mediaAnswerStep s i refusal = some (s', ev) at h
      unfold mediaAnswerStep at h
      split at h
      · cases h
      · rename_i t ht
        split at h
        · cases h
        · rename_i t' page ha
          cases h
          exact .decided i refusal t t' page ht ha
  | media i =>
      change mediaStep s i = some (s', ev) at h
      unfold mediaStep at h
      split at h
      · cases h
      · rename_i t ht
        split at h
        · cases h
        · rename_i t' page hs
          cases h
          exact .moved i t t' page ht hs

/-! ## 2. Each form once -/

/-- Where a media request goes from the hook. -/
theorem MediaTask.answered_cases {t t' : MediaTask} {refusal : Option String} {page : Option Page}
    (h : t.answered refusal = some (t', page)) : ∃ record, t.pc = .hook record ∧
      ((refusal = none ∧ t' = { t with pc := .write } ∧ page = none) ∨
        ∃ reason, refusal = some reason ∧ t' = { t with pc := .done } ∧
          page = some ⟨409, mediaPage record (some reason) true⟩) := by
  unfold MediaTask.answered at h
  cases hp : t.pc with
  | hook record =>
      rw [hp] at h
      refine ⟨record, rfl, ?_⟩
      cases refusal with
      | none =>
          cases h
          exact Or.inl ⟨rfl, rfl, rfl⟩
      | some reason =>
          cases h
          exact Or.inr ⟨reason, rfl, rfl, rfl⟩
  | _ => rw [hp] at h; cases h

/-- Where a media request goes after the hook: on without an answer, or to its end with one, 404
    where the printer is missing and 200 after the file is written. -/
theorem MediaTask.step_cases {t t' : MediaTask} {printers : PrinterRegistry} {page : Option Page}
    (h : t.step printers = some (t', page)) :
    (t.pc = .write ∧ ∃ record updated, findPrinter printers t.name = some record ∧
        t' = { t with pc := .snapshot updated } ∧ page = none) ∨
      (t.pc = .write ∧ findPrinter printers t.name = none ∧ t' = { t with pc := .done } ∧
        page = some ⟨404, noSuchPrinter⟩) ∨
      (∃ updated saved, t.pc = .snapshot updated ∧ t' = { t with pc := .save updated saved } ∧
        page = none) ∨
      ∃ updated saved html, t.pc = .save updated saved ∧ t' = { t with pc := .done } ∧
        page = some ⟨200, html⟩ := by
  unfold MediaTask.step at h
  cases hp : t.pc with
  | write =>
      rw [hp] at h
      cases hf : findPrinter printers t.name with
      | none =>
          rw [hf] at h
          cases h
          exact Or.inr (Or.inl ⟨rfl, rfl, rfl, rfl⟩)
      | some record =>
          rw [hf] at h
          cases h
          exact Or.inl ⟨rfl, record, _, rfl, rfl, rfl⟩
  | snapshot updated =>
      rw [hp] at h
      cases h
      exact Or.inr (Or.inr (Or.inl ⟨updated, _, rfl, rfl, rfl⟩))
  | save updated saved =>
      rw [hp] at h
      cases h
      exact Or.inr (Or.inr (Or.inr ⟨updated, saved, _, rfl, rfl, rfl⟩))
  | _ => rw [hp] at h; cases h

/-- Where a media request starts. -/
theorem mediaStart_ok {hooked : Bool} {printers : PrinterRegistry} {name : String}
    {form : MediaForm} {pc : MediaPc} (h : mediaStart hooked printers name form = .ok pc) :
    ∃ record, findPrinter printers name = some record ∧
      ((hooked = true ∧ pc = .hook record) ∨ (hooked = false ∧ pc = .write)) := by
  unfold mediaStart at h
  split at h
  · cases h
  · rename_i record hf
    split at h
    · cases h
    · refine ⟨record, hf, ?_⟩
      cases hooked with
      | true => cases h; exact Or.inl ⟨rfl, rfl⟩
      | false => cases h; exact Or.inr ⟨rfl, rfl⟩

theorem MediaTask.underWay_of_ne {t : MediaTask} (h : t.pc ≠ .done) :
    t.underWay = {(t.name, t.form)} := if_neg h

theorem hookCalls_settles (hooked : Bool) (name : String) (form : MediaForm) :
    total Event.settles (hookCalls hooked name form) = 0 := by
  cases hooked <;> rfl

/-- An answer of a media request, and what is then left to answer of it. -/
theorem MediaTask.decided_settles {t t' : MediaTask} {refusal : Option String}
    {page : Option Page} (h : t.answered refusal = some (t', page)) :
    total Event.settles (t.shows page) + t'.underWay = t.underWay + 0 := by
  obtain ⟨record, hp, ⟨_, rfl, rfl⟩ | ⟨reason, _, rfl, rfl⟩⟩ := MediaTask.answered_cases h
  · rw [t.underWay_of_ne (by rw [hp]; nofun)]
    exact (zero_add _).trans (add_zero _).symm
  · rw [t.underWay_of_ne (by rw [hp]; nofun)]
    rfl

theorem MediaTask.step_settles {t t' : MediaTask} {printers : PrinterRegistry}
    {page : Option Page} (h : t.step printers = some (t', page)) :
    total Event.settles (t.shows page) + t'.underWay = t.underWay + 0 := by
  rcases MediaTask.step_cases h with ⟨hp, _, _, _, rfl, rfl⟩ | ⟨hp, _, rfl, rfl⟩ |
    ⟨_, _, hp, rfl, rfl⟩ | ⟨_, _, _, hp, rfl, rfl⟩
  · rw [t.underWay_of_ne (by rw [hp]; nofun)]
    exact (zero_add _).trans (add_zero _).symm
  · rw [t.underWay_of_ne (by rw [hp]; nofun)]
    rfl
  · rw [t.underWay_of_ne (by rw [hp]; nofun)]
    exact (zero_add _).trans (add_zero _).symm
  · rw [t.underWay_of_ne (by rw [hp]; nofun)]
    rfl

/-- **One step**: what is answered and what is then under way is what was under way and what is
    submitted. -/
theorem step_settles (h : step o s a = some (s', ev)) :
    total Event.settles ev + s'.openForms = s.openForms + a.submits := by
  have hf := step_forms h
  unfold System.openForms
  generalize s'.media = ts at hf ⊢
  cases hf with
  | refused name form page hp =>
      rw [total_cons, total_nil, add_zero, add_comm]
      rfl
  | posted name form pc hp =>
      have hpc : (MediaTask.mk name form pc).underWay = {(name, form)} := by
        obtain ⟨_, _, ⟨_, rfl⟩ | ⟨_, rfl⟩⟩ := mediaStart_ok hp <;> rfl
      rw [hookCalls_settles, zero_add, Pool.stock_append, Pool.stock_singleton, hpc]
      rfl
  | decided i refusal t t' page ht ha =>
      exact Pool.stock_move MediaTask.underWay ht (MediaTask.decided_settles ha)
  | moved i t t' page ht hs =>
      exact Pool.stock_move MediaTask.underWay ht (MediaTask.step_settles hs)
  | other _ _ ha hev =>
      have hzero : ∀ e ∈ ev, e.settles = 0 := fun e he => by
        have hform := hev e he
        cases e with
        | page => cases hform
        | _ => rfl
      have hsubmits : a.submits = 0 := by
        cases a with
        | mediaPost => cases ha
        | _ => rfl
      rw [total_zero hzero, hsubmits, zero_add, add_zero]

theorem forms_balanced (o : Options) :
    Balanced (server o) (fun _ => True) (fun _ a => a.submits) Event.settles System.openForms :=
  fun _ _ _ _ _ hs => ⟨trivial, step_settles hs⟩

/-- **Every form is answered once**: whatever the interleaving, the forms answered and those under
    way are together those that were submitted. -/
theorem forms_answered_once {G : System × Forms → Action → Prop} {d : Deployment}
    {submitted : Forms}
    (h : Run (metered (server o) fun _ a => a.submits) G (boot d, 0) tr (s, submitted)) :
    total Event.settles tr + s.openForms = submitted :=
  ((forms_balanced o).run trivial h).trans (zero_add submitted)

end Step

namespace Trial

/-- A server that asks the consumer before it loads a roll. -/
abbrev hookedOptions : Options := { options with hooked := true }

/-- Four forms: in range and agreed to, in range and refused, out of range, and in range with the
    hook still to answer. -/
def formsScript : List Action :=
  [.mediaPost "p" ⟨50, 30⟩, .mediaPost "p" ⟨40, 30⟩, .mediaPost "p" ⟨900, 30⟩,
    .mediaAnswer 1 (some "tape"), .mediaAnswer 0 none, .mediaPost "q" ⟨50, 30⟩, .media 0, .media 0,
    .media 0]

end Trial

theorem forms_answered_once_four :
    total Event.settles (traceOf (metered (server Trial.hookedOptions) fun _ a => a.submits)
        anyStep (boot Trial.deployment, 0) Trial.formsScript) +
      (endOf (metered (server Trial.hookedOptions) fun _ a => a.submits) anyStep
        (boot Trial.deployment, 0) Trial.formsScript).1.openForms =
      (endOf (metered (server Trial.hookedOptions) fun _ a => a.submits) anyStep
        (boot Trial.deployment, 0) Trial.formsScript).2 :=
  forms_answered_once (run_endOf_pair (by decide +kernel))

/-! ## 3. As decided -/

/-- Forms with what was decided about them. -/
abbrev Verdicts := Multiset (String × MediaForm × Bool)

/-- What an action decides: the hook about the form it was asked about, and where there is no hook
    the form itself by being in range. -/
def System.decides (o : Options) (s : System) : Action → Verdicts
  | .mediaPost name form =>
    if o.hooked then 0
    else
      match mediaStart o.hooked s.app.printers name form with
      | .ok _ => {(name, form, true)}
      | .error _ => 0
  | .mediaAnswer i refusal =>
    match s.media[i]? with
    | some t => {(t.name, t.form, refusal.isNone)}
    | none => 0
  | _ => 0

/-- What an event tells the user: the roll is loaded, or the hook refuses it. -/
def Event.tells : Event → Verdicts
  | .page name form answer =>
    if answer.status = 200 then {(name, form, true)}
    else if answer.status = 409 then {(name, form, false)}
    else 0
  | _ => 0

/-- The form of a media request, while it has been agreed to and not yet been answered. -/
def MediaTask.agreed (t : MediaTask) : Verdicts :=
  match t.pc with
  | .write => {(t.name, t.form, true)}
  | .snapshot _ => {(t.name, t.form, true)}
  | .save _ _ => {(t.name, t.form, true)}
  | _ => 0

/-- The forms that have been agreed to and not yet been answered. -/
def System.agreedForms (s : System) : Verdicts := Pool.stock MediaTask.agreed s.media

/-- The printer of every form under way is there. -/
def FormsRouted (s : System) : Prop :=
  ∀ t ∈ s.media, t.pc ≠ .done → (findPrinter s.app.printers t.name).isSome = true

theorem findPrinter_isSome_iff {printers : PrinterRegistry} {name : String} :
    (findPrinter printers name).isSome = true ↔ name ∈ printers.map (·.config.name) := by
  unfold findPrinter
  rw [List.find?_isSome, List.mem_map]
  exact exists_congr fun r => and_congr_right fun _ => beq_iff_eq

section Decided

variable {o : Options} {s s' : System} {a : Action} {ev tr : List Event}

theorem MediaTask.step_pc_ne {t t' : MediaTask} {printers : PrinterRegistry}
    {page : Option Page} (h : t.step printers = some (t', page)) : t.pc ≠ .done := by
  rcases MediaTask.step_cases h with ⟨hp, _⟩ | ⟨hp, _⟩ | ⟨_, _, hp, _⟩ | ⟨_, _, _, hp, _⟩ <;>
    rw [hp] <;> nofun

/-- **Printers stay, so forms stay routed.** -/
theorem step_formsRouted (hr : FormsRouted s) (h : step o s a = some (s', ev)) :
    FormsRouted s' := by
  have hkeep : ∀ name, (findPrinter s.app.printers name).isSome = true →
      (findPrinter s'.app.printers name).isSome = true := fun name hn => by
    rw [findPrinter_isSome_iff] at hn ⊢
    rw [step_names h]
    exact hn
  have hf := step_forms h
  unfold FormsRouted
  generalize s'.media = ts at hf
  cases hf with
  | refused => exact fun t ht hd => hkeep _ (hr t ht hd)
  | posted name form pc hp =>
      intro t ht hd
      rcases List.mem_append.mp ht with ht | ht
      · exact hkeep _ (hr t ht hd)
      · obtain ⟨record, hrec, _⟩ := mediaStart_ok hp
        rw [List.mem_singleton.mp ht]
        exact hkeep _ (by rw [hrec]; rfl)
  | decided i refusal t t' page ht ha =>
      intro u hu hd
      rcases Pool.mem_set hu with hu | rfl
      · exact hkeep _ (hr u hu hd)
      · obtain ⟨record, hp, _⟩ := MediaTask.answered_cases ha
        rw [(MediaTask.answered_same ha).1]
        exact hkeep _ (hr t (List.mem_of_getElem? ht) (by rw [hp]; nofun))
  | moved i t t' page ht hs =>
      intro u hu hd
      rcases Pool.mem_set hu with hu | rfl
      · exact hkeep _ (hr u hu hd)
      · rw [(MediaTask.step_same hs).1]
        exact hkeep _ (hr t (List.mem_of_getElem? ht) (MediaTask.step_pc_ne hs))
  | other => exact fun t ht hd => hkeep _ (hr t ht hd)

theorem hookCalls_tells (hooked : Bool) (name : String) (form : MediaForm) :
    total Event.tells (hookCalls hooked name form) = 0 := by
  cases hooked <;> rfl

theorem MediaTask.agreed_eq {t : MediaTask} {pc : MediaPc} (h : t.pc = pc) :
    t.agreed = MediaTask.agreed ⟨t.name, t.form, pc⟩ := by
  rw [← h]

/-- The hook's answer is told at once if it refuses, and later if it agrees. -/
theorem MediaTask.decided_tells {t t' : MediaTask} {refusal : Option String}
    {page : Option Page} (h : t.answered refusal = some (t', page)) :
    total Event.tells (t.shows page) + t'.agreed =
      t.agreed + {(t.name, t.form, refusal.isNone)} := by
  obtain ⟨record, hp, ⟨rfl, rfl, rfl⟩ | ⟨reason, rfl, rfl, rfl⟩⟩ := MediaTask.answered_cases h
  · rw [MediaTask.agreed_eq hp]
    rfl
  · rw [MediaTask.agreed_eq hp]
    rfl

/-- On the way to the file nothing is told; at its end that the roll is loaded. -/
theorem MediaTask.step_tells {t t' : MediaTask} {printers : PrinterRegistry}
    {page : Option Page} (h : t.step printers = some (t', page))
    (hf : (findPrinter printers t.name).isSome = true) :
    total Event.tells (t.shows page) + t'.agreed = t.agreed + 0 := by
  rcases MediaTask.step_cases h with ⟨hp, _, _, _, rfl, rfl⟩ | ⟨_, hnone, _, _⟩ |
    ⟨_, _, hp, rfl, rfl⟩ | ⟨_, _, _, hp, rfl, rfl⟩
  · rw [MediaTask.agreed_eq hp]
    rfl
  · rw [hnone] at hf
    cases hf
  · rw [MediaTask.agreed_eq hp]
    rfl
  · rw [MediaTask.agreed_eq hp]
    rfl

/-- A form that is refused before the hook is told neither. -/
theorem mediaStart_error {hooked : Bool} {printers : PrinterRegistry} {name : String}
    {form : MediaForm} {page : Page} (h : mediaStart hooked printers name form = .error page) :
    (Event.page name form page).tells = 0 := by
  unfold mediaStart at h
  split at h
  · cases h
    rfl
  · split at h
    · cases h
      rfl
    · cases h

/-- **One step**: what is told and what is then still to be told is what was to be told and what is
    decided. -/
theorem step_tells (hr : FormsRouted s) (h : step o s a = some (s', ev)) :
    total Event.tells ev + s'.agreedForms = s.agreedForms + s.decides o a := by
  have hf := step_forms h
  unfold System.agreedForms
  generalize s'.media = ts at hf ⊢
  cases hf with
  | refused name form page hp =>
      have hnone : s.decides o (.mediaPost name form) = 0 := by
        unfold System.decides
        dsimp only
        rw [hp]
        exact ite_self _
      rw [total_cons, total_nil, add_zero, mediaStart_error hp, hnone, zero_add, add_zero]
  | posted name form pc hp =>
      have hnew : (MediaTask.mk name form pc).agreed = s.decides o (.mediaPost name form) := by
        unfold System.decides
        dsimp only
        obtain ⟨_, _, ⟨hh, rfl⟩ | ⟨hh, rfl⟩⟩ := mediaStart_ok hp
        · rw [if_pos hh]
          rfl
        · rw [hp, if_neg (by rw [hh]; nofun)]
          rfl
      rw [hookCalls_tells, zero_add, Pool.stock_append, Pool.stock_singleton, hnew]
  | decided i refusal t t' page ht ha =>
      have hdec : s.decides o (.mediaAnswer i refusal) = {(t.name, t.form, refusal.isNone)} := by
        unfold System.decides
        dsimp only
        rw [ht]
      rw [hdec]
      exact Pool.stock_move MediaTask.agreed ht (MediaTask.decided_tells ha)
  | moved i t t' page ht hs =>
      have hfound := hr t (List.mem_of_getElem? ht) (MediaTask.step_pc_ne hs)
      exact Pool.stock_move MediaTask.agreed ht (MediaTask.step_tells hs hfound)
  | other _ _ ha hev =>
      have hzero : ∀ e ∈ ev, e.tells = 0 := fun e he => by
        have hform := hev e he
        cases e with
        | page => cases hform
        | _ => rfl
      have hdec : s.decides o a = 0 := by
        cases a with
        | mediaPost => cases ha
        | mediaAnswer => cases ha
        | _ => rfl
      rw [total_zero hzero, hdec, zero_add, add_zero]

theorem verdicts_balanced (o : Options) :
    Balanced (server o) FormsRouted (System.decides o) Event.tells System.agreedForms :=
  fun _ _ _ _ hr hs => ⟨step_formsRouted hr hs, step_tells hr hs⟩

/-- **Every form is answered as it was decided**: the user is told that a roll is loaded once for
    each form that was agreed to, but for those still being loaded, and that one is refused once
    for each refusal of the hook. A form that was agreed to never ends in 404. -/
theorem forms_answered_as_decided {G : System × Verdicts → Action → Prop} {d : Deployment}
    {decided : Verdicts} (h : Run (metered (server o) (System.decides o)) G (boot d, 0) tr
      (s, decided)) : total Event.tells tr + s.agreedForms = decided :=
  ((verdicts_balanced o).run (fun _ ht => absurd ht List.not_mem_nil) h).trans (zero_add decided)

end Decided

theorem forms_answered_as_decided_four :
    total Event.tells (traceOf (metered (server Trial.hookedOptions)
        (System.decides Trial.hookedOptions)) anyStep (boot Trial.deployment, 0)
        Trial.formsScript) +
      (endOf (metered (server Trial.hookedOptions) (System.decides Trial.hookedOptions)) anyStep
        (boot Trial.deployment, 0) Trial.formsScript).1.agreedForms =
      (endOf (metered (server Trial.hookedOptions) (System.decides Trial.hookedOptions)) anyStep
        (boot Trial.deployment, 0) Trial.formsScript).2 :=
  forms_answered_as_decided (run_endOf_pair (by decide +kernel))

end IppPrinterApp
