import HostRouting.Proofs.Gazette

/-!
# Every pass has its cause, and every table its pass

Whatever fails, the watcher makes one pass for each connection and for each event of the lifecycle that
it takes, and publishes the tables of the passes that give one. What a pass comes to does not change
the phase to which a transition leads.
-/

namespace HostRouting

open Act (Spec Keeps failing never)
open Watcher (Call Deed Stands call_spec call_safe state_bind change_spec)
open Gazette (Reckoned Attested beats events issues passes)

/-- The books agree, and the gazette goes on from the given pages. -/
def Booked {σ : Type} (h : Host σ) (c : WatchConfig) (clock : Surroundings σ → String)
    (ps : List (Page σ)) (a : Activity) (s : Surroundings (Gazette σ)) : Prop :=
  Reckoned h c clock a s.rest.board s.rest.pages ∧ ps <+: s.rest.pages

namespace Booked

variable {σ α : Type} {h : Host σ} {c : WatchConfig} {clock : Surroundings σ → String}
  {ps : List (Page σ)} {a a' : Activity} {s : Surroundings (Gazette σ)} {call : Call}
  {answer : α → Deed} {act : Act (Surroundings σ) α}

theorem during (hs : Booked h c clock ps a s) (hupbeat : a'.upbeat = a.upbeat)
    (hbrought : a'.brought = a.brought) : Booked h c clock ps a' s :=
  ⟨hs.1.during hupbeat hbrought, hs.2⟩

/-! ## Calls -/

/-- A call that begins quietly. -/
theorem begun {b : Board} {pages : List (Page σ)} (hr : Reckoned h c clock a b pages) (call : Call)
    (hcall : (Deed.began call).IsQuiet) (u : Surroundings σ) :
    Reckoned h c clock a b (pages ++ [⟨.began call, b, u⟩]) :=
  hr.quiet hcall rfl

/-- Two more pages. -/
theorem entered {t : Surroundings (Gazette σ)} {p q : Page σ} (hs : Booked h c clock ps a s)
    (hboard : t.rest.board = s.rest.board) (hpages : t.rest.pages = s.rest.pages ++ [p] ++ [q])
    (hr : Reckoned h c clock a' s.rest.board (s.rest.pages ++ [p] ++ [q])) :
    Booked h c clock ps a' t := by
  rw [Booked, hboard, hpages]
  exact ⟨hr, (hs.2.trans (List.prefix_append _ _)).trans (List.prefix_append _ _)⟩

/-- A quiet call. -/
theorem quiet {F : Fault → Prop}
    (hact : Spec (fun _ => True) act (fun _ _ => True) fun f _ => F f)
    (hcall : (Deed.began call).IsQuiet) (hanswer : ∀ v, (answer v).IsQuiet) :
    Spec (Booked h c clock ps a) (act.gazetted call answer) (fun _ => Booked h c clock ps a)
      fun f s => F f ∧ Booked h c clock ps a s := by
  refine hact.gazetted (fun v s t u hs hboard hpages => ?_) fun f s t u hf hs hboard hpages => ?_
  · exact hs.entered hboard hpages ((begun hs.1 call hcall s.bare).quiet (hanswer v) rfl)
  · exact ⟨hf, hs.entered hboard hpages ((begun hs.1 call hcall s.bare).quiet ⟨rfl, rfl, rfl⟩ rfl)⟩

/-- A quiet call that may fail. -/
theorem keeps (hact : Keeps (fun _ => True) act) (hcall : (Deed.began call).IsQuiet)
    (hdone : (Deed.done call).IsQuiet) :
    Keeps (Booked h c clock ps a) (act.gazetted call fun _ => .done call) :=
  quiet (hact.post (fun _ _ hs => hs) fun _ _ hf => hf.1) hcall fun _ => hdone

/-- A quiet call that does not fail. -/
theorem safe (hact : Spec (fun _ => True) act (fun _ _ => True) never)
    (hcall : (Deed.began call).IsQuiet) (hdone : (Deed.done call).IsQuiet) :
    Spec (Booked h c clock ps a) (act.gazetted call fun _ => .done call)
      (fun _ => Booked h c clock ps a) never :=
  (quiet (F := fun _ => False) hact hcall fun _ => hdone).post (fun _ _ hs => hs) fun _ _ hf => hf.1

/-- A connection is a cause. -/
theorem connect (hh : h.Fallible) :
    Spec (Booked h c clock ps .calm) (h.gazetted clock).connect
      (fun client => Booked h c clock ps (.arrived client))
      (failing fun _ => Booked h c clock ps .failed) := by
  refine Act.Spec.gazetted (hh.connect.post (fun _ _ hs => hs) fun _ _ hf => hf.1)
    (fun client s t u hs hboard hpages => ?_) fun f s t u hf hs hboard hpages => ?_
  · have hcause := (begun hs.1 .connect ⟨rfl, rfl, rfl⟩ s.bare).cause
      (p := ⟨.connected client, _, u⟩) rfl rfl rfl rfl
    exact hs.entered hboard hpages (hcause.during rfl rfl)
  · have hquiet := (begun hs.1 .connect ⟨rfl, rfl, rfl⟩ s.bare).quiet (p := ⟨.failed .connect f, _, u⟩)
      ⟨rfl, rfl, rfl⟩ rfl
    exact ⟨hf, hs.entered hboard hpages (hquiet.during rfl rfl)⟩

/-- The mailbox is looked into. -/
theorem take (hh : h.Fallible) (q : QueueId) (wait : Interval) :
    Spec (Booked h c clock ps .calm) ((h.gazetted clock).take q wait)
      (fun item => Booked h c clock ps (.after item))
      (failing fun _ => Booked h c clock ps .raised) := by
  refine Act.Spec.gazetted ((hh.take q wait).post (fun _ _ hs => hs) fun _ _ hf => hf.1)
    (fun item s t u hs hboard hpages => ?_) fun f s t u hf hs hboard hpages => ?_
  · exact hs.entered hboard hpages ((begun hs.1 (.take q) ⟨rfl, rfl, rfl⟩ s.bare).took item rfl rfl)
  · have hquiet := (begun hs.1 (.take q) ⟨rfl, rfl, rfl⟩ s.bare).quiet (p := ⟨.failed (.take q) f, _, u⟩)
      ⟨rfl, rfl, rfl⟩ rfl
    exact ⟨hf, hs.entered hboard hpages (hquiet.during rfl rfl)⟩

/-- A table is published, which never fails. -/
theorem publish (t : Table) :
    Spec (Booked h c clock ps (.bringing t)) ((h.gazetted clock).publish t)
      (fun _ => Booked h c clock ps .calm) never := by
  have hpost : Spec (fun s : Surroundings (Gazette σ) => Booked h c clock ps (.bringing t) s)
      (Act.update (Surroundings.post clock t)) (fun _ u => ∃ s, Booked h c clock ps (.bringing t) s ∧
        u = s.post clock t) never := Spec.update fun s hs => ⟨s, hs, rfl⟩
  refine hpost.noted (fun s hs => ?_) ?_ fun f s hf => hf
  · exact ⟨begun hs.1 (.publish t) ⟨rfl, rfl, rfl⟩ s.bare, hs.2.trans (List.prefix_append _ _)⟩
  · rintro _ _ ⟨s, hs, rfl⟩
    have hissue := hs.1.issue (p := ⟨.done (.publish t), (s.post clock t).rest.board, s.bare⟩) rfl rfl
    exact ⟨hissue, hs.2.trans (List.prefix_append _ _)⟩

/-- A pass gives what it comes to in the surroundings in which it begins. -/
theorem survey (hh : h.Fallible) (client : ClientId) :
    Spec (Booked h c clock ps .due) ((h.gazetted clock).enumerate c.ports c.workers client)
      (fun t => Booked h c clock ps (.bringing t))
      (failing fun _ => Booked h c clock ps .calm) := by
  intro s hs
  have hresult := ((h.gazetted_surveying clock).enumerate c.ports c.workers client s s.bare rfl).1
  generalize hr : ((h.enumerate c.ports c.workers client).outcome s.bare).1 = r at hresult
  -- the result is settled when the listing begins, and the rest of the pass is quiet
  have hpass : Spec (· = s) ((h.gazetted clock).enumerate c.ports c.workers client)
      (fun _ => Booked h c clock ps (.found r)) (failing fun _ => Booked h c clock ps (.found r)) := by
    have passed {b : Board} {pages : List (Page σ)} (hr' : Reckoned h c clock .due b pages) :
        Reckoned h c clock (.found r) b (pages ++ [⟨.began (.list client), b, s.bare⟩]) := by
      have := hr'.pass (p := ⟨.began (.list client), b, s.bare⟩) rfl rfl
      rwa [hr] at this
    refine Host.enumerate_keeps (Act.Spec.gazetted
      ((hh.list client).post (fun _ _ hs => hs) fun _ _ hf => hf.1) ?_ ?_)
      (fun id => keeps (hh.inspect client id) ⟨rfl, rfl, rfl⟩ ⟨rfl, rfl, rfl⟩)
      (fun e => safe (hh.report e) ⟨rfl, rfl, rfl⟩ ⟨rfl, rfl, rfl⟩) _ _
    · rintro _ _ t u rfl hboard hpages
      exact hs.entered hboard hpages ((passed hs.1).quiet ⟨rfl, rfl, rfl⟩ rfl)
    · rintro f _ t u hf rfl hboard hpages
      exact ⟨hf, hs.entered hboard hpages ((passed hs.1).quiet ⟨rfl, rfl, rfl⟩ rfl)⟩
  have hafter := hpass s rfl
  match ho : ((h.gazetted clock).enumerate c.ports c.workers client).outcome s with
  | (.ok t, u) | (.error f, u) =>
    rw [ho] at hafter hresult
    cases hresult
    exact hafter

end Booked

/-! ## The watcher's transitions -/

section

variable {σ : Type} {h : Host σ}

/-- The calls of the watcher keep the books in agreement. -/
def bookedOutline (hh : h.Fallible) (clock : Surroundings σ → String) (c : WatchConfig)
    (ps : List (Page σ)) : Outline (h.gazetted clock) c where
  holds _ a := Booked h c clock ps a
  report _ _ e _ := Booked.safe (hh.report e) ⟨rfl, rfl, rfl⟩ ⟨rfl, rfl, rfl⟩
  alarm _ _ := (Booked.safe (hh.report _) ⟨rfl, rfl, rfl⟩ ⟨rfl, rfl, rfl⟩).post
    (fun _ _ hs => hs.during rfl rfl) fun _ _ hf => hf
  sleep _ := (Booked.safe (hh.sleep _) ⟨rfl, rfl, rfl⟩ ⟨rfl, rfl, rfl⟩).post
    (fun _ _ hs => hs.during rfl rfl) fun _ _ hf => hf
  connect _ _ := Booked.connect hh
  remove _ _ _ _ := Booked.keeps (hh.removeListener _ _) ⟨rfl, rfl, rfl⟩ ⟨rfl, rfl, rfl⟩
  close _ _ _ _ := Booked.keeps (hh.close _) ⟨rfl, rfl, rfl⟩ ⟨rfl, rfl, rfl⟩
  settle _ hs := hs.during rfl rfl
  adopt _ := fun _ hs => hs.during rfl rfl
  survey x := Booked.survey hh x.client
  publish _ t := (Booked.publish t).safe
  ping _ := (Booked.keeps (hh.ping _) ⟨rfl, rfl, rfl⟩ ⟨rfl, rfl, rfl⟩).post (fun _ _ hs => hs)
    fun _ _ hf => ⟨hf.1, hf.2.during rfl rfl⟩
  add _ _ _ := by
    refine (Booked.keeps (hh.addListener _ _) ⟨rfl, rfl, rfl⟩ ⟨rfl, rfl, rfl⟩).post
      (fun _ _ hs => hs) fun f s hf => ⟨hf.1, ?_⟩
    cases f with
    | alreadySubscribed _ => exact hf.2
    | _ => exact hf.2.during rfl rfl
  take x _ := Booked.take hh x.queue c.pingInterval

/-! ## Where a transition leads -/

/-- What is known of an act that is known to give a value. -/
theorem Act.Spec.of_outcome {τ α : Type} {act : Act τ α} {s t : τ} {a : α}
    {E : Fault → τ → Prop} (ho : act.outcome s = (.ok a, t)) :
    Spec (· = s) act (fun b u => b = a ∧ u = t) E := by
  rintro _ rfl
  rw [ho]
  exact ⟨rfl, rfl⟩

/-- The phase after a transition is settled by the connection, or by the event that was taken, before
any pass is made. -/
structure PhaseSettled {τ : Type} (g : Host τ) (c : WatchConfig) (m : Machine τ) : Prop where
  /-- After a connection the watcher is idle. -/
  connected : ∀ client s, m.watcher.phase = .disconnected →
    g.connect.outcome m.outside = (.ok client, s) → ((Watcher.step g c).outcome m).1 = .ok .idle
  /-- After an event it goes on watching. -/
  heard : ∀ client queue e s t, m.watcher.phase = .watching → m.watcher.client? = some client →
    m.watcher.queue? = some queue → (g.ping client).outcome m.outside = (.ok (), s) →
    (g.take queue c.pingInterval).outcome s = (.ok (some (some e)), t) → e.Textual →
    ((Watcher.step g c).outcome m).1 = .ok .watching

variable {clock : Surroundings σ → String} {c : WatchConfig} {ps : List (Page σ)}

/-- A pass never stops a transition: a failure is reported, and publishing does not fail. -/
theorem refresh_safe (hh : h.Fallible) (phase : Phase) (x : Hold) :
    Spec ((bookedOutline hh clock c ps).At phase (some x) .due) (Watcher.refresh (h.gazetted clock) c)
      (fun _ => (bookedOutline hh clock c ps).At phase (some x) .calm) never := by
  refine state_bind ?_
  refine Spec.bind (call_spec (Booked.survey hh x.client)).attempt fun r => ?_
  cases r with
  | ok t =>
    refine Spec.bind (call_safe ((bookedOutline hh clock c ps).report none _ _ (by simp))) fun _ => ?_
    exact Spec.bind (call_safe (Booked.publish t)) fun _ => Spec.pure fun _ hm => hm
  | error f =>
    refine Spec.bind (call_safe ((bookedOutline hh clock c ps).report none .calm _ (by simp))) fun _ => ?_
    exact Spec.pure fun _ hm => hm

/-- A watcher that connects becomes idle. -/
theorem connected_idle (hh : h.Fallible) {hold : Option Hold} {client : ClientId}
    {s t : Surroundings (Gazette σ)} (hs : Booked h c clock ps .calm s)
    (ho : (h.gazetted clock).connect.outcome s = (.ok client, t)) :
    Spec (Stands (.holding .disconnected hold) (· = s)) (Watcher.fromDisconnected (h.gazetted clock) c)
      (fun phase _ => phase = .idle) never := by
  have harrived : Booked h c clock ps (.arrived client) t := (Booked.connect hh).of_ok hs ho
  have hconnect : Spec (· = s) (h.gazetted clock).connect
      (fun a u => a = client ∧ Booked h c clock ps (.arrived client) u) (failing fun _ _ => False) :=
    (Act.Spec.of_outcome ho).post (fun _ _ hu => ⟨hu.1, hu.2 ▸ harrived⟩) fun _ _ hf => hf
  refine Spec.bind (call_spec hconnect).attempt fun r => ?_
  cases r with
  | error f => exact fun _ hm => hm.2.elim
  | ok a =>
    rintro m ⟨hw, rfl, hm⟩
    refine Spec.bind ((bookedOutline hh clock c ps).dropClient_spec .disconnected hold rfl)
      (fun _ => ?_) m ⟨hw, hm⟩
    refine Spec.bind (call_safe ((bookedOutline hh clock c ps).adopt a)) fun queue => ?_
    refine Spec.bind change_spec fun _ => ?_
    refine Spec.bind (call_safe ((bookedOutline hh clock c ps).report _ _ _ (by simp))) fun _ => ?_
    exact Spec.bind (refresh_safe hh .disconnected { client := a, queue }) fun _ => Spec.pure fun _ _ => rfl

/-- A watcher that takes an event goes on watching. -/
theorem heard_watching (hh : h.Fallible) {x : Hold} {e : Event} {s t u : Surroundings (Gazette σ)}
    (hs : Booked h c clock ps .calm s)
    (hping : ((h.gazetted clock).ping x.client).outcome s = (.ok (), t))
    (htake : ((h.gazetted clock).take x.queue c.pingInterval).outcome t = (.ok (some (some e)), u))
    (he : e.Textual) :
    Spec (Stands (.holding .watching (some x)) (· = s)) (Watcher.fromWatching (h.gazetted clock) c)
      (fun phase _ => phase = .watching) never := by
  have hafter : Booked h c clock ps (.after (some (some e))) u :=
    (Booked.take hh _ _).of_ok (((bookedOutline hh clock c ps).ping x).of_ok hs hping) htake
  have alive : Spec (Stands (.holding .watching (some x)) (· = s))
      (Watcher.ping (h.gazetted clock) c x.client)
      (fun alive m => alive = true ∧ Stands (.holding .watching (some x)) (· = t) m) never := by
    have hanswer : Spec (· = s) ((h.gazetted clock).ping x.client) (fun _ v => v = t)
        (failing fun _ _ => False) :=
      (Act.Spec.of_outcome hping).post (fun _ _ hv => hv.2) fun _ _ hf => hf
    refine Spec.bind (call_spec hanswer).attempt fun r => ?_
    cases r with
    | error f => exact fun _ hm => hm.2.elim
    | ok v => exact Spec.pure fun m hm => ⟨rfl, hm⟩
  have taken : Spec (· = t) ((h.gazetted clock).take x.queue c.pingInterval)
      (fun item v => item = some (some e) ∧ Booked h c clock ps (.after (some (some e))) v) never :=
    (Act.Spec.of_outcome htake).post (fun _ _ hv => ⟨hv.1, hv.2 ▸ hafter⟩) fun _ _ hf => hf
  refine state_bind (Spec.bind alive fun b => Spec.of_fact fun hb => ?_)
  subst hb
  refine Spec.bind (call_safe taken) fun item => ?_
  rintro m ⟨hw, rfl, hm⟩
  obtain ⟨⟨status, hstatus⟩, id, hid⟩ := he
  have hshort : ∃ short, e.containerId.short = .ok short := by
    rw [hid]
    exact ⟨_, rfl⟩
  obtain ⟨short, hshort⟩ := hshort
  have hlook : ∃ l, e.status.isOneOf Event.lifecycle = .ok l := by
    rw [hstatus]
    exact ⟨_, rfl⟩
  obtain ⟨l, hlook⟩ := hlook
  have hreceive : Spec (Stands (.holding .watching (some x))
      (Booked h c clock ps (.after (some (some e)))))
      (Watcher.receive (h.gazetted clock) c (some (some e))) (fun phase _ => phase = .watching)
      never := by
    refine Spec.ofExcept_bind hlook ?_
    cases l with
    | false => exact Spec.pure fun _ _ => rfl
    | true =>
      rw [Activity.after_of_lifecycle hlook hshort]
      refine Spec.ofExcept_bind hshort ?_
      refine Spec.bind (call_safe ((bookedOutline hh clock c ps).report (some x) .due _ (by simp)))
        fun _ => ?_
      exact Spec.bind (refresh_safe hh .watching x) fun _ => Spec.pure fun _ _ => rfl
  exact hreceive m ⟨hw, hm⟩

/-- A transition leads where its part leads that never stops. -/
theorem step_of_part {τ : Type} {w : Watcher} {s : Surroundings τ} {next : Phase}
    {part : Act (Machine τ) Phase}
    (hpart : Spec (Stands w (· = s)) part (fun p _ => p = next) never) :
    Spec (Stands w (· = s))
      (do
        let p ← part
        Watcher.change fun w => { w with phase := p }
        return p) (fun p _ => p = next) never := by
  refine Spec.bind hpart fun p => ?_
  exact Spec.bind (R := fun _ _ => p = next) (Spec.update fun _ hp => hp) fun _ => Spec.pure fun _ hp => hp

/-- The phase is settled before a pass is made. -/
theorem phaseSettled_of_calm (hh : h.Fallible) {m : Machine (Gazette σ)}
    (hm : (bookedOutline hh clock c ps).Calm m) : PhaseSettled (h.gazetted clock) c m := by
  obtain ⟨phase, hold, hfit, hw, hs⟩ := hm
  have led {next : Phase} (hstep : Spec (Stands (.holding phase hold) (· = m.outside))
      (Watcher.step (h.gazetted clock) c) (fun p _ => p = next) never) :
      ((Watcher.step (h.gazetted clock) c).outcome m).1 = .ok next := by
    obtain ⟨p, t, ho, rfl⟩ := hstep.total (s := m) ⟨hw, rfl⟩
    rw [ho]
  constructor
  · intro client s hphase ho
    obtain rfl : phase = .disconnected := by simpa [hw, Watcher.holding] using hphase
    exact led (state_bind (step_of_part (connected_idle hh hs ho)))
  · intro client queue e s t hphase hclient hqueue hping htake he
    obtain rfl : phase = .watching := by simpa [hw, Watcher.holding] using hphase
    obtain ⟨x, rfl, hx⟩ := hfit
    obtain rfl : x.client = client := by simpa [hw, Watcher.holding] using hclient
    obtain rfl : x.queue = queue := by simpa [hw, Watcher.holding] using hqueue
    exact led (state_bind (step_of_part (heard_watching hh hs hping htake he)))

/-! ## Histories -/

/-- A watcher that has not begun, an empty board and an empty gazette. -/
def Machine.gazetted (s : Surroundings σ) : Machine (Gazette σ) where
  outside := { s with rest := { rest := s.rest } }

/-- Anything but the board and the gazette may have changed. -/
def Elsewhere (s t : Surroundings (Gazette σ)) : Prop :=
  t.rest.board = s.rest.board ∧ t.rest.pages = s.rest.pages

/-- Whatever a watcher comes to, its books agree. -/
theorem booked_of_reachable (hh : h.Fallible) {s : Surroundings σ} {m : Machine (Gazette σ)}
    (hm : Watcher.Reachable (h.gazetted clock) c Elsewhere (Machine.gazetted s) m) :
    (bookedOutline hh clock c []).Calm m := by
  refine Outline.calm_of_reachable _ ?_ (fun _ _ hs => hs.during rfl rfl) ?_ hm
  · exact Outline.calm_of_fresh _ rfl ⟨.nil, List.nil_prefix⟩
  · rintro hold s t ⟨hboard, hpages⟩ ⟨hr, -⟩
    refine ⟨?_, List.nil_prefix⟩
    rw [hboard, hpages]
    exact hr

/-- A transition whose passes give no table leaves the board as it was. -/
theorem board_of_fruitless (hh : h.Fallible) {m : Machine (Gazette σ)}
    (hm : (bookedOutline hh clock c m.outside.rest.pages).Calm m) :
    ∃ new, ((Watcher.step (h.gazetted clock) c).outcome m).2.outside.rest.pages =
        m.outside.rest.pages ++ new ∧
      ((∀ r ∈ passes h c new, ∃ f, r = .error f) →
        ((Watcher.step (h.gazetted clock) c).outcome m).2.outside.rest.board = m.outside.rest.board) := by
  have hafter : ∃ a, Activity.upbeat a = [] ∧ Activity.brought a = [] ∧
      Booked h c clock m.outside.rest.pages a
        ((Watcher.step (h.gazetted clock) c).outcome m).2.outside := by
    have hstep := (bookedOutline hh clock c m.outside.rest.pages).step_spec m hm
    match ho : (Watcher.step (h.gazetted clock) c).outcome m with
    | (.ok phase, m') =>
      rw [ho] at hstep
      obtain ⟨_, _, _, _, hs⟩ := hstep
      exact ⟨.calm, rfl, rfl, hs⟩
    | (.error f, m') =>
      rw [ho] at hstep
      obtain ⟨_, _, _, _, _, hs⟩ := hstep
      exact ⟨.raised, rfl, rfl, hs⟩
  obtain ⟨_, _, _, _, hs⟩ := hm
  obtain ⟨a, -, hbrought, hr, new, hnew⟩ := hafter
  refine ⟨new, hnew.symm, fun hfruitless => ?_⟩
  -- no new table was given, so none was published
  have hissued := hr.issued
  have hbefore := hs.1.issued
  have hnone : (passes h c new).filterMap Except.toOption = [] := by
    rw [List.filterMap_eq_nil_iff]
    intro r hr
    obtain ⟨f, rfl⟩ := hfruitless r hr
    rfl
  rw [← hnew, hbrought, List.append_nil, Gazette.issues_append, Gazette.passes_append,
    List.filterMap_append, hnone, List.append_nil, List.map_append] at hissued
  have hempty : issues clock new = [] := by
    have hlength := congrArg List.length (hissued.trans hbefore.symm)
    simpa [Activity.brought] using hlength
  have hboard := hr.board
  rw [← hnew, Gazette.issues_append, hempty, List.append_nil] at hboard
  exact hboard.unique hs.1.board

end

/-- **Every pass has its cause, and every table its pass.** Whatever a watcher comes to while calls may
fail: the causes of passes and the passes take turns, where the events that it took have texts; what
is published are the tables of the passes that gave one, each once and in their order; and the board
tells of those published so far at every moment. A transition whose passes give no table leaves the
board as it was, and passes do not change the phase to which a transition leads. -/
theorem Watcher.published_history {σ : Type} {h : Host σ} (hh : h.Fallible)
    (clock : Surroundings σ → String) (c : WatchConfig) (s : Surroundings σ) {m : Machine (Gazette σ)}
    (hm : Watcher.Reachable (h.gazetted clock) c Elsewhere (Machine.gazetted s) m) :
    ((∀ e ∈ events m.outside.rest.pages, e.Textual) → beats m.outside.rest.pages =
      (List.replicate (passes h c m.outside.rest.pages).length [false, true]).flatten) ∧
    (issues clock m.outside.rest.pages).map Prod.snd =
      (passes h c m.outside.rest.pages).filterMap Except.toOption ∧
    Attested clock m.outside.rest.pages ∧
    m.outside.rest.board.Tells (issues clock m.outside.rest.pages) ∧
    (∃ new, ((Watcher.step (h.gazetted clock) c).outcome m).2.outside.rest.pages =
        m.outside.rest.pages ++ new ∧
      ((∀ r ∈ passes h c new, ∃ f, r = .error f) →
        ((Watcher.step (h.gazetted clock) c).outcome m).2.outside.rest.board =
          m.outside.rest.board)) ∧
    PhaseSettled (h.gazetted clock) c m := by
  obtain ⟨phase, hold, hfit, hw, hr, -⟩ := booked_of_reachable hh hm
  have hcalm : (bookedOutline hh clock c m.outside.rest.pages).Calm m :=
    ⟨phase, hold, hfit, hw, hr, List.prefix_refl _⟩
  refine ⟨fun ht => ?_, ?_, hr.attested, hr.board, board_of_fruitless hh hcalm,
    phaseSettled_of_calm hh hcalm⟩
  · simpa [Activity.upbeat] using hr.turns ht
  · simpa [Activity.brought] using hr.issued

namespace Watcher

/-- A host whose listing fails every other time, and where a container is started again and again. -/
def fickle : Host Nat where
  connect := pure 0
  list _ := .ofOutcome fun s =>
    (if s.rest % 2 = 0 then .ok [] else .error .pingRefused, { s with rest := s.rest + 1 })
  inspect _ _ := Act.fail .pingRefused
  ping _ := pure ()
  addListener _ _ := pure ()
  removeListener _ _ := pure ()
  close _ := pure ()
  take _ _ := pure (some (some ⟨.str "start", .str "a"⟩))
  sleep _ := pure ()
  publish _ := pure ()
  report _ := pure ()

theorem fickle_fallible : fickle.Fallible where
  connect := Keeps.pure _
  list _ := by
    intro s _
    by_cases hs : s.rest % 2 = 0
    · simp [fickle, hs]
    · simp [fickle, hs, failing, Fault.isFailure]
  inspect _ _ := Spec.fail fun _ _ => ⟨rfl, trivial⟩
  ping _ := Keeps.pure _
  addListener _ _ := Keeps.pure _
  removeListener _ _ := Keeps.pure _
  close _ := Keeps.pure _
  take _ _ := Keeps.pure _
  publish _ := Keeps.pure _
  sleep _ := Spec.pure fun _ hs => hs
  report _ := Spec.pure fun _ hs => hs

/-- No ports of its own, and no number of seconds to wait. -/
def hasty : WatchConfig where
  ports := []
  pingInterval := .missing
  reconnectInterval := .missing
  queueSize := 1

/-- After a connection, a subscription and two events. -/
def restless : Machine (Gazette Nat) :=
  ((run (fickle.gazetted fun _ => "now") hasty 4).outcome (Machine.gazetted { rest := 0 })).2

/-- Of three passes the second failed, and two tables were published. -/
theorem published_history_restless :
    fickle.Fallible ∧
    events restless.outside.rest.pages = List.replicate 2 ⟨.str "start", .str "a"⟩ ∧
    (passes fickle hasty restless.outside.rest.pages).map Except.toBool = [true, false, true] ∧
    restless.outside.rest.board.generation = 2 ∧
    beats restless.outside.rest.pages = [false, true, false, true, false, true] ∧
    (issues (fun _ => "now") restless.outside.rest.pages).map Prod.snd =
      (passes fickle hasty restless.outside.rest.pages).filterMap Except.toOption ∧
    PhaseSettled (fickle.gazetted fun _ => "now") hasty restless := by
  have hall := published_history fickle_fallible (fun _ => "now") hasty { rest := 0 }
    (m := restless) (.ran .start 4)
  have hevents : events restless.outside.rest.pages = List.replicate 2 ⟨.str "start", .str "a"⟩ := by
    decide +kernel
  have hpasses : (passes fickle hasty restless.outside.rest.pages).map Except.toBool =
      [true, false, true] := by decide +kernel
  refine ⟨fickle_fallible, hevents, hpasses, by decide +kernel, ?_, hall.2.1, hall.2.2.2.2.2⟩
  rw [hall.1 (by simp [hevents, Event.Textual]),
    show (passes fickle hasty restless.outside.rest.pages).length = 3 by
      simpa using congrArg List.length hpasses]
  rfl

end Watcher

end HostRouting
