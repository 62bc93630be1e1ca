import HostRouting.Fleet.Host
import HostRouting.Proofs.Harbour
import HostRouting.Proofs.Journal
import HostRouting.Proofs.Likeness
import HostRouting.Proofs.Recording
import HostRouting.Proofs.Shore

/-!
# The event log is only written

Two watchers in the same world, with event logs that are kept anywhere and whose storage changes in
any way, do the same, and the same lines are shown but for those that say that an entry could not be
kept. The world knows nothing of the event log: its calls are acts on the harbour without the log.
-/

namespace HostRouting

open Act (Likewise Spec failing never)
open EventLog (Storage)
open Watcher (Call)

/-! ## Keeping a logbook -/

/-- What is noticed of a watcher. -/
inductive Notice where
  /-- Something that the watcher did. -/
  | deed (d : Watcher.Deed)
  /-- A line for the reader of the log. -/
  | line (l : Log.Line)
  /-- This came of recording an entry. -/
  | recorded (r : Except Fault Unit)

/-- The line that says that an entry could not be kept. -/
def Notice.isExtra : Notice → Bool
  | line l => l == EventLog.notKept
  | _ => false

/-- How the storage changes before an entry, and what the clock shows then, by the number of entries
before. -/
structure Weather where
  storage : Nat → Storage → Storage
  clock : Nat → String

/-- A state with an event log, in which `entries` entries were recorded, and a journal of what was
noticed. -/
structure Logbook (σ : Type) where
  log : EventLog
  entries : Nat := 0
  journal : List Notice := []
  rest : σ

namespace Logbook

variable {σ : Type}

/-- Records an entry, after the storage has changed. -/
def note (w : Weather) (e : Log.Entry) : Act (Logbook σ) Unit :=
  .ofOutcome fun b =>
    let r := EventLog.record (w.clock b.entries) e
      { b.log with storage := w.storage b.entries b.log.storage }
    (r.outcome, { b with
      log := r.log
      entries := b.entries + 1
      journal := b.journal ++ r.lines.map .line ++ [.recorded r.outcome] })

/-- The journal without the lines about entries that could not be kept. -/
def visible (b : Logbook σ) : List Notice := b.journal.filter fun n => !n.isExtra

/-- The log is in a place that a storage can have, and recording never failed. -/
structure Sound (b : Logbook σ) : Prop where
  openable : b.log.Openable
  recorded : ∀ r, .recorded r ∈ b.journal → r = .ok ()

variable {b b' : Logbook σ} {w w' : Weather}

theorem visible_append (b : Logbook σ) (ns : List Notice) :
    visible { b with journal := b.journal ++ ns } = b.visible ++ ns.filter fun n => !n.isExtra :=
  List.filter_append ..

/-- What can be seen after an entry was recorded. -/
theorem note_spec (hb : b.Sound) (w : Weather) (e : Log.Entry) :
    ((note w e).outcome b).1 = .ok () ∧ ((note w e).outcome b).2.Sound ∧
      ((note w e).outcome b).2.rest = b.rest ∧
      ((note w e).outcome b).2.visible =
        b.visible ++ (e.line?.toList.map Notice.line).filter (fun n => !n.isExtra) ++
          [.recorded (.ok ())] := by
  have hopenable : EventLog.Openable { b.log with storage := w.storage b.entries b.log.storage } :=
    hb.openable
  obtain ⟨houtcome, hplace, hlines⟩ := EventLog.record_spec hopenable (w.clock b.entries) e
  refine ⟨houtcome, ⟨?_, fun r hr => ?_⟩, rfl, ?_⟩
  · unfold EventLog.Openable note
    simp only [Act.outcome_ofOutcome]
    rw [hplace.1, hplace.2]
    exact hb.openable
  · simp only [note, Act.outcome_ofOutcome, houtcome, List.mem_append, List.mem_map,
      List.mem_singleton, Notice.recorded.injEq, reduceCtorEq, and_false, exists_false, or_false] at hr
    exact hr.elim (hb.recorded r) id
  · simp only [note, Act.outcome_ofOutcome, visible, houtcome, List.filter_append]
    rcases hlines with hlines | hlines
    · rw [hlines]
      rfl
    · rw [hlines, List.map_append, List.filter_append]
      -- the extra line cannot be seen
      have hextra : (List.map Notice.line [EventLog.notKept]).filter (fun n => !n.isExtra) = [] := rfl
      rw [hextra, List.append_nil]
      rfl

end Logbook

/-! ## A host that keeps a logbook -/

/-- A logbook in a place that a storage can have, in which recording never failed. -/
abbrev SoundLogbook (σ : Type) : Type := { b : Logbook σ // b.Sound }

namespace SoundLogbook

variable {σ : Type}

/-- Another state beside the same log. -/
def beside (b : SoundLogbook σ) (x : σ) : SoundLogbook σ :=
  ⟨{ b.1 with rest := x }, b.2.openable, b.2.recorded⟩

/-- Records an entry, after the storage has changed. The logbook is a sound one afterwards, whatever
the storage is like. -/
def note (w : Weather) (e : Log.Entry) : Act (SoundLogbook σ) Unit :=
  .ofOutcome fun b =>
    (((Logbook.note w e).outcome b.1).1,
      ⟨((Logbook.note w e).outcome b.1).2, (Logbook.note_spec b.2 w e).2.1⟩)

/-- Such a log never fails. -/
theorem note_sound (w : Weather) : Harbour.Sound (note w : Log.Entry → Act (SoundLogbook σ) Unit) :=
  fun e b => (Logbook.note_spec b.2 w e).1

theorem note_safe (w : Weather) (e : Log.Entry) :
    Spec (fun _ => True) (note w e : Act (SoundLogbook σ) Unit) (fun _ _ => True) never := by
  refine Spec.intro (fun _ _ _ _ _ => trivial) fun b f b' _ ho => ?_
  have hok := note_sound w e b
  rw [ho] at hok
  cases hok

end SoundLogbook

/-- The host with a logbook, in which the entries are recorded while the storage changes in any way.
The other calls know nothing of it. -/
def Host.logged {σ : Type} (h : Host σ) (w : Weather) : Host (SoundLogbook σ) :=
  { h.told fun _ _ act =>
      act.within (fun s => { s with rest := s.rest.1.rest })
        fun t s => { t with rest := s.rest.beside t.rest } with
    report := fun e =>
      (SoundLogbook.note w e).within Surroundings.rest fun b s => { s with rest := b } }

/-- A host whose calls fail in ordinary ways only may keep its entries in a logbook: that always
takes them, whatever the storage is like. -/
theorem Host.Fallible.logged {σ : Type} {h : Host σ} (fallible : h.Fallible) (w : Weather) :
    (h.logged w).Fallible := by
  have aloof {α : Type} {act : Act (Surroundings σ) α} {F : Fault → Surroundings σ → Prop}
      {G : Fault → Surroundings (SoundLogbook σ) → Prop}
      (hact : Spec (fun _ => True) act (fun _ _ => True) F) (hFG : ∀ f s t, F f s → G f t) :
      Spec (fun _ => True) (act.within (fun s => { s with rest := s.rest.1.rest })
        fun t (s : Surroundings (SoundLogbook σ)) => { t with rest := s.rest.beside t.rest })
        (fun _ _ => True) G :=
    hact.within (fun _ _ => trivial) (fun _ _ _ _ _ => trivial) fun f _ s _ hs => hFG f s _ hs
  have ordinary {f : Fault} (s : Surroundings σ) (t : Surroundings (SoundLogbook σ)) :
      failing (fun _ _ => True) f s → failing (fun _ _ => True) f t := fun hf => ⟨hf.1, trivial⟩
  have recorded (e : Log.Entry) : Spec (fun _ => True) ((SoundLogbook.note w e).within
      Surroundings.rest fun b (s : Surroundings (SoundLogbook σ)) => { s with rest := b })
      (fun _ _ => True) never :=
    (SoundLogbook.note_safe w e).within (fun _ _ => trivial) (fun _ _ _ _ _ => trivial)
      fun _ _ _ _ hf => hf
  exact
    { connect := aloof fallible.connect fun _ => ordinary
      list := fun c => aloof (fallible.list c) fun _ => ordinary
      inspect := fun c id => aloof (fallible.inspect c id) fun _ => ordinary
      ping := fun c => aloof (fallible.ping c) fun _ => ordinary
      addListener := fun c q => aloof (fallible.addListener c q) fun _ => ordinary
      removeListener := fun c q => aloof (fallible.removeListener c q) fun _ => ordinary
      close := fun c => aloof (fallible.close c) fun _ => ordinary
      take := fun q t => aloof (fallible.take q t) fun _ => ordinary
      publish := fun t => aloof (fallible.publish t) fun _ => ordinary
      sleep := fun t => aloof (fallible.sleep t) fun _ _ _ hf => hf
      report := recorded }

/-! ## The harbour without its logbook -/

namespace Harbour

variable {σ : Type}

/-- The harbour without the event log and the journal. -/
def unlogged (s : Harbour (Logbook σ)) : Harbour σ where
  mailboxes := s.mailboxes
  control := s.control
  rest := { hubs := s.rest.hubs, streams := s.rest.streams, rest := s.rest.rest.rest }

/-- Another harbour beside the same log and journal. -/
def loggedBeside (t : Harbour σ) (s : Harbour (Logbook σ)) : Harbour (Logbook σ) where
  mailboxes := t.mailboxes
  control := t.control
  rest := { hubs := t.rest.hubs, streams := t.rest.streams,
            rest := { s.rest.rest with rest := t.rest.rest } }

/-- One more notice in the journal. -/
def notice (n : Notice) (s : Harbour (Logbook σ)) : Harbour (Logbook σ) :=
  s.turn s.control { s.rest.rest with journal := s.rest.rest.journal ++ [n] }

/-- The harbours are the same without their logbooks, the same can be seen in these, and recording
never failed. -/
structure Alike (s t : Harbour (Logbook σ)) : Prop where
  unlogged : s.unlogged = t.unlogged
  visible : s.rest.rest.visible = t.rest.rest.visible
  sound : s.rest.rest.Sound
  sound' : t.rest.rest.Sound

namespace Alike

variable {s t : Harbour (Logbook σ)}

/-- A change that does not touch the logbooks. -/
theorem change {f : Harbour (Logbook σ) → Harbour (Logbook σ)} {g : Harbour σ → Harbour σ}
    (hf : ∀ s, (f s).unlogged = g s.unlogged) (hrest : ∀ s, (f s).rest.rest = s.rest.rest)
    (h : Alike s t) : Alike (f s) (f t) where
  unlogged := by rw [hf, hf, h.unlogged]
  visible := by rw [hrest, hrest, h.visible]
  sound := by
    rw [hrest]
    exact h.sound
  sound' := by
    rw [hrest]
    exact h.sound'

theorem mailbox (h : Alike s t) (q : QueueId) : s.mailbox q = t.mailbox q :=
  congrArg (fun u : Harbour σ => u.mailbox q) h.unlogged

theorem hub (h : Alike s t) (c : ClientId) : s.hub c = t.hub c :=
  congrArg (fun u : Harbour σ => u.hub c) h.unlogged

theorem reader? (h : Alike s t) (stream : StreamId) : s.reader? stream = t.reader? stream :=
  congrArg (fun u : Harbour σ => u.reader? stream) h.unlogged

/-- The same is noticed in both. -/
theorem noticed (h : Alike s t) (d : Watcher.Deed) :
    Alike (s.notice (.deed d)) (t.notice (.deed d)) where
  unlogged := h.unlogged
  visible := by
    refine (Logbook.visible_append _ _).trans (Eq.trans ?_ (Logbook.visible_append _ _).symm)
    rw [h.visible]
  sound := ⟨h.sound.openable, fun r hr => h.sound.recorded r (by simpa [notice, turn] using hr)⟩
  sound' := ⟨h.sound'.openable, fun r hr => h.sound'.recorded r (by simpa [notice, turn] using hr)⟩

/-- Recording an entry goes alike, whatever the storages are like. -/
theorem logged (w w' : Weather) (e : Log.Entry) :
    Likewise (Alike : Harbour (Logbook σ) → _) (logged (Logbook.note w) e)
      (logged (Logbook.note w') e) := by
  intro s t h
  obtain ⟨hok, hsound, hrest, hvisible⟩ := Logbook.note_spec h.sound w e
  obtain ⟨hok', hsound', hrest', hvisible'⟩ := Logbook.note_spec h.sound' w' e
  refine ⟨hok.trans hok'.symm, ?_, ?_, hsound, hsound'⟩
  · have hunlogged := h.unlogged
    unfold Harbour.unlogged at *
    simp only [Harbour.logged, aside, Act.outcome_within, turn, hrest, hrest']
    exact hunlogged
  · exact hvisible.trans (h.visible ▸ hvisible'.symm)

/-- What knows nothing of the logbooks goes alike. -/
theorem blind {α : Type} (act : Act (Harbour σ) α) :
    Likewise Alike (act.within Harbour.unlogged loggedBeside)
      (act.within Harbour.unlogged loggedBeside) := by
  intro s t h
  refine ⟨by simp only [Act.outcome_within, h.unlogged], ?_⟩
  simp only [Act.outcome_within, h.unlogged]
  exact ⟨rfl, h.visible, ⟨h.sound.openable, h.sound.recorded⟩, ⟨h.sound'.openable, h.sound'.recorded⟩⟩

end Alike

/-! ## What comes in -/

section

variable {k k' : Log.Entry → Act (Harbour (Logbook σ)) Unit}
  (hk : ∀ e, Likewise Alike (k e) (k' e))

include hk

theorem deliver_alike (item : Option Event) (q : QueueId) :
    Likewise Alike (deliver k item q) (deliver k' item q) := by
  refine .read_bind fun s t h => ?_
  rw [h.mailbox q]
  refine .bind (.update fun _ _ h => h.change (g := Surroundings.setMailbox q _) (fun _ => rfl)
    fun _ => rfl) fun _ => ?_
  split
  · split
    · exact .pure _
    · exact .bind (.ofExcept _) fun e => hk e
  · exact .pure _

theorem receive_alike (c : ClientId) (message : Json) :
    Likewise Alike (receive k c message) (receive k' c message) := by
  refine .bind (.ofExcept _) fun e => ?_
  split
  · exact .pure _
  · refine .read_bind fun s t h => ?_
    rw [h.hub c]
    exact .forM _ fun q _ => deliver_alike hk _ q

theorem announceEnd_alike (c : ClientId) {s t : Harbour (Logbook σ)} (h : Alike s t) :
    Alike (announceEnd k c s) (announceEnd k' c t) := by
  unfold announceEnd
  rw [h.hub c]
  generalize (t.hub c).listeners = qs
  induction qs generalizing s t with
  | nil => exact h
  | cons q qs ih => exact ih (deliver_alike hk none q s t h).2

theorem finishReading_alike (c : ClientId) (stream : StreamId) (reason : Option Fault)
    {s t : Harbour (Logbook σ)} (h : Alike s t) :
    Alike (finishReading k c stream reason s) (finishReading k' c stream reason t) := by
  have given {s t : Harbour (Logbook σ)} (h : Alike s t) :
      Alike (announceEnd k c (giveUp c stream (s.endReading stream)))
        (announceEnd k' c (giveUp c stream (t.endReading stream))) := by
    refine announceEnd_alike hk c (Alike.change (g := giveUp c stream) (fun _ => rfl) (fun _ => rfl) ?_)
    exact h.change (g := endReading stream) (fun _ => rfl) fun _ => rfl
  unfold finishReading
  cases reason with
  | none => exact given h
  | some f =>
    dsimp only
    split
    · exact given (hk _ s t h).2
    · exact given h

theorem feed_alike (stream : StreamId) (message : Json) {s t : Harbour (Logbook σ)} (h : Alike s t) :
    Alike (feed k stream message s) (feed k' stream message t) := by
  unfold feed
  rw [h.reader? stream]
  cases t.reader? stream with
  | none => exact h
  | some c =>
    obtain ⟨r, s', t', hs, ht, h'⟩ := (receive_alike hk c message).outcomes h
    dsimp only
    rw [hs, ht]
    cases r with
    | ok u => exact h'
    | error f => exact finishReading_alike hk c stream _ h'

theorem finish_alike (stream : StreamId) (reason : Option Fault) {s t : Harbour (Logbook σ)}
    (h : Alike s t) : Alike (finish k stream reason s) (finish k' stream reason t) := by
  unfold finish
  rw [h.reader? stream]
  cases t.reader? stream with
  | none => exact h
  | some c => exact finishReading_alike hk c stream reason h

end

end Harbour

/-- Something that comes in on a stream. -/
inductive Incident where
  | message (stream : StreamId) (message : Json)
  | ended (stream : StreamId) (reason : Option Fault)

/-- What comes of it. -/
def Incident.happen {σ : Type} (report : Log.Entry → Act (Harbour σ) Unit) (s : Harbour σ) :
    Incident → Harbour σ
  | message stream m => Harbour.feed report stream m s
  | ended stream reason => Harbour.finish report stream reason s

/-! ## Hosts with a logbook -/

open Harbour (Alike)

/-- A call in the journal. Before it comes in what comes in. -/
def Act.journaled {σ α : Type} (tide : Call → Harbour σ → List Incident) (w : Weather) (call : Call)
    (answer : α → Watcher.Deed) (act : Act (Harbour (Logbook σ)) α) : Act (Harbour (Logbook σ)) α := do
  Act.update fun s =>
    (tide call s.unlogged).foldl (Incident.happen (Harbour.logged (Logbook.note w))) s
  act.noted (fun d => Harbour.notice (.deed d)) call answer

/-- The host with a logbook, which records the entries. Its other calls know nothing of the
logbook. -/
def Host.journaled {σ : Type} (h : Host (Fleet σ)) (tide : Call → Harbour σ → List Incident)
    (w : Weather) : Host (Fleet (Logbook σ)) :=
  { h.told fun call answer act =>
      (act.within Harbour.unlogged Harbour.loggedBeside).journaled tide w call answer with
    report := fun e => (Harbour.logged (Logbook.note w) e).journaled tide w (.report e)
      fun _ => .done (.report e) }

section

variable {σ α : Type} {tide : Call → Harbour σ → List Incident}

/-- Acts that go alike do so in the journal. -/
theorem Act.Likewise.noted {τ : Type} {R : τ → τ → Prop} {write : Watcher.Deed → τ → τ}
    {act act' : Act τ α} (h : Likewise R act act') (hwrite : ∀ d s t, R s t → R (write d s) (write d t))
    (call : Call) (answer : α → Watcher.Deed) :
    Likewise R (act.noted write call answer) (act'.noted write call answer) := by
  refine .bind (.update (hwrite _)) fun _ => .bind h.result fun r => ?_
  cases r with
  | ok a => exact .bind (.update (hwrite _)) fun _ => .pure _
  | error f => exact .bind (.update (hwrite _)) fun _ => .fail _

theorem Act.Likewise.journaled {act act' : Act (Harbour (Logbook σ)) α} (h : Likewise Alike act act')
    (w w' : Weather) (call : Call) (answer : α → Watcher.Deed) :
    Likewise Alike (act.journaled tide w call answer) (act'.journaled tide w' call answer) := by
  refine .bind (.update fun s t h => ?_) fun _ =>
    h.noted (fun d _ _ h => Alike.noticed h d) call answer
  rw [h.unlogged]
  generalize tide call t.unlogged = incidents
  induction incidents generalizing s t with
  | nil => exact h
  | cons i incidents ih =>
    refine ih _ _ ?_
    cases i with
    | message stream m => exact Harbour.feed_alike (Alike.logged w w') stream m h
    | ended stream reason => exact Harbour.finish_alike (Alike.logged w w') stream reason h

/-- In any weather the calls of the host go alike. -/
theorem Host.journaled_likewise (h : Host (Fleet σ)) (w w' : Weather) :
    Host.Likewise Alike (h.journaled tide w) (h.journaled tide w') where
  connect := (Alike.blind h.connect).journaled w w' .connect .connected
  list c := (Alike.blind (h.list c)).journaled w w' (.list c) fun _ => .done (.list c)
  inspect c id := (Alike.blind (h.inspect c id)).journaled w w' (.inspect c id)
    fun _ => .done (.inspect c id)
  ping c := (Alike.blind (h.ping c)).journaled w w' (.ping c) fun _ => .done (.ping c)
  addListener c q := (Alike.blind (h.addListener c q)).journaled w w' (.addListener c q)
    fun _ => .done (.addListener c q)
  removeListener c q := (Alike.blind (h.removeListener c q)).journaled w w' (.removeListener c q)
    fun _ => .done (.removeListener c q)
  close c := (Alike.blind (h.close c)).journaled w w' (.close c) fun _ => .done (.close c)
  take q t := (Alike.blind (h.take q t)).journaled w w' (.take q) .took
  sleep t := (Alike.blind (h.sleep t)).journaled w w' (.sleep t) fun _ => .done (.sleep t)
  publish t := (Alike.blind (h.publish t)).journaled w w' (.publish t) fun _ => .done (.publish t)
  report e := (Alike.logged w w' e).journaled w w' (.report e) fun _ => .done (.report e)
  openMailbox n s t hs := by
    have hlength : s.mailboxes.length = t.mailboxes.length :=
      congrArg (fun u : Harbour σ => u.mailboxes.length) hs.unlogged
    refine ⟨congrArg Except.ok hlength, ?_⟩
    exact hs.change (f := Surroundings.addMailbox { capacity := n })
      (g := Surroundings.addMailbox { capacity := n }) (fun _ => rfl) fun _ => rfl
  stopRequested _ _ hs := congrArg (fun u : Harbour σ => u.control.stopRequested) hs.unlogged

end

/-! ## Two runs -/

/-- Any number of transitions, one after the other; gives what became of each. -/
def Watcher.transitions {σ : Type} (h : Host σ) (c : WatchConfig) (n : Nat) :
    Act (Machine σ) (List (Except Fault Phase)) :=
  (List.replicate n ()).mapM fun _ => (Watcher.step h c).result

/-- The machine with an event log, before anything is noticed. -/
def Machine.withLog {σ : Type} (log : EventLog) (m : Machine (Fleet σ)) :
    Machine (Fleet (Logbook σ)) where
  watcher := m.watcher
  outside := {
    mailboxes := m.outside.mailboxes
    control := m.outside.control
    rest := { hubs := m.outside.rest.hubs, streams := m.outside.rest.streams,
              rest := { log, rest := m.outside.rest.rest } } }

/-- What became of two runs is the same but for their event logs: what they gave, the watchers, the
harbours, and what can be seen in the journals. No entry failed to be recorded in either. -/
structure Unseen {σ α : Type} (o o' : Except Fault α × Machine (Fleet (Logbook σ))) : Prop where
  result : o.1 = o'.1
  watcher : o.2.watcher = o'.2.watcher
  outside : Harbour.unlogged o.2.outside = Harbour.unlogged o'.2.outside
  visible : o.2.outside.rest.rest.visible = o'.2.outside.rest.rest.visible
  recorded : ∀ r, .recorded r ∈ o.2.outside.rest.rest.journal → r = .ok ()
  recorded' : ∀ r, .recorded r ∈ o'.2.outside.rest.rest.journal → r = .ok ()

namespace Watcher

/-- **The event log has no influence on the watcher.** From the same state and in the same world, with
logs that are kept anywhere and storages that change in any way, any number of transitions gives the
same, and so does a run: the same phases, calls, tables and waits, and the same lines but for those
that say that an entry could not be kept. Recording an entry never fails. -/
theorem log_unseen {σ : Type} (h : Host (Fleet σ)) (tide : Call → Harbour σ → List Incident)
    (c : WatchConfig) (m : Machine (Fleet σ)) {log log' : EventLog} (hlog : log.Openable)
    (hlog' : log'.Openable) (w w' : Weather) (n : Nat) :
    Unseen ((transitions (h.journaled tide w) c n).outcome (m.withLog log))
        ((transitions (h.journaled tide w') c n).outcome (m.withLog log')) ∧
      Unseen ((run (h.journaled tide w) c n).outcome (m.withLog log))
        ((run (h.journaled tide w') c n).outcome (m.withLog log')) := by
  have hstart : Machine.Beside Alike (m.withLog log) (m.withLog log') :=
    ⟨rfl, rfl, rfl, ⟨hlog, by simp [Machine.withLog]⟩, ⟨hlog', by simp [Machine.withLog]⟩⟩
  have unseen {α : Type} {act act' : Act (Machine (Fleet (Logbook σ))) α}
      (hact : Likewise (Machine.Beside Alike) act act') :
      Unseen (act.outcome (m.withLog log)) (act'.outcome (m.withLog log')) := by
    obtain ⟨hresult, hwatcher, hafter⟩ := hact _ _ hstart
    exact ⟨hresult, hwatcher, hafter.unlogged, hafter.visible, hafter.sound.recorded,
      hafter.sound'.recorded⟩
  have hcalls : Host.Likewise Alike (h.journaled tide w) (h.journaled tide w') :=
    h.journaled_likewise w w'
  exact ⟨unseen (.mapM _ fun _ _ => (hcalls.step c).result), unseen (hcalls.run c n)⟩

/-- An empty directory to keep the log in. -/
def emptyDirectory : EventLog where
  storage := ⟨[(["work"], .directory)]⟩
  home := ["work"]

/-- Fine weather, in which the storage is left alone. -/
def fineWeather : Weather := ⟨fun _ s => s, fun _ => "now"⟩

/-- Foul weather, in which something else is written over the log before each entry. -/
def foulWeather : Weather := ⟨fun _ s => s.put ["work", "drd.db"] (.file .foreign), fun _ => "now"⟩

/-- Two messages come in before each ping. -/
def busyTide : Call → Harbour Unit → List Incident
  | .ping _, _ => List.replicate 2 (.message 0 (.obj [("status", .str "start"), ("id", .str "a")]))
  | _, _ => []

/-- A watcher with a mailbox for one event. -/
def narrow : WatchConfig where
  ports := ["80"]
  pingInterval := .seconds { bits := 0x3FF0000000000000 }
  reconnectInterval := .missing
  queueSize := 1

/-- In fine and in foul weather a run of three transitions is the same, though in foul weather no
entry is kept. -/
theorem log_unseen_busy :
    emptyDirectory.Openable ∧
    ((run ((Shore.quiet Unit).host.journaled busyTide fineWeather) narrow 3).outcome
      (Machine.withLog emptyDirectory (Harbour.launched {} ()))).2.outside.rest.rest.journal.countP
        Notice.isExtra = 0 ∧
    ((run ((Shore.quiet Unit).host.journaled busyTide foulWeather) narrow 3).outcome
      (Machine.withLog emptyDirectory (Harbour.launched {} ()))).2.outside.rest.rest.journal.countP
        Notice.isExtra = 3 ∧
    Unseen
      ((transitions ((Shore.quiet Unit).host.journaled busyTide fineWeather) narrow 3).outcome
        (Machine.withLog emptyDirectory (Harbour.launched {} ())))
      ((transitions ((Shore.quiet Unit).host.journaled busyTide foulWeather) narrow 3).outcome
        (Machine.withLog emptyDirectory (Harbour.launched {} ()))) ∧
    Unseen
      ((run ((Shore.quiet Unit).host.journaled busyTide fineWeather) narrow 3).outcome
        (Machine.withLog emptyDirectory (Harbour.launched {} ())))
      ((run ((Shore.quiet Unit).host.journaled busyTide foulWeather) narrow 3).outcome
        (Machine.withLog emptyDirectory (Harbour.launched {} ()))) := by
  have hopenable : emptyDirectory.Openable := by
    unfold EventLog.Openable
    decide +kernel
  exact ⟨hopenable, by decide +kernel, by decide +kernel,
    log_unseen (Shore.quiet Unit).host busyTide narrow (Harbour.launched {} ()) hopenable hopenable
      fineWeather foulWeather 3⟩

end Watcher

end HostRouting
