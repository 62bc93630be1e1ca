import HostRouting.Proofs.Opening
import HostRouting.Proofs.Patience
import HostRouting.Service

/-!
# Starting to watch

Both the service and the command line program open the event log before the watcher is started, and
neither recovers when that fails. So the watcher is started just when the event log can be made
ready.
-/

namespace HostRouting

open Act (Spec never)

/-! ## The service -/

namespace Service

/-- The watcher is at work after a start. -/
theorem thread_start (c : Control) : c.start.thread = .running := by
  unfold Control.start
  split
  · assumption
  · rfl

/-- **The service starts its watcher just when the event log can be made ready; otherwise it stops
with a fault, and the watcher is left as it was.** -/
theorem startup_spec {log : EventLog} (sound : log.Sound) (watcher? : Option Control) :
    Spec (· = { eventLog := log, watcher? }) startup
      (fun _ s => log.Ready ∧ s.watcher? = watcher?.map Control.start)
      (fun _ s => ¬ log.Ready ∧ s.watcher? = watcher?) := by
  have opened : Spec (· = { eventLog := log, watcher? })
      (EventLog.init.within Service.eventLog fun l s => { s with eventLog := l })
      (fun _ s => log.Ready ∧ s.watcher? = watcher?)
      (fun _ s => ¬ log.Ready ∧ s.watcher? = watcher?) := by
    refine (EventLog.init_spec sound).within (fun s hs => by rw [hs]) ?_ ?_
    · rintro _ _ l rfl hready
      exact ⟨hready, rfl⟩
    · rintro _ _ l rfl hready
      exact ⟨hready, rfl⟩
  refine Spec.bind opened fun _ => Spec.update fun s hs => ⟨hs.1, ?_⟩
  show s.watcher?.map Control.start = _
  rw [hs.2]

end Service

/-! ## The command line program -/

namespace Cli

open Watcher (afresh opening run run_announced coherent_fresh)

variable {σ : Type} {h : Host σ} (hh : h.Fallible) (get : Surroundings σ → EventLog)
  (set : EventLog → Surroundings σ → Surroundings σ)

/-- The event log of the surroundings is opened, and the journal has nothing of that. -/
def openLog : Act (Surroundings (Recorded σ)) Unit :=
  (EventLog.init.within get set).within Surroundings.unrecorded Surroundings.recordedBeside

include hh

/-- **With valid options, the program reaches its run just when the event log can be made ready;
otherwise it stops with a fault before anything is done.** -/
theorem watch_spec {s : Surroundings σ} (sound : (get s).Sound) {settings : Settings}
    {o : WatchOptions} {weight : Nat} {ports : List String}
    (hlevel : Log.threshold o.logLevel? settings.logLevel = .ok weight)
    (hports : o.ports? = some ports) (rounds : Nat) :
    Spec (· = afresh s) (watch h.recorded (openLog get set) settings o rounds)
      (fun status m => (get s).Ready ∧ status = 0 ∧
        ∃ new, m.outside.rest.journal = .began (.report opening) :: new)
      (fun _ m => ¬ (get s).Ready ∧ m.watcher = {} ∧ m.outside.rest.journal = []) := by
  have hconfig : ∃ c, watchConfig settings o = .ok c := by
    simp only [watchConfig, WatchOptions.ports, hports]
    exact ⟨_, rfl⟩
  obtain ⟨c, hc⟩ := hconfig
  have opened : Spec (· = afresh s) (Watcher.call (openLog get set))
      (fun _ m => (get s).Ready ∧ m.watcher = {} ∧ m.outside.rest.journal = [])
      (fun _ m => ¬ (get s).Ready ∧ m.watcher = {} ∧ m.outside.rest.journal = []) := by
    have inner : Spec (· = s) (EventLog.init.within get set) (fun _ _ => (get s).Ready)
        (fun _ _ => ¬ (get s).Ready) :=
      (EventLog.init_spec sound).within (fun u hu => by rw [hu]) (fun _ _ _ _ hready => hready)
        fun _ _ _ _ hready => hready
    have outer : Spec (· = (afresh s).outside) (openLog get set)
        (fun _ u => (get s).Ready ∧ u.rest.journal = [])
        (fun _ u => ¬ (get s).Ready ∧ u.rest.journal = []) := by
      refine inner.within (fun u hu => by rw [hu]; rfl) ?_ ?_
      · rintro _ _ u rfl hready
        exact ⟨hready, rfl⟩
      · rintro _ _ u rfl hready
        exact ⟨hready, rfl⟩
    refine outer.within (fun m hm => by rw [hm]) ?_ ?_
    · rintro _ _ u rfl ⟨hready, hu⟩
      exact ⟨hready, rfl, hu⟩
    · rintro _ _ u rfl ⟨hready, hu⟩
      exact ⟨hready, rfl, hu⟩
  have ran : Spec
      (fun m => (get s).Ready ∧ m.watcher = {} ∧ m.outside.rest.journal = [])
      (run h.recorded c rounds)
      (fun _ m => (get s).Ready ∧ ∃ new, m.outside.rest.journal = .began (.report opening) :: new)
      never := by
    rintro m ⟨hready, hw, hj⟩
    obtain ⟨stopped, m', new, ho, hnew⟩ := run_announced hh c (hw ▸ coherent_fresh) rounds
    rw [ho]
    rw [hj, List.nil_append] at hnew
    exact ⟨hready, new, hnew⟩
  refine Spec.ofExcept_bind hlevel ?_
  refine Spec.bind opened fun _ => Spec.ofExcept_bind hc ?_
  refine Spec.bind ran.result fun r => ?_
  cases r with
  | ok stopped => exact Spec.pure fun m hm => ⟨hm.1, rfl, hm.2⟩
  | error f => exact fun m hm => hm.elim

end Cli

/-! ## Both ways to start -/

/-- **The watcher is started just when the event log can be made ready**, by the service and by the
command line program alike. Otherwise both stop with a fault: the watcher of the service stays as it
was, and the program makes none of the watcher's calls. -/
theorem watcher_started_iff_ready {log : EventLog} (sound : log.Sound) :
    (∀ control : Control, Spec (· = { eventLog := log, watcher? := some control }) Service.startup
        (fun _ s => log.Ready ∧ ∃ c, s.watcher? = some c ∧ c.thread = .running)
        (fun _ s => ¬ log.Ready ∧ s.watcher? = some control)) ∧
      ∀ (σ : Type) (h : Host σ) (get : Surroundings σ → EventLog)
        (set : EventLog → Surroundings σ → Surroundings σ) (s : Surroundings σ) (settings : Settings)
        (o : Cli.WatchOptions) (weight : Nat) (ports : List String) (rounds : Nat),
        h.Fallible → get s = log → Log.threshold o.logLevel? settings.logLevel = .ok weight →
        o.ports? = some ports →
        Spec (· = Watcher.afresh s) (Cli.watch h.recorded (Cli.openLog get set) settings o rounds)
          (fun status m => log.Ready ∧ status = 0 ∧
            ∃ new, m.outside.rest.journal = .began (.report Watcher.opening) :: new)
          (fun _ m => ¬ log.Ready ∧ m.watcher = {} ∧ m.outside.rest.journal = []) := by
  constructor
  · intro control
    refine (Service.startup_spec sound (some control)).post ?_ fun _ _ hs => hs
    rintro _ s ⟨hready, hs⟩
    exact ⟨hready, control.start, hs, Service.thread_start control⟩
  · intro σ h get set s settings o weight ports rounds hh hs hlevel hports
    subst hs
    exact Cli.watch_spec hh get set sound hlevel hports rounds

/-! ## Logs that are broken, and one that is not -/

namespace EventLog

/-- The file holds something else than a database. -/
def garbled : EventLog where
  storage := ⟨[(["drd.db"], .file .foreign)]⟩

/-- A file stands where the directory of the database belongs. -/
def barred : EventLog where
  storage := ⟨[(["data"], .file .blank)]⟩
  place := "/data/drd.db"

/-- There is nothing yet, not even the directory. -/
def untouched : EventLog where
  place := "/data/drd.db"

theorem garbled_sound : garbled.Sound := ⟨⟨by decide, by decide⟩, nofun⟩

theorem untouched_sound : untouched.Sound := ⟨⟨nofun, nofun⟩, nofun⟩

end EventLog

/-- A daemon without containers, and a log that is kept. -/
def quietHost : Host EventLog where
  connect := pure 0
  list _ := pure []
  inspect _ _ := Act.fail .pingRefused
  ping _ := pure ()
  addListener _ _ := pure ()
  removeListener _ _ := pure ()
  close _ := pure ()
  take _ _ := pure none
  sleep _ := pure ()
  publish _ := pure ()
  report e := Act.update fun s => s.mapRest fun log => (log.record "now" e).log

theorem quietHost_fallible : quietHost.Fallible where
  connect := Act.Keeps.pure _
  list _ := Act.Keeps.pure _
  inspect _ _ := Spec.fail fun _ _ => ⟨rfl, trivial⟩
  ping _ := Act.Keeps.pure _
  addListener _ _ := Act.Keeps.pure _
  removeListener _ _ := Act.Keeps.pure _
  close _ := Act.Keeps.pure _
  take _ _ := Act.Keeps.pure _
  publish _ := Act.Keeps.pure _
  sleep _ := Spec.pure fun _ hs => hs
  report _ := Spec.update fun _ hs => hs

/-- Options as they may be given. -/
def plainOptions : Cli.WatchOptions where
  ports? := some ["80"]
  pingInterval := .missing
  reconnectInterval := .missing
  logLevel? := some "info"

/-- The program with such options, a quiet daemon and an event log. -/
def quietWatch : Act (Machine (Recorded EventLog)) Nat :=
  Cli.watch quietHost.recorded (Cli.openLog (·.rest) fun log s => { s with rest := log }) {}
    plainOptions 3

/-- With nothing in the way the watcher is started, and the program begins its run; with a garbled
file neither is so. -/
theorem watcher_started_iff_ready_untouched :
    EventLog.untouched.Sound ∧ EventLog.garbled.Sound ∧ quietHost.Fallible ∧
      EventLog.untouched.Ready ∧ ¬ EventLog.garbled.Ready ∧
      (∃ new, (quietWatch.outcome (Watcher.afresh { rest := .untouched })).2.outside.rest.journal =
        .began (.report Watcher.opening) :: new) ∧
      (quietWatch.outcome (Watcher.afresh { rest := .garbled })).2.outside.rest.journal = [] := by
  have good := watcher_started_iff_ready EventLog.untouched_sound
  have bad := watcher_started_iff_ready EventLog.garbled_sound
  have hready : EventLog.untouched.Ready := ((good.1 {}).of_ok rfl rfl).1
  have hbroken : ¬ EventLog.garbled.Ready := ((bad.1 {}).of_error rfl rfl).1
  have hlevel : Log.threshold plainOptions.logLevel? ({} : Settings).logLevel = .ok 20 := rfl
  have goodWatch := good.2 EventLog quietHost (·.rest) (fun log s => { s with rest := log })
    { rest := .untouched } {} plainOptions 20 ["80"] 3 quietHost_fallible rfl hlevel rfl
  have badWatch := bad.2 EventLog quietHost (·.rest) (fun log s => { s with rest := log })
    { rest := .garbled } {} plainOptions 20 ["80"] 3 quietHost_fallible rfl hlevel rfl
  refine ⟨EventLog.untouched_sound, EventLog.garbled_sound, quietHost_fallible, hready, hbroken, ?_, ?_⟩
  · match ho : quietWatch.outcome (Watcher.afresh { rest := .untouched }) with
    | (.ok status, m) => exact (goodWatch.of_ok rfl ho).2.2
    | (.error f, m) => exact absurd hready (goodWatch.of_error rfl ho).1
  · match ho : quietWatch.outcome (Watcher.afresh { rest := .garbled }) with
    | (.ok status, m) => exact absurd (badWatch.of_ok rfl ho).1 hbroken
    | (.error f, m) => exact (badWatch.of_error rfl ho).2.2

/-- A garbled file keeps the service and the program from starting the watcher, and so does a file in
the place of the directory. -/
theorem broken_log_stops_start :
    (Service.startup.outcome { eventLog := .garbled, watcher? := some {} }).1 =
        .error (.storage .notDatabase) ∧
      (Service.startup.outcome { eventLog := .garbled, watcher? := some {} }).2.watcher? = some {} ∧
      (Service.startup.outcome { eventLog := .barred, watcher? := some {} }).1 =
        .error (.storage .cannotOpen) ∧
      (Service.startup.outcome { eventLog := .barred, watcher? := some {} }).2.watcher? = some {} ∧
      (quietWatch.outcome (Watcher.afresh { rest := .garbled })).1 = .error (.storage .notDatabase) ∧
      (quietWatch.outcome (Watcher.afresh { rest := .garbled })).2.outside.rest.journal = [] ∧
      (quietWatch.outcome (Watcher.afresh { rest := .barred })).1 = .error (.storage .cannotOpen) ∧
      (quietWatch.outcome (Watcher.afresh { rest := .barred })).2.outside.rest.journal = [] :=
  ⟨rfl, rfl, rfl, rfl, rfl, rfl, rfl, rfl⟩

end HostRouting
