import HostRouting.Proofs.Closing
import HostRouting.Proofs.Sole

/-!
# The connections of a fleet

A client of a fleet gives up its connection when it is closed, whatever becomes of its stream: by
then the watcher has taken its listener off, and no stream is held that could get in the way.
-/

namespace HostRouting.Watcher

open Act (Spec Keeps failing never)

open Harbour (Sole Untold chronicle hangups soleOutline)

/-! ## The tally -/

variable {ω σ : Type} {hold : Option Hold} {a b : Activity} {s t : Harbour (Chronicle ω σ)}
  {x : Hold}

/-- Every client but those in hand has given up its connection, once. -/
def Tallied (hold : Option Hold) (a : Activity) (s : Harbour (Chronicle ω σ)) : Prop :=
  ∀ c, s.hangups.count c = if c < s.rest.hubs.length ∧ c ∉ inHand hold a then 1 else 0

namespace Tallied

/-- What the condition depends on. -/
theorem congr (h : Tallied hold a s) {hold' : Option Hold} (hentries : t.entries = s.entries)
    (hhubs : t.rest.hubs.length = s.rest.hubs.length) (hin : inHand hold' b = inHand hold a) :
    Tallied hold' b t := by
  intro c
  have : t.hangups = s.hangups := by
    rw [hangups, hangups, hentries]
  rw [this, hhubs, hin]
  exact h c

/-- A deed that is told of is no connection given up. -/
theorem told (h : Tallied hold a s) (d : Deed) : Tallied hold a (chronicle [.deed d] s) := by
  intro c
  have : (chronicle [.deed d] s).hangups = s.hangups := by
    simp [hangups, Entry.hungUp?]
  rw [this]
  exact h c

/-- Nor is what is not told of. -/
theorem untold {note : Log.Entry → Act (Chronicle ω σ) Unit} (h : Tallied hold a s)
    (hst : Untold note s t) : Tallied hold a t :=
  h.congr hst.2 hst.1.sameSize.hubs rfl

/-- A new client is in hand. -/
theorem addClient (h : Tallied hold .calm s) :
    Tallied hold (.arrived s.rest.hubs.length) s.addClient := by
  intro c
  rw [show s.addClient.hangups = s.hangups from rfl, h c]
  simp only [Harbour.length_hubs_addClient, inHand, List.mem_cons]
  -- the new client has not given up anything, and it is in hand
  by_cases hc : c = s.rest.hubs.length
  · simp [hc]
  · have : c < s.rest.hubs.length + 1 ↔ c < s.rest.hubs.length :=
      ⟨fun hlt => Nat.lt_of_le_of_ne (Nat.le_of_lt_succ hlt) hc, Nat.lt_succ_of_lt⟩
    simp [hc, this]

/-- The client that is held gives up its connection. -/
theorem hungUp (h : Tallied (some x) a s) (hlt : x.client < s.rest.hubs.length)
    (hnot : x.client ∉ inHand none a) : Tallied none a (chronicle [.hungUp x.client] s) := by
  intro c
  have hmem : c ∈ inHand (some x) a ↔ c = x.client ∨ c ∈ inHand none a := by
    cases a <;> simp [inHand, or_comm]
  have : (chronicle [.hungUp x.client] s).hangups = s.hangups ++ [x.client] := by
    simp [hangups, Entry.hungUp?]
  rw [this, List.count_append, h c]
  show _ = if c < s.rest.hubs.length ∧ _ then 1 else 0
  by_cases hc : c = x.client
  · simp [hc, hlt, hnot, mem_inHand]
  · simp only [hmem, hc, false_or, List.count_singleton, beq_iff_eq, Ne.symm hc, if_false]
    rfl

end Tallied

section

variable {k : Shore (Chronicle ω σ)} {α : Type} {act : Act (Harbour (Chronicle ω σ)) α}
  {S : Harbour (Chronicle ω σ) → Prop} {call : Call}

/-- Acts that move the harbour silently keep the tally. -/
theorem Tallied.keeps (h : act.Along (Untold k.note)) : Keeps (Tallied hold a) act :=
  Act.Along.keeps h fun _ _ hst hs => hs.untold hst

/-- An act that keeps the tally is told of, while the same clients are in hand. -/
theorem Tallied.recounted {answer : α → Deed} {c : α → Activity}
    (h : Keeps (Tallied hold a) act) (hc : ∀ v, inHand hold (c v) = inHand hold a)
    (hb : inHand hold b = inHand hold a) :
    Spec (fun s => S s ∧ Tallied hold a s) (act.noted (fun d => chronicle [.deed d]) call answer)
      (fun v => Tallied hold (c v)) (failing fun _ => Tallied hold b) :=
  (h.watched fun _ d hs => hs.told d).mono (fun _ hs => hs.2)
    (fun v _ hs => hs.congr rfl rfl (hc v)) fun _ _ hs => ⟨hs.1, hs.2.congr rfl rfl hb⟩

/-- So is one that does not stop. -/
theorem Tallied.recounted_safe {act : Act (Harbour (Chronicle ω σ)) Unit}
    (h : act.Safely (Untold k.note)) {answer : Unit → Deed} (hb : inHand hold b = inHand hold a) :
    Spec (fun s => S s ∧ Tallied hold a s) (act.noted (fun d => chronicle [.deed d]) call answer)
      (fun _ => Tallied hold b) never :=
  ((h.spec fun _ _ hst (hs : Tallied hold a _) => hs.untold hst).watched_safe
    fun _ d hs => hs.told d).mono (fun _ hs => hs.2) (fun _ _ hs => hs.congr rfl rfl hb)
    fun _ _ he => he

end

/-- Every connection of a fleet is given up once. -/
def tallyBeside {k : Shore (Chronicle ω σ)} (ho : k.Orderly (Untold k.note)) (c : WatchConfig) :
    (soleOutline ho (fun _ _ h => h.1) c).Beside where
  more := Tallied
  report hold a e _ := Tallied.recounted_safe (ho.report e) rfl
  alarm hold f := Tallied.recounted_safe (ho.report _) rfl
  sleep hold := Tallied.recounted_safe (ho.sleep _) rfl
  connect hold _ := by
    have made : Spec (Tallied hold .calm) (Harbour.connect k.dial)
        (fun client => Tallied hold (.arrived client)) (failing fun _ => Tallied hold .failed) := by
      refine (Harbour.connect_spec (Tallied.keeps ho.dial)).post ?_
        fun _ _ hs => ⟨hs.1, hs.2.congr rfl rfl rfl⟩
      rintro client _ ⟨s, hs, rfl, rfl⟩
      exact hs.addClient
    exact (made.watched (fun _ d hs => hs.told d) (fun _ _ d hs => hs.told d)
      fun _ _ d hs => ⟨hs.1, hs.2.told d⟩).pre fun _ hs => hs.2
  remove x a _ _ := by
    have same : inHand (some x.silent) a = inHand (some x) a := by cases a <;> rfl
    have removed : Spec (Tallied (some x) a) (Harbour.removeListener k.tallied.daemon x.client x.queue)
        (fun _ => Tallied (some x.silent) a) (failing fun _ => Tallied (some x.silent) a) := by
      refine Harbour.removeListener_spec (S := fun _ => Tallied (some x.silent) a)
        (T := fun _ => Tallied (some x.silent) a)
        (fun s hs _ => hs.congr rfl (by simp) same) (fun s stream hs _ => hs.congr rfl (by simp) same)
        (fun stream => Tallied.keeps (ho.closeStream x.client stream))
        fun stream s hs => hs.congr rfl rfl rfl
    exact (removed.watched (fun _ d hs => hs.told d) (fun _ _ d hs => hs.told d)
      fun _ _ d hs => ⟨hs.1, hs.2.told d⟩).pre fun _ hs => hs.2
  close x a _ hx := by
    have closed : Spec (fun s => Sole (some x) a s ∧ Tallied (some x) a s)
        (Harbour.closeClient k.tallied.daemon x.client) (fun _ => Tallied none a)
        (failing fun _ => Tallied none a) := by
      refine Harbour.closeClient_spec (S := fun s => Tallied (some x) a s ∧
        x.client < s.rest.hubs.length ∧ x.client ∉ inHand none a) (T := fun _ _ => False) ?_
        (fun stream => ?_) (fun _ _ hs => hs.elim) ?_
      · rintro s ⟨hsole, htally⟩ -
        refine ⟨htally.congr rfl (by simp) rfl, ?_, ?_⟩
        · rw [Harbour.length_hubs_changeHub]
          exact (hsole.there x rfl).1
        · -- a client that arrives meanwhile is another one
          cases a with
          | arrived new => simpa [inHand] using (hsole.came new rfl).2.1 x rfl
          | _ => simp [inHand]
      -- by now there is no stream whose closing could fail
      · rintro _ ⟨s, ⟨hsole, -⟩, hst, -⟩
        rw [hsole.silent hx] at hst
        cases hst
      · refine Spec.bind (R := fun _ => Tallied none a) (Spec.update ?_) fun _ =>
          Tallied.keeps (ho.close x.client)
        rintro s ⟨htally, hlt, hnot⟩
        exact htally.hungUp hlt hnot
    exact closed.watched (fun s d hs => ⟨hs.1.turn _ _, hs.2.told d⟩) (fun _ _ d hs => hs.told d)
      fun _ _ d hs => ⟨hs.1, hs.2.told d⟩
  settle s _ hs := hs.congr rfl rfl rfl
  adopt client := fun s hs => hs.2.congr rfl rfl rfl
  survey x := by
    refine (Host.enumerate_keeps (Q := Tallied (some x) .due) ?_ ?_ ?_ _ _).mono
      (fun _ hs => hs.2) (fun _ _ hs => hs.congr rfl rfl rfl)
      fun _ _ hs => ⟨hs.1, hs.2.congr rfl rfl rfl⟩
    · have listed : Keeps (Tallied (some x) .due) (k.daemon.listRunning x.client) :=
        Daemon.listRunning_keeps (Tallied.keeps (ho.containers _))
      exact listed.watched fun _ d hs => hs.told d
    · intro id
      have inspected : Keeps (Tallied (some x) .due) (k.daemon.inspectContainer x.client id) :=
        Daemon.inspectContainer_keeps (Tallied.keeps (ho.inspect _ id))
      exact inspected.watched fun _ d hs => hs.told d
    · exact fun e => ((ho.report e).spec fun _ _ hst (hs : Tallied (some x) .due _) =>
        hs.untold hst).watched_safe fun _ d hs => hs.told d
  publish x t := Tallied.recounted (Tallied.keeps (ho.publish t)) (fun _ => rfl) rfl
  ping x := by
    have pinged : Keeps (Tallied (some x) .calm) (k.daemon.checkAlive x.client) :=
      Daemon.checkAlive_keeps (Tallied.keeps (ho.ping _))
    exact Tallied.recounted pinged (fun _ => rfl) rfl
  add x _ _ := by
    have added : Spec (Tallied (some x) .calm)
        (Harbour.addListener k.tallied.daemon x.client x.queue)
        (fun _ => Tallied (some x.listening) .calm) (failing fun _ => Tallied (some x) .calm) := by
      refine Harbour.addListener_spec (S := Tallied (some x) .calm) (fun s hs _ => ⟨rfl, hs⟩)
        ((Tallied.keeps (ho.openStream x.client)).pre fun _ hs => hs.1)
        (fun s hs => hs.congr rfl (by simp) rfl) fun s hs _ _ => hs.congr rfl (by simp) rfl
    refine (added.watched (fun _ d hs => hs.told d) (fun _ _ d hs => hs.told d)
      fun _ _ d hs => ⟨hs.1, hs.2.told d⟩).mono (fun _ hs => hs.2) (fun _ _ hs => hs)
      fun f s hs => ⟨hs.1, ?_⟩
    cases f <;> exact hs.2.congr rfl rfl rfl
  take x _ := by
    have taken : Keeps (Tallied (some x) .calm)
        (Surroundings.take x.queue c.pingInterval : Act (Harbour (Chronicle ω σ)) _) := by
      refine (Surroundings.take_spec _ _ _).post (fun item s hs => ?_) fun _ _ hs => hs
      cases item with
      | none => exact hs.1
      | some i =>
        obtain ⟨t, rest, ht, -, rfl⟩ := hs
        exact ht.congr rfl rfl rfl
    refine Tallied.recounted taken (fun item => ?_) rfl
    rcases Activity.after_cases item with ha | ha | ha | ha <;> simp only [ha, inHand]

/-! ## Every connection is closed once -/

/-- A host that is asked to stop while it registers a listener, which it cannot take off again. -/
def abrupt : Host Unit :=
  { Host.still (.ok []) fun _ => .error .pingRefused with
    addListener := fun _ _ => Act.update fun s => { s with control := s.control.stop }
    removeListener := fun _ _ => Act.fail .pingRefused }

theorem abrupt_fallible : abrupt.Fallible :=
  { Host.still_fallible (.ok _) fun _ => .error rfl with
    addListener := fun _ _ => .update fun _ _ => trivial
    removeListener := fun _ _ => .fail fun _ _ => ⟨rfl, trivial⟩ }

/-- A shore where the watcher is asked to stop while the stream is opened, which cannot be closed. -/
def brief : Shore (Chronicle Unit Unit) :=
  { Shore.quiet (Chronicle Unit Unit) with
    daemon :=
      { (Shore.quiet (Chronicle Unit Unit)).daemon with
        openStream := fun _ => Act.update fun s => s.turn s.control.stop s.rest.rest
        closeStream := fun _ _ => Act.fail .pingRefused } }

/-- Nothing else happens on this shore. -/
theorem brief_orderly : brief.Orderly (Untold brief.note) :=
  { Shore.quiet_orderly (R := Untold brief.note) fun _ => ⟨.refl, rfl⟩ with
    openStream := fun _ => .update fun s => ⟨.single (.turned s _ trivial), rfl⟩
    closeStream := fun _ _ => .fail (fun _ => ⟨.refl, rfl⟩) rfl }

/-- The client whose listener could not be taken off. -/
def Deed.clung? : Deed → Option ClientId
  | failed (.removeListener c _) _ => some c
  | _ => none

end HostRouting.Watcher
