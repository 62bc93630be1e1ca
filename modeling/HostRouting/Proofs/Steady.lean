import HostRouting.Proofs.Sole

/-!
# Conditions beside the watcher's client

Some conditions on a harbour are about the watcher's mailbox and the chronicle. They are left by
whatever moves the harbour, as long as the watcher's client is the only one with listeners, and by
plain entries. What such a condition needs from the watcher's calls is shown once here.
-/

namespace HostRouting.Harbour

open Act (Spec Keeps failing never)

variable {ω σ : Type} {R : Harbour (Chronicle ω σ) → Harbour (Chronicle ω σ) → Prop}
  {plain : Entry ω → Prop} {hold hold' : Option Hold} {a b : Activity}
  {C C' : Harbour (Chronicle ω σ) → Prop}

/-- The condition is left by what moves the harbour and by plain entries. -/
structure Steady (R : Harbour (Chronicle ω σ) → Harbour (Chronicle ω σ) → Prop)
    (plain : Entry ω → Prop) (hold : Option Hold) (b : Activity)
    (C : Harbour (Chronicle ω σ) → Prop) : Prop where
  moved : ∀ s t, Sole hold b s → C s → R s t → Sole hold b t ∧ C t
  told : ∀ s y, plain y → C s → C (s.chronicle [y])

/-- Another condition holds in a harbour with the same mailboxes and the same chronicle. -/
def Loosens (C C' : Harbour (Chronicle ω σ) → Prop) : Prop :=
  ∀ s t : Harbour (Chronicle ω σ), t.mailboxes = s.mailboxes → t.entries = s.entries → C s → C' t

/-- The begin and the end of a call are told of in plain entries. -/
structure Plainly (plain : Entry ω → Prop) (call : Watcher.Call) {α : Type}
    (answer : α → Watcher.Deed) : Prop where
  began : plain (.deed (.began call))
  answered : ∀ v, plain (.deed (answer v))
  failed : ∀ f, plain (.deed (.failed call f))

/-- The entry passes the test, and does not say that nothing was in the mailbox. -/
def Passes (test : Entry ω → Bool) (y : Entry ω) : Prop := test y = true ∧ y ≠ .deed (.took none)

/-- The begin and the end of most calls. -/
theorem Plainly.of_done {test : Entry ω → Bool} {call : Watcher.Call} {α : Type}
    (hbegan : test (.deed (.began call)) = true) (hdone : test (.deed (.done call)) = true)
    (hfailed : ∀ f, test (.deed (.failed call f)) = true) :
    Plainly (Passes test) call fun _ : α => .done call where
  began := ⟨hbegan, by simp⟩
  answered _ := ⟨hdone, by simp⟩
  failed f := ⟨hfailed f, by simp⟩

namespace Steady

variable {k : Shore (Chronicle ω σ)} {α : Type} {act : Act (Harbour (Chronicle ω σ)) α}
  {call : Watcher.Call} {answer : α → Watcher.Deed} {x : Hold}

/-- Orderly acts leave the condition. -/
theorem keeps (h : Steady R plain hold b C) (hact : act.Along R) :
    Keeps (fun s => Sole hold b s ∧ C s) act :=
  hact.keeps fun s t hst hs => h.moved s t hs.1 hs.2 hst

/-- A plain entry leaves it. -/
theorem concat (h : Steady R plain hold b C) {s : Harbour (Chronicle ω σ)} {y : Entry ω}
    (hy : plain y) (hs : Sole hold b s ∧ C s) : Sole hold b (s.chronicle [y]) ∧ C (s.chronicle [y]) :=
  ⟨hs.1.turn _ _, h.told s y hy hs.2⟩

/-- A plain call that leaves the condition is told of. -/
theorem recorded (h : Steady R plain hold b C) (hact : Keeps (fun s => Sole hold b s ∧ C s) act)
    (hplain : Plainly plain call answer) :
    Keeps (fun s => Sole hold b s ∧ C s) (act.noted (fun d => chronicle [.deed d]) call answer) := by
  apply Act.Spec.noted hact
  · intro s hs
    exact h.concat hplain.began hs
  · intro v s hs
    exact h.concat (hplain.answered v) hs
  · intro f s hs
    exact ⟨hs.1, h.concat (hplain.failed f) hs.2⟩

/-- So is one that does not stop. -/
theorem recorded_safe (h : Steady R plain hold b C) {act : Act (Harbour (Chronicle ω σ)) Unit}
    (hact : act.Safely R) (hplain : Plainly plain call fun _ : Unit => .done call) :
    Spec (fun s => Sole hold b s ∧ C s)
      (act.noted (fun d => chronicle [.deed d]) call fun _ => .done call)
      (fun _ s => Sole hold b s ∧ C s) never := by
  have kept : Spec (fun s => Sole hold b s ∧ C s) act (fun _ s => Sole hold b s ∧ C s) never :=
    hact.spec fun s t hst hs => h.moved s t hs.1 hs.2 hst
  apply kept.noted
  · intro s hs
    exact h.concat hplain.began hs
  · intro v s hs
    exact h.concat (hplain.answered v) hs
  · exact fun _ _ he => he

/-- The watcher's mailbox is taken off. -/
theorem removed (h : Steady R plain (some x) a C) (h' : Steady R plain (some x.silent) a C')
    (ho : k.Orderly R) (hx : x.subscribed = true) (hloose : Loosens C C') (hloose' : Loosens C' C')
    (hplain : Plainly plain (.removeListener x.client x.queue)
      fun _ : Unit => .done (.removeListener x.client x.queue)) :
    Spec (fun s => Sole (some x) a s ∧ C s) (k.watched.removeListener x.client x.queue)
      (fun _ => C') (failing fun _ => C') := by
  have off : Spec (fun s => Sole (some x) a s ∧ C s)
      (removeListener k.tallied.daemon x.client x.queue) (fun _ => C') (failing fun _ => C') := by
    apply removeListener_spec (S := fun _ s => Sole (some x.silent) a s ∧ C' s) (T := fun _ => C')
    · intro s hs _
      exact hloose s _ rfl rfl hs.2
    · intro s stream hs _
      exact ⟨hs.1.released hx, hloose s _ rfl rfl hs.2⟩
    · intro stream
      exact (h'.keeps (ho.closeStream x.client stream)).post (fun _ _ hs => hs.2)
        fun _ _ hs => ⟨hs.1, hs.2.2⟩
    · intro stream s hs
      exact hloose' s _ rfl rfl hs
  show Spec _ ((removeListener k.tallied.daemon x.client x.queue).noted
    (fun d => chronicle [.deed d]) (.removeListener x.client x.queue)
    fun _ => .done (.removeListener x.client x.queue)) _ _
  apply off.noted
  · intro s hs
    exact h.concat hplain.began hs
  · intro v s hs
    exact h'.told s _ (hplain.answered v) hs
  · intro f s hs
    exact ⟨hs.1, h'.told s _ (hplain.failed f) hs.2⟩

/-- The client is closed, and its connection is given up. -/
theorem closed (h : Steady R plain (some x) a C) (h' : Steady R plain none a C')
    (ho : k.Orderly R) (hx : x.subscribed = false) (hloose : Loosens C C')
    (hplain : Plainly plain (.close x.client) fun _ : Unit => .done (.close x.client))
    (hhung : plain (.hungUp x.client)) :
    Spec (fun s => Sole (some x) a s ∧ C s) (k.watched.close x.client)
      (fun _ => C') (failing fun _ => C') := by
  have gone : Spec (fun s => Sole (some x) a s ∧ C s) (closeClient k.tallied.daemon x.client)
      (fun _ => C') (failing fun _ => C') := by
    apply closeClient_spec (S := fun s => Sole none a s ∧ C' s) (T := fun _ _ => False)
    · intro s hs _
      exact ⟨hs.1.closed hx, hloose s _ rfl rfl hs.2⟩
    · -- the stream went with the subscription
      rintro stream _ ⟨s, hs, hst, -⟩
      rw [hs.1.silent hx] at hst
      cases hst
    · exact fun _ _ hs => hs.elim
    · refine Spec.bind (R := fun _ s => Sole none a s ∧ C' s) (Spec.update ?_) fun _ => ?_
      · intro s hs
        exact h'.concat hhung hs
      · exact (h'.keeps (ho.close x.client)).post (fun _ _ hs => hs.2) fun _ _ hs => ⟨hs.1, hs.2.2⟩
  show Spec _ ((closeClient k.tallied.daemon x.client).noted
    (fun d => chronicle [.deed d]) (.close x.client) fun _ => .done (.close x.client)) _ _
  apply gone.noted
  · intro s hs
    exact h.concat hplain.began hs
  · intro v s hs
    exact h'.told s _ (hplain.answered v) hs
  · intro f s hs
    exact ⟨hs.1, h'.told s _ (hplain.failed f) hs.2⟩

/-- The daemon is pinged. -/
theorem pinged (h : Steady R plain (some x) b C) (ho : k.Orderly R)
    (hplain : Plainly plain (.ping x.client) fun _ : Unit => .done (.ping x.client)) :
    Keeps (fun s => Sole (some x) b s ∧ C s) (k.watched.ping x.client) := by
  have alive : Keeps (fun s => Sole (some x) b s ∧ C s) (k.daemon.checkAlive x.client) :=
    Daemon.checkAlive_keeps (h.keeps (ho.ping x.client))
  exact h.recorded alive hplain

/-- A new client arrives. -/
theorem connected (h : Steady R plain hold .calm C) (ho : k.Orderly R) (hloose : Loosens C C')
    (hbegan : plain (.deed (.began .connect))) {Q : Harbour (Chronicle ω σ) → Prop}
    {P : ClientId → Harbour (Chronicle ω σ) → Prop}
    (hP : ∀ client s, C' s → P client (s.chronicle [.deed (.connected client)]))
    (hQ : ∀ f s, C s → Q (s.chronicle [.deed (.failed .connect f)])) :
    Spec (fun s => Sole hold .calm s ∧ C s) k.watched.connect P (failing fun _ => Q) := by
  have made : Spec (fun s => Sole hold .calm s ∧ C s) (connect k.dial) (fun _ => C')
      (failing fun _ => C) := by
    refine (connect_spec (h.keeps ho.dial)).post ?_ fun _ _ hs => ⟨hs.1, hs.2.2⟩
    rintro client _ ⟨s, hs, rfl, rfl⟩
    exact hloose s _ rfl rfl hs.2
  show Spec _ ((connect k.dial).noted (fun d => chronicle [.deed d]) .connect .connected) _ _
  apply made.noted
  · intro s hs
    exact h.concat hbegan hs
  · intro client s hs
    exact hP client s hs
  · intro f s hs
    exact ⟨hs.1, hQ f s hs.2⟩

/-- The watcher's mailbox is registered, and a stream is held. Only the opening of the stream may
fail, and `F` says how. -/
theorem added (h : Steady R plain (some x) .calm C) (ho : k.Orderly R) (hx : x.subscribed = false)
    (hloose : Loosens C C') {F : Fault → Prop}
    (hopen : Spec (fun _ => True) (k.daemon.openStream x.client) (fun _ _ => True) fun f _ => F f)
    (hbegan : plain (.deed (.began (.addListener x.client x.queue))))
    {P : Harbour (Chronicle ω σ) → Prop} {Q : Fault → Harbour (Chronicle ω σ) → Prop}
    (hP : ∀ s, (s.hub x.client).stream? ≠ none → C' s →
      P (s.chronicle [.deed (.done (.addListener x.client x.queue))]))
    (hQ : ∀ f s, F f → C s →
      Q f (s.chronicle [.deed (.failed (.addListener x.client x.queue) f)])) :
    Spec (fun s => Sole (some x) .calm s ∧ C s) (k.watched.addListener x.client x.queue)
      (fun _ => P) (failing Q) := by
  have on : Spec (fun s => Sole (some x) .calm s ∧ C s)
      (addListener k.tallied.daemon x.client x.queue)
      (fun _ s => (s.hub x.client).stream? ≠ none ∧ C' s) (failing fun f s => F f ∧ C s) := by
    apply addListener_spec (S := fun s => Sole (some x) .calm s ∧ C s)
    · -- nobody else registers the watcher's mailbox
      intro s hs hq
      rw [hs.1.silent hx] at hq
      cases hq
    · refine ((h.keeps (ho.openStream x.client)).and hopen).mono
        (fun s hs => ⟨hs.1, trivial⟩) (fun _ _ hs => hs.1) ?_
      rintro f s ⟨⟨hf, -, hs⟩, hF⟩
      exact ⟨hf, hF, hs⟩
    · intro s hs
      have hlt := (hs.1.there x rfl).1
      refine ⟨?_, hloose s _ rfl rfl hs.2⟩
      rw [enroll, hub_changeHub, if_pos rfl, hub_beginReading _ _ _ hlt, if_pos rfl]
      · simp
      · simpa using hlt
    · intro s hs _ hsome
      rw [hs.1.silent hx] at hsome
      exact absurd rfl hsome
  show Spec _ ((addListener k.tallied.daemon x.client x.queue).noted
    (fun d => chronicle [.deed d]) (.addListener x.client x.queue)
    fun _ => .done (.addListener x.client x.queue)) _ _
  apply on.noted
  · intro s hs
    exact h.concat hbegan hs
  · intro _ s hs
    exact hP s hs.1 hs.2
  · intro f s hs
    exact ⟨hs.1, hQ f s hs.2.1 hs.2.2⟩

/-- The mailbox is looked into. -/
theorem taken (h : Steady R plain (some x) .calm C) (wait : Interval)
    (hbegan : plain (.deed (.began (.take x.queue))))
    {P : Option (Option Event) → Harbour (Chronicle ω σ) → Prop}
    {Q : Harbour (Chronicle ω σ) → Prop}
    (hnone : ∀ s, C s → (s.mailbox x.queue).items = [] → P none (s.chronicle [.deed (.took none)]))
    (hsome : ∀ s i rest, x.queue < s.mailboxes.length → C s →
      (s.mailbox x.queue).items = i :: rest → P (some i) (chronicle [.deed (.took (some i))]
        (s.setMailbox x.queue { s.mailbox x.queue with items := rest })))
    (hQ : ∀ f s, C s → Q (s.chronicle [.deed (.failed (.take x.queue) f)])) :
    Spec (fun s => Sole (some x) .calm s ∧ C s) (k.watched.take x.queue wait) P
      (failing fun _ => Q) := by
  show Spec _ (Act.noted (fun d => chronicle [.deed d]) (.take x.queue) .took
    (Surroundings.take x.queue wait)) _ _
  apply (Surroundings.take_spec (fun s => Sole (some x) .calm s ∧ C s) _ _).noted
  · intro s hs
    exact h.concat hbegan hs
  · intro item s hs
    cases item with
    | none => exact hnone s hs.1.2 hs.2
    | some i =>
      obtain ⟨t, rest, ⟨hsole, ht⟩, hitems, rfl⟩ := hs
      exact hsome t i rest (hsole.there x rfl).2 ht hitems
  · intro f s hs
    exact ⟨hs.1, hQ f s hs.2.2⟩

end Steady

end HostRouting.Harbour
