import HostRouting.Proofs.Abreast
import HostRouting.Proofs.Steady

/-!
# Keeping the table in step

The watcher makes a pass whenever it hears that a container was started or stopped, and one when it
has connected. It subscribes to the events only after that first pass. A change between the two
makes the table wrong, and nothing comes of it until the next event. Here it is told from the
chronicle exactly when the table is in step while the watcher waits.
-/

namespace HostRouting

open Act (Spec Keeps failing)
open Chronicle (Fresh Synced Attested Renewed Knows world published? followed_concat)

variable {ω σ : Type}

/-! ## What is known while an activity goes on -/

/-- The activity follows a pass whose table is not yet published. -/
def Activity.Resumed : Activity → Prop
  | bringing _ => True
  | _ => False

/-- What is known of the containers and of the published table while an activity goes on. -/
def Activity.Knowledge (table : ω → Except Fault Table) : Activity → ω → Option Table → Prop
  | bringing t, w, _ => table w = .ok t
  | _, w, p => ∀ t, table w = .ok t → p = some t

/-- Nothing of this depends on what came out of the mailbox. -/
theorem Activity.knowledge_after (table : ω → Except Fault Table)
    (item : Option (Option Event)) : (after item).Resumed = calm.Resumed ∧
      (after item).Knowledge table = calm.Knowledge table := by
  rcases after_cases item with h | h | h | h
  all_goals
    rw [h]
    exact ⟨rfl, rfl⟩

/-- Happenings leave what is known. -/
theorem Chronicle.Knows.stirred {w₀ : ω} {resumed : Prop} {Q : ω → Option Table → Prop}
    {note : Log.Entry → Act (Chronicle ω σ) Unit} {s t : Harbour (Chronicle ω σ)}
    (hapart : Harbour.Apart note) (h : Knows w₀ resumed Q s.entries)
    (ht : Harbour.Stirred note s t) : Knows w₀ resumed Q t.entries := by
  constructor
  · intro hresumed
    induction ht with
    | refl => exact h.since hresumed
    | tail _ hstep ih =>
      rcases hstep.entries hapart with he | ⟨w, he⟩
      · rw [he]
        exact ih
      · rw [he, followed_concat]
        exact ⟨rfl, .inr (.inr ih)⟩
  · intro hfresh
    have he := ht.entries_of_fresh hapart hfresh
    rw [he] at hfresh ⊢
    exact h.seen hfresh

namespace Harbour

section

variable {table : ω → Except Fault Table} {w₀ : ω} {hold : Option Hold} {a b : Activity}
  {s t : Harbour (Chronicle ω σ)} {x : Hold} {k : Shore (Chronicle ω σ)}

/-- The condition, and what is known besides. -/
def Upheld (table : ω → Except Fault Table) (w₀ : ω) (hold : Option Hold) (a : Activity)
    (resumed : Prop) (Q : ω → Option Table → Prop) (s : Harbour (Chronicle ω σ)) : Prop :=
  Abreast table w₀ hold a s ∧ Knows w₀ resumed Q s.entries

/-- Happenings and entries that change nothing leave it. -/
theorem Upheld.steady {resumed : Prop} {Q : ω → Option Table → Prop}
    (ho : k.Orderly (Stirred k.note)) (hapart : Apart k.note) :
    Steady (Stirred k.note) (Passes Entry.isAside) hold b (Upheld table w₀ hold a resumed Q) where
  moved _ _ hsole h ht := by
    obtain ⟨hsole, habreast⟩ := h.1.stirred ho.sound hapart hsole ht
    exact ⟨hsole, habreast, h.2.stirred hapart ht⟩
  told _ _ hy h := ⟨h.1.aside hy.1 hy.2, h.2.aside hy.1⟩

/-! ## Passes -/

/-- A pass is made, which began while `w` were the containers; if they still are, `X` holds. -/
def Surveying (table : ω → Except Fault Table) (w₀ : ω) (x : Hold) (w : ω) (X : Prop)
    (s : Harbour (Chronicle ω σ)) : Prop :=
  Sole (some x) .due s ∧ Upheld table w₀ (some x) .calm True (fun v _ => v = w ∧ X) s

namespace Surveying

variable {α β : Type} {act : Act (Harbour (Chronicle ω σ)) α} {call : Watcher.Call}

/-- Less may be known. -/
theorem mono {w : ω} {X Y : Prop} (hXY : X → Y) (h : Surveying table w₀ x w X s) :
    Surveying table w₀ x w Y s :=
  ⟨h.1, h.2.1, h.2.2.mono fun _ _ hv => ⟨hv.1, hXY hv.2⟩⟩

/-- What the daemon answers during a pass is known afterwards, unless the containers change. -/
theorem asked (ho : k.Orderly (Stirred k.note)) (hapart : Apart k.note)
    {said : ω → Except Fault α} (hsaid : ∀ w, Ordinary (said w)) (hact : Says k.note w₀ act said)
    (w : ω) (X : Prop) :
    Spec (Surveying table w₀ x w X) act
      (fun v => Surveying table w₀ x w (X ∧ said w = .ok v))
      (failing fun f => Surveying table w₀ x w (X ∧ said w = .error f)) := by
  have known (s : Harbour (Chronicle ω σ)) (hs : Surveying table w₀ x w X s) :
      Surveying table w₀ x w (X ∧ said w = (act.outcome s).1) (act.outcome s).2 := by
    obtain ⟨u, hsu, hut, hr⟩ := hact s
    obtain ⟨hsole, habreast, hknown⟩ :=
      (Upheld.steady ho hapart).moved _ _ hs.1 hs.2 (hsu.trans hut)
    refine ⟨hsole, habreast, hknown.since, fun hfresh => ?_⟩
    obtain ⟨hw, hX⟩ := hknown.seen hfresh
    -- nothing has changed, so the answer was about the containers as they are
    have hu : world w₀ u.entries = w := by
      rw [← hut.entries_of_fresh hapart hfresh]
      exact hw
    exact ⟨hw, hX, by rw [hr, hu]⟩
  apply Spec.intro
  · intro s v t hs hout
    have := known s hs
    rw [hout] at this
    exact this
  · intro s f t hs hout
    obtain ⟨u, -, -, hr⟩ := hact s
    have := known s hs
    rw [hout] at this hr
    exact ⟨hsaid _ f hr.symm, this⟩

/-- So is what is computed from it. -/
theorem asked_then (ho : k.Orderly (Stirred k.note)) (hapart : Apart k.note)
    {said : ω → Except Fault α} (hsaid : ∀ w, Ordinary (said w)) (hact : Says k.note w₀ act said)
    {next : α → Except Fault β} (hnext : ∀ v, Ordinary (next v)) (w : ω) (X : Prop) :
    Spec (Surveying table w₀ x w X) (act >>= fun v => Act.ofExcept (next v))
      (fun v => Surveying table w₀ x w (X ∧ (said w >>= next) = .ok v))
      (failing fun f => Surveying table w₀ x w (X ∧ (said w >>= next) = .error f)) := by
  refine Spec.bind (R := fun v => Surveying table w₀ x w (X ∧ said w = .ok v)) ?_ fun v => ?_
  · refine (asked ho hapart hsaid hact w X).post (fun _ _ hs => hs) fun f s hs => ⟨hs.1, ?_⟩
    refine hs.2.mono fun ⟨hX, hf⟩ => ⟨hX, ?_⟩
    rw [hf]
    rfl
  · apply Spec.ofExcept
    · intro r hr s hs
      refine hs.mono fun ⟨hX, hv⟩ => ⟨hX, ?_⟩
      rw [hv]
      exact hr
    · intro f hf s hs
      refine ⟨hnext v f hf, hs.mono fun ⟨hX, hv⟩ => ⟨hX, ?_⟩⟩
      rw [hv]
      exact hf

/-- An entry that changes nothing. -/
theorem concat (ho : k.Orderly (Stirred k.note)) (hapart : Apart k.note) {w : ω} {X : Prop}
    (h : Surveying table w₀ x w X s) {y : Entry ω} (hy : Passes Entry.isAside y) :
    Surveying table w₀ x w X (s.chronicle [y]) :=
  (Upheld.steady ho hapart).concat hy h

/-- A call of a pass is told of. -/
theorem recorded (ho : k.Orderly (Stirred k.note)) (hapart : Apart k.note) {w : ω} {X : Prop}
    {Y : α → Prop} {Z : Fault → Prop}
    (h : Spec (Surveying table w₀ x w X) act (fun v => Surveying table w₀ x w (Y v))
      (failing fun f => Surveying table w₀ x w (Z f)))
    {P : Harbour (Chronicle ω σ) → Prop}
    (hP : ∀ s, P s → Surveying table w₀ x w X (s.chronicle [.deed (.began call)]))
    (hdone : (Entry.deed (.done call) : Entry ω).isAside = true) :
    Spec P (act.noted (fun d => chronicle [.deed d]) call fun _ => .done call)
      (fun v => Surveying table w₀ x w (Y v)) (failing fun f => Surveying table w₀ x w (Z f)) := by
  apply h.noted hP
  · intro v s hs
    exact hs.concat ho hapart ⟨hdone, by simp⟩
  · intro f s hs
    exact ⟨hs.1, hs.2.concat ho hapart ⟨rfl, by simp⟩⟩

/-- A pass begins: what was heard of before is settled by it. -/
theorem listed (hsole : Sole (some x) .due s) (h : Abreast table w₀ (some x) .due s) {X : Prop}
    (hX : X) (client : ClientId) :
    Surveying table w₀ x (world w₀ s.entries) X (s.chronicle [.deed (.began (.list client))]) := by
  refine ⟨hsole.turn _ _, ?_, Knows.listed client ⟨rfl, hX⟩⟩
  refine h.concat (y := .deed (.began (.list client))) (by simp) (by simp [Entry.published?]) rfl ?_
  rintro _ ⟨⟩ hsub
  have halert := h.watch x rfl hsub
  refine { begun := (halert.concat rfl).begun, awake := ?_, followed := ?_ }
  · rcases halert.awake with hst | hmark | hended
    · exact .inl hst
    · exact .inr (.inl hmark)
    · cases hended
  · left
    rw [entries_chronicle, followed_concat]
    exact ⟨rfl, .inr (.inl rfl)⟩

/-- A pass over the containers as they are gives their table, unless they change meanwhile. -/
theorem shows {census : Census ω} (ho : k.Orderly (Stirred k.note)) (hapart : Apart k.note)
    (ht : Truthful k census w₀) (w : ω) :
    Host.Shows k.watched x.client
      (fun X s => X ∧ world w₀ (entries s) = w ∧ Sole (some x) .due s ∧
        Abreast table w₀ (some x) .due s)
      (Surveying table w₀ x w) (census.ids w) (census.answer w) where
  mono hXY hs := hs.mono hXY
  list X := by
    have listing : Spec (Surveying table w₀ x w X) (k.daemon.listRunning x.client)
        (fun l => Surveying table w₀ x w (X ∧ census.ids w = .ok l))
        (failing fun f => Surveying table w₀ x w (X ∧ census.ids w = .error f)) := by
      unfold Daemon.listRunning
      simp only [Act.mapM_ofExcept]
      apply asked_then ho hapart census.listing_ordinary (ht.containers x.client)
      intro l
      exact .mapM _ fun e _ => Json.required_ordinary e "Id"
    show Spec _ ((k.daemon.listRunning x.client).noted (fun d => chronicle [.deed d])
      (.list x.client) fun _ => .done (.list x.client)) _ _
    refine recorded ho hapart listing ?_ rfl
    rintro s ⟨hX, rfl, hsole, habreast⟩
    exact listed hsole habreast hX x.client
  inspect X id := by
    have inspected : Spec (Surveying table w₀ x w X) (k.daemon.inspectContainer x.client id)
        (fun c => Surveying table w₀ x w (X ∧ census.answer w id = .ok c))
        (failing fun f => Surveying table w₀ x w (X ∧ census.answer w id = .error f)) := by
      apply asked_then ho hapart (fun w => census.report_ordinary w id) (ht.inspect x.client id)
      exact Container.ofInspection_ordinary
    show Spec _ ((k.daemon.inspectContainer x.client id).noted (fun d => chronicle [.deed d])
      (.inspect x.client id) fun _ => .done (.inspect x.client id)) _ _
    exact recorded ho hapart inspected (fun s hs => hs.concat ho hapart ⟨rfl, by simp⟩) rfl
  report X e := (Upheld.steady ho hapart).recorded_safe (ho.report e) (.of_done rfl rfl fun _ => rfl)

end Surveying

/-! ## The watcher's transitions -/

/-- The condition, and what is known while an activity goes on. -/
def Kept (table : ω → Except Fault Table) (w₀ : ω) (hold : Option Hold) (a : Activity) :
    Harbour (Chronicle ω σ) → Prop :=
  Upheld table w₀ hold a a.Resumed (a.Knowledge table)

namespace Kept

/-- Between a pass and its table more is known; otherwise the activity matters little. -/
theorem during (h : Kept table w₀ hold a s) (ha : a ≠ .due) (hended : a ≠ .ended)
    (hresumed : b.Resumed = a.Resumed) (hknowledge : b.Knowledge table = a.Knowledge table) :
    Kept table w₀ hold b s := by
  refine ⟨h.1.during ha hended, ?_⟩
  rw [hresumed, hknowledge]
  exact h.2

/-- An entry that changes nothing. -/
theorem aside (h : Kept table w₀ hold a s) {y : Entry ω} (hy : Passes Entry.isAside y) :
    Kept table w₀ hold a (s.chronicle [y]) :=
  ⟨h.1.aside hy.1 hy.2, h.2.aside hy.1⟩

/-- Without a subscription, the condition is about what is told only. -/
theorem loosens {hold' : Option Hold} (hsub : ∀ x, hold' = some x → x.subscribed = false) :
    Loosens (Kept (ω := ω) (σ := σ) table w₀ hold a) (Kept table w₀ hold' a) := by
  intro s t _ hentries h
  refine ⟨h.1.unsubscribed hentries hsub, ?_⟩
  rw [hentries]
  exact h.2

/-- The pass of a table that is known is over. -/
theorem surveyed {w : ω} {r : Table} (h : Surveying table w₀ x w (table w = .ok r) s) :
    Kept table w₀ (some x) (.bringing r) s := by
  refine ⟨h.2.1.during (by simp) (by simp), h.2.2.mono ?_⟩
  rintro v - ⟨rfl, hr⟩
  exact hr

/-- A pass without a table is over. -/
theorem surveyed_in_vain {w : ω} {f : Fault} (h : Surveying table w₀ x w (table w = .error f) s) :
    Kept table w₀ (some x) .calm s := by
  refine ⟨h.2.1, False.elim, fun hfresh r hr => ?_⟩
  obtain ⟨hw, hf⟩ := h.2.2.seen hfresh
  rw [hw, hf] at hr
  cases hr

/-- The table of a pass is published. -/
theorem published {r : Table} (h : Kept table w₀ (some x) (.bringing r) s) :
    Kept table w₀ (some x) .calm (s.chronicle [.deed (.began (.publish r))]) := by
  obtain ⟨habreast, hknown⟩ := h
  refine ⟨?_, hknown.published⟩
  refine habreast.concat (y := .deed (.began (.publish r))) (by simp) (fun _ => hknown.since trivial)
    rfl ?_
  rintro _ ⟨⟩ hsub
  exact ((habreast.watch x rfl hsub).during (by simp) (by simp)).concat rfl

/-- The watcher has subscribed, and a stream is held. -/
theorem subscribed (h : Kept table w₀ (some x) .calm s) (hst : (s.hub x.client).stream? ≠ none)
    (c : ClientId) (q : QueueId) :
    Kept table w₀ (some x.listening) .calm (s.chronicle [.deed (.done (.addListener c q))]) := by
  obtain ⟨habreast, hknown⟩ := h
  refine ⟨?_, hknown.subscription rfl⟩
  refine habreast.concat (y := .deed (.done (.addListener c q))) (by simp)
    (by simp [Entry.published?]) rfl ?_
  rintro _ ⟨⟩ _
  exact Alert.start (x := x.listening) (y := .deed (.done (.addListener c q))) hst rfl

/-- Nothing is in the mailbox. -/
theorem found_empty (h : Kept table w₀ (some x) .calm s) (hsub : x.subscribed = true)
    (hitems : (s.mailbox x.queue).items = []) :
    Kept table w₀ (some x) .calm (s.chronicle [.deed (.took none)]) :=
  ⟨h.1.found_empty hsub h.2 hitems, h.2.aside rfl⟩

/-- An item is taken out of the mailbox. -/
theorem took (h : Kept table w₀ (some x) .calm s) (hsub : x.subscribed = true)
    (hlt : x.queue < s.mailboxes.length) {i : Option Event} {rest : List (Option Event)}
    (hitems : (s.mailbox x.queue).items = i :: rest) :
    Kept table w₀ (some x) (.after (some i)) (chronicle [.deed (.took (some i))]
      (s.setMailbox x.queue { s.mailbox x.queue with items := rest })) := by
  obtain ⟨hresumed, hknowledge⟩ := Activity.knowledge_after table (some i)
  refine aside (y := .deed (.took (some i))) ⟨?_, ?_⟩ ⟨rfl, by simp⟩
  · refine h.1.rewatch rfl ?_
    rintro _ ⟨⟩ _
    exact (h.1.watch x rfl hsub).took hlt hitems
  · rw [hresumed, hknowledge]
    exact h.2

/-- Before anything is told of, nothing is known and no table was published. -/
theorem start (s : Harbour (Chronicle ω σ)) (hs : s.entries = []) :
    Kept table w₀ none .calm s := by
  refine ⟨{ watch := ?_, attested := by simp [hs, Attested], idle := by simp [hs] }, ?_⟩
  · rintro _ ⟨⟩
  · refine { since := False.elim, seen := fun hfresh => ?_ }
    rw [hs] at hfresh
    obtain ⟨⟨y, hy, -⟩, -⟩ := hfresh
    cases hy

/-- Happenings and entries that change nothing leave it. -/
theorem steady (ho : k.Orderly (Stirred k.note)) (hapart : Apart k.note) :
    Steady (Stirred k.note) (Passes Entry.isAside) hold b (Kept table w₀ hold a) :=
  Upheld.steady ho hapart

/-- While the containers come and go, the chronicle tells whether the table is in step. -/
def beside {census : Census ω} {c : WatchConfig} (ho : k.Orderly (Stirred k.note))
    (hapart : Apart k.note) (ht : Truthful k census w₀) (hopen : Unaware k.daemon)
    (htable : table = census.table c.ports c.workers) :
    (soleOutline ho (fun _ _ h => Stirred.course h) c).Beside where
  more := Kept table w₀
  report hold a e _ := ((steady ho hapart).recorded_safe (ho.report e)
    (.of_done rfl rfl fun _ => rfl)).post (fun _ _ hs => hs.2) fun _ _ he => he
  alarm hold f := ((steady ho hapart).recorded_safe (ho.report _)
    (.of_done rfl rfl fun _ => rfl)).post
    (fun _ _ hs => hs.2.during (by simp) (by simp) rfl rfl) fun _ _ he => he
  sleep hold := ((steady ho hapart).recorded_safe (ho.sleep _)
    (.of_done rfl rfl fun _ => rfl)).post
    (fun _ _ hs => hs.2.during (by simp) (by simp) rfl rfl) fun _ _ he => he
  connect hold hfit := by
    apply (steady ho hapart).connected ho (loosens hfit) ⟨rfl, by simp⟩
    · intro client s hs
      exact (hs.aside ⟨rfl, by simp⟩).during (by simp) (by simp) rfl rfl
    · intro f s hs
      exact (hs.aside ⟨rfl, by simp⟩).during (by simp) (by simp) rfl rfl
  remove x a _ hx := by
    have quiet : ∀ y, some x.silent = some y → y.subscribed = false := by
      rintro _ ⟨⟩
      rfl
    exact (steady ho hapart).removed (steady ho hapart) ho hx (loosens quiet) (loosens quiet)
      (.of_done rfl rfl fun _ => rfl)
  close x a _ hx := by
    apply (steady ho hapart).closed (steady ho hapart) ho hx (loosens ?_)
      (.of_done rfl rfl fun _ => rfl) ⟨rfl, by simp⟩
    rintro _ ⟨⟩
  settle s _ hs := ⟨hs.1.unsubscribed rfl (by rintro _ ⟨⟩), hs.2⟩
  adopt client := by
    intro s hs
    refine ⟨hs.2.1.unsubscribed rfl ?_, hs.2.2⟩
    rintro _ ⟨⟩
    rfl
  survey x := by
    intro s hs
    generalize hw : world w₀ (entries s) = w
    have heq : Host.survey c.ports (census.ids w) (census.answer w) = table w := by
      rw [htable]
      exact (census.table_eq_survey _ _ w).symm
    have whole : Spec (fun s => True ∧ world w₀ (entries s) = w ∧ Sole (some x) .due s ∧
          Abreast table w₀ (some x) .due s)
        (k.watched.enumerate c.ports c.workers x.client)
        (fun r => Surveying table w₀ x w (True ∧ table w = .ok r))
        (failing fun f => Surveying table w₀ x w (True ∧ table w = .error f)) := by
      rw [← heq]
      exact (Surveying.shows ho hapart ht w).enumerate c.ports c.workers True
    refine whole.post ?_ ?_ s ⟨trivial, hw, hs.1, hs.2.1⟩
    · intro r u hu
      exact surveyed (hu.mono And.right)
    · intro f u hu
      exact ⟨hu.1, surveyed_in_vain (hu.2.mono And.right)⟩
  publish x r := by
    have kept : Keeps (fun s => Sole (some x) (.bringing r) s ∧ Kept table w₀ (some x) .calm s)
        (k.publish r) := (steady ho hapart).keeps (ho.publish r)
    show Spec _ ((k.publish r).noted (fun d => chronicle [.deed d]) (.publish r)
      fun _ => .done (.publish r)) _ _
    apply Act.Spec.noted kept
    · intro s hs
      exact ⟨hs.1.turn _ _, hs.2.published⟩
    · intro _ s hs
      exact hs.2.aside ⟨rfl, by simp⟩
    · intro f s hs
      exact ⟨hs.1, (hs.2.2.aside ⟨rfl, by simp⟩).during (by simp) (by simp) rfl rfl⟩
  ping x := ((steady ho hapart).pinged ho (.of_done rfl rfl fun _ => rfl)).post
    (fun _ _ hs => hs.2) fun _ _ hs => ⟨hs.1, hs.2.2.during (by simp) (by simp) rfl rfl⟩
  add x hx _ := by
    have quiet : ∀ y, some x = some y → y.subscribed = false := by
      rintro _ ⟨⟩
      exact hx
    apply (steady ho hapart).added ho hx (loosens quiet) (hopen x.client) ⟨rfl, by simp⟩
    · intro s hst hs
      exact hs.subscribed hst _ _
    · intro f s hne hs
      have hfailed := hs.aside (y := .deed (.failed (.addListener x.client x.queue) f)) ⟨rfl, by simp⟩
      cases f with
      | alreadySubscribed u => exact absurd rfl (hne u)
      | _ => exact hfailed.during (by simp) (by simp) rfl rfl
  take x hx := by
    apply (steady ho hapart).taken _ ⟨rfl, by simp⟩
    · exact fun s hs hitems => hs.found_empty hx hitems
    · exact fun s i rest hlt hs hitems => hs.took hx hlt hitems
    · intro f s hs
      exact (hs.aside ⟨rfl, by simp⟩).during (by simp) (by simp) rfl rfl

end Kept

end

/-! ## Whether the table is in step -/

/-- **When nothing more is in the mailbox, the table that was published last is that of the
containers as they are if and only if it was when the watcher subscribed, or a pass has begun since
then.** It was if nothing had changed between the start of the latest pass and the subscription. -/
theorem idle_synced_iff {k : Shore (Chronicle ω σ)} {census : Census ω} {w₀ : ω}
    (ho : k.Orderly (Stirred k.note)) (hapart : Apart k.note) (ht : Truthful k census w₀)
    (hopen : Unaware k.daemon) {c : WatchConfig} {control : Control} {x : σ}
    {m : Machine (Fleet (Chronicle ω σ))}
    (h : Watcher.Reachable k.watched c (Stirred k.note) (launched control { rest := x }) m)
    (hidle : (entries m.outside).getLast? = some (.deed (.took none))) :
    (Synced w₀ (census.table c.ports c.workers) (entries m.outside) ↔
      Renewed (Synced w₀ (census.table c.ports c.workers)) (entries m.outside)) ∧
    (Renewed Fresh (entries m.outside) →
      Synced w₀ (census.table c.ports c.workers) (entries m.outside)) := by
  let o := (Kept.beside ho hapart ht hopen (c := c) rfl).outline
  have calm : o.Calm m := by
    refine o.calm_of_reachable
      (o.calm_of_fresh rfl ⟨Sole.start _ rfl rfl, Kept.start _ rfl⟩) ?_ ?_ h
    · rintro hold s ⟨hsole, hs⟩
      exact ⟨hsole.during (by simp), hs.during (by simp) (by simp) rfl rfl⟩
    · intro hold s t hst hs
      exact (Kept.steady ho hapart).moved s t hs.1 hs.2 hst
  obtain ⟨phase, hold, -, -, -, hm, -⟩ := calm
  exact hm.idle hidle

/-- A mailbox for three items, and a second to wait. -/
def patient : WatchConfig where
  ports := ["80"]
  pingInterval := .seconds { bits := 0x3FF0000000000000 }
  reconnectInterval := .missing
  queueSize := 3

/-- There is one container, which asks to be published, or none. -/
def lodging : Census Bool where
  listing present := .ok (if present then [.obj [("Id", .str "a")]] else [])
  report _ _ := .ok (.obj [("Id", .str "a"), ("Name", .str "/a"),
    ("Config", .obj [("Env", .arr [.str "VIRTUAL_HOST=a"])]),
    ("NetworkSettings", .obj [("IPAddress", .str "10.0.0.2"), ("Ports", .obj [("80/tcp", .null)])])])
  listing_ordinary _ := .ok _
  report_ordinary _ _ := .ok _

/-- A shore where there is no container at first. -/
def lodge : Shore (Chronicle Bool Unit) := candid lodging false

/-- A transition of the watcher on this shore. -/
def lodged (m : Machine (Fleet (Chronicle Bool Unit))) : Machine (Fleet (Chronicle Bool Unit)) :=
  ((Watcher.step lodge.watched patient).outcome m).2

/-- The message about the container that is started. -/
def arrival : Json := .obj [("status", .str "start"), ("id", .str "a")]

/-- The watcher connects and makes its first pass; then the container is started; then the watcher
subscribes, and waits for events. -/
def overtaken : Machine (Fleet (Chronicle Bool Unit)) :=
  let m := lodged (launched {} { rest := () })
  lodged (lodged { m with
    outside := feedAll (logged lodge.note) arrival (chronicle [.changed true] m.outside) })

/-- Nobody listens to a client if nobody listens at all. -/
theorem listeners_eq_nil {s : Harbour σ}
    (h : s.rest.hubs.all (fun hub => hub.listeners.isEmpty) = true) (c : ClientId) :
    (s.hub c).listeners = [] := by
  unfold hub
  cases hc : s.rest.hubs[c]? with
  | none => rfl
  | some x => exact List.isEmpty_iff.1 (List.all_eq_true.1 h x (List.mem_of_getElem? hc))

/-- The watcher comes to this. -/
theorem overtaken_reachable : Watcher.Reachable lodge.watched patient (Stirred lodge.note)
    (launched {} { rest := () }) overtaken := by
  refine .step (.step (.meanwhile (.step .start) (.single ?_)))
  refine .changed _ true (e := ⟨.str "start", .str "a"⟩) rfl rfl ⟨⟨_, rfl⟩, _, rfl⟩ ?_
  -- nobody has subscribed yet
  have hnobody : (lodged (launched {} { rest := () })).outside.rest.hubs.all
      (fun hub => hub.listeners.isEmpty) = true := by decide +kernel
  intro c q hq
  change q ∈ (hub (lodged (launched {} { rest := () })).outside c).listeners at hq
  rw [listeners_eq_nil hnobody] at hq
  cases hq

/-- Nothing more is in the mailbox at the end. -/
theorem overtaken_idle : (entries overtaken.outside).getLast? = some (.deed (.took none)) := by
  have hlast : (entries overtaken.outside).getLast?.any Entry.isIdle = true := by decide +kernel
  obtain ⟨x, hx, hidle⟩ := (Option.any_eq_true _ _).1 hlast
  rw [hx, Entry.eq_of_isIdle hidle]

/-- The shore is orderly. -/
theorem lodge_orderly : lodge.Orderly (Stirred lodge.note) :=
  candid_orderly lodging false fun _ => .refl

/-- Opening a stream does not fail there. -/
theorem lodge_unaware : Unaware lodge.daemon := fun _ => Spec.pure fun _ _ => trivial

/-- What is said of the watcher that was overtaken. -/
theorem idle_synced_iff_overtaken : lodge.Orderly (Stirred lodge.note) ∧ Apart lodge.note ∧
    Truthful lodge lodging false ∧ Unaware lodge.daemon ∧
    Watcher.Reachable lodge.watched patient (Stirred lodge.note) (launched {} { rest := () })
      overtaken ∧
    (entries overtaken.outside).getLast? = some (.deed (.took none)) ∧
    (Synced false (lodging.table patient.ports patient.workers) (entries overtaken.outside) ↔
      Renewed (Synced false (lodging.table patient.ports patient.workers))
        (entries overtaken.outside)) ∧
    (Renewed Fresh (entries overtaken.outside) →
      Synced false (lodging.table patient.ports patient.workers) (entries overtaken.outside)) :=
  ⟨lodge_orderly, fun _ _ => rfl, candid_truthful lodging false, lodge_unaware,
    overtaken_reachable, overtaken_idle,
    idle_synced_iff lodge_orderly (fun _ _ => rfl) (candid_truthful lodging false) lodge_unaware
      overtaken_reachable overtaken_idle⟩

/-- **A container that is started between the first pass and the subscription may be missing from
the table** when nothing more is in the mailbox, although all calls succeed and nothing was ever
refused. -/
theorem overtaken_start_unsynced : lodge.Orderly (Stirred lodge.note) ∧ Apart lodge.note ∧
    Truthful lodge lodging false ∧ Unaware lodge.daemon ∧
    Watcher.Reachable lodge.watched patient (Stirred lodge.note) (launched {} { rest := () })
      overtaken ∧
    (entries overtaken.outside).getLast? = some (.deed (.took none)) ∧
    ¬ Synced false (lodging.table patient.ports patient.workers) (entries overtaken.outside) := by
  refine ⟨lodge_orderly, fun _ _ => rfl, candid_truthful lodging false, lodge_unaware,
    overtaken_reachable, overtaken_idle, fun h => ?_⟩
  have hworld : world false (entries overtaken.outside) = true := by decide +kernel
  -- the published table is empty, but that of the container is not
  have hpublished : (published? (entries overtaken.outside)).map Table.size = some 0 := by
    decide +kernel
  have htable : (lodging.table patient.ports patient.workers true).toOption.map Table.size =
      some 1 := by decide +kernel
  cases ht : lodging.table patient.ports patient.workers true with
  | error f =>
    rw [ht] at htable
    cases htable
  | ok t =>
    have hsynced := h t (by rw [hworld]; exact ht)
    rw [hsynced] at hpublished
    rw [ht] at htable
    have hzero : t.size = 0 := Option.some.inj hpublished
    have hone : t.size = 1 := Option.some.inj htable
    omega

end Harbour

end HostRouting
