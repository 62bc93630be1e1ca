import HostRouting.Proofs.Census
import HostRouting.Proofs.Sole

/-!
# Containers that come and go

What happens in a harbour while containers are started and stopped. Whenever they change, an event
of the lifecycle comes in at once on every stream that is read; nobody hears of a change that comes
before the stream is opened. The daemon says how the containers are while it is asked.
-/

namespace HostRouting

open Act (Spec)
open Chronicle (world Fresh)

namespace Harbour

variable {ω σ : Type}

/-! ## What happens -/

/-- A message comes in on every stream. -/
def feedAll (report : Log.Entry → Act (Harbour σ) Unit) (message : Json) (s : Harbour σ) :
    Harbour σ :=
  (List.range s.rest.streams.length).foldl (fun s stream => feed report stream message s) s

/-- What happens in a harbour while containers come and go: they are others from now on, and an
event of the lifecycle comes in on every stream, for which every listener has room; any message
comes in on a stream; a stream ends or breaks; or the control and the rest change. -/
inductive Stirring (note : Log.Entry → Act (Chronicle ω σ) Unit) :
    Harbour (Chronicle ω σ) → Harbour (Chronicle ω σ) → Prop where
  | changed (s : Harbour (Chronicle ω σ)) (w : ω) {message : Json} {e : Event}
      (hm : Event.ofMessage message = .ok (some e)) (he : e.isLifecycle = true)
      (htext : e.Textual)
      (hroom : ∀ c, ∀ q ∈ (s.hub c).listeners, (s.mailbox q).isFull = false) :
      Stirring note s (feedAll (logged note) message (s.chronicle [.changed w]))
  | fed (s : Harbour (Chronicle ω σ)) (stream : StreamId) (message : Json) :
      Stirring note s (feed (logged note) stream message s)
  | finished (s : Harbour (Chronicle ω σ)) (stream : StreamId) (reason : Option Fault) :
      Stirring note s (finish (logged note) stream reason s)
  | turned (s : Harbour (Chronicle ω σ)) (control : Control) {x : Chronicle ω σ}
      (hx : x.entries = s.entries) : Stirring note s (s.turn control x)

/-- Such happenings in any order. -/
def Stirred (note : Log.Entry → Act (Chronicle ω σ) Unit) :
    Harbour (Chronicle ω σ) → Harbour (Chronicle ω σ) → Prop :=
  Relation.ReflTransGen (Stirring note)

/-- The act answers what is said of the containers at some moment while it lasts, where `w₀` were
there at first. -/
def Says {α : Type} (note : Log.Entry → Act (Chronicle ω σ) Unit) (w₀ : ω)
    (act : Act (Harbour (Chronicle ω σ)) α) (said : ω → Except Fault α) : Prop :=
  ∀ s, ∃ u, Stirred note s u ∧ Stirred note u (act.outcome s).2 ∧
    (act.outcome s).1 = said (world w₀ u.entries)

/-- The daemon says how the containers are. -/
structure Truthful (k : Shore (Chronicle ω σ)) (census : Census ω) (w₀ : ω) : Prop where
  containers : ∀ c, Says k.note w₀ (k.daemon.containers c) census.listing
  inspect : ∀ c id, Says k.note w₀ (k.daemon.inspect c id) fun w => census.report w id

/-! ## What is told of it -/

section

variable {note : Log.Entry → Act (Chronicle ω σ) Unit} {s t : Harbour (Chronicle ω σ)}

/-- Items that are offered leave the chronicle. -/
theorem Posted.entries (h : Posted note s t) (hapart : Apart note) : t.entries = s.entries :=
  h.log.same Chronicle.entries hapart

/-- So does the end of the reading of a stream. -/
theorem entries_finishReading (hapart : Apart note) (s : Harbour (Chronicle ω σ)) (c : ClientId)
    (stream : StreamId) (reason : Option Fault) :
    (finishReading (logged note) c stream reason s).entries = s.entries := by
  obtain ⟨t, ht, he⟩ := finishReading_eq s c stream note reason
  rw [he, (announceEnd_posted _ c note).entries hapart]
  exact ht.entries hapart

/-- So does a message. -/
theorem entries_feed (hapart : Apart note) (s : Harbour (Chronicle ω σ)) (stream : StreamId)
    (message : Json) : (feed (logged note) stream message s).entries = s.entries := by
  cases hr : s.reader? stream with
  | none => simp only [feed, hr]
  | some c =>
    rcases feed_cases s c stream note message hr with ht | ⟨f, t, ht, he⟩
    · exact ht.entries hapart
    · rw [he, entries_finishReading hapart]
      exact ht.entries hapart

/-- So does a message on every stream. -/
theorem entries_feedAll (hapart : Apart note) (s : Harbour (Chronicle ω σ)) (message : Json) :
    (feedAll (logged note) message s).entries = s.entries := by
  have each (l : List StreamId) (t : Harbour (Chronicle ω σ)) :
      (l.foldl (fun s stream => feed (logged note) stream message s) t).entries = t.entries := by
    induction l generalizing t with
    | nil => rfl
    | cons i l ih =>
      rw [List.foldl_cons, ih]
      exact entries_feed hapart t i message
  exact each _ s

/-- A change is told of, and nothing else is. -/
theorem Stirring.entries (hapart : Apart note) (h : Stirring note s t) :
    t.entries = s.entries ∨ ∃ w, t.entries = s.entries ++ [.changed w] := by
  cases h with
  | changed w hm he htext hroom =>
    right
    refine ⟨w, ?_⟩
    rw [entries_feedAll hapart]
    rfl
  | fed stream message => exact .inl (entries_feed hapart s stream message)
  | finished stream reason =>
    left
    cases hr : s.reader? stream with
    | none => simp only [finish, hr]
    | some c =>
      simp only [finish, hr]
      exact entries_finishReading hapart s c stream reason
  | turned control hx => exact .inl hx

/-- If the latest pass began after everything that has changed meanwhile, nothing has. -/
theorem Stirred.entries_of_fresh (hapart : Apart note) (h : Stirred note s t)
    (hfresh : Fresh t.entries) : t.entries = s.entries := by
  induction h with
  | refl => rfl
  | tail _ hstep ih =>
    rcases hstep.entries hapart with he | ⟨w, he⟩
    · rw [he] at hfresh ⊢
      exact ih hfresh
    · rw [he, Chronicle.fresh_concat] at hfresh
      cases hfresh.1

/-- It is a course of happenings. -/
theorem Stirred.course (h : Stirred note s t) : Course note s t := by
  induction h with
  | refl => exact .refl
  | @tail u _ _ hstep ih =>
    apply ih.trans
    cases hstep with
    | fed stream message => exact .single (.fed _ _ _)
    | finished stream reason => exact .single (.finished _ _ _)
    | turned control hx => exact .single (.turned _ _ trivial)
    | @changed w message e hm he htext hroom =>
      have each (l : List StreamId) (v : Harbour (Chronicle ω σ)) :
          Course note v (l.foldl (fun s stream => feed (logged note) stream message s) v) := by
        induction l generalizing v with
        | nil => exact .refl
        | cons i l ih => exact (Relation.ReflTransGen.single (.fed v i message)).trans (ih _)
      exact (Relation.ReflTransGen.single (.turned u u.control trivial)).trans (each _ _)

/-! ## Who hears of it -/

/-- A message is lost on streams to which nobody listens. -/
theorem foldl_feed_of_bare {report : Log.Entry → Act (Harbour σ) Unit} {message : Json}
    {o : Option Event} (hm : Event.ofMessage message = .ok o) {l : List StreamId} {s : Harbour σ}
    (h : ∀ i ∈ l, ∀ c, s.reader? i = some c → s.hub c = {}) :
    l.foldl (fun s stream => feed report stream message s) s = s := by
  induction l with
  | nil => rfl
  | cons i l ih =>
    rw [List.foldl_cons, feed_of_bare (h i (by simp)) hm]
    exact ih fun j hj => h j (by simp [hj])

/-- The event of a message on all streams gets into the watcher's mailbox if the watcher's client
holds a stream, and otherwise nobody hears of it. -/
theorem Sole.feedAll_cases {hold : Option Hold} {a : Activity} (h : Sole hold a s)
    (hnote : Sound note) {message : Json} {e : Event}
    (hm : Event.ofMessage message = .ok (some e)) (htext : e.Textual)
    (hroom : ∀ c, ∀ q ∈ (s.hub c).listeners, (s.mailbox q).isFull = false) :
    (∃ x, hold = some x ∧ feedAll (logged note) message s =
        s.setMailbox x.queue ((s.mailbox x.queue).push (some e))) ∨
      (∀ c, (s.hub c).stream? = none) ∧ feedAll (logged note) message s = s := by
  by_cases hheld : ∃ c i, (s.hub c).stream? = some i
  · left
    obtain ⟨c, i, hst⟩ := hheld
    obtain ⟨x, rfl, rfl, -, hl⟩ := h.holder hst
    have hr := h.held x.client i hst
    have honly (j : StreamId) (hj : j ≠ i) : ∀ c, s.reader? j = some c → s.hub c = {} := by
      rcases h.reader_cases j with hbare | ⟨_, ⟨⟩, -, -, -, hst'⟩
      · exact hbare
      · rw [hst] at hst'
        exact absurd (Option.some.inj hst').symm hj
    have hfed : feed (logged note) i message s =
        s.setMailbox x.queue ((s.mailbox x.queue).push (some e)) := by
      have hreceipt := feed_single message hnote hr hl
      generalize feed (logged note) i message s = t at hreceipt
      cases hreceipt with
      | skipped hnone =>
        rw [hm] at hnone
        cases hnone
      | stored he _ =>
        rw [hm] at he
        cases he
        rfl
      | refused _ hfull _ =>
        rw [hroom x.client x.queue (by simp [hl])] at hfull
        cases hfull
      | broken hbroken _ _ =>
        obtain ⟨f, hf⟩ := hbroken e hm
        obtain ⟨entry, hentry⟩ := htext.refusal
        rw [hentry] at hf
        cases hf
    refine ⟨x, rfl, ?_⟩
    -- the stream that is held comes once among all streams
    have hmem : i ∈ List.range s.rest.streams.length := List.mem_range.2 (lt_of_reader? _ _ _ hr)
    have hnodup : (List.range s.rest.streams.length).Nodup := List.nodup_range
    unfold feedAll
    obtain ⟨l, l', hrange⟩ := List.append_of_mem hmem
    rw [hrange] at hnodup ⊢
    rw [List.nodup_append, List.nodup_cons] at hnodup
    obtain ⟨-, ⟨hnot', -⟩, hnot⟩ := hnodup
    have hbefore : ∀ j ∈ l, ∀ c, s.reader? j = some c → s.hub c = {} := by
      intro j hj
      exact honly j (hnot j hj i (by simp))
    rw [List.foldl_append, foldl_feed_of_bare hm hbefore, List.foldl_cons, hfed]
    apply foldl_feed_of_bare hm
    intro j hj
    apply honly
    rintro rfl
    exact hnot' hj
  · right
    have hnone (c : ClientId) : (s.hub c).stream? = none := by
      cases hst : (s.hub c).stream? with
      | none => rfl
      | some i => exact absurd ⟨c, i, hst⟩ hheld
    refine ⟨hnone, foldl_feed_of_bare hm fun i _ => ?_⟩
    rcases h.reader_cases i with hbare | ⟨x, -, -, -, -, hst⟩
    · exact hbare
    · rw [hnone] at hst
      cases hst

end

/-! ## A daemon that says how the containers are -/

section

variable {α : Type} (w₀ : ω)

/-- An answer about the containers as they are. -/
def answered (said : ω → Except Fault α) : Act (Harbour (Chronicle ω σ)) α := do
  Act.ofExcept (said (world w₀ (entries (← Act.read))))

/-- It leaves everything as it is. -/
theorem outcome_answered (said : ω → Except Fault α) (s : Harbour (Chronicle ω σ)) :
    (answered w₀ said).outcome s = (said (world w₀ s.entries), s) := by
  unfold answered
  rw [Act.outcome_bind]
  exact Act.outcome_ofExcept _ s

/-- It is the answer of this moment. -/
theorem answered_says (note : Log.Entry → Act (Chronicle ω σ) Unit) (said : ω → Except Fault α) :
    Says note w₀ (answered w₀ said) said := by
  intro s
  rw [outcome_answered]
  exact ⟨s, .refl, .refl, rfl⟩

/-- It moves nothing. -/
theorem answered_along {R : Harbour (Chronicle ω σ) → Harbour (Chronicle ω σ) → Prop}
    (hR : ∀ s, R s s) {said : ω → Except Fault α} (hsaid : ∀ w, Ordinary (said w)) :
    (answered w₀ said).Along R := by
  intro s
  apply Spec.intro
  · intro t v u ht hout
    rw [outcome_answered] at hout
    obtain ⟨-, rfl⟩ := Prod.mk.inj hout
    exact ht ▸ hR s
  · intro t f u ht hout
    rw [outcome_answered] at hout
    obtain ⟨hf, rfl⟩ := Prod.mk.inj hout
    exact ⟨hsaid _ f hf, ht ▸ hR s⟩

end

/-- A quiet shore whose daemon says how the containers are. -/
def candid (census : Census ω) (w₀ : ω) : Shore (Chronicle ω σ) :=
  { Shore.quiet (Chronicle ω σ) with
    daemon :=
      { (Shore.quiet (Chronicle ω σ)).daemon with
        containers := fun _ => answered w₀ census.listing
        inspect := fun _ id => answered w₀ fun w => census.report w id } }

section

variable (census : Census ω) (w₀ : ω)

/-- It is orderly. -/
theorem candid_orderly {R : Harbour (Chronicle ω σ) → Harbour (Chronicle ω σ) → Prop}
    (hR : ∀ s, R s s) : (candid census w₀ : Shore (Chronicle ω σ)).Orderly R :=
  { Shore.quiet_orderly hR with
    containers := fun _ => answered_along w₀ hR census.listing_ordinary
    inspect := fun _ id => answered_along w₀ hR fun w => census.report_ordinary w id }

/-- Its daemon is truthful. -/
theorem candid_truthful : Truthful (candid census w₀ : Shore (Chronicle ω σ)) census w₀ where
  containers _ := answered_says w₀ _ _
  inspect _ _ := answered_says w₀ _ _

end

end Harbour

end HostRouting
