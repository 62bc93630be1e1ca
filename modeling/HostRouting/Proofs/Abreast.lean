import HostRouting.Proofs.Stirring

/-!
# A watcher that hears of every change

A watcher that has subscribed hears of every change of the containers: a pass has followed, or
something in the mailbox will cause one, or the watcher will give its client up because the stream
is over. So when nothing more is in the mailbox, nothing has changed since the latest pass, unless
the change came before the subscription.
-/

namespace HostRouting.Harbour

open Chronicle (Followed Fresh Synced Attested Renewed Knows followed_concat attested_concat
  synced_iff_renewed synced_of_renewed)

variable {ω σ : Type}

/-! ## The condition -/

/-- Before the watcher finds nothing in its mailbox, it will make a pass or give its client up. -/
def Astir (x : Hold) (a : Activity) (s : Harbour σ) : Prop :=
  a = .due ∨ a = .ended ∨ none ∈ (s.mailbox x.queue).items ∨
    ∃ e, some e ∈ (s.mailbox x.queue).items ∧ e.isLifecycle = true ∧ e.Textual

/-- A watcher that has subscribed hears of every change: a pass has followed, or something is
astir. -/
structure Alert (x : Hold) (a : Activity) (s : Harbour (Chronicle ω σ)) : Prop where
  begun : ∃ y ∈ s.entries, y.isSubscription = true
  awake : (s.hub x.client).stream? ≠ none ∨ none ∈ (s.mailbox x.queue).items ∨ a = .ended
  followed : Followed Entry.isChange Entry.isSubscription s.entries ∨ Astir x a s

/-- When nothing more is in the mailbox, the table is in step if and only if it was when the watcher
subscribed, or a pass has begun since. -/
structure Abreast (table : ω → Except Fault Table) (w₀ : ω) (hold : Option Hold) (a : Activity)
    (s : Harbour (Chronicle ω σ)) : Prop where
  watch : ∀ x, hold = some x → x.subscribed = true → Alert x a s
  attested : Attested s.entries
  idle : s.entries.getLast? = some (.deed (.took none)) →
    (Synced w₀ table s.entries ↔ Renewed (Synced w₀ table) s.entries) ∧
      (Renewed Fresh s.entries → Synced w₀ table s.entries)

section

variable {table : ω → Except Fault Table} {w₀ : ω} {hold : Option Hold} {a b : Activity}
  {s t : Harbour (Chronicle ω σ)} {x : Hold} {note : Log.Entry → Act (Chronicle ω σ) Unit}

namespace Alert

/-- What the condition depends on. -/
theorem congr (h : Alert x a s) (hentries : t.entries = s.entries)
    (hstream : (t.hub x.client).stream? = (s.hub x.client).stream?)
    (hmail : ∀ i ∈ (s.mailbox x.queue).items, i ∈ (t.mailbox x.queue).items) : Alert x a t where
  begun := by
    rw [hentries]
    exact h.begun
  awake := by
    rw [hstream]
    rcases h.awake with hst | hmark | hended
    · exact .inl hst
    · exact .inr (.inl (hmail _ hmark))
    · exact .inr (.inr hended)
  followed := by
    rw [hentries]
    rcases h.followed with hf | hdue | hended | hmark | ⟨e, he, hl⟩
    · exact .inl hf
    · exact .inr (.inl hdue)
    · exact .inr (.inr (.inl hended))
    · exact .inr (.inr (.inr (.inl (hmail _ hmark))))
    · exact .inr (.inr (.inr (.inr ⟨e, hmail _ he, hl⟩)))

/-- The marker gets into the mailbox. -/
theorem marked (h : Alert x a s) (hentries : t.entries = s.entries)
    (hmark : none ∈ (t.mailbox x.queue).items) : Alert x a t where
  begun := by
    rw [hentries]
    exact h.begun
  awake := .inr (.inl hmark)
  followed := .inr (.inr (.inr (.inl hmark)))

/-- The activity matters while a pass is due, and after the marker was taken. -/
theorem during (h : Alert x a s) (ha : a ≠ .due) (hended : a ≠ .ended) : Alert x b s where
  begun := h.begun
  awake := by
    rcases h.awake with hst | hmark | he
    · exact .inl hst
    · exact .inr (.inl hmark)
    · exact absurd he hended
  followed := by
    rcases h.followed with hf | hdue | he | hrest
    · exact .inl hf
    · exact absurd hdue ha
    · exact absurd he hended
    · exact .inr (.inr (.inr hrest))

/-- Another entry that is no change. -/
theorem concat (h : Alert x a s) {y : Entry ω} (hy : y.isChange = false) :
    Alert x a (s.chronicle [y]) where
  begun := by
    obtain ⟨z, hz, hzs⟩ := h.begun
    exact ⟨z, by simp [hz], hzs⟩
  awake := h.awake
  followed := by
    rcases h.followed with hf | hstir
    · left
      rw [entries_chronicle, followed_concat]
      exact ⟨hy, .inr (.inr hf)⟩
    · exact .inr hstir

/-- A change, and its event gets into the mailbox. -/
theorem called (h : Alert x a s) {w : ω} (hentries : t.entries = s.entries ++ [.changed w])
    (hstream : (t.hub x.client).stream? = (s.hub x.client).stream?)
    (hmail : ∀ i ∈ (s.mailbox x.queue).items, i ∈ (t.mailbox x.queue).items)
    (hstir : Astir x a t) : Alert x a t where
  begun := by
    obtain ⟨z, hz, hzs⟩ := h.begun
    exact ⟨z, by simp [hentries, hz], hzs⟩
  awake := by
    rw [hstream]
    rcases h.awake with hst | hmark | he
    · exact .inl hst
    · exact .inr (.inl (hmail _ hmark))
    · exact .inr (.inr he)
  followed := .inr hstir

/-- An end that is announced to the watcher's mailbox. -/
theorem lapsed (h : Alert x a s) (hlt : x.queue < s.mailboxes.length) (stream : StreamId)
    (ht : t.entries = s.entries) (hmail : t.mailboxes = s.mailboxes) :
    Alert x a (lapsed x.client x.queue stream t) := by
  refine h.marked ht ?_
  rw [Harbour.lapsed, Surroundings.mailbox_setMailbox, if_pos rfl]
  · exact Mailbox.none_mem_offer _
  · show x.queue < t.mailboxes.length
    rw [hmail]
    exact hlt

/-- A subscription begins: nothing has changed since then. -/
theorem start (hst : (s.hub x.client).stream? ≠ none) {y : Entry ω} (hy : y.isSubscription = true) :
    Alert x a (s.chronicle [y]) where
  begun := ⟨y, by simp, hy⟩
  awake := .inl hst
  followed := by
    left
    rw [entries_chronicle, followed_concat]
    exact ⟨Entry.isChange_of_isSubscription hy, .inl hy⟩

/-- An item is taken out of the mailbox. -/
theorem took (h : Alert x .calm s) (hlt : x.queue < s.mailboxes.length) {i : Option Event}
    {rest : List (Option Event)} (hitems : (s.mailbox x.queue).items = i :: rest) :
    Alert x (.after (some i)) (s.setMailbox x.queue { s.mailbox x.queue with items := rest }) := by
  generalize ht : s.setMailbox x.queue { s.mailbox x.queue with items := rest } = t
  have hbox : (t.mailbox x.queue).items = rest := by
    rw [← ht, Surroundings.mailbox_setMailbox _ _ _ _ hlt, if_pos rfl]
  have hentries : entries t = s.entries := by
    rw [← ht]
    rfl
  have hstream : (hub t x.client).stream? = (s.hub x.client).stream? := by
    rw [← ht]
    rfl
  cases i with
  | none =>
    exact { begun := hentries ▸ h.begun, awake := .inr (.inr rfl),
            followed := .inr (.inr (.inl rfl)) }
  | some e =>
    have hmem {j : Option Event} (hj : j ∈ (s.mailbox x.queue).items) (hne : j ≠ some e) :
        j ∈ (t.mailbox x.queue).items := by
      rw [hitems] at hj
      rw [hbox]
      exact (List.mem_cons.1 hj).resolve_left hne
    refine { begun := hentries ▸ h.begun, awake := ?_, followed := ?_ }
    · rcases h.awake with hst | hmark | hended
      · left
        rw [hstream]
        exact hst
      · exact .inr (.inl (hmem hmark (by simp)))
      · cases hended
    · rcases h.followed with hf | hdue | hended | hmark | ⟨e', he', hl, htext⟩
      · left
        rw [hentries]
        exact hf
      · cases hdue
      · cases hended
      · exact .inr (.inr (.inr (.inl (hmem hmark (by simp)))))
      · right
        by_cases heq : e' = e
        · -- the event itself is taken, and the pass is due
          subst heq
          left
          obtain ⟨⟨status, hstatus⟩, id, hid⟩ := htext
          have hlook : e'.status.isOneOf Event.lifecycle = .ok true := by
            simp only [Event.isLifecycle, hstatus] at hl
            rw [hstatus]
            exact congrArg Except.ok hl
          have hshort : e'.containerId.short = .ok (e'.containerId.short.toOption.getD .null) := by
            rw [hid]
            rfl
          exact Activity.after_of_lifecycle hlook hshort
        · exact .inr (.inr (.inr ⟨e', hmem he' (by simpa using heq), hl, htext⟩))

end Alert

namespace Abreast

/-- The same entries, and another connection or activity. -/
theorem rewatch (h : Abreast table w₀ hold a s) {hold' : Option Hold}
    (hentries : t.entries = s.entries)
    (hwatch : ∀ x, hold' = some x → x.subscribed = true → Alert x b t) :
    Abreast table w₀ hold' b t where
  watch := hwatch
  attested := by
    rw [hentries]
    exact h.attested
  idle := by
    rw [hentries]
    exact h.idle

/-- Without a subscription nothing is asked of the mailbox. -/
theorem unsubscribed (h : Abreast table w₀ hold a s) {hold' : Option Hold}
    (hentries : t.entries = s.entries) (hsub : ∀ x, hold' = some x → x.subscribed = false) :
    Abreast table w₀ hold' b t := by
  apply h.rewatch hentries
  intro x hx hs
  rw [hsub x hx] at hs
  cases hs

/-- The activity matters while a pass is due, and after the marker was taken. -/
theorem during (h : Abreast table w₀ hold a s) (ha : a ≠ .due) (hended : a ≠ .ended) :
    Abreast table w₀ hold b s := by
  apply h.rewatch rfl
  intro x hx hs
  exact (h.watch x hx hs).during ha hended

/-- One more entry, by which nothing was found missing in the mailbox. -/
theorem concat (h : Abreast table w₀ hold a s) {y : Entry ω} (hy : y ≠ .deed (.took none))
    (hpublish : y.published?.isSome = true →
      Followed Entry.isSubscription (fun _ => false) s.entries) {hold' : Option Hold}
    (hentries : t.entries = s.entries ++ [y])
    (hwatch : ∀ x, hold' = some x → x.subscribed = true → Alert x b t) :
    Abreast table w₀ hold' b t where
  watch := hwatch
  attested := by
    rw [hentries, attested_concat]
    exact ⟨hpublish, h.attested⟩
  idle hlast := by
    rw [hentries, List.getLast?_concat] at hlast
    exact absurd (Option.some.inj hlast) hy

/-- An entry that changes nothing. -/
theorem aside (h : Abreast table w₀ hold a s) {y : Entry ω} (haside : y.isAside = true)
    (hy : y ≠ .deed (.took none)) : Abreast table w₀ hold a (s.chronicle [y]) := by
  simp only [Entry.isAside, Bool.and_eq_true, Bool.not_eq_true'] at haside
  obtain ⟨⟨⟨hchange, -⟩, hpublish⟩, -⟩ := haside
  apply h.concat hy
  · intro hsome
    rw [hpublish] at hsome
    cases hsome
  · rfl
  · intro x hx hs
    exact (h.watch x hx hs).concat hchange

/-- Nothing is in the mailbox: then it is told whether the table is in step. -/
theorem found_empty (h : Abreast table w₀ (some x) .calm s) (hsub : x.subscribed = true)
    (hknown : Knows w₀ False (fun w p => ∀ t, table w = .ok t → p = some t) s.entries)
    (hitems : (s.mailbox x.queue).items = []) :
    Abreast table w₀ (some x) .calm (s.chronicle [.deed (.took none)]) := by
  have halert := h.watch x rfl hsub
  have hfollowed : Followed Entry.isChange Entry.isSubscription s.entries := by
    rcases halert.followed with hf | hdue | hended | hmark | ⟨e, he, -⟩
    · exact hf
    · cases hdue
    · cases hended
    · rw [hitems] at hmark
      cases hmark
    · rw [hitems] at he
      cases he
  have hattested : Attested (s.chronicle [.deed (.took none)]).entries := by
    rw [entries_chronicle, attested_concat]
    exact ⟨by simp [Entry.published?], h.attested⟩
  refine { watch := ?_, attested := hattested, idle := fun _ => ?_ }
  · rintro _ ⟨⟩ _
    exact halert.concat rfl
  · have hfollowed' : Followed Entry.isChange Entry.isSubscription
        (s.chronicle [.deed (.took none)]).entries := by
      rw [entries_chronicle, followed_concat]
      exact ⟨rfl, .inr (.inr hfollowed)⟩
    have hseen := (hknown.aside (x := .deed (.took none)) rfl).seen
    exact ⟨synced_iff_renewed (halert.concat rfl).begun hfollowed' hattested hseen,
      synced_of_renewed hfollowed' hseen⟩

/-! ## Happenings -/

/-- Nothing comes to the mailbox on a stream to which nobody listens. -/
theorem unheard (hapart : Apart note) (h : Abreast table w₀ hold a s) {stream : StreamId}
    (ht : Unheard note stream s t) : Abreast table w₀ hold a t := by
  refine h.rewatch (hapart.unheard ht) fun x hx hs =>
    (h.watch x hx hs).congr (hapart.unheard ht) ?_ ?_
  · rw [ht.hub]
  · rw [ht.mailbox]
    exact fun _ hi => hi

/-- Happenings leave the condition: whenever the containers change, something is astir. -/
theorem stirring (hnote : Sound note) (hapart : Apart note) (hsole : Sole hold b s)
    (h : Abreast table w₀ hold a s) (ht : Stirring note s t) : Abreast table w₀ hold a t := by
  cases ht with
  | turned control hx =>
    refine h.rewatch hx ?_
    intro y hy hs
    exact (h.watch y hy hs).congr hx rfl fun _ hi => hi
  | finished stream reason =>
    rcases hsole.reader_cases stream with hbare | ⟨x, rfl, hr, hsub, hl, -⟩
    · exact h.unheard hapart (finish_unheard note hbare reason)
    · obtain ⟨y, hy, he⟩ := finishReading_single note stream hl reason
      simp only [finish, hr, he]
      refine h.rewatch (hapart.noted hy) ?_
      rintro _ ⟨⟩ _
      exact (h.watch x rfl hsub).lapsed (hsole.there x rfl).2 stream (hapart.noted hy) rfl
  | fed stream message =>
    rcases hsole.reader_cases stream with hbare | ⟨x, rfl, hr, hsub, hl, -⟩
    · exact h.unheard hapart (feed_unheard note hbare message)
    · have hreceipt := feed_single message hnote hr hl
      generalize feed (logged note) stream message s = t at hreceipt
      have halert := h.watch x rfl hsub
      cases hreceipt with
      | skipped hm => exact h
      | stored hm hroom =>
        refine h.rewatch rfl ?_
        rintro _ ⟨⟩ _
        refine halert.congr rfl rfl fun i hi => ?_
        rw [Surroundings.mailbox_setMailbox _ _ _ _ (hsole.there x rfl).2, if_pos rfl]
        exact List.mem_append_left _ hi
      | refused hm hfull hy =>
        refine h.rewatch (hapart.noted hy) ?_
        rintro _ ⟨⟩ _
        exact halert.congr (hapart.noted hy) rfl fun _ hi => hi
      | broken hm hsome hy =>
        refine h.rewatch (hapart.noted hy) ?_
        rintro _ ⟨⟩ _
        exact halert.lapsed (hsole.there x rfl).2 stream (hapart.noted hy) rfl
  | @changed w message e hm he htext hroom =>
    have hentries := entries_feedAll hapart (s.chronicle [.changed w]) message
    refine h.concat (y := .changed w) (by simp) (by simp [Entry.published?]) hentries ?_
    intro x hx hsub
    subst hx
    have halert := h.watch x rfl hsub
    have hsole' : Sole (some x) b (s.chronicle [.changed w]) := hsole.turn _ _
    rcases hsole'.feedAll_cases hnote hm htext hroom with ⟨_, ⟨⟩, hfed⟩ | ⟨hnone, hfed⟩
    · -- the event gets into the watcher's mailbox
      have hitems : ((feedAll (logged note) message (s.chronicle [.changed w])).mailbox
          x.queue).items = (s.mailbox x.queue).items ++ [some e] := by
        rw [hfed, Surroundings.mailbox_setMailbox _ _ _ _ (hsole'.there x rfl).2, if_pos rfl]
        rfl
      refine halert.called hentries ?_ (fun i hi => ?_) ?_
      · rw [hfed]
        rfl
      · rw [hitems]
        exact List.mem_append_left _ hi
      · exact .inr (.inr (.inr ⟨e, by simp [hitems], he, htext⟩))
    · -- the stream is over, and the watcher will hear of that
      rw [hfed]
      refine halert.called rfl rfl (fun _ hi => hi) ?_
      rcases halert.awake with hst | hmark | hended
      · exact absurd (hnone x.client) hst
      · exact .inr (.inr (.inl hmark))
      · exact .inr (.inl hended)

/-- So does any course of them. -/
theorem stirred (hnote : Sound note) (hapart : Apart note) (hsole : Sole hold b s)
    (h : Abreast table w₀ hold a s) (ht : Stirred note s t) :
    Sole hold b t ∧ Abreast table w₀ hold a t := by
  induction ht with
  | refl => exact ⟨hsole, h⟩
  | tail _ hstep ih =>
    constructor
    · exact ih.1.course hnote (Stirred.course (.single hstep))
    · exact ih.2.stirring hnote hapart ih.1 hstep

end Abreast

end

end HostRouting.Harbour
