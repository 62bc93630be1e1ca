import HostRouting.Proofs.Registry

/-!
# Streams adrift

What becomes of the streams that a client opened. A stream that the client does not hold any more has
come to its end or was closed, unless the reader stopped at a message: such a stream is given up as
it is. It goes on until it ends by itself, and nobody will close it. A stream that could not be
closed goes on as well, but there was a call to close it.
-/

namespace HostRouting

/-- Whether the stream was closed, if the errand was to close it. -/
def Errand.closing? (c : ClientId) (i : StreamId) : Errand → Option Bool
  | closed b j done => if b = c ∧ j = i then some done else none
  | _ => none

namespace Harbour

variable {σ : Type} {d : Daemon σ} {now : String} {c : ClientId} {s t : Harbour (Quay σ)}
  {i j : StreamId} {x : Occurrence} {l : List Occurrence}

/-! ## A stream in an occurrence -/

/-- What came of the calls of the client to close the stream, in their order. -/
def attempts (c : ClientId) (i : StreamId) (s : Harbour (Quay σ)) : List Bool :=
  s.errands.filterMap (Errand.closing? c i)

/-- How often the client closed the stream, or was to close it. -/
def closings (c : ClientId) (i : StreamId) (s : Harbour (Quay σ)) : Nat := (attempts c i s).length

/-- The stream ends or breaks by itself. -/
def Occurrence.endsItself (i : StreamId) : Occurrence → Bool
  | .ended j _ => j = i
  | .lapsed j _ => j = i
  | _ => false

/-- The reader stops at a message on the stream. -/
def Occurrence.garbles (i : StreamId) : Occurrence → Bool
  | .garbled j _ => j = i
  | _ => false

/-- What an occurrence with the client `c` is for the stream `i`. -/
inductive Fate (c : ClientId) (i : StreamId) (s : Harbour (Quay σ)) (x : Occurrence)
    (t : Harbour (Quay σ)) : Prop where
  /-- It is opened, and read from now on. -/
  | opened (hs : s.opener? i ≠ some c) (ht : t.reader? i = some c)
      (hends : x.endsItself i = false) (hgarbles : x.garbles i = false)
      (hn : attempts c i t = attempts c i s)
  /-- The client held it and closes it, or is to close it. -/
  | closed (hs : (s.hub c).stream? = some i) (done : Bool) (ho : t.opener? i = s.opener? i)
      (ht : t.reader? i = if done then none else s.reader? i)
      (hends : x.endsItself i = false) (hgarbles : x.garbles i = false)
      (hn : attempts c i t = attempts c i s ++ [done])
  /-- It was read until it ended, or until the reader stopped. -/
  | given (hs : s.reader? i = some c) (ho : t.opener? i = s.opener? i) (ht : t.reader? i = none)
      (hx : x.endsItself i = true ∨ x.garbles i = true) (hn : attempts c i t = attempts c i s)
  /-- It ends, and was not read any more. -/
  | lapsed (hs : s.reader? i = none) (ho : t.opener? i = s.opener? i) (ht : t.reader? i = none)
      (hopened : s.opener? i = some c) (hends : x.endsItself i = true)
      (hgarbles : x.garbles i = false) (hn : attempts c i t = attempts c i s)
  /-- It is not concerned. -/
  | same (ho : t.opener? i = s.opener? i) (hr : t.reader? i = s.reader? i)
      (hends : x.endsItself i = false) (hgarbles : x.garbles i = false)
      (hn : attempts c i t = attempts c i s)

/-! ## Who opened a stream -/

section

variable (s : Harbour (Quay σ)) (b c : ClientId) (i j : StreamId)

@[simp] theorem opener?_endReading : (s.endReading j).opener? i = s.opener? i := by
  simp only [opener?, endReading, Surroundings.mapRest, List.getElem?_modify]
  by_cases hi : j = i
  · cases s.rest.streams[i]? <;> simp [hi]
  · simp [hi]

/-- A new stream was opened by the client that reads it. -/
theorem opener?_beginReading :
    (s.beginReading c).opener? i = if i = s.rest.streams.length then some c else s.opener? i := by
  simp only [opener?, beginReading, changeHub, Surroundings.mapRest, List.getElem?_append]
  by_cases hi : i = s.rest.streams.length
  · simp [hi]
  · by_cases hlt : i < s.rest.streams.length
    · simp [hi, hlt]
    · obtain ⟨k, hk⟩ : ∃ k, i - s.rest.streams.length = k + 1 :=
        ⟨i - s.rest.streams.length - 1, by dsimp only [StreamId] at *; omega⟩
      simp [hi, hlt, hk]

@[simp] theorem opener?_offerEach (item : Option Event) (qs : List QueueId) :
    (offerEach item qs s).opener? i = s.opener? i := by
  rw [opener?, rest_offerEach, opener?]

@[simp] theorem opener?_closeDown : (closeDown c j s).opener? i = s.opener? i := by
  rw [closeDown, opener?_offerEach]
  exact opener?_endReading s i j

/-- Nobody opened a stream that is to come. -/
theorem opener?_length : s.opener? s.rest.streams.length = none := by simp [opener?]

@[simp] theorem opener?_shut (done : Bool) (y : σ) :
    (shut c j done y s).opener? i = s.opener? i := by
  cases done with
  | false => rfl
  | true => exact opener?_endReading _ i j

/-- The attempts after one more errand. -/
theorem attempts_ran (e : Errand) (y : σ) :
    attempts c i (s.ran e y) = attempts c i s ++ (e.closing? c i).toList := by
  rw [attempts, errands_ran, List.filterMap_append, attempts]
  cases h : e.closing? c i <;> simp [h]

/-- The attempts after a stream was closed, or was to be closed. -/
theorem attempts_shut (done : Bool) (y : σ) : attempts c i (shut c j done y s) =
    attempts c i s ++ ((Errand.closed c j done).closing? c i).toList := by
  rw [attempts, errands_shut, ← errands_ran s (.closed c j done) y]
  exact attempts_ran s c i _ y

/-- A stream that could not be closed was to be closed. -/
theorem jammed_iff : Jammed c i s ↔ false ∈ attempts c i s := by
  simp only [Jammed, attempts, List.mem_filterMap]
  constructor
  · exact fun h => ⟨_, h, by simp [Errand.closing?]⟩
  · rintro ⟨e, he, hclosing⟩
    cases e with
    | closed b j done =>
      simp only [Errand.closing?] at hclosing
      split at hclosing
      · rename_i hsame
        rwa [← hsame.1, ← hsame.2, ← Option.some.inj hclosing]
      · cases hclosing
    | _ => cases hclosing

end

/-- The stream that is held is closed, or is to be closed, and no other one is concerned. -/
theorem Fate.of_closing {stream : StreamId} (hst : (s.hub c).stream? = some stream) (done : Bool)
    (ho : t.opener? i = s.opener? i)
    (ht : t.reader? i = if done = true ∧ i = stream then none else s.reader? i)
    (hends : x.endsItself i = false) (hgarbles : x.garbles i = false)
    (hn : attempts c i t = attempts c i s ++ ((Errand.closed c stream done).closing? c i).toList) :
    Fate c i s x t := by
  by_cases hi : i = stream
  · subst hi
    refine .closed hst done ho ?_ hends hgarbles (by simpa [Errand.closing?] using hn)
    simpa using ht
  · rw [if_neg fun h => hi h.2] at ht
    exact .same ho ht hends hgarbles (by simpa [Errand.closing?, Ne.symm hi] using hn)

/-- The reading of a stream ends, and no other one is concerned. -/
theorem Fate.of_ending {stream : StreamId} (hr : s.reader? stream = some c)
    (ho : t.opener? i = s.opener? i)
    (ht : t.reader? i = if i = stream then none else s.reader? i)
    (hx : x.endsItself i = true ∨ x.garbles i = true ↔ i = stream)
    (hn : attempts c i t = attempts c i s) : Fate c i s x t := by
  by_cases hi : i = stream
  · rw [if_pos hi] at ht
    exact .given (hi ▸ hr) ho ht (hx.2 hi) hn
  · rw [if_neg hi] at ht
    have hskips : ¬ (x.endsItself i = true ∨ x.garbles i = true) := fun h => hi (hx.1 h)
    rw [not_or, Bool.not_eq_true, Bool.not_eq_true] at hskips
    exact .same ho ht hskips.1 hskips.2 hn

/-- Whatever changes, it is one of these for every stream. -/
theorem Change.fate (h : Fit c s) (hx : Change c s x t) (i : StreamId) : Fate c i s x t := by
  cases hx with
  | refused hq => exact .same rfl rfl rfl rfl rfl
  | failed hst f y => exact .same rfl rfl rfl rfl (by simp [attempts_ran, Errand.closing?])
  | @opened q hlt hq hst y =>
    have hn : attempts c i (enroll c q ((s.ran (.opened c none) y).beginReading c)) =
        attempts c i s := by
      rw [attempts, errands_enroll, errands_beginReading]
      exact (attempts_ran s c i (.opened c none) y).trans (by simp [Errand.closing?])
    have ho := opener?_beginReading (s.ran (.opened c none) y) c i
    have hr := reader?_beginReading (s.ran (.opened c none) y) c i
    rw [streams_ran] at ho hr
    by_cases hi : i = s.rest.streams.length
    · rw [if_pos hi] at hr
      exact .opened (by simp [hi, opener?_length]) hr rfl rfl hn
    · rw [if_neg hi] at ho hr
      exact .same ho hr rfl rfl hn
  | joined hlt hq hst => exact .same rfl rfl rfl rfl rfl
  | parted hkept => exact .same rfl rfl rfl rfl rfl
  | emptied hlast r y =>
    exact .of_closing (h.emptied hlast).2 _ (opener?_shut ..) (reader?_shut ..) rfl rfl
      (attempts_shut ..)
  | hungUp hst r y => exact .same rfl rfl rfl rfl (by simp [Errand.closing?, attempts])
  | @hungUpAfter stream hst r y z =>
    refine .of_closing hst true (opener?_shut ..) (reader?_shut ..) rfl rfl ?_
    rw [attempts_ran]
    exact (List.append_nil _).trans (attempts_shut ..)
  | cutShort hst f y =>
    exact .of_closing hst false rfl (reader?_shut ..) rfl rfl (attempts_shut ..)
  | streamed hr =>
    refine .same ?_ ?_ rfl rfl ?_
    · rw [opener?, rest_hearing, opener?]
    · rw [reader?, rest_hearing, reader?]
    · rw [attempts, errands_hearing, attempts]
  | @garbled stream message item before hr hbefore =>
    refine .of_ending hr (by simp) ?_ ?_ (by simp [attempts])
    · rw [reader?_closeDown, reader?_offerEach]
    · simp [Occurrence.endsItself, Occurrence.garbles, eq_comm]
  | @ended stream reason hr =>
    refine .of_ending hr (by simp) (reader?_closeDown _ _ _ _) ?_ (by simp [attempts])
    simp [Occurrence.endsItself, Occurrence.garbles, eq_comm]
  | unread message hr => exact .same rfl rfl rfl rfl rfl
  | @lapsed stream reason hc hr =>
    by_cases hi : stream = i
    · subst hi
      exact .lapsed hr rfl hr hc (by simp [Occurrence.endsItself]) rfl rfl
    · exact .same rfl rfl (by simp [Occurrence.endsItself, hi]) rfl rfl
  | taken q hcapacity hitems => exact .same rfl rfl rfl rfl rfl

/-! ## What becomes of the streams of a client -/

/-- The stream ended or broke by itself. -/
def EndedItself (i : StreamId) (l : List Occurrence) : Prop := ∃ x ∈ l, x.endsItself i = true

/-- The reader of the stream stopped at a message. -/
def Garbled (i : StreamId) (l : List Occurrence) : Prop := ∃ x ∈ l, x.garbles i = true

theorem endedItself_concat :
    EndedItself i (l ++ [x]) ↔ EndedItself i l ∨ x.endsItself i = true := by
  simp [EndedItself, or_and_right, exists_or]

theorem garbled_concat : Garbled i (l ++ [x]) ↔ Garbled i l ∨ x.garbles i = true := by
  simp [Garbled, or_and_right, exists_or]

/-- What does not end a stream leaves it. -/
theorem endedItself_concat_of_not (hends : x.endsItself i = false) :
    EndedItself i (l ++ [x]) ↔ EndedItself i l := by
  simp [endedItself_concat, hends]

theorem garbled_concat_of_not (hgarbles : x.garbles i = false) :
    Garbled i (l ++ [x]) ↔ Garbled i l := by
  simp [garbled_concat, hgarbles]

/-- The account of a stream: who opened it, whether it is read, and what became of it otherwise. -/
structure Audited (c : ClientId) (i : StreamId) (l : List Occurrence) (t : Harbour (Quay σ)) :
    Prop where
  once : closings c i t ≤ 1
  opened : closings c i t ≠ 0 → t.opener? i = some c
  finished : EndedItself i l ∨ Garbled i l ∨ true ∈ attempts c i t ↔
    t.opener? i = some c ∧ t.reader? i ≠ some c

/-- Before anything occurs, a client has no streams. -/
theorem Unused.audited (h : Unused c s) (i : StreamId) : Audited c i [] s where
  once := by simp [closings, attempts, h.errands]
  opened := by simp [closings, attempts, h.errands]
  finished := by
    have hnone : s.opener? i ≠ some c := by
      intro ho
      obtain ⟨st, hst, hc⟩ := Option.map_eq_some_iff.1 ho
      exact h.streams st (List.mem_of_getElem? hst) hc
    simp [EndedItself, Garbled, attempts, h.errands, hnone]

/-- Nothing became of a stream that is held. -/
theorem Audited.unspent (h : Audited c i l s) (hm : Moored c s)
    (hst : (s.hub c).stream? = some i) :
    ¬ EndedItself i l ∧ ¬ Garbled i l ∧ attempts c i s = [] := by
  obtain ⟨hr, hjam⟩ := (hm.held i).2 hst
  have hnone : ¬ (EndedItself i l ∨ Garbled i l ∨ true ∈ attempts c i s) := fun hover =>
    (h.finished.1 hover).2 hr
  rw [not_or, not_or] at hnone
  refine ⟨hnone.1, hnone.2.1, List.eq_nil_iff_forall_not_mem.2 fun done => ?_⟩
  cases done with
  | true => exact hnone.2.2
  | false => exact fun hmem => hjam ((jammed_iff s c i).2 hmem)

/-- The account is kept. -/
theorem Audited.concat (h : Audited c i l s) (hm : Moored c s) (hx : Fate c i s x t) :
    Audited c i (l ++ [x]) t := by
  -- a call to close a stream, or none, leaves who opened it
  have opened (ho : t.opener? i = s.opener? i) (hn : attempts c i t = attempts c i s) :
      closings c i t ≠ 0 → t.opener? i = some c := by
    rw [closings, hn, ho]
    exact h.opened
  cases hx with
  | opened hs ht hends hgarbles hn =>
    have hended := endedItself_concat_of_not (l := l) hends
    have hgarbled := garbled_concat_of_not (l := l) hgarbles
    refine ⟨by rw [closings, hn]; exact h.once, fun _ => opener?_of_reader? ht, ?_⟩
    rw [hended, hgarbled, hn, h.finished]
    exact iff_of_false (fun hover => hs hover.1) fun hover => hover.2 ht
  | closed hs done ho ht hends hgarbles hn =>
    have hended := endedItself_concat_of_not (l := l) hends
    have hgarbled := garbled_concat_of_not (l := l) hgarbles
    obtain ⟨hnot, hclean, hnil⟩ := h.unspent hm hs
    have hr := ((hm.held i).2 hs).1
    have hopener : t.opener? i = some c := by rw [ho, opener?_of_reader? hr]
    rw [hnil, List.nil_append] at hn
    refine ⟨by simp [closings, hn], fun _ => hopener, ?_⟩
    rw [hended, hgarbled, hn, ht]
    cases done with
    | true => exact iff_of_true (.inr (.inr (by simp))) ⟨hopener, by simp⟩
    | false => exact iff_of_false (by simp [hnot, hclean]) fun hover => hover.2 hr
  | given hs ho ht hx hn =>
    have hover : EndedItself i (l ++ [x]) ∨ Garbled i (l ++ [x]) :=
      hx.imp (fun hx => endedItself_concat.2 (.inr hx)) fun hx => garbled_concat.2 (.inr hx)
    refine ⟨by rw [closings, hn]; exact h.once, opened ho hn, ?_⟩
    exact iff_of_true (or_assoc.1 (.inl hover)) ⟨by rw [ho, opener?_of_reader? hs], by simp [ht]⟩
  | lapsed hs ho ht hopened hends hgarbles hn =>
    refine ⟨by rw [closings, hn]; exact h.once, opened ho hn, ?_⟩
    exact iff_of_true (.inl (endedItself_concat.2 (.inr hends))) ⟨by rw [ho, hopened], by simp [ht]⟩
  | same ho hr hends hgarbles hn =>
    have hended := endedItself_concat_of_not (l := l) hends
    have hgarbled := garbled_concat_of_not (l := l) hgarbles
    refine ⟨by rw [closings, hn]; exact h.once, opened ho hn, ?_⟩
    rw [hended, hgarbled, hn, ho, hr, h.finished]

/-- The account of a stream after all that occurred. -/
theorem History.audited (hs : Unused c s) (hl : History d now c s l t) (i : StreamId) :
    Audited c i l t := by
  induction hl with
  | nil => exact hs.audited i
  | concat hl hx ih =>
    have hfit := hl.fit hs.fit
    exact ih.concat (hl.moored hs.fit hs.moored) ((hx.change hfit).fate hfit i)

/-- A stream of the client goes on: it did not end, and it was not closed. -/
def Live (c : ClientId) (i : StreamId) (l : List Occurrence) (t : Harbour (Quay σ)) : Prop :=
  t.opener? i = some c ∧ ¬ EndedItself i l ∧ true ∉ attempts c i t

/-- A stream at which the reader stopped, and which goes on without a call to close it. -/
def Adrift (c : ClientId) (i : StreamId) (l : List Occurrence) (t : Harbour (Quay σ)) : Prop :=
  Garbled i l ∧ ¬ EndedItself i l ∧ closings c i t = 0

/-- A stream goes on just when the client holds it, or it is adrift, or it could not be closed and
did not end since. -/
theorem History.live_iff (hs : Unused c s) (hl : History d now c s l t) (i : StreamId) :
    Live c i l t ↔
      (t.hub c).stream? = some i ∨ Adrift c i l t ∨ Jammed c i t ∧ ¬ EndedItself i l := by
  have haudit := hl.audited hs i
  have hmoored := hl.moored hs.fit hs.moored
  constructor
  · rintro ⟨ho, hended, hn⟩
    by_cases hjam : Jammed c i t
    · exact .inr (.inr ⟨hjam, hended⟩)
    · by_cases hr : t.reader? i = some c
      · exact .inl ((hmoored.held i).1 ⟨hr, hjam⟩)
      · rcases haudit.finished.2 ⟨ho, hr⟩ with h | h | h
        · exact absurd h hended
        · refine .inr (.inl ⟨h, hended, List.length_eq_zero_iff.2 ?_⟩)
          refine List.eq_nil_iff_forall_not_mem.2 fun done => ?_
          cases done with
          | true => exact hn
          | false => exact fun hmem => hjam ((jammed_iff t c i).2 hmem)
        · exact absurd h hn
  · rintro (hst | ⟨hg, hended, hn⟩ | ⟨hjam, hended⟩)
    · obtain ⟨hended, -, hnil⟩ := haudit.unspent hmoored hst
      exact ⟨opener?_of_reader? ((hmoored.held i).2 hst).1, hended, by simp [hnil]⟩
    · refine ⟨(haudit.finished.1 (.inr (.inl hg))).1, hended, ?_⟩
      simp [List.length_eq_zero_iff.1 hn]
    · -- the call that failed was the only one
      have hmem := (jammed_iff t c i).1 hjam
      have honce := haudit.once
      obtain ⟨done, hone⟩ := List.length_eq_one_iff.1
        (Nat.le_antisymm honce (List.length_pos_of_mem hmem))
      rw [hone, List.mem_singleton] at hmem
      refine ⟨haudit.opened (by simp [closings, hone]), hended, ?_⟩
      simp [hone, ← hmem]

/-- **Just the streams adrift are lost.** Whatever occurred with a client: it made no more than one
call to close a stream, and a stream that it opened goes on just when the client holds it, or it is
adrift, for its reader stopped at a message and it did not end yet, or the call to close it failed.
So every stream that the client does not hold any more has ended, or there was a call to close it,
if and only if none is adrift; and then at most one stream goes on, unless a call failed. -/
theorem streams_let_go_iff (hs : Unused c s) (hl : History d now c s l t) :
    (∀ i, closings c i t ≤ 1 ∧ (Live c i l t ↔
      (t.hub c).stream? = some i ∨ Adrift c i l t ∨ Jammed c i t ∧ ¬ EndedItself i l)) ∧
    ((∀ i, t.opener? i = some c → (t.hub c).stream? ≠ some i →
      EndedItself i l ∨ closings c i t = 1) ↔ ∀ i, ¬ Adrift c i l t) ∧
    ((∀ i, ¬ Adrift c i l t) → (∀ i, ¬ Jammed c i t) →
      ∀ i j, Live c i l t → Live c j l t → i = j) := by
  have hlive := hl.live_iff hs
  have hmoored := hl.moored hs.fit hs.moored
  refine ⟨fun i => ⟨(hl.audited hs i).once, hlive i⟩, ⟨fun h i hadrift => ?_, fun h i ho hst => ?_⟩,
    fun h hclosed i j hi hj => ?_⟩
  · -- a stream adrift goes on, and it is not held
    obtain ⟨hg, hended, hn⟩ := hadrift
    have hst : (t.hub c).stream? ≠ some i := fun hst =>
      ((hl.audited hs i).unspent hmoored hst).2.1 hg
    have hopened := ((hl.audited hs i).finished.1 (.inr (.inl hg))).1
    rcases h i hopened hst with hend | hone
    · exact hended hend
    · rw [hn] at hone
      cases hone
  · have honce := (hl.audited hs i).once
    by_cases hended : EndedItself i l
    · exact .inl hended
    · have hn : closings c i t ≠ 0 := fun hn => by
        have hnil := List.length_eq_zero_iff.1 hn
        have hlives : Live c i l t := ⟨ho, hended, by simp [hnil]⟩
        rcases (hlive i).1 hlives with hheld | hadrift | ⟨hjam, -⟩
        · exact hst hheld
        · exact h i hadrift
        · simp [jammed_iff, hnil] at hjam
      exact .inr (by omega)
  · have held {i : StreamId} (hi : Live c i l t) : (t.hub c).stream? = some i := by
      rcases (hlive i).1 hi with hheld | hadrift | ⟨hjam, -⟩
      · exact hheld
      · exact absurd hadrift (h i)
      · exact absurd hjam (hclosed i)
    exact Option.some.inj ((held hi).symm.trans (held hj))

/-- A message whose actor is a number. -/
def oddMessage : Json := .obj [("status", .str "start"), ("Actor", .int 1)]

/-- A listener came, the message with the number came in, and another listener came. -/
def strayCourse : List Occurrence :=
  [.added 0 (.ok ()), .garbled 0 oddMessage, .added 1 (.ok ())]

/-- The harbour after that. -/
def strayed : Harbour (Quay Unit) :=
  let came := ((addListener (errandly (answering (pure ()))) 0 0).outcome quayside).2
  ((addListener (errandly (answering (pure ()))) 0 1).outcome (feed (report "") 0 oddMessage came)).2

/-- That can occur. -/
theorem strayed_history : History (answering (pure ())) "" 0 quayside strayCourse strayed := by
  have hm : Event.ofMessage oddMessage = .error (.noMember "int" "get") := rfl
  refine .concat (l := [.added 0 (.ok ()), .garbled 0 oddMessage])
    (.concat (l := [.added 0 (.ok ())]) (.concat (l := []) .nil (.added (by decide) rfl))
      (.garbled rfl ?_)) (.added ?_ rfl)
  · simp only [Undeliverable, hm]
  · decide +kernel

/-- The stream that is held goes on. -/
theorem streams_let_go_iff_strayed :
    Unused 0 quayside ∧ History (answering (pure ())) "" 0 quayside strayCourse strayed ∧
      closings 0 0 strayed ≤ 1 ∧ Live 0 1 strayCourse strayed := by
  obtain ⟨haudit, -, -⟩ := streams_let_go_iff quayside_unused strayed_history
  exact ⟨quayside_unused, strayed_history, (haudit 0).1, (haudit 1).2.2 (.inl rfl)⟩

/-- The stream at which the reader stopped goes on beside the one that is held, and no call has
closed it. -/
theorem strayed_stream_goes_on :
    History (answering (pure ())) "" 0 quayside strayCourse strayed ∧
      strayed.opener? 0 = some 0 ∧ (strayed.hub 0).stream? = some 1 ∧
      ¬ EndedItself 0 strayCourse ∧ closings 0 0 strayed = 0 ∧
      Live 0 0 strayCourse strayed ∧ Live 0 1 strayCourse strayed := by
  have hended (i : StreamId) : ¬ EndedItself i strayCourse := by
    simp [EndedItself, strayCourse, Occurrence.endsItself]
  exact ⟨strayed_history, rfl, rfl, hended 0, rfl, ⟨rfl, hended 0, by decide⟩,
    ⟨rfl, hended 1, by decide⟩⟩

end Harbour

end HostRouting
