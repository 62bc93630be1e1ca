import HostRouting.Proofs.Journal
import HostRouting.Proofs.Outline

/-!
# Every connection is closed once

The journal of a run shows which clients were connected, made use of and closed. As long as every
connection gives a new client, all clients but the one that the watcher holds are closed, each of
them once, and no client is made use of after that.
-/

namespace HostRouting.Watcher

open Act (Spec Keeps never)

/-! ## What a journal shows -/

/-- The clients that were connected, in their order. -/
def connections (j : List Deed) : List ClientId := j.filterMap Deed.connected?

/-- The clients whose closing began, in their order. -/
def closings (j : List Deed) : List ClientId := j.filterMap Deed.closed?

/-- No client is made use of after its closing began. -/
def NeverUsedClosed (j : List Deed) : Prop :=
  ∀ before d after, j = before ++ d :: after → ∀ c, d.used? = some c → c ∉ closings before

/-- Of the clients that were connected, those in hand are not closed, and each of the others is
closed once. -/
structure Tidy (held : List ClientId) (j : List Deed) : Prop where
  unused : NeverUsedClosed j
  closed : ∀ c, (closings j).count c = if c ∈ connections j ∧ c ∉ held then 1 else 0
  known : ∀ c ∈ held, c ∈ connections j
  distinct : held.Nodup

@[simp] theorem connections_append (j k : List Deed) :
    connections (j ++ k) = connections j ++ connections k :=
  List.filterMap_append

theorem closings_append (j k : List Deed) : closings (j ++ k) = closings j ++ closings k :=
  List.filterMap_append

/-- One more deed is no use of a closed client. -/
theorem NeverUsedClosed.concat {j : List Deed} {d : Deed} (h : NeverUsedClosed j)
    (hd : ∀ c, d.used? = some c → c ∉ closings j) : NeverUsedClosed (j ++ [d]) := by
  intro before e after hpart c hc
  rcases concat_eq_part.1 hpart with ⟨-, rfl, rfl⟩ | ⟨rest, -, hold⟩
  · exact hd c hc
  · exact h before e rest hold c hc

namespace Tidy

variable {held : List ClientId} {j : List Deed}

/-- A client in hand was not closed. -/
theorem not_mem_closings (h : Tidy held j) {c : ClientId} (hc : c ∈ held) : c ∉ closings j := by
  have := h.closed c
  rw [if_neg fun hn => hn.2 hc] at this
  exact List.count_eq_zero.1 this

/-- A deed that neither connects nor closes, and makes use of clients in hand only. -/
theorem concat (h : Tidy held j) {d : Deed} (hconn : d.connected? = none)
    (hclose : d.closed? = none) (huse : ∀ c, d.used? = some c → c ∈ held) :
    Tidy held (j ++ [d]) where
  unused := h.unused.concat fun c hc => h.not_mem_closings (huse c hc)
  closed c := by
    have hcl : closings (j ++ [d]) = closings j := by simp [closings, hclose]
    have hco : connections (j ++ [d]) = connections j := by simp [connections, hconn]
    rw [hcl, hco]
    exact h.closed c
  known c hc := by
    rw [connections_append]
    exact List.mem_append_left _ (h.known c hc)
  distinct := h.distinct

/-- A new client is taken in hand. -/
theorem concat_connected (h : Tidy held j) {new : ClientId} (hnew : new ∉ connections j) :
    Tidy (new :: held) (j ++ [.connected new]) where
  unused := h.unused.concat fun c hc => by cases hc
  closed c := by
    have hcl : closings (j ++ [.connected new]) = closings j := by simp [closings, Deed.closed?]
    have hco : connections (j ++ [.connected new]) = connections j ++ [new] := by
      simp [connections, Deed.connected?]
    rw [hcl, hco, h.closed c]
    -- only for the new client itself does anything change, and it was not closed before
    by_cases hc : c = new
    · subst hc
      simp [hnew]
    · simp [hc]
  known c hc := by
    rw [connections_append]
    rcases List.mem_cons.1 hc with rfl | hc
    · exact List.mem_append_right _ (by simp [connections, Deed.connected?])
    · exact List.mem_append_left _ (h.known c hc)
  distinct := List.nodup_cons.2 ⟨fun hn => hnew (h.known new hn), h.distinct⟩

/-- A client in hand is closed. -/
theorem concat_close (h : Tidy held j) {c : ClientId} (hc : c ∈ held) :
    Tidy (held.erase c) (j ++ [.began (.close c)]) where
  unused := h.unused.concat fun c hc => by cases hc
  closed b := by
    have hcl : closings (j ++ [.began (.close c)]) = closings j ++ [c] := by
      simp [closings, Deed.closed?]
    have hco : connections (j ++ [.began (.close c)]) = connections j := by
      simp [connections, Deed.connected?]
    rw [hcl, hco, List.count_append, h.closed b]
    -- the client was in hand, so it was not closed before
    by_cases hb : b = c
    · subst hb
      simp [hc, h.known b hc, h.distinct.not_mem_erase]
    · simp [Ne.symm hb, List.mem_erase_of_ne hb]
  known b hb := by
    rw [connections_append]
    exact List.mem_append_left _ (h.known b (List.mem_of_mem_erase hb))
  distinct := h.distinct.erase c

end Tidy

/-! ## What is kept -/

/-- If every connection so far gave a new client, the journal is tidy. -/
def Neat (held : List ClientId) (j : List Deed) : Prop := (connections j).Nodup → Tidy held j

/-- The clients in hand. -/
def inHand (hold : Option Hold) : Activity → List ClientId
  | .arrived new => new :: (hold.map Hold.client).toList
  | _ => (hold.map Hold.client).toList

namespace Neat

variable {held : List ClientId} {j : List Deed}

/-- At first there are no clients. -/
theorem nil : Neat [] [] := fun _ =>
  { unused := fun before d after hpart => by simp at hpart
    closed := by simp [closings, connections]
    known := by simp
    distinct := .nil }

theorem of_append {k : List Deed} (h : (connections (j ++ k)).Nodup) : (connections j).Nodup := by
  rw [connections_append] at h
  exact (List.nodup_append.1 h).1

/-- A deed that neither connects nor closes, and makes use of clients in hand only. -/
theorem concat (h : Neat held j) {d : Deed} (hconn : d.connected? = none)
    (hclose : d.closed? = none) (huse : ∀ c, d.used? = some c → c ∈ held) :
    Neat held (j ++ [d]) :=
  fun hfresh => (h (of_append hfresh)).concat hconn hclose huse

/-- A client is taken in hand. -/
theorem concat_connected (h : Neat held j) (new : ClientId) :
    Neat (new :: held) (j ++ [.connected new]) := by
  intro hfresh
  have hnew : new ∉ connections j := by
    rw [connections_append] at hfresh
    intro hmem
    exact (List.nodup_append.1 hfresh).2.2 new hmem new (by simp [connections, Deed.connected?]) rfl
  exact (h (of_append hfresh)).concat_connected hnew

/-- A client in hand is closed. -/
theorem concat_close (h : Neat held j) {c : ClientId} (hc : c ∈ held) :
    Neat (held.erase c) (j ++ [.began (.close c)]) :=
  fun hfresh => (h (of_append hfresh)).concat_close hc

end Neat

/-- A call other than a connection or a closing, which makes use of the clients in hand only. -/
structure Call.Within (held : List ClientId) (call : Call) : Prop where
  closes : ∀ c, call ≠ .close c
  uses : ∀ c, call.used? = some c → c ∈ held

section

variable {σ α : Type} {held : List ClientId} {call : Call}

theorem Call.Within.began (h : call.Within held) {j : List Deed} (hj : Neat held j) :
    Neat held (j ++ [.began call]) := by
  refine hj.concat rfl ?_ h.uses
  cases call with
  | close c => exact absurd rfl (h.closes c)
  | _ => rfl

/-- Such a call and its end leave a tidy journal tidy. -/
theorem Call.Within.ended (h : call.Within held) {j : List Deed} (hj : Neat held j) {d : Deed}
    (hd : d.connected? = none ∧ d.closed? = none ∧ d.used? = none) :
    Neat held (j ++ [.began call, d]) := by
  have := (h.began hj).concat hd.1 hd.2.1 fun c hc => by simp [hd.2.2] at hc
  simpa using this

/-- Such a call is recorded in a tidy journal. -/
theorem Call.Within.recorded (h : call.Within held) {act : Act (Surroundings σ) α}
    {F : Fault → Prop} (hact : Spec (fun _ => True) act (fun _ _ => True) fun f _ => F f)
    {answer : α → Deed} (hanswer : ∀ a, (answer a).connected? = none ∧ (answer a).closed? = none ∧
      (answer a).used? = none) :
    Spec (fun s => Neat held s.rest.journal) (act.recorded call answer)
      (fun _ s => Neat held s.rest.journal) fun f s => F f ∧ Neat held s.rest.journal := by
  refine Act.Spec.recorded hact (Q := fun _ => Neat held) (E := fun f j => F f ∧ Neat held j) ?_ ?_
  · intro a j hj
    exact h.ended hj (hanswer a)
  · intro f j hf hj
    exact ⟨hf, h.ended hj ⟨rfl, rfl, rfl⟩⟩

/-- So is one that may fail. -/
theorem Call.Within.keeps (h : call.Within held) {act : Act (Surroundings σ) α}
    (hact : Keeps (fun _ => True) act) :
    Keeps (fun s => Neat held s.rest.journal) (act.recorded call fun _ => .done call) :=
  h.recorded (F := fun f => f.isFailure = true) (hact.post (fun _ _ hs => hs) fun _ _ he => he.1)
    fun _ => ⟨rfl, rfl, rfl⟩

/-- So is one that does not fail. -/
theorem Call.Within.safe (h : call.Within held) {act : Act (Surroundings σ) α}
    (hact : Spec (fun _ => True) act (fun _ _ => True) never) :
    Spec (fun s => Neat held s.rest.journal) (act.recorded call fun _ => .done call)
      (fun _ s => Neat held s.rest.journal) never :=
  (h.recorded (F := fun _ => False) hact fun _ => ⟨rfl, rfl, rfl⟩).post (fun _ _ hs => hs)
    fun _ _ he => he.1

end

/-! ## The watcher's transitions -/

/-- A client that is held is in hand. -/
theorem mem_inHand (x : Hold) (a : Activity) : x.client ∈ inHand (some x) a := by
  cases a <;> simp [inHand]

/-- Once the client that was held is let go, the others are in hand. -/
theorem inHand_erase (x : Hold) (a : Activity) :
    (inHand (some x) a).erase x.client = inHand none a := by
  cases a with
  | arrived new =>
    by_cases hnew : new = x.client
    · simp [inHand, hnew]
    · simp [inHand, hnew]
  | _ => simp [inHand]

/-- The calls of the watcher keep the journal tidy. -/
def closingOutline {σ : Type} {h : Host σ} (fallible : h.Fallible) (c : WatchConfig) :
    Outline h.recorded c where
  holds hold a s := Neat (inHand hold a) s.rest.journal
  report hold a e _ := Call.Within.safe ⟨by simp, by simp [Call.used?]⟩ (fallible.report e)
  alarm hold f := Call.Within.safe ⟨by simp, by simp [Call.used?]⟩ (fallible.report _)
  sleep hold := Call.Within.safe ⟨by simp, by simp [Call.used?]⟩ (fallible.sleep _)
  connect hold _ := by
    have within : Call.Within (inHand hold .calm) .connect := ⟨by simp, by simp [Call.used?]⟩
    refine Act.Spec.recorded (F := fun f => f.isFailure = true)
      (fallible.connect.post (fun _ _ hs => hs) fun _ _ he => he.1)
      (Q := fun new => Neat (inHand hold (.arrived new)))
      (E := fun f j => f.isFailure = true ∧ Neat (inHand hold .failed) j) ?_ ?_
    · intro new j hj
      have := (within.began hj).concat_connected new
      rwa [List.append_assoc] at this
    · intro f j hf hj
      have := (within.began hj).concat (d := .failed .connect f) rfl rfl fun c hc => by cases hc
      rw [List.append_assoc] at this
      exact ⟨hf, this⟩
  remove x a _ _ := by
    refine Call.Within.keeps ⟨by simp, fun c hc => ?_⟩ (fallible.removeListener _ _)
    cases hc
    exact mem_inHand x a
  close x a _ _ := by
    -- the client counts as closed once its closing has begun, whatever comes of that
    refine Act.Spec.recorded (F := fun f => f.isFailure = true)
      ((fallible.close _).post (fun _ _ hs => hs) fun _ _ he => he.1)
      (Q := fun _ => Neat (inHand none a))
      (E := fun f j => f.isFailure = true ∧ Neat (inHand none a) j) ?_ ?_
    · intro _ j hj
      have := (hj.concat_close (mem_inHand x a)).concat (d := .done (.close x.client)) rfl rfl
        fun c hc => by cases hc
      simpa [inHand_erase] using this
    · intro f j hf hj
      have := (hj.concat_close (mem_inHand x a)).concat (d := .failed (.close x.client) f) rfl rfl
        fun c hc => by cases hc
      exact ⟨hf, by simpa [inHand_erase] using this⟩
  settle _ hs := hs
  adopt client := fun _ hs => hs
  survey x := by
    refine Host.enumerate_keeps (Q := fun s : Surroundings (Recorded σ) =>
      Neat [x.client] s.rest.journal) ?_ ?_ ?_ _ _
    · exact Call.Within.keeps ⟨by simp, by simp [Call.used?, inHand]⟩ (fallible.list _)
    · exact fun id => Call.Within.keeps ⟨by simp, by simp [Call.used?]⟩ (fallible.inspect _ id)
    · exact fun e => Call.Within.safe ⟨by simp, by simp [Call.used?]⟩ (fallible.report e)
  publish x t := Call.Within.keeps ⟨by simp, by simp [Call.used?]⟩ (fallible.publish t)
  ping x := Call.Within.keeps ⟨by simp, by simp [Call.used?, inHand]⟩ (fallible.ping _)
  add x _ _ := by
    have within : Call.Within [x.client] (.addListener x.client x.queue) :=
      ⟨by simp, by simp [Call.used?]⟩
    refine (within.keeps (fallible.addListener _ _)).post (fun _ _ hs => hs) fun f s hs => ⟨hs.1, ?_⟩
    cases f <;> exact hs.2
  take x _ := by
    have within : Call.Within [x.client] (.take x.queue) := ⟨by simp, by simp [Call.used?]⟩
    refine (within.recorded (F := fun f => f.isFailure = true)
      ((fallible.take _ _).post (fun _ _ hs => hs) fun _ _ he => he.1)
      fun _ => ⟨rfl, rfl, rfl⟩).post (fun item s hs => ?_) fun _ _ he => he
    rcases Activity.after_cases item with ha | ha | ha | ha <;> (rw [ha]; exact hs)

/-! ## Accounting -/

/-- A watcher that has not begun, and an empty journal. -/
def afresh {σ : Type} (s : Surroundings σ) : Machine (Recorded σ) where
  outside := { s with rest := { rest := s.rest } }

/-- No client is made use of after it was closed, and every client that was connected is closed
once, but the one that the watcher holds. -/
def Accounted {σ : Type} (m : Machine (Recorded σ)) : Prop :=
  NeverUsedClosed m.outside.rest.journal ∧
    ∀ c ∈ connections m.outside.rest.journal,
      (closings m.outside.rest.journal).count c = if m.watcher.client? = some c then 0 else 1

/-- A calm watcher has accounted for all clients. -/
theorem accounted_of_neat {σ : Type} {phase : Phase} {hold : Option Hold}
    {m : Machine (Recorded σ)} (hw : m.watcher = holding phase hold)
    (hm : Neat (inHand hold .calm) m.outside.rest.journal)
    (hfresh : (connections m.outside.rest.journal).Nodup) : Accounted m := by
  have tidy := hm hfresh
  refine ⟨tidy.unused, fun c hc => ?_⟩
  rw [tidy.closed c, hw]
  cases hold with
  | none => simp [inHand, holding, hc]
  | some x =>
    by_cases hx : x.client = c
    · simp [inHand, holding, hx]
    · simp [inHand, holding, hx, Ne.symm hx, hc]

end HostRouting.Watcher
