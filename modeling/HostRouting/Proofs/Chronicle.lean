import HostRouting.Proofs.Journal
import HostRouting.Proofs.Shore
import Mathlib.Logic.Relation

/-!
# A chronicle of a harbour

Beside the harbour a chronicle is kept. It tells what the watcher does, what is offered to
listeners, which connections are given up, and what becomes of the containers.
-/

namespace HostRouting

open Act (Spec Keeps never)

/-- What a chronicle tells. -/
inductive Entry (ω : Type) where
  /-- Something that the watcher did. -/
  | deed (d : Watcher.Deed)
  /-- An event was offered to a listener, whose mailbox is shown as it was before. -/
  | offered (queue : QueueId) (event : Event) (box : Mailbox)
  /-- The connection of a client is given up. -/
  | hungUp (client : ClientId)
  /-- The containers are others from now on. -/
  | changed (world : ω)

/-- The client whose connection is given up. -/
def Entry.hungUp? {ω : Type} : Entry ω → Option ClientId
  | hungUp c => some c
  | _ => none

/-- A state with a chronicle beside it. -/
structure Chronicle (ω σ : Type) where
  entries : List (Entry ω) := []
  rest : σ

namespace Harbour

variable {ω σ : Type}

/-- The entries of the chronicle. -/
def entries (s : Harbour (Chronicle ω σ)) : List (Entry ω) := s.rest.rest.entries

/-- More entries in the chronicle. -/
def chronicle (es : List (Entry ω)) (s : Harbour (Chronicle ω σ)) : Harbour (Chronicle ω σ) :=
  s.turn s.control { s.rest.rest with entries := s.entries ++ es }

@[simp] theorem entries_chronicle (es : List (Entry ω)) (s : Harbour (Chronicle ω σ)) :
    (s.chronicle es).entries = s.entries ++ es := rfl

/-- The clients whose connection was given up, in their order. -/
def hangups (s : Harbour (Chronicle ω σ)) : List ClientId := s.entries.filterMap Entry.hungUp?

/-- Happenings in any order. -/
def Course {σ : Type} (note : Log.Entry → Act σ Unit) : Harbour σ → Harbour σ → Prop :=
  Relation.ReflTransGen (Happening note fun _ _ => True)

/-- Happenings in any order, after which the chronicle says what it said before. -/
def Untold (note : Log.Entry → Act (Chronicle ω σ) Unit) (s t : Harbour (Chronicle ω σ)) : Prop :=
  Course note s t ∧ t.entries = s.entries

/-- The log does not write into the chronicle. -/
def Apart (note : Log.Entry → Act (Chronicle ω σ) Unit) : Prop :=
  ∀ e x, ((note e).outcome x).2.entries = x.entries

/-- What the log took leaves the chronicle. -/
theorem Apart.noted {note : Log.Entry → Act (Chronicle ω σ) Unit} (h : Apart note)
    {x y : Chronicle ω σ} (hy : Noted note x y) : y.entries = x.entries := by
  cases hy with
  | nothing => rfl
  | entry e => exact h e x

/-- So does what comes in on a stream to which nobody listens. -/
theorem Apart.unheard {note : Log.Entry → Act (Chronicle ω σ) Unit} (h : Apart note)
    {stream : StreamId} {s t : Harbour (Chronicle ω σ)} (ht : Unheard note stream s t) :
    t.entries = s.entries := by
  cases ht with
  | passed => rfl
  | ended hx => exact h.noted hx

/-- No course of happenings makes a client, a stream or a mailbox. -/
theorem Course.sameSize {σ : Type} {note : Log.Entry → Act σ Unit} {s t : Harbour σ}
    (h : Course note s t) : SameSize s t := by
  induction h with
  | refl => exact .refl s
  | tail _ hstep ih => exact ih.trans hstep.sameSize

end Harbour

open Harbour (chronicle)

namespace Shore

variable {ω σ : Type} (k : Shore (Chronicle ω σ))

/-- The shore where every connection that is given up is told of. -/
def tallied : Shore (Chronicle ω σ) :=
  { k with
    daemon := { k.daemon with
      close := fun c => do
        Act.update (chronicle [.hungUp c])
        k.daemon.close c } }

/-- The host on this shore, where every deed of the watcher is told of. -/
def watched : Host (Fleet (Chronicle ω σ)) :=
  k.tallied.host.noted fun d => chronicle [.deed d]

end Shore

/-- A deed that is told of leaves what such an entry cannot change. -/
theorem Act.Spec.watched {ω σ α : Type} {P : Harbour (Chronicle ω σ) → Prop}
    {Q : α → Harbour (Chronicle ω σ) → Prop} {E : Fault → Harbour (Chronicle ω σ) → Prop}
    {act : Act (Harbour (Chronicle ω σ)) α} {call : Watcher.Call} {answer : α → Watcher.Deed}
    (h : Spec P act Q E) (hP : ∀ s d, P s → P (chronicle [.deed d] s))
    (hQ : ∀ a s d, Q a s → Q a (chronicle [.deed d] s))
    (hE : ∀ f s d, E f s → E f (chronicle [.deed d] s)) :
    Spec P (act.noted (fun d => chronicle [.deed d]) call answer) Q E :=
  h.noted (fun s => hP s _) (fun a s => hQ a s _) fun f s => hE f s _

/-- So does one that keeps something. -/
theorem Act.Keeps.watched {ω σ α : Type} {P : Harbour (Chronicle ω σ) → Prop}
    {act : Act (Harbour (Chronicle ω σ)) α} {call : Watcher.Call} {answer : α → Watcher.Deed}
    (h : Keeps P act) (hP : ∀ s d, P s → P (chronicle [.deed d] s)) :
    Keeps P (act.noted (fun d => chronicle [.deed d]) call answer) :=
  Act.Spec.watched h hP (fun _ s d => hP s d) fun _ s d hs => ⟨hs.1, hP s d hs.2⟩

/-- So does one that does not stop. -/
theorem Act.Spec.watched_safe {ω σ α : Type} {P : Harbour (Chronicle ω σ) → Prop}
    {act : Act (Harbour (Chronicle ω σ)) α} {call : Watcher.Call} {answer : α → Watcher.Deed}
    (h : Spec P act (fun _ => P) never) (hP : ∀ s d, P s → P (chronicle [.deed d] s)) :
    Spec P (act.noted (fun d => chronicle [.deed d]) call answer) (fun _ => P) never :=
  Act.Spec.watched h hP (fun _ s d => hP s d) fun _ _ _ he => he

end HostRouting
