import HostRouting.Api
import HostRouting.Proofs.Canon
import HostRouting.Proofs.Gazette
import Mathlib.Data.List.Basic

/-!
# Looking at the board while tables are published

Whoever asks for the table looks at the board three times: for the table, for its number and for its
time. Each look shows the board as it is then, but tables can be published from one look to the next,
so that an answer may be put together from three boards. It is told here when it is.
-/

namespace HostRouting

namespace Board

/-! ## Publications and looks -/

/-- The board after some publications, each with its time. -/
def after (issues : List (String × Table)) : Board :=
  issues.foldl (fun b e => b.publish e.1 e.2) {}

/-- One more publication. -/
theorem after_concat (issues : List (String × Table)) (now : String) (t : Table) :
    after (issues ++ [(now, t)]) = (after issues).publish now t := by
  simp [after]

/-- The board after some publications tells of them. -/
theorem after_tells (issues : List (String × Table)) : (after issues).Tells issues := by
  induction issues using List.reverseRecOn with
  | nil => exact .nil
  | append_singleton issues e ih =>
    rw [after_concat]
    exact ih.publish e.1 e.2

/-- What happens at a board: a table is published at a time, or someone has a look. -/
inductive Turn where
  | publish (now : String) (t : Table)
  | look

/-- The publication that a turn is. -/
def Turn.issue? : Turn → Option (String × Table)
  | publish now t => some (now, t)
  | look => none

/-- The publications among some turns. -/
def issues (turns : List Turn) : List (String × Table) := turns.filterMap Turn.issue?

/-- A board, and the boards that were seen. -/
structure View where
  board : Board := {}
  seen : List Board := []

/-- The view after a turn. -/
def View.next (v : View) : Turn → View
  | .publish now t => { v with board := v.board.publish now t }
  | .look => { v with seen := v.seen ++ [v.board] }

/-- The view after some turns at an empty board. -/
def view (turns : List Turn) : View := turns.foldl View.next {}

/-- The board shows the publications, and the boards that were seen are those after so many of them
as `moments` says. -/
structure View.Tells (v : View) (issues : List (String × Table)) (moments : List Nat) : Prop where
  board : v.board = after issues
  seen : v.seen = moments.map fun n => after (issues.take n)
  ordered : moments.Pairwise (· ≤ ·)
  bounded : ∀ n ∈ moments, n ≤ issues.length

/-- A publication is no matter for what was seen before. -/
theorem View.Tells.publish {v : View} {issues : List (String × Table)} {moments : List Nat}
    (h : v.Tells issues moments) (now : String) (t : Table) :
    (v.next (.publish now t)).Tells (issues ++ [(now, t)]) moments where
  board := by
    rw [after_concat, ← h.board]
    rfl
  seen := by
    have hold : ∀ n ∈ moments, after (issues.take n) = after ((issues ++ [(now, t)]).take n) := by
      intro n hn
      rw [List.take_append_of_le_length (h.bounded n hn)]
    exact h.seen.trans (List.map_congr_left hold)
  ordered := h.ordered
  bounded n hn := by
    have := h.bounded n hn
    simp only [List.length_append, List.length_singleton]
    omega

/-- A look shows the board after all publications. -/
theorem View.Tells.look {v : View} {issues : List (String × Table)} {moments : List Nat}
    (h : v.Tells issues moments) : (v.next .look).Tells issues (moments ++ [issues.length]) where
  board := h.board
  seen := by simp [View.next, h.seen, h.board]
  ordered := by simpa [List.pairwise_append, h.ordered] using h.bounded
  bounded n hn := by
    rcases List.mem_append.1 hn with hn | hn
    · exact h.bounded n hn
    · exact Nat.le_of_eq (List.mem_singleton.1 hn)

/-- **Every look shows the board after some of the publications, and a later look not after fewer of
them.** -/
theorem view_tells (turns : List Turn) : ∃ moments, (view turns).Tells (issues turns) moments := by
  induction turns using List.reverseRecOn with
  | nil => exact ⟨[], rfl, rfl, .nil, by simp⟩
  | append_singleton turns turn ih =>
    obtain ⟨moments, h⟩ := ih
    have hview : view (turns ++ [turn]) = (view turns).next turn := by simp [view]
    rw [hview]
    cases turn with
    | publish now t =>
      have hissues : issues (turns ++ [.publish now t]) = issues turns ++ [(now, t)] := by
        simp [issues, Turn.issue?]
      rw [hissues]
      exact ⟨moments, h.publish now t⟩
    | look =>
      have hissues : issues (turns ++ [.look]) = issues turns := by simp [issues, Turn.issue?]
      rw [hissues]
      exact ⟨_, h.look⟩

/-- So many publications have been counted. -/
theorem generation_after_take {issues : List (String × Table)} {n : Nat} (hn : n ≤ issues.length) :
    (after (issues.take n)).generation = n := by
  rw [(after_tells _).generation, List.length_take, Nat.min_eq_left hn]

/-- Three looks show the board at three moments, one after the other. -/
theorem three_looks {turns : List Turn} {a b c : Board} (hseen : (view turns).seen = [a, b, c]) :
    ∃ i j k, i ≤ j ∧ j ≤ k ∧ k ≤ (issues turns).length ∧ a = after ((issues turns).take i) ∧
      b = after ((issues turns).take j) ∧ c = after ((issues turns).take k) := by
  obtain ⟨moments, h⟩ := view_tells turns
  have hboards := hseen.symm.trans h.seen
  obtain ⟨i, j, k, rfl⟩ : ∃ i j k, moments = [i, j, k] := by
    refine List.length_eq_three.1 ?_
    simpa using (congrArg List.length hboards).symm
  simp only [List.map_cons, List.map_nil, List.cons.injEq, and_true] at hboards
  have hordered := h.ordered
  simp only [List.pairwise_cons] at hordered
  have hij : i ≤ j := hordered.1 j (by simp)
  have hjk : j ≤ k := hordered.2.1 k (by simp)
  exact ⟨i, j, k, hij, hjk, h.bounded k (by simp), hboards⟩

/-- Publications one after the other. -/
def Turn.ofIssues (issues : List (String × Table)) : List Turn :=
  issues.map fun e => .publish e.1 e.2

/-- Publications are not seen by themselves. -/
theorem foldl_ofIssues (v : View) (issues : List (String × Table)) :
    (Turn.ofIssues issues).foldl View.next v =
      { v with board := issues.foldl (fun b e => b.publish e.1 e.2) v.board } := by
  induction issues generalizing v with
  | nil => rfl
  | cons e issues ih => exact ih (v.next (.publish e.1 e.2))

/-- Three looks may come at any three moments: publications may fall between them in any way. -/
theorem exists_three_looks (first second third rest : List (String × Table)) :
    ∃ turns, issues turns = first ++ second ++ third ++ rest ∧ (view turns).seen =
      [after first, after (first ++ second), after (first ++ second ++ third)] := by
  have hissues (l : List (String × Table)) : (Turn.ofIssues l).filterMap Turn.issue? = l := by
    simp [Turn.ofIssues, List.filterMap_map, Function.comp_def, Turn.issue?]
  refine ⟨Turn.ofIssues first ++ .look :: (Turn.ofIssues second ++ .look ::
    (Turn.ofIssues third ++ .look :: Turn.ofIssues rest)), ?_, ?_⟩
  · simp [issues, List.filterMap_append, List.filterMap_cons, hissues, Turn.issue?]
  · simp [view, foldl_ofIssues, View.next, after]

end Board

/-! ## Answers -/

/-- The routes of a table in the order of their keys. -/
def Table.listing (t : Table) : List Route := t.sorted.map Prod.snd

namespace Api

/-- What the API shows of a route is its rendering. -/
theorem eq_of_routeBody {r : Route} {body : Json} (h : routeBody r = .ok body) : body = r.toJson := by
  simp only [routeBody] at h
  split at h
  · exact (Except.ok.inj h).symm
  · cases h

/-- What the API shows of several routes are their renderings. -/
theorem eq_of_mapM_routeBody {rs : List Route} {bodies : List Json}
    (h : rs.mapM routeBody = .ok bodies) : bodies = rs.map Route.toJson := by
  induction rs generalizing bodies with
  | nil => exact (Except.ok.inj h).symm
  | cons r rs ih =>
    rw [List.mapM_cons] at h
    cases hr : routeBody r with
    | error f => simp [hr, bind, Except.bind] at h
    | ok body =>
      cases hrs : rs.mapM routeBody with
      | error f => simp [hr, hrs, bind, Except.bind] at h
      | ok rest =>
        simp only [hr, hrs, bind, Except.bind, pure, Except.pure, Except.ok.injEq] at h
        rw [← h, eq_of_routeBody hr, ih hrs, List.map_cons]

/-- An answer that shows the given number, time and routes. -/
def routesAnswer (generation : Nat) (updatedAt : Option String) (rs : List Route) : Json :=
  .obj [("generation", .int generation), ("updated_at", optional updatedAt),
    ("routes", .arr (rs.map Route.toJson))]

/-- There is an answer just when all routes of the first board can be shown. -/
theorem routesBody_eq_ok_iff {a b c : Board} {answer : Json} : routesBody a b c = .ok answer ↔
    (∃ bodies, a.table.listing.mapM routeBody = .ok bodies) ∧
      answer = routesAnswer b.generation c.updatedAt a.table.listing := by
  have hroutes : a.table.sorted.mapM (fun e => routeBody e.2) = a.table.listing.mapM routeBody := by
    simp [Table.listing, List.mapM_map, Function.comp_def]
  unfold routesBody
  rw [hroutes]
  cases h : a.table.listing.mapM routeBody with
  | error f => simp [bind, Except.bind]
  | ok bodies =>
    obtain rfl := eq_of_mapM_routeBody h
    simp [bind, Except.bind, pure, Except.pure, routesAnswer, eq_comm]

/-- Two answers are the same if they show the same. -/
theorem routesAnswer_inj {n n' : Nat} {time time' : Option String} {rs rs' : List Route} :
    routesAnswer n time rs = routesAnswer n' time' rs' ↔ n = n' ∧ time = time' ∧ rs = rs' := by
  have htime : optional time = optional time' ↔ time = time' := by
    cases time <;> cases time' <;> simp [optional]
  simp only [routesAnswer, Json.obj.injEq, List.cons.injEq, Prod.mk.injEq, Json.int.injEq,
    Int.natCast_inj, Json.arr.injEq, htime, (List.map_injective_iff.2 Route.toJson_injective).eq_iff,
    true_and, and_true]

/-! ## Answers and moments -/

/-- The routes of an answer are those of the publication whose number the answer gives; before the
first publication there are none. -/
def OfItsNumber (issues : List (String × Table)) (answer : Json) : Prop :=
  ∀ n : Nat, answer.field "generation" = .ok (.int n) →
    answer.field "routes" = .ok (.arr ((Board.after (issues.take n)).table.listing.map Route.toJson))

/-- The answer is one that is given if the board stands still after some of the publications. -/
def OfOneMoment (issues : List (String × Table)) (answer : Json) : Prop :=
  ∃ n ≤ issues.length, ∃ b, b = Board.after (issues.take n) ∧ routesBody b b b = .ok answer

section

variable {issues : List (String × Table)} {a b c : Board} {answer : Json} {n : Nat}

/-- The routes of an answer, and its number. -/
theorem ofItsNumber_iff (hb : b = Board.after (issues.take n)) (hn : b.generation = n)
    (hanswer : routesBody a b c = .ok answer) :
    OfItsNumber issues answer ↔ a.table.listing = b.table.listing := by
  obtain ⟨-, rfl⟩ := routesBody_eq_ok_iff.1 hanswer
  rw [hn]
  constructor
  · intro h
    have hroutes := Json.arr.inj (Except.ok.inj (h n rfl))
    rw [hb]
    exact List.map_injective_iff.2 Route.toJson_injective hroutes
  · intro h k hk
    obtain rfl : n = k := Int.natCast_inj.1 (Json.int.inj (Except.ok.inj hk))
    rw [h, hb]
    rfl

/-- All that an answer shows. -/
theorem ofOneMoment_iff (hb : b = Board.after (issues.take n)) (hle : n ≤ issues.length)
    (hanswer : routesBody a b c = .ok answer) :
    OfOneMoment issues answer ↔ a.table.listing = b.table.listing ∧ b.updatedAt = c.updatedAt := by
  obtain ⟨hbodies, rfl⟩ := routesBody_eq_ok_iff.1 hanswer
  have hn : b.generation = n := hb ▸ Board.generation_after_take hle
  constructor
  · rintro ⟨k, hk, moment, rfl, hmoment⟩
    -- the number tells which moment it must have been
    obtain ⟨hkn, htime, hroutes⟩ := routesAnswer_inj.1 (routesBody_eq_ok_iff.1 hmoment).2
    rw [Board.generation_after_take hk, hn] at hkn
    obtain rfl := hkn
    rw [← hb] at htime hroutes
    exact ⟨hroutes, htime.symm⟩
  · rintro ⟨hroutes, htime⟩
    refine ⟨n, hle, b, hb, routesBody_eq_ok_iff.2 ⟨hroutes ▸ hbodies, ?_⟩⟩
    rw [hroutes, htime]

end

/-- **The routes of an answer are those of the publication with its number just when the first two
looks showed the same routes; and the whole answer is that of one moment just when the last two looks
showed the same time besides.** Any tables can be published from one look to the next. -/
theorem routes_answer_of_one_moment_iff {turns : List Board.Turn} {a b c : Board} {answer : Json}
    (hseen : (Board.view turns).seen = [a, b, c]) (hanswer : routesBody a b c = .ok answer) :
    ∃ i j k, i ≤ j ∧ j ≤ k ∧ k ≤ (Board.issues turns).length ∧
      a = Board.after ((Board.issues turns).take i) ∧
      b = Board.after ((Board.issues turns).take j) ∧
      c = Board.after ((Board.issues turns).take k) ∧ answer.field "generation" = .ok (.int j) ∧
      (OfItsNumber (Board.issues turns) answer ↔ a.table.listing = b.table.listing) ∧
      (OfOneMoment (Board.issues turns) answer ↔
        a.table.listing = b.table.listing ∧ b.updatedAt = c.updatedAt) := by
  obtain ⟨i, j, k, hij, hjk, hk, ha, hb, hc⟩ := Board.three_looks hseen
  have hj : b.generation = j := by
    rw [hb]
    exact Board.generation_after_take (by omega)
  refine ⟨i, j, k, hij, hjk, hk, ha, hb, hc, ?_, ofItsNumber_iff hb hj hanswer, ?_⟩
  · rw [(routesBody_eq_ok_iff.1 hanswer).2, hj]
    rfl
  · exact ofOneMoment_iff hb (by omega) hanswer

/-- A table with a single route. -/
def single : Table where
  entries := [("foo.example.com", ⟨"foo.example.com", ⟨.str "172.17.0.2", .str "8080", "web"⟩⟩)]
  nodup := by decide

/-- If a table is published between the last two looks only, the routes are those of the publication
with the number of the answer, and yet the time is another one. -/
theorem routes_answer_of_one_moment_iff_late :
    let turns : List Board.Turn := [.publish "2024-05-01T10:00:00Z" single, .look, .look,
      .publish "2024-05-01T10:00:05Z" .empty, .look]
    ∃ a b c answer, (Board.view turns).seen = [a, b, c] ∧ routesBody a b c = .ok answer ∧
      OfItsNumber (Board.issues turns) answer ∧ ¬ OfOneMoment (Board.issues turns) answer := by
  intro turns
  let b : Board := ⟨single, 1, some "2024-05-01T10:00:00Z"⟩
  let c : Board := ⟨.empty, 2, some "2024-05-01T10:00:05Z"⟩
  have hseen : (Board.view turns).seen = [b, b, c] := rfl
  have hanswer : ∃ bodies, b.table.listing.mapM routeBody = .ok bodies :=
    ⟨[_], by simp [Table.listing, Table.sorted, b, single, routeBody]; rfl⟩
  obtain ⟨_, _, _, -, -, -, -, -, -, -, hnumber, hmoment⟩ :=
    routes_answer_of_one_moment_iff hseen (routesBody_eq_ok_iff.2 ⟨hanswer, rfl⟩)
  refine ⟨b, b, c, _, hseen, routesBody_eq_ok_iff.2 ⟨hanswer, rfl⟩, hnumber.2 rfl, fun h => ?_⟩
  have htime := (hmoment.1 h).2
  simp [b, c] at htime

/-- If the table is emptied between the first two looks, the answer shows a route under the number of
the empty table. -/
theorem routes_answer_torn :
    let turns : List Board.Turn := [.publish "2024-05-01T10:00:00Z" single, .look,
      .publish "2024-05-01T10:00:05Z" .empty, .look, .look]
    ∃ a b c answer, (Board.view turns).seen = [a, b, c] ∧ routesBody a b c = .ok answer ∧
      answer.field "generation" = .ok (.int 2) ∧ a.table.listing ≠ [] ∧
      (Board.after ((Board.issues turns).take 2)).table.listing = [] ∧
      ¬ OfItsNumber (Board.issues turns) answer := by
  intro turns
  let a : Board := ⟨single, 1, some "2024-05-01T10:00:00Z"⟩
  let b : Board := ⟨.empty, 2, some "2024-05-01T10:00:05Z"⟩
  have hseen : (Board.view turns).seen = [a, b, b] := rfl
  have hshown : a.table.listing = [⟨"foo.example.com", ⟨.str "172.17.0.2", .str "8080", "web"⟩⟩] := by
    simp [Table.listing, Table.sorted, a, single]
  have hempty : b.table.listing = [] := by simp [Table.listing, Table.sorted, b, Table.empty]
  have hb : b = Board.after ((Board.issues turns).take 2) := rfl
  have hanswer : routesBody a b b = .ok (routesAnswer 2 b.updatedAt a.table.listing) :=
    routesBody_eq_ok_iff.2 ⟨⟨[_], by rw [hshown]; rfl⟩, rfl⟩
  refine ⟨a, b, b, _, hseen, hanswer, rfl, by simp [hshown], hb ▸ hempty, fun h => ?_⟩
  have hsame := (ofItsNumber_iff hb rfl hanswer).1 h
  rw [hshown, hempty] at hsame
  cases hsame

end Api

end HostRouting
