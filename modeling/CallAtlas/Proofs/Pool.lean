import CallAtlas.Proofs.Answer
import Mathlib.Data.Finset.Card
import Mathlib.Data.Fintype.Basic
import Mathlib.Logic.Relation

/-!
# Looking at several documents at a time

A pool of workers does a list of tasks. A worker takes any task that is waiting and delivers its result at some later
time, so tasks are begun and ended in any order; the one who asked collects the results in the order of the tasks, stops
at the first that is a failure, and then cancels what is still waiting. Each delivered result is that of its task and
what is collected is a front part of the serial results (`Sound`), which every step keeps; so a run that has come to its
end has the result of doing the tasks one after the other, failures included. No run is stuck before that or goes on for
ever, since every step uses something up (`left`).
-/

namespace CallAtlas.Pool

/-- The state of a pool. Tasks are known by their place in the list. -/
structure State (workers : Nat) (β ε : Type) where
  /-- The tasks that nobody has taken. -/
  waiting : List Nat
  /-- The task that each worker is at. -/
  hands : Fin workers → Option Nat
  /-- The results that were delivered. -/
  delivered : Nat → Option (Except ε β)
  /-- What was collected so far, in the order of the tasks. -/
  collected : List β
  /-- The failure that was met on collecting. -/
  failure : Option ε

variable {α β ε : Type} {workers : Nat}

/-- What can happen next while the tasks are done. -/
inductive Step (tasks : List α) (work : α → Except ε β) : State workers β ε → State workers β ε → Prop where
  /-- An idle worker takes a task. -/
  | take (s : State workers β ε) (worker : Fin workers) (place : Nat) (idle : s.hands worker = none)
      (mem : place ∈ s.waiting) :
      Step tasks work s
        { s with waiting := s.waiting.erase place, hands := Function.update s.hands worker (some place) }
  /-- A worker delivers the result of its task. -/
  | deliver (s : State workers β ε) (worker : Fin workers) (place : Nat) (task : α)
      (busy : s.hands worker = some place) (here : tasks[place]? = some task) :
      Step tasks work s
        { s with
          hands := Function.update s.hands worker none
          delivered := Function.update s.delivered place (some (work task)) }
  /-- The next result is there and is collected. -/
  | collect (s : State workers β ε) (result : β) (going : s.failure = none)
      (next : s.delivered s.collected.length = some (.ok result)) :
      Step tasks work s { s with collected := s.collected ++ [result] }
  /-- The next result is there and is a failure. -/
  | fail (s : State workers β ε) (fault : ε) (going : s.failure = none)
      (next : s.delivered s.collected.length = some (.error fault)) :
      Step tasks work s { s with failure := some fault }
  /-- After a failure a waiting task is cancelled. -/
  | cancel (s : State workers β ε) (place : Nat) (failed : s.failure ≠ none) (mem : place ∈ s.waiting) :
      Step tasks work s { s with waiting := s.waiting.erase place }

/-- Nothing was taken yet. -/
def start (tasks : List α) : State workers β ε :=
  { waiting := List.range tasks.length, hands := fun _ => none, delivered := fun _ => none, collected := [],
    failure := none }

/-- The state can come about. -/
def Reachable (tasks : List α) (work : α → Except ε β) (s : State workers β ε) : Prop :=
  Relation.ReflTransGen (Step tasks work) (start tasks) s

theorem reachable_start (tasks : List α) (work : α → Except ε β) :
    Reachable tasks work (start tasks : State workers β ε) := Relation.ReflTransGen.refl

namespace State

/-- The run is over: all is collected or there was a failure, and no worker has anything to do. -/
structure IsOver (tasks : List α) (s : State workers β ε) : Prop where
  none_waiting : s.waiting = []
  all_idle : ∀ worker, s.hands worker = none
  collected : s.failure ≠ none ∨ s.collected.length = tasks.length

/-- What a run gives that is over. -/
def result (s : State workers β ε) : Except ε (List β) :=
  match s.failure with
  | some fault => .error fault
  | none => .ok s.collected

end State

/-! ## What every step keeps -/

/-- The state agrees with doing the tasks one after the other. -/
structure Sound (tasks : List α) (work : α → Except ε β) (s : State workers β ε) : Prop where
  delivered : ∀ place result, s.delivered place = some result → ∃ task, tasks[place]? = some task ∧ work task = result
  collected : (tasks.take s.collected.length).mapM work = .ok s.collected
  failure : ∀ fault, s.failure = some fault →
    ∃ task, tasks[s.collected.length]? = some task ∧ work task = .error fault
  waiting : ∀ place ∈ s.waiting, place < tasks.length
  hands : ∀ worker place, s.hands worker = some place → place < tasks.length
  /-- No task is lost: before a failure each is waiting, taken or delivered. -/
  kept : s.failure = none → ∀ place < tasks.length,
    place ∈ s.waiting ∨ (∃ worker, s.hands worker = some place) ∨ ∃ result, s.delivered place = some result

theorem update_eq_some {ι γ : Type} [DecidableEq ι] {f : ι → Option γ} {i j : ι} {x : Option γ} {y : γ} :
    Function.update f i x j = some y ↔ (j = i ∧ x = some y) ∨ (j ≠ i ∧ f j = some y) := by
  by_cases same : j = i
  · subst same
    simp
  · simp [same]

theorem mapM_append_ok {f : α → Except ε β} {xs ys : List α} {bs cs : List β} (first : xs.mapM f = .ok bs)
    (second : ys.mapM f = .ok cs) : (xs ++ ys).mapM f = .ok (bs ++ cs) := by
  rw [List.mapM_append, first, second]
  rfl

/-- A list of steps fails with the first failure in it. -/
theorem mapM_append_error {f : α → Except ε β} {xs ys : List α} {bs : List β} {x : α} {fault : ε}
    (before : xs.mapM f = .ok bs) (fails : f x = .error fault) : (xs ++ x :: ys).mapM f = .error fault := by
  rw [List.mapM_append, before, List.mapM_cons, fails]
  rfl

theorem take_succ_of_get {tasks : List α} {place : Nat} {task : α} (here : tasks[place]? = some task) :
    tasks.take (place + 1) = tasks.take place ++ [task] := by
  rw [List.take_add_one, here]
  rfl

theorem sound_start (tasks : List α) (work : α → Except ε β) : Sound tasks work (start tasks : State workers β ε) where
  delivered _ _ h := by cases h
  collected := by
    rw [start, List.length_nil, List.take_zero]
    rfl
  failure _ h := by cases h
  waiting _ mem := List.mem_range.1 mem
  hands _ _ h := by cases h
  kept _ _ inside := Or.inl (List.mem_range.2 inside)

theorem Sound.step {tasks : List α} {work : α → Except ε β} {s t : State workers β ε} (h : Sound tasks work s)
    (step : Step tasks work s t) : Sound tasks work t := by
  cases step with
  | take worker place idle mem =>
    refine { h with waiting := ?_, hands := ?_, kept := ?_ }
    · exact fun other rest => h.waiting other (List.mem_of_mem_erase rest)
    · intro other task taken
      rcases update_eq_some.1 taken with ⟨-, same⟩ | ⟨-, old⟩
      · cases same
        exact h.waiting place mem
      · exact h.hands other task old
    · intro going other inside
      by_cases same : other = place
      · exact Or.inr (Or.inl ⟨worker, update_eq_some.2 (Or.inl ⟨rfl, congrArg some same.symm⟩)⟩)
      · rcases h.kept going other inside with rest | ⟨holder, taken⟩ | done
        · exact Or.inl ((List.mem_erase_of_ne same).2 rest)
        · have apart : holder ≠ worker := by
            rintro rfl
            rw [idle] at taken
            cases taken
          exact Or.inr (Or.inl ⟨holder, update_eq_some.2 (Or.inr ⟨apart, taken⟩)⟩)
        · exact Or.inr (Or.inr done)
  | deliver worker place task busy here =>
    refine { h with delivered := ?_, hands := ?_, kept := ?_ }
    · intro other result given
      rcases update_eq_some.1 given with ⟨rfl, same⟩ | ⟨-, old⟩
      · cases same
        exact ⟨task, here, rfl⟩
      · exact h.delivered other result old
    · intro other taken held
      rcases update_eq_some.1 held with ⟨-, none⟩ | ⟨-, old⟩
      · cases none
      · exact h.hands other taken old
    · intro going other inside
      by_cases same : other = place
      · exact Or.inr (Or.inr ⟨work task, update_eq_some.2 (Or.inl ⟨same, rfl⟩)⟩)
      · rcases h.kept going other inside with rest | ⟨holder, taken⟩ | ⟨result, done⟩
        · exact Or.inl rest
        · have apart : holder ≠ worker := by
            rintro rfl
            rw [busy] at taken
            cases taken
            exact same rfl
          exact Or.inr (Or.inl ⟨holder, update_eq_some.2 (Or.inr ⟨apart, taken⟩)⟩)
        · exact Or.inr (Or.inr ⟨result, update_eq_some.2 (Or.inr ⟨same, done⟩)⟩)
  | collect result going next =>
    obtain ⟨task, here, worked⟩ := h.delivered _ _ next
    refine { h with collected := ?_, failure := ?_ }
    · have last : [task].mapM work = .ok [result] := by
        rw [List.mapM_cons, worked]
        rfl
      rw [List.length_append, List.length_singleton, take_succ_of_get here]
      exact mapM_append_ok h.collected last
    · intro fault failed
      rw [going] at failed
      cases failed
  | fail fault going next =>
    refine { h with failure := ?_, kept := ?_ }
    · intro other failed
      cases failed
      exact h.delivered _ _ next
    · intro going
      cases going
  | cancel place failed mem =>
    refine { h with waiting := ?_, kept := ?_ }
    · exact fun other rest => h.waiting other (List.mem_of_mem_erase rest)
    · exact fun going => absurd going failed

theorem sound_of_reachable {tasks : List α} {work : α → Except ε β} {s : State workers β ε}
    (reached : Reachable tasks work s) : Sound tasks work s := by
  induction reached with
  | refl => exact sound_start tasks work
  | tail _ step ih => exact ih.step step

/-- **A run that is over has the serial result.** -/
theorem Sound.result_eq {tasks : List α} {work : α → Except ε β} {s : State workers β ε} (h : Sound tasks work s)
    (ended : s.IsOver tasks) : s.result = tasks.mapM work := by
  unfold State.result
  cases failed : s.failure with
  | some fault =>
    obtain ⟨task, here, fails⟩ := h.failure fault failed
    have split : tasks = tasks.take s.collected.length ++ task :: tasks.drop (s.collected.length + 1) := by
      rw [← List.singleton_append, ← List.append_assoc, ← take_succ_of_get here, List.take_append_drop]
    rw [split]
    exact (mapM_append_error h.collected fails).symm
  | none =>
    have all : s.collected.length = tasks.length := by
      rcases ended.collected with failure | all
      · exact absurd failed failure
      · exact all
    have collected := h.collected
    rw [all, List.take_length] at collected
    exact collected.symm

/-! ## Runs go on and end -/

/-- The workers that are at a task. -/
def busy (s : State workers β ε) : Finset (Fin workers) := Finset.univ.filter fun worker => (s.hands worker).isSome

/-- What is left to be done: a task waiting counts for its taking and its delivery. -/
def left (tasks : List α) (s : State workers β ε) : Nat :=
  2 * s.waiting.length + (busy s).card + (tasks.length - s.collected.length) + if s.failure = none then 1 else 0

theorem card_busy_take {hands : Fin workers → Option Nat} {worker : Fin workers} (idle : hands worker = none)
    (place : Nat) :
    (Finset.univ.filter fun w => (Function.update hands worker (some place) w).isSome).card =
      (Finset.univ.filter fun w => (hands w).isSome).card + 1 := by
  have more : (Finset.univ.filter fun w => (Function.update hands worker (some place) w).isSome) =
      insert worker (Finset.univ.filter fun w => (hands w).isSome) := by
    ext w
    by_cases same : w = worker
    · simp [same]
    · simp [same, Function.update_of_ne]
  rw [more, Finset.card_insert_of_notMem (by simp [idle])]

theorem card_busy_deliver {hands : Fin workers → Option Nat} {worker : Fin workers} {place : Nat}
    (held : hands worker = some place) :
    (Finset.univ.filter fun w => (Function.update hands worker none w).isSome).card + 1 =
      (Finset.univ.filter fun w => (hands w).isSome).card := by
  have fewer : (Finset.univ.filter fun w => (Function.update hands worker none w).isSome) =
      (Finset.univ.filter fun w => (hands w).isSome).erase worker := by
    ext w
    by_cases same : w = worker
    · simp [same]
    · simp [same, Function.update_of_ne]
  rw [fewer, Finset.card_erase_add_one (by simp [held])]

/-- Every step uses something up. -/
theorem Sound.left_lt {tasks : List α} {work : α → Except ε β} {s t : State workers β ε} (h : Sound tasks work s)
    (step : Step tasks work s t) : left tasks t < left tasks s := by
  have erased : ∀ place ∈ s.waiting, (s.waiting.erase place).length + 1 = s.waiting.length := by
    intro place mem
    have nonempty : 0 < s.waiting.length := List.length_pos_of_mem mem
    rw [List.length_erase_of_mem mem]
    omega
  unfold left busy
  cases step with
  | take worker place idle mem =>
    have waiting := erased place mem
    have hands := card_busy_take idle place
    dsimp only
    omega
  | deliver worker place task busy here =>
    have hands := card_busy_deliver busy
    dsimp only
    omega
  | collect result going next =>
    obtain ⟨task, here, -⟩ := h.delivered _ _ next
    have inside : s.collected.length < tasks.length := (List.getElem?_eq_some_iff.1 here).1
    dsimp only
    rw [List.length_append, List.length_singleton]
    omega
  | fail fault going next => simp [going]
  | cancel place failed mem =>
    have waiting := erased place mem
    dsimp only
    omega

/-- A run that is not over goes on, if there is a worker at all. -/
theorem Sound.goes_on {tasks : List α} {work : α → Except ε β} {s : State workers β ε} (h : Sound tasks work s)
    (staffed : 0 < workers) (unfinished : ¬ s.IsOver tasks) : ∃ t, Step tasks work s t := by
  by_cases idle : ∀ worker, s.hands worker = none
  · cases waiting : s.waiting with
    | cons place rest => exact ⟨_, .take s ⟨0, staffed⟩ place (idle _) (by simp [waiting])⟩
    | nil =>
      have going : s.failure = none := by
        by_contra failed
        exact unfinished ⟨waiting, idle, Or.inl failed⟩
      -- all tasks are delivered, so the next one can be collected or has failed
      have inside : s.collected.length < tasks.length := by
        have other : s.collected.length ≠ tasks.length := fun all => unfinished ⟨waiting, idle, Or.inr all⟩
        have shape : (s.collected.map fun _ => ()) = (tasks.take s.collected.length).map fun _ => () :=
          map_of_mapM h.collected fun _ _ _ => rfl
        have size := congrArg List.length shape
        simp only [List.length_map, List.length_take] at size
        omega
      rcases h.kept going _ inside with rest | ⟨worker, held⟩ | ⟨result, next⟩
      · rw [waiting] at rest
        cases rest
      · rw [idle worker] at held
        cases held
      · cases result with
        | ok result => exact ⟨_, .collect s result going next⟩
        | error fault => exact ⟨_, .fail s fault going next⟩
  · obtain ⟨worker, taken⟩ := not_forall.1 idle
    obtain ⟨place, held⟩ := Option.ne_none_iff_exists'.1 taken
    obtain ⟨task, here⟩ : ∃ task, tasks[place]? = some task := ⟨_, List.getElem?_eq_getElem (h.hands worker place held)⟩
    exact ⟨_, .deliver s worker place task held here⟩

/-- No run goes on for ever. -/
theorem ends (tasks : List α) (work : α → Except ε β) :
    ¬ ∃ run : Nat → State workers β ε, run 0 = start tasks ∧ ∀ n, Step tasks work (run n) (run (n + 1)) := by
  rintro ⟨run, first, steps⟩
  have sound : ∀ n, Sound tasks work (run n) := by
    intro n
    induction n with
    | zero => exact first ▸ sound_start tasks work
    | succ n ih => exact ih.step (steps n)
  have fewer : ∀ n, left tasks (run n) + n ≤ left tasks (run 0) := by
    intro n
    induction n with
    | zero => exact le_refl _
    | succ n ih =>
      have less := (sound n).left_lt (steps n)
      omega
  have last := fewer (left tasks (run 0) + 1)
  omega

/-- From every state of a run its end can be reached. -/
theorem exists_over {tasks : List α} {work : α → Except ε β} (staffed : 0 < workers) {s : State workers β ε}
    (reached : Reachable tasks work s) : ∃ t : State workers β ε, Reachable tasks work t ∧ t.IsOver tasks := by
  induction size : left tasks s using Nat.strong_induction_on generalizing s with
  | h size' ih =>
    by_cases ended : s.IsOver tasks
    · exact ⟨s, reached, ended⟩
    · have sound := sound_of_reachable reached
      obtain ⟨t, step⟩ := sound.goes_on staffed ended
      exact ih _ (size ▸ sound.left_lt step) (reached.tail step) rfl

/-! ## One at a time or several -/

/-- What doing the tasks can give with `workers` at a time: one after the other if there is only one worker or hardly
anything to do, and otherwise what a pool gives at the end of one of its runs. -/
inductive Gives (workers : Int) (tasks : List α) (work : α → Except ε β) : Except ε (List β) → Prop where
  | serial (few : effectiveWorkers workers = 1 ∨ tasks.length < 2) : Gives workers tasks work (tasks.mapM work)
  | pooled (many : ¬ (effectiveWorkers workers = 1 ∨ tasks.length < 2)) (s : State (effectiveWorkers workers).toNat β ε)
      (reached : Reachable tasks work s) (ended : s.IsOver tasks) : Gives workers tasks work s.result

/-- How many workers there are does not show in the result, and they get it done. -/
structure Agrees (workers : Int) (tasks : List α) (work : α → Except ε β) : Prop where
  results : ∀ result, Gives workers tasks work result ↔ result = tasks.mapM work
  /-- If tasks fail, the failure is that of the first of them. -/
  firstFault : ∀ before task after fault, tasks = before ++ task :: after → (∀ t ∈ before, ∃ b, work t = .ok b) →
    work task = .error fault → ∀ result, Gives workers tasks work result → result = .error fault
  goesOn : ∀ s : State (effectiveWorkers workers).toNat β ε, Reachable tasks work s → ¬ s.IsOver tasks →
    ∃ t, Step tasks work s t
  ends : ¬ ∃ run : Nat → State (effectiveWorkers workers).toNat β ε,
    run 0 = start tasks ∧ ∀ n, Step tasks work (run n) (run (n + 1))

theorem effectiveWorkers_pos (workers : Int) : 0 < (effectiveWorkers workers).toNat := by
  unfold effectiveWorkers
  omega

theorem gives_iff {workers : Int} {tasks : List α} {work : α → Except ε β} {result : Except ε (List β)} :
    Gives workers tasks work result ↔ result = tasks.mapM work := by
  constructor
  · intro h
    cases h with
    | serial few => rfl
    | pooled many s reached ended => exact (sound_of_reachable reached).result_eq ended
  · rintro rfl
    by_cases few : effectiveWorkers workers = 1 ∨ tasks.length < 2
    · exact .serial few
    · obtain ⟨s, reached, ended⟩ := exists_over (effectiveWorkers_pos workers) (reachable_start tasks work)
      rw [← (sound_of_reachable reached).result_eq ended]
      exact .pooled few s reached ended

theorem agrees (workers : Int) (tasks : List α) (work : α → Except ε β) : Agrees workers tasks work where
  results _ := gives_iff
  firstFault before task after fault split done fails result given := by
    obtain ⟨found, run⟩ := exists_mapM_iff.2 done
    rw [gives_iff.1 given, split]
    exact mapM_append_error run fails
  goesOn _ reached unfinished := (sound_of_reachable reached).goes_on (effectiveWorkers_pos workers) unfinished
  ends := ends tasks work

end CallAtlas.Pool

namespace CallAtlas.Survey

/-- What a survey of a code base can give if `workers` documents are looked at at a time. -/
inductive Builds (r : CodeBase) (workers : Int) : Except Source.RenderFault Survey → Prop where
  | unlisted (fault : Source.RenderFault) (listing : listDocuments r r.projects = .error fault) :
      Builds r workers (.error fault)
  | listed (documents : List Document) (skipped : List (Project × String))
      (outcomes : Except Source.RenderFault (List Outcome))
      (listing : listDocuments r r.projects = .ok (documents, skipped))
      (extracted : Pool.Gives workers documents (extract r ⟨r.assemblies⟩) outcomes) :
      Builds r workers (outcomes.map (merge ⟨r.assemblies⟩ skipped))

/-- A survey looks at the documents one after the other and merges what it found. -/
theorem ofCodeBase_eq (r : CodeBase) :
    ofCodeBase r = (listDocuments r r.projects).bind fun listing =>
      (listing.1.mapM (extract r ⟨r.assemblies⟩)).map (merge ⟨r.assemblies⟩ listing.2) := by
  unfold ofCodeBase
  cases listDocuments r r.projects with
  | error fault => rfl
  | ok listing => cases listing.1.mapM (extract r ⟨r.assemblies⟩) <;> rfl

theorem builds_iff {r : CodeBase} {workers : Int} {result : Except Source.RenderFault Survey} :
    Builds r workers result ↔ result = ofCodeBase r := by
  rw [ofCodeBase_eq]
  constructor
  · intro h
    cases h with
    | unlisted fault listing =>
      rw [listing]
      rfl
    | listed documents skipped outcomes listing extracted =>
      rw [listing, Pool.gives_iff.1 extracted]
      rfl
  · rintro rfl
    cases listing : listDocuments r r.projects with
    | error fault => exact .unlisted fault listing
    | ok listed =>
      obtain ⟨documents, skipped⟩ := listed
      exact .listed documents skipped _ listing (Pool.gives_iff.2 rfl)

/-- **The workers do not show**: with any number of workers and however they share out the documents, every complete run
finds what looking at one document after the other finds, whatever way of looking it is and whatever failures it knows;
the first document that fails decides. So a survey of a code base is the same for all numbers of workers. -/
theorem workers_do_not_show (workers : Int) :
    (∀ {ε : Type} (look : Document → Except ε Outcome) (documents : List Document),
        Pool.Agrees workers documents look) ∧
      ∀ r result, Builds r workers result ↔ result = ofCodeBase r :=
  ⟨fun look documents => Pool.agrees workers documents look, fun _ _ => builds_iff⟩

/-! Three documents of which the last two fail, each in its own way. -/

namespace Sample

/-- A document that stands alone. -/
def alone (path : String) : Document := { path, project := default }

/-- Fails at the documents with two letters, by their paths. -/
def look (d : Document) : Except String Outcome :=
  if d.path.length = 1 then .ok (.skipped d "not read") else .error d.path

end Sample

/-- However five workers share out the documents, the failure is that of the second one. -/
theorem workers_do_not_show_sample :
    (∃ result, Pool.Gives 5 [Sample.alone "a", Sample.alone "bb", Sample.alone "cc"] Sample.look result) ∧
      ∀ result, Pool.Gives 5 [Sample.alone "a", Sample.alone "bb", Sample.alone "cc"] Sample.look result →
        result = .error "bb" := by
  have agrees := (workers_do_not_show 5).1 Sample.look [Sample.alone "a", Sample.alone "bb", Sample.alone "cc"]
  refine ⟨⟨_, (agrees.results _).2 rfl⟩, ?_⟩
  refine agrees.firstFault [Sample.alone "a"] (Sample.alone "bb") [Sample.alone "cc"] "bb" rfl ?_ (by decide)
  intro d mem
  cases List.mem_singleton.1 mem
  exact ⟨.skipped (Sample.alone "a") "not read", by decide⟩

end CallAtlas.Survey
