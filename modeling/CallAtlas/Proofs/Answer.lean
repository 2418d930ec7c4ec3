import CallAtlas.Survey

/-!
# Answers and refusals

What a code base is asked gives an answer, a gap, or a refusal that ends everything. `answers` and `isGap` read the
first two off; an answer is `Settled` unless it is of the third kind, and `attempt` goes on exactly with the settled
ones. The lemmas on steps that can fail are stated once here: such a step, or a list of them, succeeds only through its
parts.
-/

namespace CallAtlas

section Steps

variable {ε α β γ : Type}

theorem bind_eq_ok {x : Except ε α} {f : α → Except ε β} {b : β} :
    x >>= f = .ok b ↔ ∃ a, x = .ok a ∧ f a = .ok b := by
  cases x <;> simp [bind, Except.bind]

theorem pure_eq_ok {a b : α} : (pure a : Except ε α) = .ok b ↔ a = b := by simp [pure, Except.pure]

theorem bind_pure_eq_ok {x : Except ε α} {f : α → β} {b : β} :
    (do return f (← x)) = Except.ok b ↔ ∃ a, x = .ok a ∧ f a = b := by
  simp only [bind_eq_ok, pure_eq_ok]

theorem bind_bind_pure_eq_ok {x : Except ε α} {y : α → Except ε β} {f : α → β → γ} {c : γ} :
    (x >>= fun a => do return f a (← y a)) = .ok c ↔ ∃ a b, x = .ok a ∧ y a = .ok b ∧ f a b = c := by
  simp only [bind_eq_ok, pure_eq_ok, exists_and_left]

theorem map_eq_ok {x : Except ε α} {f : α → β} {b : β} : f <$> x = .ok b ↔ ∃ a, x = .ok a ∧ f a = b := by
  cases x <;> simp [Functor.map, Except.map]

theorem mapError_eq_ok {x : Except ε α} {f : ε → γ} {a : α} : x.mapError f = .ok a ↔ x = .ok a := by
  cases x with
  | error e => constructor <;> intro h <;> cases h
  | ok found => constructor <;> intro h <;> cases h <;> rfl

theorem eq_ok_of_toOption {x : Except ε α} {a : α} (h : x.toOption = some a) : x = .ok a := by
  cases x with
  | error e => cases h
  | ok found =>
    cases h
    rfl

/-- What a result is checked for. -/
theorem exists_ok_of_any {x : Except ε α} {check : α → Bool} (h : x.toOption.any check = true) :
    ∃ a, x = .ok a ∧ check a = true := by
  obtain ⟨a, given, checked⟩ := (Option.any_eq_true _ _).1 h
  exact ⟨a, eq_ok_of_toOption given, checked⟩

theorem mapM_cons_eq_ok {f : α → Except ε β} {x : α} {xs : List α} {ys : List β} :
    (x :: xs).mapM f = .ok ys ↔ ∃ y rest, f x = .ok y ∧ xs.mapM f = .ok rest ∧ y :: rest = ys := by
  rw [List.mapM_cons, bind_eq_ok]
  simp only [bind_eq_ok, pure_eq_ok, exists_and_left]

/-- What the results of a list of steps show agrees with the list if it does so step by step. -/
theorem map_of_mapM {f : α → Except ε β} {xs : List α} {ys : List β} (h : xs.mapM f = .ok ys) {shown : β → γ}
    {given : α → γ} (agree : ∀ x y, f x = .ok y → shown y = given x) : ys.map shown = xs.map given := by
  induction xs generalizing ys with
  | nil =>
    cases pure_eq_ok.1 h
    rfl
  | cons x xs ih =>
    obtain ⟨y, rest, first, others, rfl⟩ := mapM_cons_eq_ok.1 h
    rw [List.map_cons, List.map_cons, agree x y first, ih others]

theorem mapM_congr {f g : α → Except ε β} {xs : List α} (h : ∀ x ∈ xs, f x = g x) : xs.mapM f = xs.mapM g := by
  induction xs with
  | nil => rfl
  | cons x xs ih =>
    obtain ⟨first, others⟩ := List.forall_mem_cons.1 h
    rw [List.mapM_cons, List.mapM_cons, first, ih others]

theorem mem_of_mapM {f : α → Except ε β} {xs : List α} {ys : List β} (h : xs.mapM f = .ok ys) {y : β} (mem : y ∈ ys) :
    ∃ x ∈ xs, f x = .ok y := by
  induction xs generalizing ys with
  | nil =>
    cases pure_eq_ok.1 h
    cases mem
  | cons x xs ih =>
    obtain ⟨z, rest, first, others, rfl⟩ := mapM_cons_eq_ok.1 h
    rcases List.mem_cons.1 mem with rfl | mem
    · exact ⟨x, List.mem_cons_self, first⟩
    · obtain ⟨w, hw, e⟩ := ih others mem
      exact ⟨w, List.mem_cons_of_mem _ hw, e⟩

theorem mem_mapM {f : α → Except ε β} {xs : List α} {ys : List β} (h : xs.mapM f = .ok ys) {x : α} {y : β}
    (mem : x ∈ xs) (step : f x = .ok y) : y ∈ ys := by
  induction xs generalizing ys with
  | nil => cases mem
  | cons z xs ih =>
    obtain ⟨first, rest, begun, others, rfl⟩ := mapM_cons_eq_ok.1 h
    rcases List.mem_cons.1 mem with rfl | mem
    · cases step.symm.trans begun
      exact List.mem_cons_self
    · exact List.mem_cons_of_mem _ (ih others mem)

/-- Steps that lead back to where each started from. -/
theorem mapM_map_eq_ok {f : β → Except ε α} {g : α → β} {xs : List α} (h : ∀ x ∈ xs, f (g x) = .ok x) :
    (xs.map g).mapM f = .ok xs := by
  induction xs with
  | nil => rfl
  | cons x xs ih =>
    obtain ⟨first, others⟩ := List.forall_mem_cons.1 h
    exact mapM_cons_eq_ok.2 ⟨x, xs, first, ih others, rfl⟩

/-- Why a step has no result, if so. -/
def faultOf? : Except ε α → Option ε
  | .error fault => some fault
  | .ok _ => none

theorem faultOf?_eq_some_iff {x : Except ε α} {fault : ε} : faultOf? x = some fault ↔ x = .error fault := by
  cases x <;> simp [faultOf?]

theorem faultOf?_eq_none_iff {x : Except ε α} : faultOf? x = none ↔ ∃ a, x = .ok a := by
  cases x <;> simp [faultOf?]

/-- A step fails before what comes after it, which may fail for a reason of its own. -/
theorem faultOf?_bind {x : Except ε α} {f : α → Except ε β} {later : Option ε} (after : ∀ a, faultOf? (f a) = later) :
    faultOf? (x >>= f) = (faultOf? x).or later := by
  cases x with
  | error fault => rfl
  | ok a => exact after a

theorem faultOf?_bind_pure {x : Except ε α} {f : α → β} : faultOf? (do return f (← x)) = faultOf? x := by
  cases x <;> rfl

/-- A list of steps fails by the first that does. -/
theorem faultOf?_mapM (f : α → Except ε β) (xs : List α) :
    faultOf? (xs.mapM f) = xs.findSome? fun x => faultOf? (f x) := by
  induction xs with
  | nil => rfl
  | cons x xs ih =>
    rw [List.mapM_cons, List.findSome?_cons, ← ih, faultOf?_bind fun _ => faultOf?_bind_pure]
    cases faultOf? (f x) <;> rfl

/-- A list of steps succeeds exactly if every step does. -/
theorem exists_mapM_iff {f : α → Except ε β} {xs : List α} :
    (∃ ys, xs.mapM f = .ok ys) ↔ ∀ x ∈ xs, ∃ y, f x = .ok y := by
  rw [← faultOf?_eq_none_iff, faultOf?_mapM, List.findSome?_eq_none_iff]
  simp only [faultOf?_eq_none_iff]

/-- Steps that keep what they start from give what the steps alone give. -/
theorem map_snd_mapM (f : α → Except ε β) (xs : List α) :
    (·.map (·.2)) <$> (xs.mapM fun x => do return (x, ← f x)) = xs.mapM f := by
  induction xs with
  | nil => rfl
  | cons x xs ih =>
    rw [List.mapM_cons, List.mapM_cons, ← ih]
    cases f x with
    | error fault => rfl
    | ok y => cases xs.mapM fun x => do return (x, ← f x) <;> rfl

theorem foldlM_cons_eq_ok {f : β → α → Except ε β} {x : α} {xs : List α} {b e : β} :
    (x :: xs).foldlM f b = .ok e ↔ ∃ next, f b x = .ok next ∧ xs.foldlM f next = .ok e := by
  rw [List.foldlM_cons, bind_eq_ok]

/-- What every step of a run keeps, the run keeps. -/
theorem foldlM_keeps {f : β → α → Except ε β} {holds : β → Prop} {xs : List α}
    (step : ∀ b e, ∀ x ∈ xs, holds b → f b x = .ok e → holds e) {b e : β} (start : holds b)
    (run : xs.foldlM f b = .ok e) : holds e := by
  induction xs generalizing b with
  | nil =>
    cases pure_eq_ok.1 run
    exact start
  | cons x xs ih =>
    obtain ⟨next, first, others⟩ := foldlM_cons_eq_ok.1 run
    refine ih (fun b e y mem => step b e y (List.mem_cons_of_mem _ mem)) ?_ others
    exact step b next x List.mem_cons_self start first

end Steps

variable {α : Type}

/-- What is answered; nothing where the answer is refused. -/
def answers (answer : Except Refusal (List α)) : List α :=
  match answer with
  | .ok found => found
  | .error _ => []

/-- There is an answer. -/
def isAnswer (answer : Except Refusal α) : Bool :=
  match answer with
  | .ok _ => true
  | .error _ => false

/-- The answer is missing by a gap. -/
def isGap (answer : Except Refusal α) : Bool :=
  match answer with
  | .error (.gap _) => true
  | _ => false

/-- There is an answer, or it is missing by a gap. -/
def Settled (answer : Except Refusal α) : Prop := ∀ fault, answer ≠ .error (.unwritable fault)

theorem mem_answers_iff {answer : Except Refusal (List α)} {a : α} :
    a ∈ answers answer ↔ ∃ found, answer = .ok found ∧ a ∈ found := by
  cases answer <;> simp [answers]

theorem isAnswer_iff {answer : Except Refusal α} : isAnswer answer = true ↔ ∃ a, answer = .ok a := by
  cases answer <;> simp [isAnswer]

theorem settled_iff {answer : Except Refusal α} : Settled answer ↔ isAnswer answer = true ∨ isGap answer = true := by
  rcases answer with (reason | fault) | a <;> simp [Settled, isAnswer, isGap]

instance (answer : Except Refusal α) : Decidable (Settled answer) := decidable_of_iff _ settled_iff.symm

/-- The ways in which an attempt goes on. -/
theorem attempt_eq_ok {answer : Except Refusal α} {result : Except String α} (h : attempt answer = .ok result) :
    (∃ a, answer = .ok a ∧ result = .ok a) ∨ ∃ reason, answer = .error (.gap reason) ∧ result = .error reason := by
  rcases answer with (reason | fault) | a
  · cases h
    exact Or.inr ⟨reason, rfl, rfl⟩
  · cases h
  · cases h
    exact Or.inl ⟨a, rfl, rfl⟩

theorem exists_attempt_iff {answer : Except Refusal α} : (∃ result, attempt answer = .ok result) ↔ Settled answer := by
  rcases answer with (reason | fault) | a <;> simp [attempt, Settled]

end CallAtlas
