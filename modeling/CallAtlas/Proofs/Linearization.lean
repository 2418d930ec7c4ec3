import CallAtlas.Proofs.Merging
import CallAtlas.Workspace.Load
import Mathlib.Data.List.Perm.Subperm
import Mathlib.Logic.Relation

/-!
# The merged orders of classes

`HasOrder` says which order a class has, without a bound, without a memory of earlier answers and without a list of the
classes on the way: the merge of the orders of its bases and of the list of the bases. A class has at most one such
order, and none if it stands below a cycle. The search finds it exactly if there is one: the classes on the way to a
class are distinct and all below it, so the bound on the rounds is never met, and a class that is met again lies on a
cycle. What is remembered is such an order each time, also after a search that failed, so a memory that is shared
between searches changes no answer.
-/

namespace CallAtlas.Workspace.Hierarchy

/-- Every base is a class of the hierarchy. -/
def IsClosed (h : Hierarchy) : Prop := ∀ row ∈ h.rows, ∀ base ∈ row.2, h.has base = true

instance (h : Hierarchy) : Decidable h.IsClosed :=
  inferInstanceAs (Decidable (∀ row ∈ h.rows, ∀ base ∈ row.2, h.has base = true))

/-- The second class is a base of the first. -/
def Extends (h : Hierarchy) (name base : String) : Prop := base ∈ h.bases name

/-- The second class is the first one or stands above it. -/
def Reaches (h : Hierarchy) : String → String → Prop := Relation.ReflTransGen h.Extends

/-- The class stands above itself. -/
def IsCircular (h : Hierarchy) (name : String) : Prop := Relation.TransGen h.Extends name name

variable {h : Hierarchy} {name base : String} {order : List String} {known : Orders}

theorem has_of_mem_bases (closed : h.IsClosed) (mem : base ∈ h.bases name) : h.has base = true := by
  unfold bases at mem
  cases found : h.rows.lookup name with
  | none =>
    rw [found] at mem
    cases mem
  | some bases =>
    rw [found] at mem
    obtain ⟨before, after, rows, -⟩ := List.lookup_eq_some_iff.1 found
    have row : (name, bases) ∈ h.rows := by
      rw [rows]
      exact List.mem_append_right before List.mem_cons_self
    exact closed _ row base mem

theorem has_of_reaches (closed : h.IsClosed) (start : h.has name = true) (reached : h.Reaches name base) :
    h.has base = true := by
  induction reached with
  | refl => exact start
  | tail _ last _ => exact has_of_mem_bases closed last

/-! ## The order of a class -/

/-- The order of a class: the class, and then the merge of the orders of its bases and of the list of the bases. -/
inductive HasOrder (h : Hierarchy) : String → List String → Prop
  | intro {name : String} {rest : List String} (orders : String → List String)
      (above : ∀ base ∈ h.bases name, HasOrder h base (orders base))
      (merged : merge ((h.bases name).map orders ++ [h.bases name]) = some rest) :
      HasOrder h name (name :: rest)

namespace HasOrder

theorem unique (first : h.HasOrder name order) {other : List String} (second : h.HasOrder name other) :
    order = other := by
  induction first generalizing other with
  | intro orders _ merged ih =>
    cases second with
    | intro orders' above' merged' =>
      have same : (h.bases _).map orders = (h.bases _).map orders' :=
        List.map_congr_left fun base mem => ih base mem (above' base mem)
      rw [same] at merged
      cases merged.symm.trans merged'
      rfl

theorem head?_eq (ordered : h.HasOrder name order) : order.head? = some name := by
  cases ordered
  rfl

theorem mem_self (ordered : h.HasOrder name order) : name ∈ order := by
  cases ordered
  exact List.mem_cons_self

/-- Behind the class stands a merge of what it extends. -/
theorem exists_isMerge (ordered : h.HasOrder name order) :
    ∃ rest orders, order = name :: rest ∧ (∀ base ∈ h.bases name, h.HasOrder base (orders base)) ∧
      IsMerge ((h.bases name).map orders ++ [h.bases name]) rest := by
  cases ordered with
  | intro orders above merged => exact ⟨_, orders, rfl, above, isMerge_of_merge merged⟩

/-- The orders of the bases, and their list, have the names that the orders of the bases have. -/
theorem mem_merged_iff {orders : String → List String} {rest : List String}
    (above : ∀ base ∈ h.bases name, h.HasOrder base (orders base))
    (isMerge : IsMerge ((h.bases name).map orders ++ [h.bases name]) rest) {other : String} :
    other ∈ rest ↔ ∃ base ∈ h.bases name, other ∈ orders base := by
  rw [isMerge.mem_iff]
  constructor
  · rintro ⟨given, mem, inside⟩
    rcases List.mem_append.1 mem with listed | listed
    · obtain ⟨base, extended, rfl⟩ := List.mem_map.1 listed
      exact ⟨base, extended, inside⟩
    · have list : given = h.bases name := List.mem_singleton.1 listed
      subst list
      exact ⟨other, inside, (above other inside).mem_self⟩
  · rintro ⟨base, mem, inside⟩
    exact ⟨orders base, List.mem_append_left _ (List.mem_map_of_mem mem), inside⟩

/-- A class that has an order does not stand above itself. -/
theorem not_isCircular (ordered : h.HasOrder name order) : ¬ h.IsCircular name := by
  induction ordered with
  | intro orders _ _ ih =>
    intro circle
    obtain ⟨base, first, back⟩ := Relation.TransGen.head'_iff.1 circle
    -- a cycle through the class is one through the base that it starts with
    exact ih base first (Relation.TransGen.tail' back first)

theorem mem_iff_reaches (ordered : h.HasOrder name order) {other : String} : other ∈ order ↔ h.Reaches name other := by
  induction ordered with
  | @intro name rest orders above merged ih =>
    have inside : other ∈ rest ↔ ∃ base ∈ h.bases name, other ∈ orders base :=
      mem_merged_iff above (isMerge_of_merge merged)
    have unfolded : h.Reaches name other ↔ other = name ∨ ∃ base ∈ h.bases name, h.Reaches base other := by
      refine Relation.ReflTransGen.cases_head_iff.trans ?_
      exact or_congr eq_comm Iff.rfl
    rw [unfolded, List.mem_cons, inside]
    refine or_congr Iff.rfl (exists_congr fun base => and_congr_right fun mem => ?_)
    exact ih base mem

theorem nodup (ordered : h.HasOrder name order) : order.Nodup := by
  have circular := ordered.not_isCircular
  obtain ⟨rest, orders, rfl, above, isMerge⟩ := ordered.exists_isMerge
  refine List.nodup_cons.2 ⟨?_, isMerge.nodup⟩
  intro again
  obtain ⟨base, mem, inside⟩ := (mem_merged_iff above isMerge).1 again
  have back : h.Reaches base name := (above base mem).mem_iff_reaches.1 inside
  exact circular (Relation.TransGen.head' mem back)

/-- What stands above a class has an order too, and the order of the class keeps to it. -/
theorem exists_sublist (ordered : h.HasOrder name order) {other : String} (mem : other ∈ order) :
    ∃ inner, h.HasOrder other inner ∧ inner.Sublist order := by
  induction ordered with
  | @intro name rest orders above merged ih =>
    rcases List.mem_cons.1 mem with rfl | mem
    · exact ⟨_, .intro orders above merged, List.Sublist.refl _⟩
    · have isMerge := isMerge_of_merge merged
      obtain ⟨base, extended, inside⟩ := (mem_merged_iff above isMerge).1 mem
      obtain ⟨inner, ordered, fits⟩ := ih base extended inside
      have kept := isMerge.keeps (orders base) (List.mem_append_left _ (List.mem_map_of_mem extended))
      exact ⟨inner, ordered, (fits.trans kept).cons name⟩

/-- The bases of a class come behind it, in their order. -/
theorem bases_sublist (ordered : h.HasOrder name order) : (name :: h.bases name).Sublist order := by
  obtain ⟨rest, orders, rfl, -, isMerge⟩ := ordered.exists_isMerge
  have kept := isMerge.keeps (h.bases name) (List.mem_append_right _ (List.mem_singleton.2 rfl))
  exact kept.cons_cons name

theorem of_reaches (ordered : h.HasOrder name order) {other : String} (reached : h.Reaches name other) :
    ∃ inner, h.HasOrder other inner := by
  obtain ⟨inner, has, -⟩ := ordered.exists_sublist (ordered.mem_iff_reaches.2 reached)
  exact ⟨inner, has⟩

end HasOrder

/-! ## Classes without an order -/

/-- The bases of the class have orders, by the measure of `isOrder`, but no list without repetition keeps to them all
and to the list of the bases. -/
def Clashes (h : Hierarchy) (isOrder : String → List String → Prop) (name : String) : Prop :=
  (∀ base ∈ h.bases name, ∃ order, isOrder base order) ∧
    ¬ ∃ whole : List String, whole.Nodup ∧ (h.bases name).Sublist whole ∧
      ∀ base ∈ h.bases name, ∀ order, isOrder base order → order.Sublist whole

/-- A cycle or a clash stands above the class. -/
def IsObstructed (h : Hierarchy) (isOrder : String → List String → Prop) (name : String) : Prop :=
  (∃ other, h.Reaches name other ∧ h.IsCircular other) ∨ ∃ other, h.Reaches name other ∧ h.Clashes isOrder other

theorem IsObstructed.of_base {isOrder : String → List String → Prop} (mem : base ∈ h.bases name)
    (obstructed : h.IsObstructed isOrder base) : h.IsObstructed isOrder name := by
  rcases obstructed with ⟨other, reached, circular⟩ | ⟨other, reached, clash⟩
  · exact Or.inl ⟨other, Relation.ReflTransGen.head mem reached, circular⟩
  · exact Or.inr ⟨other, Relation.ReflTransGen.head mem reached, clash⟩

/-- Under a cycle or a clash there is no order. -/
theorem HasOrder.not_isObstructed (ordered : h.HasOrder name order) : ¬ h.IsObstructed h.HasOrder name := by
  rintro (⟨other, reached, circular⟩ | ⟨other, reached, -, unfit⟩)
  · obtain ⟨inner, has⟩ := ordered.of_reaches reached
    exact has.not_isCircular circular
  · obtain ⟨inner, has⟩ := ordered.of_reaches reached
    obtain ⟨rest, orders, -, above, isMerge⟩ := has.exists_isMerge
    refine unfit ⟨rest, isMerge.nodup, ?_, ?_⟩
    · exact isMerge.keeps _ (List.mem_append_right _ (List.mem_singleton.2 rfl))
    · intro base mem found isOrder
      rw [isOrder.unique (above base mem)]
      exact isMerge.keeps _ (List.mem_append_left _ (List.mem_map_of_mem mem))

/-- Orders of the bases that cannot be merged with the list of the bases clash. -/
theorem clashes_of_merge {orders : String → List String} (above : ∀ base ∈ h.bases name, h.HasOrder base (orders base))
    (unmerged : merge ((h.bases name).map orders ++ [h.bases name]) = none) : h.Clashes h.HasOrder name := by
  refine ⟨fun base mem => ⟨orders base, above base mem⟩, ?_⟩
  rintro ⟨whole, distinct, list, fit⟩
  refine merge_eq_none_iff.1 unmerged ⟨whole, distinct, ?_⟩
  intro given mem
  rcases List.mem_append.1 mem with listed | listed
  · obtain ⟨base, extended, rfl⟩ := List.mem_map.1 listed
    exact fit base extended _ (above base extended)
  · rw [List.mem_singleton.1 listed]
    exact list

/-! ## The search -/

/-- What is remembered is the order of its class each time. -/
def Sound (h : Hierarchy) (known : Orders) : Prop :=
  ∀ name order, known.lookup name = some order → h.HasOrder name order

theorem sound_nil : h.Sound [] := by
  intro name order found
  cases found

theorem Sound.cons (sound : h.Sound known) (ordered : h.HasOrder name order) : h.Sound ((name, order) :: known) := by
  intro other found lookup
  rw [List.lookup_cons] at lookup
  split at lookup
  · rename_i same
    cases lookup
    rw [eq_of_beq same]
    exact ordered
  · exact sound other found lookup

/-- What can come of the search for the order of a class, where `below` is what came of the search for those of its
bases. -/
inductive Outcome (h : Hierarchy) (active : List String) (known : Orders) (name : String)
    (below : Option (List (List String)) × Orders) : Option (List String) × Orders → Prop
  | remembered {order : List String} (found : known.lookup name = some order) :
      Outcome h active known name below (some order, known)
  | again (mem : name ∈ active) : Outcome h active known name below (none, known)
  | unordered (new : name ∉ active) (none : below.1 = none) : Outcome h active known name below (.none, below.2)
  | unmerged {orders : List (List String)} (new : name ∉ active) (found : below.1 = some orders)
      (none : merge (orders ++ [h.bases name]) = none) : Outcome h active known name below (.none, below.2)
  | merged {orders : List (List String)} {rest : List String} (new : name ∉ active) (found : below.1 = some orders)
      (some : merge (orders ++ [h.bases name]) = some rest) :
      Outcome h active known name below (.some (name :: rest), (name, name :: rest) :: below.2)

theorem outcome_orderFrom (h : Hierarchy) (rounds : Nat) (active : List String) (known : Orders) (name : String) :
    Outcome h active known name (ordersOf (h.orderFrom rounds (name :: active)) known (h.bases name))
      (h.orderFrom (rounds + 1) active known name) := by
  rw [orderFrom]
  split
  · rename_i order found
    exact .remembered found
  · split
    · rename_i mem
      exact .again (List.contains_iff_mem.1 mem)
    · rename_i new
      have new : name ∉ active := fun mem => new (List.contains_iff_mem.2 mem)
      generalize ordersOf (h.orderFrom rounds (name :: active)) known (h.bases name) = below
      obtain ⟨result, later⟩ := below
      cases result with
      | none => exact .unordered new rfl
      | some orders =>
        dsimp only
        split
        · rename_i none
          exact .unmerged new rfl none
        · rename_i rest some
          exact .merged new rfl some

/-- The way to a class: distinct classes below it, and rounds left for as many classes as are not on it. -/
structure OnWay (h : Hierarchy) (rounds : Nat) (active : List String) (name : String) : Prop where
  isClass : h.has name = true
  distinct : active.Nodup
  classes : ∀ other ∈ active, h.has other = true
  leads : ∀ other ∈ active, Relation.TransGen h.Extends other name
  room : h.rows.length ≤ rounds + active.length

theorem mem_names_of_has (isClass : h.has name = true) : name ∈ h.rows.map (·.1) := by
  obtain ⟨row, mem, same⟩ := List.any_eq_true.1 isClass
  exact List.mem_map.2 ⟨row, mem, eq_of_beq same⟩

namespace OnWay

variable {rounds : Nat} {active : List String}

theorem start (isClass : h.has name = true) (enough : h.rows.length ≤ rounds) : h.OnWay rounds [] name := by
  refine ⟨isClass, List.nodup_nil, ?_, ?_, by simpa using enough⟩
  · intro other mem
    cases mem
  · intro other mem
    cases mem

/-- A class that is new on the way leaves a round for its bases: there are not more classes on the way than there are
classes. -/
theorem exists_succ (way : h.OnWay rounds active name) (new : name ∉ active) : ∃ fewer, rounds = fewer + 1 := by
  have distinct : (name :: active).Nodup := List.nodup_cons.2 ⟨new, way.distinct⟩
  have within : name :: active ⊆ h.rows.map (·.1) := by
    intro other mem
    rcases List.mem_cons.1 mem with rfl | mem
    · exact mem_names_of_has way.isClass
    · exact mem_names_of_has (way.classes other mem)
  have count := (distinct.subperm within).length_le
  simp only [List.length_cons, List.length_map] at count
  have room := way.room
  exact ⟨rounds - 1, by omega⟩

/-- Without a round left the class is on the way already. -/
theorem mem_of_zero (way : h.OnWay 0 active name) : name ∈ active := by
  by_contra new
  obtain ⟨fewer, none⟩ := way.exists_succ new
  cases none

/-- From a class that is new on the way, the way goes on to its bases. -/
theorem next (closed : h.IsClosed) (way : h.OnWay (rounds + 1) active name) (new : name ∉ active)
    (mem : base ∈ h.bases name) : h.OnWay rounds (name :: active) base := by
  constructor
  case isClass => exact has_of_mem_bases closed mem
  case distinct => exact List.nodup_cons.2 ⟨new, way.distinct⟩
  case classes =>
    intro other mem
    rcases List.mem_cons.1 mem with rfl | mem
    · exact way.isClass
    · exact way.classes other mem
  case leads =>
    intro other below
    rcases List.mem_cons.1 below with rfl | below
    · exact Relation.TransGen.single mem
    · exact (way.leads other below).tail mem
  case room =>
    have room := way.room
    simp only [List.length_cons]
    omega

end OnWay

/-- The answer is the order of the class if there is one; if not, something stands in its way. What is remembered then
is sound. -/
structure Answers (h : Hierarchy) (name : String) (answer : Option (List String) × Orders) : Prop where
  ordered : ∀ order, answer.1 = some order → h.HasOrder name order
  obstructed : answer.1 = none → h.IsObstructed h.HasOrder name
  sound : h.Sound answer.2

/-- The same for several classes. -/
structure AnswersAll (h : Hierarchy) (names : List String) (answer : Option (List (List String)) × Orders) : Prop where
  ordered : ∀ orders, answer.1 = some orders →
    ∃ order, orders = names.map order ∧ ∀ name ∈ names, h.HasOrder name (order name)
  obstructed : answer.1 = none → ∃ name ∈ names, h.IsObstructed h.HasOrder name
  sound : h.Sound answer.2

theorem AnswersAll.nil (sound : h.Sound known) : h.AnswersAll [] (some [], known) := by
  refine ⟨?_, by simp, sound⟩
  rintro _ ⟨⟩
  exact ⟨fun _ => [], rfl, by simp⟩

/-- An order of one more class in front. Classes that are asked for twice have one order. -/
theorem AnswersAll.cons {names : List String} {orders : List (List String)} (first : h.HasOrder name order)
    (rest : h.AnswersAll names (some orders, known)) :
    h.AnswersAll (name :: names) (some (order :: orders), known) := by
  refine ⟨?_, by simp, rest.sound⟩
  rintro _ ⟨⟩
  obtain ⟨others, rfl, ordered⟩ := rest.ordered orders rfl
  refine ⟨fun other => if other = name then order else others other, ?_, ?_⟩
  · rw [List.map_cons, if_pos rfl]
    refine congrArg (order :: ·) (List.map_congr_left fun other mem => ?_)
    split
    · rename_i same
      subst same
      exact (ordered other mem).unique first
    · rfl
  · intro other mem
    dsimp only
    split
    · rename_i same
      rw [same]
      exact first
    · rename_i different
      exact ordered other ((List.mem_cons.1 mem).resolve_left different)

theorem answersAll_ordersOf {find : Orders → String → Option (List String) × Orders} {names : List String}
    (each : ∀ name ∈ names, ∀ known, h.Sound known → h.Answers name (find known name)) (sound : h.Sound known) :
    h.AnswersAll names (ordersOf find known names) := by
  induction names generalizing known with
  | nil => exact .nil sound
  | cons name names ih =>
    have first := each name List.mem_cons_self known sound
    unfold ordersOf
    cases found : find known name with
    | mk result later =>
      rw [found] at first
      cases result with
      | none => exact ⟨by simp, fun _ => ⟨name, List.mem_cons_self, first.obstructed rfl⟩, first.sound⟩
      | some order =>
        have others := ih (fun other mem => each other (List.mem_cons_of_mem name mem)) first.sound
        dsimp only
        cases rest : ordersOf find later names with
        | mk result last =>
          rw [rest] at others
          cases result with
          | none =>
            obtain ⟨other, mem, obstructed⟩ := others.obstructed rfl
            exact ⟨by simp, fun _ => ⟨other, List.mem_cons_of_mem name mem, obstructed⟩, others.sound⟩
          | some orders => exact .cons (first.ordered order rfl) others

/-- One step of the search: what comes of it answers for the class if the search for its bases does. -/
theorem Outcome.answers {rounds : Nat} {active : List String} {below : Option (List (List String)) × Orders}
    {answer : Option (List String) × Orders} (outcome : h.Outcome active known name below answer)
    (way : h.OnWay rounds active name) (sound : h.Sound known)
    (bases : name ∉ active → h.AnswersAll (h.bases name) below) : h.Answers name answer := by
  cases outcome with
  | remembered found =>
    refine ⟨?_, by simp, sound⟩
    rintro _ ⟨⟩
    exact sound name _ found
  | again mem =>
    have circular : h.IsCircular name := way.leads name mem
    exact ⟨by simp, fun _ => Or.inl ⟨name, Relation.ReflTransGen.refl, circular⟩, sound⟩
  | unordered new none =>
    obtain ⟨base, mem, obstructed⟩ := (bases new).obstructed none
    exact ⟨by simp, fun _ => obstructed.of_base mem, (bases new).sound⟩
  | unmerged new found none =>
    obtain ⟨orders, rfl, above⟩ := (bases new).ordered _ found
    have clash := clashes_of_merge above none
    exact ⟨by simp, fun _ => Or.inr ⟨name, Relation.ReflTransGen.refl, clash⟩, (bases new).sound⟩
  | merged new found some =>
    obtain ⟨orders, rfl, above⟩ := (bases new).ordered _ found
    have ordered := HasOrder.intro orders above some
    refine ⟨?_, by simp, (bases new).sound.cons ordered⟩
    rintro _ ⟨⟩
    exact ordered

theorem answers_orderFrom (closed : h.IsClosed) {rounds : Nat} {active : List String}
    (way : h.OnWay rounds active name) (sound : h.Sound known) :
    h.Answers name (h.orderFrom rounds active known name) := by
  induction rounds generalizing active known name with
  | zero =>
    have mem := way.mem_of_zero
    have outcome : Outcome h active known name (none, []) (h.orderFrom 0 active known name) := by
      unfold orderFrom
      split
      · rename_i order found
        exact .remembered found
      · rw [if_pos (List.contains_iff_mem.2 mem)]
        exact .again mem
    exact outcome.answers way sound (fun new => absurd mem new)
  | succ rounds ih =>
    refine (h.outcome_orderFrom rounds active known name).answers way sound fun new => ?_
    refine answersAll_ordersOf ?_ sound
    intro base mem known sound
    exact ih (way.next closed new mem) sound

theorem ordersOf_congr {find find' : Orders → String → Option (List String) × Orders} {names : List String}
    (same : ∀ name ∈ names, ∀ known, find known name = find' known name) (known : Orders) :
    ordersOf find known names = ordersOf find' known names := by
  induction names generalizing known with
  | nil => rfl
  | cons name names ih =>
    have others : ∀ known, ordersOf find known names = ordersOf find' known names :=
      ih fun other mem => same other (List.mem_cons_of_mem name mem)
    simp only [ordersOf, same name List.mem_cons_self, others]

/-- The bound on the rounds plays no part, as long as it leaves room for all classes. -/
theorem orderFrom_of_le (closed : h.IsClosed) {rounds more : Nat} {active : List String}
    (way : h.OnWay rounds active name) (le : rounds ≤ more) (known : Orders) :
    h.orderFrom more active known name = h.orderFrom rounds active known name := by
  induction rounds generalizing more active known name with
  | zero =>
    have found : active.contains name = true := List.contains_iff_mem.2 way.mem_of_zero
    cases more <;> simp only [orderFrom, found, if_true]
  | succ rounds ih =>
    obtain ⟨more, rfl⟩ : ∃ fewer, more = fewer + 1 := ⟨more - 1, by omega⟩
    rw [orderFrom, orderFrom]
    split
    · rfl
    · split
      · rfl
      · rename_i new
        have new : name ∉ active := fun mem => new (List.contains_iff_mem.2 mem)
        have below : ordersOf (h.orderFrom more (name :: active)) known (h.bases name) =
            ordersOf (h.orderFrom rounds (name :: active)) known (h.bases name) := by
          refine ordersOf_congr ?_ known
          intro base mem known
          exact ih (way.next closed new mem) (Nat.le_of_succ_le_succ le) known
        rw [below]

/-! ## Orders of a hierarchy -/

theorem answers_orderWith (closed : h.IsClosed) (isClass : h.has name = true) (sound : h.Sound known) :
    h.Answers name (h.orderWith known name) :=
  answers_orderFrom closed (.start isClass (Nat.le_refl _)) sound

/-- Whatever is remembered, the order that is found is the order of the class. -/
theorem orderWith_eq_some_iff (closed : h.IsClosed) (isClass : h.has name = true) (sound : h.Sound known) :
    (h.orderWith known name).1 = some order ↔ h.HasOrder name order := by
  have answers := answers_orderWith closed isClass sound
  constructor
  · exact answers.ordered order
  · intro ordered
    cases found : (h.orderWith known name).1 with
    | none => exact absurd (answers.obstructed found) ordered.not_isObstructed
    | some other => rw [(answers.ordered other found).unique ordered]

theorem order_eq_some_iff (closed : h.IsClosed) (isClass : h.has name = true) :
    h.order name = some order ↔ h.HasOrder name order :=
  orderWith_eq_some_iff closed isClass sound_nil

theorem orderWith_eq_order (closed : h.IsClosed) (isClass : h.has name = true) (sound : h.Sound known) :
    (h.orderWith known name).1 = h.order name := by
  refine Option.ext fun order => ?_
  exact (orderWith_eq_some_iff closed isClass sound).trans (order_eq_some_iff closed isClass).symm

theorem order_eq_none_iff (closed : h.IsClosed) (isClass : h.has name = true) :
    h.order name = none ↔ h.IsObstructed h.HasOrder name := by
  constructor
  · exact (answers_orderWith closed isClass sound_nil).obstructed
  · intro obstructed
    cases found : h.order name with
    | none => rfl
    | some order => exact absurd obstructed ((order_eq_some_iff closed isClass).1 found).not_isObstructed

theorem clashes_iff (closed : h.IsClosed) :
    h.Clashes h.HasOrder name ↔ h.Clashes (fun base order => h.order base = some order) name := by
  have same : ∀ base ∈ h.bases name, ∀ order, h.HasOrder base order ↔ h.order base = some order :=
    fun base mem order => (order_eq_some_iff closed (has_of_mem_bases closed mem)).symm
  unfold Clashes
  refine and_congr ?_ (not_congr (exists_congr fun whole => and_congr_right fun _ => and_congr_right fun _ => ?_))
  · exact forall₂_congr fun base mem => exists_congr fun order => same base mem order
  · exact forall₂_congr fun base mem => forall_congr' fun order => imp_congr_left (same base mem order)

/-- The list is an order of the class that keeps to the orders of all classes above it. -/
structure IsLinearization (h : Hierarchy) (name : String) (order : List String) : Prop where
  head : order.head? = some name
  nodup : order.Nodup
  mem_iff : ∀ other, other ∈ order ↔ h.Reaches name other
  /-- The orders of the classes above come in it as they are. -/
  monotone : ∀ other ∈ order, ∃ inner, h.order other = some inner ∧ inner.Sublist order
  /-- The bases of each class come behind it, in their order. -/
  precedence : ∀ other ∈ order, (other :: h.bases other).Sublist order

/-- **An order that is found is a linearization**: it starts with the class, has no repetition and holds exactly the
classes that are reached from it. Each of them has an order itself, to which this one keeps, and its bases come behind
it in their order. -/
theorem merged_order_sound (closed : h.IsClosed) (isClass : h.has name = true) (found : h.order name = some order) :
    h.IsLinearization name order := by
  have ordered := (order_eq_some_iff closed isClass).1 found
  have inner_order : ∀ other ∈ order, ∃ inner, h.order other = some inner ∧ h.HasOrder other inner ∧
      inner.Sublist order := by
    intro other mem
    obtain ⟨inner, has, fits⟩ := ordered.exists_sublist mem
    have otherClass := has_of_reaches closed isClass (ordered.mem_iff_reaches.1 mem)
    exact ⟨inner, (order_eq_some_iff closed otherClass).2 has, has, fits⟩
  constructor
  case head =>
    obtain ⟨rest, -, rfl, -⟩ := ordered.exists_isMerge
    rfl
  case nodup => exact ordered.nodup
  case mem_iff => exact fun other => ordered.mem_iff_reaches
  case monotone =>
    intro other mem
    obtain ⟨inner, found, -, fits⟩ := inner_order other mem
    exact ⟨inner, found, fits⟩
  case precedence =>
    intro other mem
    obtain ⟨inner, -, has, fits⟩ := inner_order other mem
    exact has.bases_sublist.trans fits

namespace Sample

/-- Two ways lead up from `D` to `A`; `M` stands above one of them only. -/
def diamond : Hierarchy := ⟨[("D", ["B", "C"]), ("B", ["A", "M"]), ("C", ["A"]), ("A", []), ("M", [])]⟩

/-- `X` and `Y` name the same bases in opposite orders, so that `Z` has no order. -/
def crossed : Hierarchy := ⟨[("X", ["A", "B"]), ("Y", ["B", "A"]), ("Z", ["X", "Y"]), ("A", []), ("B", [])]⟩

end Sample

theorem merged_order_sound_diamond :
    Sample.diamond.IsClosed ∧ Sample.diamond.order "D" = some ["D", "B", "C", "A", "M"] ∧
      Sample.diamond.IsLinearization "D" ["D", "B", "C", "A", "M"] := by
  have closed : Sample.diamond.IsClosed := by decide
  have found : Sample.diamond.order "D" = some ["D", "B", "C", "A", "M"] := by decide +kernel
  exact ⟨closed, found, merged_order_sound closed (by decide) found⟩

/-- **An order is missing only where there can be none**: the search ends by itself, whatever bound on the rounds it is
given beyond the number of classes, and finds no order exactly if a cycle is reached from the class, or a class whose
bases have orders that fit into no list together with the list of the bases. -/
theorem order_missing_iff (closed : h.IsClosed) (isClass : h.has name = true) :
    (∀ rounds, h.rows.length ≤ rounds → h.orderFrom rounds [] [] name = h.orderWith [] name) ∧
      (h.order name = none ↔ (∃ other, h.Reaches name other ∧ h.IsCircular other) ∨
        ∃ other, h.Reaches name other ∧ h.Clashes (fun base order => h.order base = some order) other) := by
  refine ⟨?_, ?_⟩
  · intro rounds enough
    exact orderFrom_of_le closed (.start isClass (Nat.le_refl _)) enough []
  · refine (order_eq_none_iff closed isClass).trans (or_congr Iff.rfl ?_)
    exact exists_congr fun other => and_congr_right fun _ => clashes_iff closed

/-- `Z` stands under a clash, and its order is missing. -/
theorem order_missing_crossed :
    Sample.crossed.IsClosed ∧ Sample.crossed.has "Z" = true ∧ Sample.crossed.order "Z" = none ∧
      ((∃ other, Sample.crossed.Reaches "Z" other ∧ Sample.crossed.IsCircular other) ∨
        ∃ other, Sample.crossed.Reaches "Z" other ∧
          Sample.crossed.Clashes (fun base order => Sample.crossed.order base = some order) other) := by
  have closed : Sample.crossed.IsClosed := by decide
  have isClass : Sample.crossed.has "Z" = true := by decide
  have missing : Sample.crossed.order "Z" = none := by decide +kernel
  exact ⟨closed, isClass, missing, (order_missing_iff closed isClass).2.1 missing⟩

/-- The orders of some classes, found one after the other with what is remembered from those before. -/
def ordersInTurn (h : Hierarchy) (known : Orders) : List String → List (Option (List String))
  | [] => []
  | name :: names => (h.orderWith known name).1 :: ordersInTurn h (h.orderWith known name).2 names

theorem ordersInTurn_eq (closed : h.IsClosed) {names : List String} (classes : ∀ name ∈ names, h.has name = true)
    (sound : h.Sound known) : h.ordersInTurn known names = names.map h.order := by
  induction names generalizing known with
  | nil => rfl
  | cons name names ih =>
    have isClass := classes name List.mem_cons_self
    have later := (answers_orderWith closed isClass sound).sound
    rw [ordersInTurn, List.map_cons, orderWith_eq_order closed isClass sound,
      ih (fun other mem => classes other (List.mem_cons_of_mem name mem)) later]

/-- What is put into the table of orders is what would be without anything remembered. -/
theorem orderNames_eq (closed : h.IsClosed) (isClass : h.has name = true) (sound : h.Sound known) :
    (Index.orderNames h known name).1 = (Index.orderNames h [] name).1 ∧
      (Index.orderNames h known name).2 = (h.orderWith known name).2 := by
  have same := orderWith_eq_order closed isClass sound
  unfold order at same
  unfold Index.orderNames
  cases answer : h.orderWith known name with
  | mk result later =>
    cases fresh : h.orderWith [] name with
    | mk result' later' =>
      rw [answer, fresh] at same
      dsimp only at same
      subst same
      cases result <;> exact ⟨rfl, rfl⟩

theorem orderTable_eq (closed : h.IsClosed) {names : List String} (classes : ∀ name ∈ names, h.has name = true)
    (sound : h.Sound known) :
    Index.orderTable h known names = names.map fun name => (name, (Index.orderNames h [] name).1) := by
  induction names generalizing known with
  | nil => rfl
  | cons name names ih =>
    have isClass := classes name List.mem_cons_self
    have later := (answers_orderWith closed isClass sound).sound
    obtain ⟨answer, remembered⟩ := orderNames_eq closed isClass sound
    have rows : Index.orderTable h known (name :: names) =
        (name, (Index.orderNames h known name).1) :: Index.orderTable h (Index.orderNames h known name).2 names := rfl
    rw [rows, List.map_cons, answer, remembered,
      ih (fun other mem => classes other (List.mem_cons_of_mem name mem)) later]

/-- **A shared memory changes no answer**: the orders of any classes, in any order, with repetitions and with classes
that have none among them, are the same whether each is found afresh or with what the searches before it, those that
failed included, have left in memory. So is the table of orders that a workspace keeps. -/
theorem shared_memory_changes_nothing (closed : h.IsClosed) {names : List String}
    (classes : ∀ name ∈ names, h.has name = true) :
    h.ordersInTurn [] names = names.map h.order ∧
      Index.orderTable h [] names = names.map fun name => (name, (Index.orderNames h [] name).1) :=
  ⟨ordersInTurn_eq closed classes sound_nil, orderTable_eq closed classes sound_nil⟩

theorem shared_memory_crossed :
    Sample.crossed.ordersInTurn [] ["Z", "X", "Z", "Y", "X"] =
        [none, some ["X", "A", "B"], none, some ["Y", "B", "A"], some ["X", "A", "B"]] ∧
      Index.orderTable Sample.crossed [] ["Z", "X"] =
        [("Z", ["Z", "X", "A", "B", "Y"], false), ("X", ["X", "A", "B"], true)] := by
  have closed : Sample.crossed.IsClosed := by decide
  have often : ∀ name ∈ ["Z", "X", "Z", "Y", "X"], Sample.crossed.has name = true := by decide
  have once : ∀ name ∈ ["Z", "X"], Sample.crossed.has name = true := by decide
  rw [(shared_memory_changes_nothing closed often).1, (shared_memory_changes_nothing closed once).2]
  decide +kernel

end CallAtlas.Workspace.Hierarchy
