import CallAtlas.Extent
import CallAtlas.Proofs.Answer
import CallAtlas.Workspace.Resolve

/-!
# What a call can resolve to

Whatever way a name or an expression is looked up, the units and classes it can mean are declared by a module of the
workspace. This is kept by every step of a look-up: `Target.Holds` says of one meaning that its units are of some kind,
and each function of the look-up gives such meanings if it is given such, for every kind that the functions of a module
and the methods of a class have; `Target.Within` takes those that are declared. A call then counts for a declared unit,
for the constructor of a class that has none, or for something outside of the workspace; the last two are never in
scope.
-/

namespace CallAtlas

namespace Workspace

open Source

/-- A module of the workspace declares the unit. -/
def Index.Declares (w : Index) (u : Callable) : Prop := ∃ d ∈ w.declarations, d.unit = u

/-- The units, classes and modules that a target holds are those of the workspace. -/
def Target.Within (w : Index) : Target → Prop
  | .units found => ∀ u ∈ found, w.Declares u
  | .bound found _ => ∀ u ∈ found, w.Declares u
  | .class c => c ∈ w.allClasses
  | .module m => m ∈ w.modules
  | _ => True

/-- The units that a target holds are together of the kind, and its class or module is one of the workspace. -/
def Target.Holds (w : Index) (kind : List Callable → Prop) : Target → Prop
  | .units found => kind found
  | .bound found _ => kind found
  | .class c => c ∈ w.allClasses
  | .module m => m ∈ w.modules
  | _ => True

theorem Target.within_iff {w : Index} {target : Target} :
    target.Within w ↔ target.Holds w fun found => ∀ u ∈ found, w.Declares u := by
  cases target <;> exact Iff.rfl

/-- The units that a look-up finds together are of the kind. -/
structure Index.Finds (w : Index) (kind : List Callable → Prop) : Prop where
  functions : ∀ m ∈ w.modules, ∀ name, kind (m.functionsNamed name)
  methods : ∀ name classes, kind (w.firstMethods name classes)

/-- What a module of the workspace is asked for holds units of the kind. -/
def Index.Keeps (w : Index) (kind : List Callable → Prop) (member : ModuleEntry → String → Option Target) : Prop :=
  ∀ m ∈ w.modules, ∀ name target, member m name = some target → target.Holds w kind

namespace Index

variable {w : Index} {m : ModuleEntry} {c : ClassEntry} {name : String} {target : Target} {u : Callable}
  {kind : List Callable → Prop}

theorem mem_of_module? (h : w.module? name = some m) : m ∈ w.modules := List.mem_of_find?_eq_some h

theorem mem_of_moduleAt? {path : String} (h : w.moduleAt? path = some m) : m ∈ w.modules :=
  List.mem_of_find?_eq_some h

theorem declares_of_mem {d : Declaration} (hm : m ∈ w.modules) (hd : d ∈ m.declarations) : w.Declares d.unit :=
  ⟨d, List.mem_flatMap.2 ⟨m, hm, hd⟩, rfl⟩

/-! ## Methods -/

theorem declares_of_mem_methodsNamed (h : u ∈ w.methodsNamed c name) : w.Declares u := by
  have method := (List.mem_filter.1 h).1
  unfold methods at method
  split at method
  · rename_i m found
    obtain ⟨d, hd, rfl⟩ := List.mem_map.1 method
    exact declares_of_mem (mem_of_moduleAt? found) (List.mem_filter.1 hd).1
  · cases method

theorem declares_of_mem_firstMethods {classes : List ClassEntry} (h : u ∈ w.firstMethods name classes) :
    w.Declares u := by
  induction classes with
  | nil => cases h
  | cons c rest ih =>
    unfold firstMethods at h
    split at h
    · exact ih h
    · exact declares_of_mem_methodsNamed h

theorem declares_of_mem_inherited (h : u ∈ w.inherited c name) : w.Declares u := declares_of_mem_firstMethods h

theorem declares_of_mem_methodsAnywhere (h : u ∈ w.methodsAnywhere name) : w.Declares u := by
  have method := List.mem_mergeSort.1 (List.mem_filter.1 h).1
  obtain ⟨d, hd, rfl⟩ := List.mem_map.1 method
  exact ⟨d, (List.mem_filter.1 hd).1, rfl⟩

theorem mem_of_nestedNamed? {inner : ClassEntry} (h : w.nestedNamed? c name = some inner) : inner ∈ w.allClasses := by
  have nested := (List.mem_filter.1 (List.mem_of_getLast? h)).1
  unfold Index.nested at nested
  split at nested
  · rename_i m found
    exact List.mem_flatMap.2 ⟨m, mem_of_moduleAt? found, (List.mem_filter.1 nested).1⟩
  · cases nested

/-- The functions of a module and the methods of classes are declared. -/
theorem finds_declared (w : Index) : w.Finds fun found => ∀ u ∈ found, w.Declares u where
  functions m hm name u hu := by
    obtain ⟨d, hd, rfl⟩ := List.mem_map.1 (List.mem_filter.1 hu).1
    exact declares_of_mem hm (List.mem_filter.1 hd).1
  methods _ _ _ hu := declares_of_mem_firstMethods hu

/-! ## Names -/

theorem mem_of_longestModule? {parts names : List String} {count : Nat}
    (h : w.longestModule? parts count = some (m, names)) : m ∈ w.modules := by
  induction count with
  | zero => cases h
  | succ count ih =>
    unfold longestModule? at h
    split at h
    · cases h
      rename_i found
      exact mem_of_module? found
    · exact ih h

/-- The ways in which a name of a module gets its meaning: the module defines it or has it as a submodule, or a name or
a whole module that it imports is followed. -/
theorem member?_eq_some {hops : Nat} (h : w.member? hops m name = some target) :
    defined? m name = some target ∨ (∃ sub ∈ w.modules, target = .module sub) ∨
      ∃ fewer, hops = fewer + 1 ∧ ((∃ source, w.dotted? (w.member? fewer) source = some target) ∨
        ∃ other ∈ w.modules, w.member? fewer other name = some target) := by
  unfold member? at h
  split at h
  · rename_i own
    cases h
    exact Or.inl own
  · split at h
    · cases h
    · exact Or.inr (Or.inr ⟨_, rfl, Or.inl ⟨_, h⟩⟩)
    · split at h
      · rename_i sub found
        cases h
        exact Or.inr (Or.inl ⟨sub, mem_of_module? found, rfl⟩)
      · split at h
        · cases h
        · obtain ⟨star, -, taken⟩ := List.exists_of_findSome?_eq_some h
          split at taken
          · rename_i other found
            split at taken
            · cases taken
            · exact Or.inr (Or.inr ⟨_, rfl, Or.inr ⟨other, mem_of_module? found, taken⟩⟩)
          · cases taken

section Finds

variable (finds : w.Finds kind)

include finds

theorem holds_defined? (hm : m ∈ w.modules) (h : defined? m name = some target) : target.Holds w kind := by
  unfold defined? at h
  split at h
  · obtain ⟨c, found, rfl⟩ := Option.map_eq_some_iff.1 h
    have own := (List.mem_filter.1 (List.mem_of_getLast? found)).1
    exact List.mem_flatMap.2 ⟨m, hm, (List.mem_filter.1 own).1⟩
  · cases h
    exact finds.functions m hm name

section Members

variable {member : ModuleEntry → String → Option Target} (keeps : w.Keeps kind member)

include keeps

theorem holds_attribute? {result : Target} (ht : target.Holds w kind)
    (h : w.attribute? member target name = some result) : result.Holds w kind := by
  unfold attribute? at h
  split at h
  · exact keeps _ ht name result h
  · split at h
    · rename_i found
      cases h
      exact mem_of_nestedNamed? found
    · split at h
      · cases h
      · cases h
        exact finds.methods name _
  · cases h
    trivial
  · cases h

theorem holds_attributes? {names : List String} {result : Target} (ht : target.Holds w kind)
    (h : w.attributes? member target names = some result) : result.Holds w kind := by
  induction names generalizing target with
  | nil =>
    cases h
    exact ht
  | cons name names ih =>
    obtain ⟨next, first, rest⟩ := Option.bind_eq_some_iff.1 h
    exact ih (holds_attribute? finds keeps ht first) rest

theorem holds_dotted? (h : w.dotted? member name = some target) : target.Holds w kind := by
  unfold dotted? at h
  split at h
  · cases h
  · dsimp only at h
    split at h
    · rename_i m names found
      have inside : (Target.module m).Holds w kind := mem_of_longestModule? found
      exact holds_attributes? finds keeps inside h
    · split at h
      · cases h
      · cases h
        trivial

end Members

/-- However many imports are followed, what they lead to holds units of the kind. -/
theorem keeps_member? (hops : Nat) : w.Keeps kind (w.member? hops) := by
  induction hops with
  | zero =>
    intro m hm name target h
    rcases member?_eq_some h with own | ⟨sub, hsub, rfl⟩ | ⟨fewer, none, -⟩
    · exact holds_defined? finds hm own
    · exact hsub
    · cases none
  | succ hops ih =>
    intro m hm name target h
    rcases member?_eq_some h with own | ⟨sub, hsub, rfl⟩ | ⟨fewer, same, ⟨source, followed⟩ | ⟨other, hother, taken⟩⟩
    · exact holds_defined? finds hm own
    · exact hsub
    · cases same
      exact holds_dotted? finds ih followed
    · cases same
      exact ih other hother name target taken

theorem holds_name? (hm : m ∈ w.modules) (h : w.name? m name = some target) : target.Holds w kind := by
  unfold name? at h
  split at h
  · rename_i found
    cases h
    exact keeps_member? finds _ m hm name _ found
  · split at h
    · cases h
      trivial
    · cases h

/-! ## Expressions -/

theorem holds_nameIn? {context : Context} (hm : context.module ∈ w.modules)
    (h : w.nameIn? context name = some target) : target.Holds w kind := by
  unfold nameIn? at h
  split at h
  · obtain ⟨owner, -, rfl⟩ := Option.map_eq_some_iff.1 h
    trivial
  · split at h
    · exact holds_dotted? finds (keeps_member? finds _) h
    · split at h
      · cases h
      · exact holds_name? finds hm h

omit finds in
theorem holds_guess? (h : w.guess? name = some target) : target.Holds w kind := by
  unfold guess? at h
  split at h
  · cases h
    trivial
  · cases h

/-- What an expression means in a module of the workspace holds units of the kind. -/
theorem holds_expression? {context : Context} {e : Expr} (hm : context.module ∈ w.modules)
    (h : w.expression? context e = some target) : target.Holds w kind := by
  fun_induction w.expression? context e generalizing target with
  | case1 => exact holds_nameIn? finds hm h
  | case2 => cases h
  | case3 =>
    cases h
    exact finds.methods _ _
  | case4 => exact holds_guess? h
  | case5 => exact holds_guess? h
  | case6 =>
    cases h
    exact finds.methods _ _
  | case7 value name _ front _ found ih => exact holds_attribute? finds (keeps_member? finds _) (ih found) h
  | case8 => cases h

end Finds

/-- What an expression means in a module of the workspace lies within the workspace. -/
theorem within_expression? {context : Context} {e : Expr} (hm : context.module ∈ w.modules)
    (h : w.expression? context e = some target) : target.Within w :=
  Target.within_iff.2 (holds_expression? w.finds_declared hm h)

/-! ## Calls -/

theorem mem_of_mem_foremost {units : List Callable} (h : u ∈ w.foremost units) : u ∈ units := by
  unfold foremost at h
  split at h
  · exact h
  · exact (List.mem_filter.1 h).1

/-- Declared in the workspace, or not there to be surveyed: generated for a class, or not in its sources. -/
def Accounts (w : Index) (u : Callable) : Prop :=
  w.Declares u ∨ (∃ c ∈ w.allClasses, u = w.implicitConstructor c) ∨ ∃ name, u = outsideUnit name

/-- A class has the constructors it inherits, or the one that it has without declaring any; a class that is hidden has
none. -/
theorem constructorsOf_cases (w : Index) (c : ClassEntry) :
    w.constructorsOf c = [] ∨ w.constructorsOf c = [w.implicitConstructor c] ∨
      ∃ name, w.constructorsOf c = w.inherited c name := by
  unfold constructorsOf
  split
  · exact Or.inl rfl
  · cases init : w.inherited c "__init__" with
    | nil =>
      cases made : w.inherited c "__new__" with
      | nil => exact Or.inr (Or.inl rfl)
      | cons u us => exact Or.inr (Or.inr ⟨"__new__", made.symm⟩)
    | cons u us => exact Or.inr (Or.inr ⟨"__init__", init.symm⟩)

theorem accounts_of_mem_constructorsOf (hc : c ∈ w.allClasses) (h : u ∈ w.constructorsOf c) : w.Accounts u := by
  rcases w.constructorsOf_cases c with none | generated | ⟨name, inherited⟩
  · rw [none] at h
    cases h
  · rw [generated] at h
    exact Or.inr (Or.inl ⟨c, hc, List.mem_singleton.1 h⟩)
  · rw [inherited] at h
    exact Or.inl (declares_of_mem_inherited h)

theorem Accounts.declares (h : w.Accounts u) {extent : Extent} (inScope : extent.contains u = true) : w.Declares u := by
  simp only [Extent.contains, Bool.and_eq_true, Bool.not_eq_true'] at inScope
  rcases h with declared | ⟨c, -, rfl⟩ | ⟨name, rfl⟩
  · exact declared
  · cases inScope.1.1.2
  · cases inScope.1.1.1.2

end Index

/-- A form of a declaration, which counts for that. -/
def IsForm (form : Callable → Referent) : Prop := ∀ u, (form u).isPresent = true ∧ (form u).underlying.unit? = some u

theorem isForm_declaration : IsForm .declaration := fun _ => ⟨rfl, rfl⟩

theorem isForm_bound (receiver : String) : IsForm fun u => .bound (.declaration u) receiver := fun _ => ⟨rfl, rfl⟩

end Workspace

theorem Referent.eq_declaration {s : Referent} {u : Callable} (h : s.unit? = some u) : s = .declaration u := by
  cases s with
  | declaration v =>
    cases h
    rfl
  | _ => cases h

namespace Resolution

/-- The referents of a resolution: the one that is meant, or all that may be. -/
def referents (r : Resolution) : List Referent := if r.referent.isPresent then [r.referent] else r.candidates

theorem target_eq (r : Resolution) : r.target = r.referents.headD .absent := by
  unfold target referents
  split <;> rfl

/-- What counts is known by what the referents are forms of. -/
theorem unit?_congr {r other : Resolution}
    (h : r.referents.map (·.underlying) = other.referents.map (·.underlying)) : r.unit? = other.unit? := by
  have unit : ∀ r : Resolution, r.unit? = ((r.referents.map Referent.underlying).headD .absent).unit? := by
    intro r
    rw [unit?, target_eq]
    cases r.referents <;> rfl
  rw [unit, unit, h]

/-- There is something to refer to, and all of it are forms of units of the kind. -/
structure Refers (kind : Callable → Prop) (r : Resolution) : Prop where
  some : r.referents ≠ []
  forms : ∀ s ∈ r.referents, ∃ u, s.underlying = .declaration u ∧ kind u

/-- The first of the units is the one that counts. -/
theorem Refers.exists_unit? {kind : Callable → Prop} {r : Resolution} (h : r.Refers kind) :
    ∃ u, r.unit? = .some u ∧ kind u := by
  obtain ⟨s, rest, whole⟩ := List.exists_cons_of_ne_nil h.some
  obtain ⟨u, form, ofKind⟩ := h.forms s (whole ▸ List.mem_cons_self)
  refine ⟨u, ?_, ofKind⟩
  rw [unit?, target_eq, whole, List.headD_cons, form]
  rfl

end Resolution

namespace Workspace

section Forms

variable {form : Callable → Referent} (isForm : IsForm form) {units : List Callable} {r : Resolution}

include isForm

theorem exists_ofReferents? (some : units ≠ []) :
    ∃ r, Resolution.ofReferents? (units.map form) = .some r ∧ r.referents = units.map form := by
  match units with
  | [] => exact absurd rfl some
  | [u] =>
    refine ⟨.one (form u), rfl, ?_⟩
    exact if_pos (isForm u).1
  | u :: v :: rest => exact ⟨_, rfl, rfl⟩

theorem referents_of_ofReferents? (h : Resolution.ofReferents? (units.map form) = some r) :
    r.referents = units.map form := by
  cases units with
  | nil => cases h
  | cons u rest =>
    obtain ⟨r', made, referents⟩ := exists_ofReferents? isForm (List.cons_ne_nil u rest)
    cases made.symm.trans h
    exact referents

theorem refers_of_referents {kind : Callable → Prop} (made : r.referents = units.map form) (some : units ≠ [])
    (all : ∀ u ∈ units, kind u) : r.Refers kind := by
  constructor
  · rw [made]
    simpa using some
  · rw [made]
    intro s mem
    obtain ⟨u, inside, rfl⟩ := List.mem_map.1 mem
    exact ⟨u, Referent.eq_declaration (isForm u).2, all u inside⟩

theorem refers_ofReferents? {kind : Callable → Prop} (h : Resolution.ofReferents? (units.map form) = some r)
    (all : ∀ u ∈ units, kind u) : r.Refers kind := by
  refine refers_of_referents isForm (referents_of_ofReferents? isForm h) ?_ all
  rintro rfl
  cases h

end Forms

/-- Whatever a target in the workspace is, a call of it refers to units that are accounted for. -/
theorem Index.refers_of_resolution? {w : Index} {target : Target} {r : Resolution} (ht : target.Within w)
    (h : w.resolution? target = some r) : r.Refers w.Accounts := by
  cases target with
  | units found =>
    exact refers_ofReferents? isForm_declaration h fun u mem => Or.inl (ht u (mem_of_mem_foremost mem))
  | bound found receiver =>
    exact refers_ofReferents? (isForm_bound receiver) h fun u mem => Or.inl (ht u (mem_of_mem_foremost mem))
  | «class» c =>
    refine refers_ofReferents? isForm_declaration h fun u mem => ?_
    exact accounts_of_mem_constructorsOf ht (mem_of_mem_foremost mem)
  | external name =>
    cases h
    have made : (Resolution.one (.declaration (outsideUnit name))).referents = [outsideUnit name].map .declaration := rfl
    refine refers_of_referents isForm_declaration made (List.cons_ne_nil _ _) fun u mem => ?_
    exact Or.inr (Or.inr ⟨name, List.mem_singleton.1 mem⟩)
  | guess name =>
    cases methods : w.methodsAnywhere name with
    | nil => simp [resolution?, methods] at h
    | cons u rest =>
      obtain rfl : { candidates := (u :: rest).map .declaration } = r := by simpa [resolution?, methods] using h
      refine refers_of_referents isForm_declaration rfl (List.cons_ne_nil u rest) fun v mem => ?_
      exact Or.inl (declares_of_mem_methodsAnywhere (methods ▸ mem))
  | _ => cases h

/-! ## Type arguments -/

theorem isPresent_specialized (arguments : List String) (s : Referent) :
    (specialized arguments s).isPresent = s.isPresent := by
  cases s <;> rfl

theorem underlying_specialized (arguments : List String) (s : Referent) :
    (specialized arguments s).underlying = s.underlying := by
  cases s <;> rfl

/-- Type arguments are given to each referent. -/
theorem referents_specialized (arguments : List String) (r : Resolution) :
    Resolution.referents { referent := specialized arguments r.referent
                           candidates := r.candidates.map (specialized arguments) } =
      r.referents.map (specialized arguments) := by
  unfold Resolution.referents
  dsimp only
  rw [isPresent_specialized]
  split <;> rfl

/-- A call in a module of the workspace refers to units that are accounted for. -/
theorem Index.refers_of_call? {w : Index} {context : Context} {site : CallSite} {r : Resolution}
    (hm : context.module ∈ w.modules) (h : w.call? context site = .ok (some r)) : r.Refers w.Accounts := by
  unfold call? at h
  split at h
  · obtain ⟨text, -, h⟩ := bind_eq_ok.1 h
    obtain ⟨plain, found, rfl⟩ := Option.map_eq_some_iff.1 (pure_eq_ok.1 h)
    obtain ⟨target, meant, resolved⟩ := Option.bind_eq_some_iff.1 found
    have refers := refers_of_resolution? (within_expression? hm meant) resolved
    constructor
    · rw [referents_specialized]
      simpa using refers.some
    · rw [referents_specialized]
      intro s mem
      obtain ⟨bare, inside, rfl⟩ := List.mem_map.1 mem
      rw [underlying_specialized]
      exact refers.forms bare inside
  · obtain ⟨target, meant, resolved⟩ := Option.bind_eq_some_iff.1 (pure_eq_ok.1 h)
    exact refers_of_resolution? (within_expression? hm meant) resolved

/-- What such a call counts for is accounted for. -/
theorem Index.accounts_of_call? {w : Index} {context : Context} {site : CallSite} {r : Resolution} {u : Callable}
    (hm : context.module ∈ w.modules) (h : w.call? context site = .ok (some r)) (counts : r.unit? = some u) :
    w.Accounts u := by
  obtain ⟨v, found, accounts⟩ := (refers_of_call? hm h).exists_unit?
  cases counts.symm.trans found
  exact accounts

end Workspace

end CallAtlas
