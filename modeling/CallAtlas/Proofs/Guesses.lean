import CallAtlas.Proofs.WorkspaceSurvey

/-!
# Guesses only add

A workspace that guesses takes a call on an unknown receiver for a call of any method of the name. Nothing that a name
is looked up in depends on guesses, and an expression means the same with guesses as without, or it is guessed where it
meant nothing (`Widened`). A guess is no class, so the class hierarchy and the orders made of it are the same too, and a
call that was found to mean something means that still. A survey with guesses therefore registers the same declarations
and keeps all links of the survey without.
-/

namespace CallAtlas.Workspace

open Source CallGraph

/-- With guesses there is the same meaning as without, or a guess where there was none. -/
inductive Widened : Option Target → Option Target → Prop where
  | same (meaning : Option Target) : Widened meaning meaning
  | guessed (name : String) : Widened none (some (.guess name))

theorem Widened.of_some {target : Target} {meaning : Option Target} (h : Widened (some target) meaning) :
    meaning = some target := by
  cases h
  rfl

theorem Widened.of_none {meaning : Option Target} (h : Widened none meaning) :
    meaning = none ∨ ∃ name, meaning = some (.guess name) := by
  cases h with
  | same => exact Or.inl rfl
  | guessed name => exact Or.inr ⟨name, rfl⟩

namespace Index

/-- The workspace with guesses. -/
def guessing (w : Index) : Index := { w with guesses := true }

/-! ## Look-ups do not guess -/

section Lookups

variable (w : Index)

theorem firstMethods_guessing (name : String) (classes : List ClassEntry) :
    w.guessing.firstMethods name classes = w.firstMethods name classes := by
  induction classes with
  | nil => rfl
  | cons c rest ih =>
    rw [firstMethods, firstMethods, ih]
    rfl

theorem inherited_guessing (c : ClassEntry) (name : String) : w.guessing.inherited c name = w.inherited c name :=
  w.firstMethods_guessing name _

theorem inheritedAbove_guessing (c : ClassEntry) (name : String) :
    w.guessing.inheritedAbove c name = w.inheritedAbove c name := w.firstMethods_guessing name _

section Members

variable (member : ModuleEntry → String → Option Target)

theorem attribute?_guessing (target : Target) (name : String) :
    w.guessing.attribute? member target name = w.attribute? member target name := by
  unfold attribute?
  simp only [inherited_guessing]
  rfl

theorem attributes?_guessing (target : Target) (names : List String) :
    w.guessing.attributes? member target names = w.attributes? member target names := by
  induction names generalizing target with
  | nil => rfl
  | cons name names ih =>
    rw [attributes?, attributes?, attribute?_guessing]
    simp only [ih]

theorem longestModule?_guessing (parts : List String) (count : Nat) :
    w.guessing.longestModule? parts count = w.longestModule? parts count := by
  induction count with
  | zero => rfl
  | succ count ih =>
    rw [longestModule?, longestModule?, ih]
    rfl

theorem dotted?_guessing (name : String) : w.guessing.dotted? member name = w.dotted? member name := by
  unfold dotted?
  simp only [longestModule?_guessing, attributes?_guessing]
  rfl

end Members

theorem member?_guessing (hops : Nat) : w.guessing.member? hops = w.member? hops := by
  induction hops with
  | zero =>
    funext m name
    unfold member?
    cases defined? m name with
    | some target => rfl
    | none => cases m.imports.bindings.lookup name <;> rfl
  | succ hops ih =>
    funext m name
    unfold member?
    cases defined? m name with
    | some target => rfl
    | none =>
      cases m.imports.bindings.lookup name with
      | some target =>
        dsimp only
        rw [ih, dotted?_guessing]
      | none =>
        dsimp only
        rw [ih]
        rfl

theorem nameIn?_guessing (context : Context) (name : String) :
    w.guessing.nameIn? context name = w.nameIn? context name := by
  unfold nameIn? absolute? name?
  rw [member?_guessing]
  simp only [dotted?_guessing]

theorem resolution?_guessing (target : Target) : w.guessing.resolution? target = w.resolution? target := by
  unfold resolution? constructorsOf
  simp only [inherited_guessing]
  rfl

end Lookups

/-! ## Expressions -/

variable {w : Index}

/-- **What an expression means with guesses.** -/
theorem widened_expression? (off : w.guesses = false) (context : Context) (e : Expr) :
    Widened (w.expression? context e) (w.guessing.expression? context e) := by
  have unguessed : ∀ name, w.guess? name = none := by
    intro name
    simp [guess?, off]
  fun_induction w.expression? context e with
  | case1 id =>
    rw [expression?, nameIn?_guessing]
    exact .same _
  | case2 value name owner above none =>
    rw [expression?, above]
    dsimp only
    rw [inheritedAbove_guessing, none]
    exact .same _
  | case3 value name owner above some =>
    rw [expression?, above]
    dsimp only
    rw [inheritedAbove_guessing]
    split
    · exact absurd ‹_› some
    · exact .same _
  | case4 value name plain unknown ih =>
    rw [unknown] at ih
    rw [expression?, plain, unguessed]
    dsimp only
    -- a guess has no attributes, so a second guess is only made of what stays unknown
    rcases ih.of_none with same | ⟨guessed, same⟩
    · rw [same]
      exact .guessed name
    · rw [same]
      exact .same none
  | case5 value name plain c known none ih =>
    rw [known] at ih
    rw [expression?, plain, unguessed, ih.of_some]
    dsimp only
    rw [inherited_guessing, none]
    exact .guessed name
  | case6 value name plain c known some ih =>
    rw [known] at ih
    rw [expression?, plain, ih.of_some]
    dsimp only
    rw [inherited_guessing]
    split
    · exact absurd ‹_› some
    · exact .same _
  | case7 value name plain target other known ih =>
    rw [known] at ih
    rw [expression?, plain, ih.of_some]
    dsimp only
    split
    · rename_i unknown
      cases unknown
    · rename_i c same
      exact absurd (Option.some.inj same) (other c)
    · rename_i same
      cases same
      rw [attribute?_guessing, member?_guessing]
      exact .same _
  | case8 e noName noAttribute =>
    rw [expression?]
    · exact .same _
    · exact noName
    · exact noAttribute

/-! ## The class hierarchy -/

theorem base?_guessing (off : w.guesses = false) (c : ClassEntry) : w.guessing.base? c = w.base? c := by
  have modules : w.guessing.moduleAt? c.module.path = w.moduleAt? c.module.path := rfl
  funext base
  unfold base?
  rw [modules]
  cases w.moduleAt? c.module.path with
  | none => rfl
  | some m =>
    have widened := widened_expression? off { module := m } base
    dsimp only
    cases meant : w.expression? { module := m } base with
    | some target =>
      rw [meant] at widened
      rw [widened.of_some]
    | none =>
      rw [meant] at widened
      -- a guess is no class
      rcases widened.of_none with same | ⟨name, same⟩
      · rw [same]
      · rw [same]

theorem hierarchy_guessing (off : w.guesses = false) : w.guessing.hierarchy = w.hierarchy := by
  unfold hierarchy
  simp only [base?_guessing off]
  rfl

theorem withOrders_guessing (off : w.guesses = false) : w.guessing.withOrders = w.withOrders.guessing := by
  unfold withOrders allOrders
  rw [hierarchy_guessing off]
  rfl

end Index

/-- Loading fails as it does without guesses, or gives the same with them. -/
theorem load_guessing (codecs : Codecs) (tree : Files.Tree) (exclude : List String) (path : String) :
    load codecs tree exclude true path = (load codecs tree exclude false path).map Index.guessing := by
  have orders : ∀ project modules, ({ project, modules, guesses := true } : Index).withOrders =
      ({ project, modules, guesses := false } : Index).withOrders.guessing := by
    intro project modules
    exact Index.withOrders_guessing (w := { project, modules, guesses := false }) rfl
  rw [Index.load_eq rfl rfl, Index.load_eq rfl rfl]
  simp only [orders]
  split
  · rfl
  · split
    · rfl
    · cases (tree.sources exclude (tree.absolute path)).mapM (Index.moduleOf codecs tree (tree.absolute path)) <;> rfl

/-! ## Calls -/

namespace Index

variable {w : Index}

/-- What a call of an expression refers to. -/
def referred? (w : Index) (context : Context) (e : Expr) : Option Resolution :=
  (w.expression? context e).bind w.resolution?

theorem referred?_guessing (off : w.guesses = false) {context : Context} {e : Expr} {r : Resolution}
    (known : w.referred? context e = some r) : w.guessing.referred? context e = some r := by
  obtain ⟨target, meant, resolved⟩ := Option.bind_eq_some_iff.1 known
  have widened := widened_expression? off context e
  rw [meant] at widened
  refine Option.bind_eq_some_iff.2 ⟨target, widened.of_some, ?_⟩
  rw [resolution?_guessing]
  exact resolved

/-- What is only known with guesses is any method of a name. -/
theorem referred?_guessed (off : w.guesses = false) {context : Context} {e : Expr} {r : Resolution}
    (unknown : w.referred? context e = none) (known : w.guessing.referred? context e = some r) :
    ∃ name, r = { candidates := (w.methodsAnywhere name).map .declaration } := by
  obtain ⟨target, meant, resolved⟩ := Option.bind_eq_some_iff.1 known
  rw [resolution?_guessing] at resolved
  have widened := widened_expression? off context e
  rw [meant] at widened
  cases before : w.expression? context e with
  | some other =>
    rw [before] at widened
    cases widened.of_some
    rw [referred?, before, Option.bind_some, resolved] at unknown
    cases unknown
  | none =>
    rw [before] at widened
    rcases widened.of_none with none | ⟨name, same⟩
    · cases none
    · cases same
      refine ⟨name, ?_⟩
      unfold resolution? at resolved
      dsimp only at resolved
      split at resolved
      · cases resolved
      · exact (Option.some.inj resolved).symm

end Index

/-- What is called, without type arguments. -/
def CallSite.callee (site : CallSite) : Expr :=
  match site.function with
  | .subscript value _ => value
  | function => function

/-- What the type arguments of a call, if any, make of a resolution. -/
def CallSite.form (site : CallSite) : Except RenderFault (Resolution → Resolution) :=
  match site.function with
  | .subscript _ index => do
    let arguments := [← index.text]
    return fun r =>
      { referent := specialized arguments r.referent, candidates := r.candidates.map (specialized arguments) }
  | _ => .ok id

/-- Type arguments can be taken away from declarations again. -/
theorem CallSite.underlying_form {site : CallSite} {form : Resolution → Resolution} (h : site.form = .ok form)
    (units : List Callable) :
    (form { candidates := units.map .declaration }).candidates.map (·.underlying) = units.map .declaration ∧
      (form { candidates := units.map .declaration }).referent = .absent := by
  unfold CallSite.form at h
  split at h
  · obtain ⟨text, -, h⟩ := bind_eq_ok.1 h
    cases pure_eq_ok.1 h
    simp [specialized, Referent.underlying, Referent.isPresent]
  · cases h
    simp [Referent.underlying]

namespace Index

variable {w : Index} {context : Context} {site : CallSite}

theorem call?_eq (w : Index) (context : Context) (site : CallSite) :
    w.call? context site = do return (w.referred? context site.callee).map (← site.form) := by
  obtain ⟨start, function⟩ := site
  unfold call? CallSite.form CallSite.callee
  cases function with
  | subscript value index =>
    dsimp only
    cases index.text <;> rfl
  | _ => exact congrArg Except.ok (congrFun Option.map_id _).symm

/-- A call of an attribute has no type arguments. -/
theorem call?_of_attribute {value : Expr} {name : String} (called : site.function = .attribute value name) :
    w.call? context site = .ok (w.referred? context (.attribute value name)) := by
  rw [call?, called]
  rfl

theorem call?_guessing (off : w.guesses = false) {r : Resolution} (known : w.call? context site = .ok (some r)) :
    w.guessing.call? context site = .ok (some r) := by
  rw [call?_eq] at known ⊢
  obtain ⟨form, written, known⟩ := bind_eq_ok.1 known
  obtain ⟨plain, referred, formed⟩ := Option.map_eq_some_iff.1 (pure_eq_ok.1 known)
  rw [written, referred?_guessing off referred, ← formed]
  rfl

theorem call?_guessed (off : w.guesses = false) {r : Resolution} (unknown : w.call? context site = .ok none)
    (known : w.guessing.call? context site = .ok (some r)) :
    r.referent = .absent ∧ ∃ name, r.candidates.map (·.underlying) = (w.methodsAnywhere name).map .declaration := by
  rw [call?_eq] at known unknown
  obtain ⟨form, written, known⟩ := bind_eq_ok.1 known
  obtain ⟨plain, referred, rfl⟩ := Option.map_eq_some_iff.1 (pure_eq_ok.1 known)
  rw [written] at unknown
  obtain ⟨name, rfl⟩ := referred?_guessed off (Option.map_eq_none_iff.1 (pure_eq_ok.1 unknown)) referred
  obtain ⟨candidates, referent⟩ := CallSite.underlying_form written (w.methodsAnywhere name)
  exact ⟨referent, name, candidates⟩

theorem call?_eq_error_iff {fault : RenderFault} : w.call? context site = .error fault ↔ site.form = .error fault := by
  rw [call?_eq]
  cases site.form <;> simp [bind, Except.bind, pure, Except.pure]

end Index

/-! ## Surveys -/

end CallAtlas.Workspace

namespace CallAtlas.CodeBase

variable {r : CodeBase} {calls : Document → Callable → Except Refusal (List (Option Resolution))}

theorem extent_withCalls : { r with calls }.extent = r.extent := rfl

/-- What is answered and what is met by a gap decides if a survey ends, whatever the answers are. -/
theorem onlyGaps_withCalls (same : ∀ d u, isAnswer (calls d u) = isAnswer (r.calls d u) ∧
    isGap (calls d u) = isGap (r.calls d u)) : { r with calls }.OnlyGaps ↔ r.OnlyGaps := by
  have settled : ∀ d u, Settled (calls d u) ↔ Settled (r.calls d u) := by
    intro d u
    rw [settled_iff, settled_iff, (same d u).1, (same d u).2]
  constructor
  · intro only
    exact ⟨only.projects, only.documents, fun e he asked => (settled _ _).1 (only.declarations e he asked)⟩
  · intro only
    exact ⟨only.projects, only.documents, fun e he asked => (settled _ _).2 (only.declarations e he asked)⟩

theorem sightings_withCalls (same : ∀ d u, isAnswer (calls d u) = isAnswer (r.calls d u) ∧
    isGap (calls d u) = isGap (r.calls d u)) : { r with calls }.sightings = r.sightings := by
  refine List.filter_congr fun e _ => ?_
  unfold isSighted
  dsimp only
  rw [(same e.2 e.1).1]
  rfl

end CallAtlas.CodeBase

namespace CallAtlas.Workspace

open Source CallGraph

namespace Index

variable {w : Index}

theorem declaration?_guessing (w : Index) (path : String) (u : Callable) :
    w.guessing.declaration? path u = w.declaration? path u := rfl

theorem calls_of_unknown {document : Document} {u : Callable} (unknown : w.declaration? document.path u = none) :
    w.codeBase.calls document u = .error (.gap ("unknown declaration " ++ u.name)) := by
  change (·.map (·.2)) <$> w.resolvedCalls document.path u = _
  rw [resolvedCalls, unknown]
  rfl

theorem isAnswer_calls_iff {document : Document} {u : Callable} {m : ModuleEntry} {d : Declaration}
    (found : w.declaration? document.path u = some (m, d)) :
    isAnswer (w.codeBase.calls document u) = true ↔ ∀ site ∈ sitesIn d, site.IsWritable := by
  have settled := settled_calls_iff found
  rw [settled_iff, isGap_calls found] at settled
  simpa using settled

/-- The calls in a declaration are known, or missing, as they are without guesses. -/
theorem answered_guessing (w : Index) (document : Document) (u : Callable) :
    isAnswer (w.guessing.codeBase.calls document u) = isAnswer (w.codeBase.calls document u) ∧
      isGap (w.guessing.codeBase.calls document u) = isGap (w.codeBase.calls document u) := by
  have same := w.declaration?_guessing document.path u
  cases found : w.declaration? document.path u with
  | none =>
    rw [calls_of_unknown found, calls_of_unknown (same.trans found)]
    exact ⟨rfl, rfl⟩
  | some known =>
    obtain ⟨m, d⟩ := known
    refine ⟨?_, ?_⟩
    · rw [Bool.eq_iff_iff, isAnswer_calls_iff found, isAnswer_calls_iff (same.trans found)]
    · rw [isGap_calls found, isGap_calls (same.trans found)]

theorem codeBase_guessing (w : Index) :
    w.guessing.codeBase = { w.codeBase with calls := w.guessing.codeBase.calls } := rfl

theorem extent_guessing (w : Index) : w.guessing.codeBase.extent = w.codeBase.extent := by
  rw [codeBase_guessing]
  exact CodeBase.extent_withCalls

theorem onlyGaps_guessing (w : Index) : w.guessing.codeBase.OnlyGaps ↔ w.codeBase.OnlyGaps := by
  rw [codeBase_guessing]
  exact CodeBase.onlyGaps_withCalls w.answered_guessing

theorem sightings_guessing (w : Index) : w.guessing.codeBase.sightings = w.codeBase.sightings := by
  rw [codeBase_guessing]
  exact CodeBase.sightings_withCalls w.answered_guessing

theorem refers_of_callsTo {document : Document} {u t : Callable}
    (answered : isAnswer (w.codeBase.calls document u) = true) (h : w.CallsTo document u t) :
    w.codeBase.Refers document u t := by
  obtain ⟨m, d, found, site, hsite, r, called, counts⟩ := h
  obtain ⟨resolutions, answered⟩ := isAnswer_iff.1 answered
  refine ⟨resolutions, answered, r, ?_, counts⟩
  rw [calls_eq found] at answered
  cases run : (sitesIn d).mapM (w.call? (contextOf m d)) with
  | error fault =>
    rw [run] at answered
    cases answered
  | ok all =>
    rw [run] at answered
    cases answered
    exact mem_mapM run hsite called

theorem refers_guessing (off : w.guesses = false) {document : Document} {u t : Callable}
    (h : w.codeBase.Refers document u t) : w.guessing.codeBase.Refers document u t := by
  have answered : isAnswer (w.codeBase.calls document u) = true := by
    obtain ⟨resolutions, answered, -⟩ := h
    exact isAnswer_iff.2 ⟨resolutions, answered⟩
  cases found : w.declaration? document.path u with
  | none =>
    rw [calls_of_unknown found] at answered
    cases answered
  | some known =>
    obtain ⟨m, d, found, site, hsite, r, called, counts⟩ := callsTo_of_refers found h
    have same := (w.declaration?_guessing document.path u).trans found
    refine refers_of_callsTo ?_ ⟨m, d, same, site, hsite, r, call?_guessing off called, counts⟩
    rw [(w.answered_guessing document u).1]
    exact answered

variable {s t : Survey}

theorem register_guessing (without : s.Tells w.codeBase) (guessed : t.Tells w.guessing.codeBase) :
    t.register = s.register := by
  rw [without.register, guessed.register, sightings_guessing]

theorem linked_guessing (off : w.guesses = false) (without : s.Tells w.codeBase)
    (guessed : t.Tells w.guessing.codeBase) {i j : CallableId} (h : Linked s.graph.calls i j) :
    Linked t.graph.calls i j := by
  obtain ⟨document, u, target, sights, refers, inScope, registered, rfl, rfl⟩ := without.linked_iff.1 h
  refine guessed.linked_iff.2 ⟨document, u, target, ?_, refers_guessing off refers, ?_, ?_, rfl, rfl⟩
  · have sighted : (u, document) ∈ w.guessing.codeBase.sightings := by
      rw [sightings_guessing]
      exact CodeBase.mem_sightings_iff.2 sights
    exact CodeBase.mem_sightings_iff.1 sighted
  · rw [extent_guessing]
    exact inScope
  · rw [register_guessing without guessed]
    exact registered

/-! ## Loaded workspaces -/

/-- The class hierarchy that the orders of a loaded workspace were made of. -/
def inheritance (w : Index) : Hierarchy := { w with orders := [] }.hierarchy

/-- The workspace `g` has all that the workspace `w` has, and besides only calls that may be of any method of a name. -/
structure Widens (w g : Index) : Prop where
  projects : g.codeBase.projects = w.codeBase.projects
  documents : g.codeBase.documents = w.codeBase.documents
  declared : g.codeBase.declared = w.codeBase.declared
  inheritance : g.inheritance = w.inheritance
  orders : g.orders = w.orders
  sites : ∀ path u, g.sitesOf path u = w.sitesOf path u
  /-- What a call was found to refer to stays. -/
  calls : ∀ context site r, w.call? context site = .ok (some r) → g.call? context site = .ok (some r)
  /-- What a call is newly found to refer to is any method of a name. -/
  added : ∀ context site r, w.call? context site = .ok none → g.call? context site = .ok (some r) →
    r.referent = .absent ∧ ∃ name, r.candidates.map (·.underlying) = (w.methodsAnywhere name).map .declaration
  faults : ∀ context site fault, g.call? context site = .error fault ↔ w.call? context site = .error fault
  ends : (∃ t, Survey.ofCodeBase g.codeBase = .ok t) ↔ ∃ s, Survey.ofCodeBase w.codeBase = .ok s
  register : ∀ s t, Survey.ofCodeBase w.codeBase = .ok s → Survey.ofCodeBase g.codeBase = .ok t →
    t.register = s.register
  links : ∀ s t, Survey.ofCodeBase w.codeBase = .ok s → Survey.ofCodeBase g.codeBase = .ok t →
    ∀ i j, Linked s.graph.calls i j → Linked t.graph.calls i j

theorem guesses_of_load {codecs : Codecs} {tree : Files.Tree} {exclude : List String} {guesses : Bool} {path : String}
    (loaded : load codecs tree exclude guesses path = .ok w) : w.guesses = guesses := by
  obtain ⟨-, -, modules, -, rfl⟩ := (load_eq_ok_iff rfl rfl).1 loaded
  rfl

theorem widens_guessing (off : w.guesses = false) : w.Widens w.guessing := by
  constructor
  case projects => rfl
  case documents => rfl
  case declared => rfl
  case inheritance => exact hierarchy_guessing (w := { w with orders := [] }) off
  case orders => rfl
  case sites => exact fun _ _ => rfl
  case calls => exact fun _ _ _ known => call?_guessing off known
  case added => exact fun _ _ _ unknown known => call?_guessed off unknown known
  case faults => exact fun _ _ _ => call?_eq_error_iff.trans call?_eq_error_iff.symm
  case ends => rw [Survey.exists_ofCodeBase_iff, Survey.exists_ofCodeBase_iff, onlyGaps_guessing]
  case register =>
    intro s t without guessed
    exact register_guessing (Survey.tells_of_eq_ok without) (Survey.tells_of_eq_ok guessed)
  case links =>
    intro s t without guessed i j linked
    exact linked_guessing off (Survey.tells_of_eq_ok without) (Survey.tells_of_eq_ok guessed) linked

/-- **Guesses only add**: a workspace is loaded with guesses exactly if it is loaded without, and has the same
declarations, class hierarchy and orders then; each call that refers to something refers to the same; and a survey
registers the same declarations and keeps all links. -/
theorem guesses_only_add (codecs : Codecs) (tree : Files.Tree) (exclude : List String) (path : String) :
    (∀ fault,
      load codecs tree exclude true path = .error fault ↔ load codecs tree exclude false path = .error fault) ∧
    ∀ w, load codecs tree exclude false path = .ok w →
      ∃ g, load codecs tree exclude true path = .ok g ∧ w.Widens g := by
  rw [load_guessing]
  cases loaded : load codecs tree exclude false path with
  | error fault =>
    refine ⟨fun _ => Iff.rfl, ?_⟩
    rintro w ⟨⟩
  | ok w =>
    refine ⟨fun fault => ⟨?_, ?_⟩, ?_⟩
    · rintro ⟨⟩
    · rintro ⟨⟩
    · rintro _ ⟨⟩
      exact ⟨w.guessing, rfl, widens_guessing (guesses_of_load loaded)⟩

/-- In the workspace of one file, `g` calls itself, and `f` calls a method `m` on something unknown. -/
def Sample.unknownReceiver : Files.Tree :=
  Sample.treeOf [("a.py", "class A:\n    def m(self): pass\ndef f(x): x.m()\ndef g(): g()\n")]

theorem guesses_only_add_sample :
    ∃ w g s t, load usualCodecs Sample.unknownReceiver Files.defaultExcludes false Sample.root = .ok w ∧
      load usualCodecs Sample.unknownReceiver Files.defaultExcludes true Sample.root = .ok g ∧ w.Widens g ∧
      Survey.ofCodeBase w.codeBase = .ok s ∧ Survey.ofCodeBase g.codeBase = .ok t ∧
      s.graph.callCount = 1 ∧ t.graph.callCount = 2 := by
  have run : ((load usualCodecs Sample.unknownReceiver Files.defaultExcludes false Sample.root).toOption.any fun w =>
      (load usualCodecs Sample.unknownReceiver Files.defaultExcludes true Sample.root).toOption.any fun g =>
        (Survey.ofCodeBase w.codeBase).toOption.any (·.graph.callCount == 1) &&
          (Survey.ofCodeBase g.codeBase).toOption.any (·.graph.callCount == 2)) = true := by
    decide +kernel
  obtain ⟨w, loaded, run⟩ := exists_ok_of_any run
  obtain ⟨g, guessed, widens⟩ := (guesses_only_add _ _ _ _).2 w loaded
  rw [guessed] at run
  obtain ⟨without, widened⟩ := Bool.and_eq_true_iff.1 run
  obtain ⟨s, surveyed, one⟩ := exists_ok_of_any without
  obtain ⟨t, again, two⟩ := exists_ok_of_any widened
  exact ⟨w, g, s, t, loaded, guessed, widens, surveyed, again, eq_of_beq one, eq_of_beq two⟩

end Index

end CallAtlas.Workspace
