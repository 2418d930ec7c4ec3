import CallAtlas.Proofs.Guesses
import CallAtlas.Proofs.Modes

/-!
# Calls on unknown receivers

A workspace that guesses takes a call on an unknown receiver for a call of any method of the name. The receiver may be
any expression, and it may be guessed itself: an attribute of something unknown is. A guess has no attributes, so what
is called on one stays unknown, and what is called on that is guessed again. `isGuessed` says of a workspace without
guesses which expressions will be guessed; a call on an unknown receiver is then resolved exactly if the receiver is
none of them. Along a chain of attributes this goes by turns.
-/

namespace CallAtlas.Workspace

open Source

/-! ## The methods of a name -/

/-- What methods of one name are listed by: the file, and the place in it. -/
def placeKey (u : Callable) : String ×ₗ Nat ×ₗ Nat :=
  toLex (u.path, toLex (u.span.start.line, u.span.start.column))

namespace Index

theorem placeLe_iff (a b : Callable) : placeLe a b = true ↔ placeKey a ≤ placeKey b := by
  unfold placeLe
  simp only [Ordering.then_assoc, Ordering.isLE_then_iff_or, Std.isLE_compare, compare_lt_iff_lt, compare_eq_iff_eq,
    placeKey, Prod.Lex.toLex_le_toLex]

/-- The methods of a name that the classes of the workspace declare, module by module. -/
def declaredMethods (w : Index) (name : String) : List Callable :=
  (w.declarations.filter fun d => d.owner.isSome && d.unit.name == name).map (·.unit)

/-- The methods of a name are listed by file and place. -/
theorem stablySorted_methodsAnywhere (w : Index) (name : String) :
    StablySorted placeKey (w.declaredMethods name) (w.methodsAnywhere name) := by
  have named : w.declaredMethods name =
      ((w.declarations.filter (·.owner.isSome)).map (·.unit)).filter (·.name == name) := by
    rw [declaredMethods, List.filter_map, List.filter_filter]
    refine congrArg _ (List.filter_congr fun d _ => ?_)
    exact Bool.and_comm _ _
  have all := stablySorted_mergeSort placeLe_iff ((w.declarations.filter (·.owner.isSome)).map (·.unit))
  constructor
  · exact all.rising.filter _
  · intro k
    have swap : ∀ us : List Callable, (us.filter (·.name == name)).filter (fun u => placeKey u = k) =
        (us.filter fun u => placeKey u = k).filter (·.name == name) := by
      intro us
      rw [List.filter_filter, List.filter_filter]
      exact List.filter_congr fun u _ => Bool.and_comm _ _
    rw [named, methodsAnywhere, allMethods, swap, swap, all.stable k]

theorem methodsAnywhere_ne_nil {w : Index} {name : String} {d : Declaration} (hd : d ∈ w.declarations)
    (method : d.owner.isSome = true) (called : d.unit.name = name) : w.methodsAnywhere name ≠ [] := by
  have mem : d.unit ∈ w.declaredMethods name := by
    refine List.mem_map.2 ⟨d, List.mem_filter.2 ⟨hd, ?_⟩, rfl⟩
    simp [method, called]
  have listed := (w.stablySorted_methodsAnywhere name).perm.mem_iff.2 mem
  exact List.ne_nil_of_mem listed

end Index

/-! ## Guessed receivers -/

/-- No call of `super` inside a class. -/
def Context.IsPlain (context : Context) (e : Expr) : Prop := isSuperCall e = true → context.owner = none

theorem Context.IsPlain.owner_eq {context : Context} {e : Expr} (plain : context.IsPlain e) :
    (if isSuperCall e then context.owner else none) = none := by
  by_cases super : isSuperCall e = true
  · rw [if_pos super, plain super]
  · rw [if_neg super]

theorem Context.isPlain_attribute (context : Context) (e : Expr) (name : String) :
    context.IsPlain (.attribute e name) := by
  intro super
  cases super

namespace Index

variable {w : Index} {context : Context}

/-- In the workspace `w`, which does not guess: will the expression be guessed by one that does? An attribute of
something unknown will be, unless that is guessed already; so will an attribute that the receiver's class lacks. -/
def isGuessed (w : Index) (context : Context) : Expr → Bool
  | .attribute value name =>
    match (if isSuperCall value then context.owner else none) with
    | some _ => false
    | none =>
      match w.expression? context value with
      | none => !isGuessed w context value
      | some (.instance c) => (w.inherited c name).isEmpty
      | some _ => false
  | _ => false

/-- What an unknown expression means with guesses: the guess of its last name if it is one of those that are guessed,
and nothing otherwise. -/
theorem expression?_guessing_of_unknown (off : w.guesses = false) {e : Expr}
    (unknown : w.expression? context e = none) :
    w.guessing.expression? context e = none ∧ w.isGuessed context e = false ∨
      (∃ name, w.guessing.expression? context e = some (.guess name)) ∧ w.isGuessed context e = true := by
  fun_induction w.expression? context e with
  | case1 id =>
    refine Or.inl ⟨?_, rfl⟩
    rw [expression?, nameIn?_guessing]
    exact unknown
  | case2 value name owner above none =>
    rw [isGuessed, expression?, above]
    dsimp only
    rw [inheritedAbove_guessing, none]
    exact Or.inl ⟨rfl, rfl⟩
  | case3 => cases unknown
  | case4 value name plain before ih =>
    rw [isGuessed, expression?, plain, before]
    dsimp only
    -- a guess is made of what stays unknown, and a guess has no attributes
    rcases ih before with ⟨same, fresh⟩ | ⟨⟨inner, same⟩, again⟩
    · rw [same, fresh]
      exact Or.inr ⟨⟨name, rfl⟩, rfl⟩
    · rw [same, again]
      exact Or.inl ⟨rfl, rfl⟩
  | case5 value name plain c known none =>
    have widened := widened_expression? off context value
    rw [known] at widened
    rw [isGuessed, expression?, plain, known, widened.of_some]
    dsimp only
    rw [inherited_guessing, none]
    exact Or.inr ⟨⟨name, rfl⟩, rfl⟩
  | case6 => cases unknown
  | case7 value name plain target other known =>
    have widened := widened_expression? off context value
    rw [known] at widened
    rw [isGuessed, expression?, plain, known, widened.of_some]
    dsimp only
    cases target with
    | «instance» c => exact absurd rfl (other c)
    | _ =>
      dsimp only
      rw [attribute?_guessing, member?_guessing]
      exact Or.inl ⟨unknown, rfl⟩
  | case8 e noName noAttribute =>
    rw [isGuessed, expression?]
    · exact Or.inl ⟨rfl, rfl⟩
    · exact noName
    · exact noAttribute
    · exact noAttribute

/-- A call on an unknown receiver means any method of the name, unless the receiver is guessed itself. -/
theorem expression?_guessing_on_unknown (off : w.guesses = false) {receiver : Expr} (plain : context.IsPlain receiver)
    (unknown : w.expression? context receiver = none) (name : String) :
    w.guessing.expression? context (.attribute receiver name) =
      if w.isGuessed context receiver then none else some (.guess name) := by
  rw [expression?, plain.owner_eq]
  dsimp only
  rcases expression?_guessing_of_unknown off unknown with ⟨same, fresh⟩ | ⟨⟨inner, same⟩, again⟩
  · rw [same, fresh]
    rfl
  · rw [same, again]
    rfl

theorem resolution?_guess (w : Index) {name : String} (some : w.methodsAnywhere name ≠ []) :
    w.resolution? (.guess name) = .some { candidates := (w.methodsAnywhere name).map .declaration } := by
  unfold resolution?
  dsimp only
  split
  · exact absurd ‹_› some
  · rfl

/-! ## Chains of attributes -/

/-- An attribute of an attribute, and so on; the last name comes last. -/
def attributeChain (e : Expr) (names : List String) : Expr := names.foldl .attribute e

/-- What has an attribute of something unknown as its front is unknown without guesses. -/
theorem expression?_attributeChain (off : w.guesses = false) {e : Expr} (plain : context.IsPlain e)
    (unknown : w.expression? context e = none) (names : List String) :
    w.expression? context (attributeChain e names) = none := by
  induction names generalizing e with
  | nil => exact unknown
  | cons name names ih =>
    refine ih (context.isPlain_attribute e name) ?_
    rw [expression?, plain.owner_eq]
    dsimp only
    rw [unknown]
    simp [guess?, off]

/-- Along a chain of attributes of something unknown, every other one is guessed. -/
theorem isGuessed_attributeChain (off : w.guesses = false) {e : Expr} (plain : context.IsPlain e)
    (unknown : w.expression? context e = none) (names : List String) :
    w.isGuessed context (attributeChain e names) = (w.isGuessed context e).xor (decide (names.length % 2 = 1)) := by
  induction names generalizing e with
  | nil => simp [attributeChain]
  | cons name names ih =>
    have next : w.expression? context (.attribute e name) = none :=
      expression?_attributeChain off plain unknown [name]
    have turned : w.isGuessed context (.attribute e name) = !w.isGuessed context e := by
      rw [isGuessed, plain.owner_eq]
      dsimp only
      rw [unknown]
    have turns : decide ((name :: names).length % 2 = 1) = !decide (names.length % 2 = 1) := by
      rw [List.length_cons, ← decide_not]
      exact decide_eq_decide.2 (by omega)
    rw [turns]
    refine (ih (context.isPlain_attribute e name) next).trans ?_
    rw [turned, Bool.not_xor, Bool.xor_not]

/-! ## Calls -/

/-- A call in the workspace `g`, which guesses: its receiver means nothing in `w`, where no guesses are made, and some
class has a method of the name. -/
structure OnUnknown (w g : Index) (context : Context) (site : CallSite) (receiver : Expr) (name : String) : Prop where
  called : site.function = .attribute receiver name
  plain : context.IsPlain receiver
  unknown : w.expression? context receiver = none
  declared : ∃ d ∈ g.declarations, d.owner.isSome = true ∧ d.unit.name = name

theorem call?_of_onUnknown (off : w.guesses = false) {site : CallSite} {receiver : Expr} {name : String}
    (h : OnUnknown w w.guessing context site receiver name) :
    w.guessing.call? context site = .ok (if w.isGuessed context receiver then none
      else some { candidates := (w.guessing.methodsAnywhere name).map .declaration }) := by
  obtain ⟨d, hd, method, named⟩ := h.declared
  have some := methodsAnywhere_ne_nil hd method named
  rw [call?_of_attribute h.called, referred?, expression?_guessing_on_unknown off h.plain h.unknown]
  cases w.isGuessed context receiver with
  | true => rfl
  | false =>
    refine congrArg Except.ok ?_
    exact resolution?_guess _ some

/-- **Calls on unknown receivers are guessed, unless the receiver is a guess**: in a workspace loaded with guesses, a
call on a receiver that means nothing without them means all methods of the name, listed by file and place, if the
receiver is not guessed itself, and nothing otherwise. Nothing but attributes is guessed, and along a chain of
attributes of something unknown every other one is. -/
theorem unknown_receivers_guessed {codecs : Codecs} {tree : Files.Tree} {exclude : List String} {path : String} {g : Index}
    (loaded : load codecs tree exclude true path = .ok g) :
    ∃ w, load codecs tree exclude false path = .ok w ∧
      (∀ context site receiver name, OnUnknown w g context site receiver name →
        ∃ units, units ≠ [] ∧ StablySorted placeKey (g.declaredMethods name) units ∧
          g.call? context site = .ok (if w.isGuessed context receiver then none
            else some { candidates := units.map .declaration })) ∧
      (∀ context e, (∀ value name, e ≠ .attribute value name) → w.isGuessed context e = false) ∧
      ∀ context e names, context.IsPlain e → w.expression? context e = none → w.isGuessed context e = false →
        (w.isGuessed context (attributeChain e names) = true ↔ names.length % 2 = 1) := by
  rw [load_guessing] at loaded
  cases without : load codecs tree exclude false path with
  | error fault =>
    rw [without] at loaded
    cases loaded
  | ok w =>
    rw [without] at loaded
    cases loaded
    have off := guesses_of_load without
    refine ⟨w, rfl, ?_, ?_, ?_⟩
    · intro context site receiver name call
      obtain ⟨d, hd, method, named⟩ := call.declared
      exact ⟨w.guessing.methodsAnywhere name, methodsAnywhere_ne_nil hd method named,
        w.guessing.stablySorted_methodsAnywhere name, call?_of_onUnknown off call⟩
    · intro context e other
      rw [isGuessed]
      exact other
    · intro context e names plain unknown fresh
      rw [isGuessed_attributeChain off plain unknown names, fresh, Bool.false_xor, decide_eq_true_iff]

namespace Sample

/-- The calls in a workspace on receivers that mean nothing in `w`, with what they are called on. -/
def callsOnUnknown (w g : Index) : List (Context × CallSite × Expr × String) :=
  g.modules.flatMap fun m => m.declarations.flatMap fun d => (sitesIn d).filterMap fun site =>
    match site.function with
    | .attribute receiver name =>
      if !isSuperCall receiver && (w.expression? (contextOf m d) receiver).isNone &&
          g.declarations.any (fun d => d.owner.isSome && d.unit.name == name) then
        some (contextOf m d, site, receiver, name)
      else none
    | _ => none

theorem onUnknown_of_mem {w g : Index} {call : Context × CallSite × Expr × String} (mem : call ∈ callsOnUnknown w g) :
    OnUnknown w g call.1 call.2.1 call.2.2.1 call.2.2.2 := by
  obtain ⟨m, -, mem⟩ := List.mem_flatMap.1 mem
  obtain ⟨d, -, mem⟩ := List.mem_flatMap.1 mem
  obtain ⟨site, -, made⟩ := List.mem_filterMap.1 mem
  split at made
  · rename_i receiver name called
    split at made
    · rename_i conditions
      cases made
      simp only [Bool.and_eq_true, Bool.not_eq_true', Option.isNone_iff_eq_none, List.any_eq_true, beq_iff_eq]
        at conditions
      obtain ⟨⟨plain, unknown⟩, declared⟩ := conditions
      exact ⟨called, fun super => absurd super (by simp [plain]), unknown, declared⟩
    · cases made
  · cases made

end Sample

theorem unknown_receivers_guessed_sample :
    ∃ w g context site receiver name units,
      load usualCodecs Sample.unknownReceiver Files.defaultExcludes true Sample.root = .ok g ∧
      load usualCodecs Sample.unknownReceiver Files.defaultExcludes false Sample.root = .ok w ∧
      OnUnknown w g context site receiver name ∧ w.isGuessed context receiver = false ∧ units ≠ [] ∧
      StablySorted placeKey (g.declaredMethods name) units ∧
      g.call? context site = .ok (some { candidates := units.map .declaration }) := by
  have run : ((load usualCodecs Sample.unknownReceiver Files.defaultExcludes true Sample.root).toOption.any fun g =>
      (load usualCodecs Sample.unknownReceiver Files.defaultExcludes false Sample.root).toOption.any fun w =>
        (Sample.callsOnUnknown w g).any fun call => !w.isGuessed call.1 call.2.2.1) = true := by
    decide +kernel
  obtain ⟨g, loaded, run⟩ := exists_ok_of_any run
  obtain ⟨w, without, guessed, -⟩ := unknown_receivers_guessed loaded
  rw [without] at run
  obtain ⟨call, mem, fresh⟩ := List.any_eq_true.1 run
  have fresh : w.isGuessed call.1 call.2.2.1 = false := by simpa using fresh
  have unknown := Sample.onUnknown_of_mem mem
  obtain ⟨units, some, listed, called⟩ := guessed _ _ _ _ unknown
  rw [fresh] at called
  exact ⟨w, g, _, _, _, _, units, loaded, without, unknown, fresh, some, listed, called⟩

/-- In the workspace of one file, `f` calls a method `m` on an attribute of something unknown. -/
def Sample.farReceiver : Files.Tree :=
  Sample.treeOf [("a.py", "class A:\n    def m(self): pass\ndef f(x): x.y.m()\n")]

/-- A call on an attribute of something unknown refers to nothing, although a class has the method. -/
theorem attribute_of_guess_unresolved :
    ∃ w g context site receiver name,
      load usualCodecs Sample.farReceiver Files.defaultExcludes true Sample.root = .ok g ∧
      load usualCodecs Sample.farReceiver Files.defaultExcludes false Sample.root = .ok w ∧
      OnUnknown w g context site receiver name ∧ g.call? context site = .ok none := by
  have run : ((load usualCodecs Sample.farReceiver Files.defaultExcludes true Sample.root).toOption.any fun g =>
      (load usualCodecs Sample.farReceiver Files.defaultExcludes false Sample.root).toOption.any fun w =>
        (Sample.callsOnUnknown w g).any fun call => (g.call? call.1 call.2.1).toOption == some none) = true := by
    decide +kernel
  obtain ⟨g, loaded, run⟩ := exists_ok_of_any run
  obtain ⟨w, without, run⟩ := exists_ok_of_any run
  obtain ⟨call, mem, unresolved⟩ := List.any_eq_true.1 run
  exact ⟨w, g, _, _, _, _, loaded, without, Sample.onUnknown_of_mem mem, eq_ok_of_toOption (eq_of_beq unresolved)⟩

end Index

end CallAtlas.Workspace
