import CallAtlas.Proofs.ImportChains
import Mathlib.Logic.Relation

/-!
# Names that modules pass on

A look-up follows imports that may lead in circles, and keeps no list of the modules it has been to; it counts the
imports that it has followed. `LooksUp` gives the rules by which a look-up goes on, with that count and without any
other bound. They come to an end for every name of every module, with one answer each, which is what `member?` computes.
A name that is passed on from module to module is found as long as the modules on the way are not more than are
followed, whatever circles there are beside it; and if only one module has the name at all, what it has is the answer.
-/

namespace CallAtlas.Workspace.Index

open Source

variable {w : Index} {m other last : ModuleEntry} {name : String} {depth hops : Nat}

/-! ## The rules of a look-up -/

mutual

/-- The answer to a name of a module, after `depth` imports have been followed. -/
inductive LooksUp (w : Index) : Nat → ModuleEntry → String → Option Target → Prop
  | own {depth : Nat} {m : ModuleEntry} {name : String} {target : Target} (own : w.origin m name = .own target) :
      LooksUp w depth m name (some target)
  | bound {depth : Nat} {m : ModuleEntry} {name target : String} {answer : Option Target}
      (bound : w.origin m name = .bound target) (follows : LooksUpDotted w (depth + 1) target answer) :
      LooksUp w depth m name answer
  | submodule {depth : Nat} {m sub : ModuleEntry} {name : String} (inside : w.origin m name = .submodule sub) :
      LooksUp w depth m name (some (.module sub))
  | elsewhere {depth : Nat} {m : ModuleEntry} {name : String} {answer : Option Target}
      (elsewhere : w.origin m name = .elsewhere) (tries : LooksUpStars w depth m name m.imports.stars answer) :
      LooksUp w depth m name answer

/-- The answer to a dotted name. -/
inductive LooksUpDotted (w : Index) : Nat → String → Option Target → Prop
  | tooDeep {depth : Nat} {dotted : String} (deep : maxImportDepth < depth) : LooksUpDotted w depth dotted none
  | empty {depth : Nat} : LooksUpDotted w depth "" none
  | within {depth : Nat} {dotted : String} {m : ModuleEntry} {names : List String} {answer : Option Target}
      (shallow : depth ≤ maxImportDepth) (nonempty : dotted ≠ "")
      (longest : w.longestModule? (Text.dottedParts dotted) (Text.dottedParts dotted).length = some (m, names))
      (goes : LooksUpAttributes w depth (.module m) names answer) : LooksUpDotted w depth dotted answer
  | unknown {depth : Nat} {dotted : String} (nonempty : dotted ≠ "")
      (absent : w.longestModule? (Text.dottedParts dotted) (Text.dottedParts dotted).length = none)
      (package : w.hasPackage ((Text.dottedParts dotted).headD "") = true) : LooksUpDotted w depth dotted none
  | outside {depth : Nat} {dotted : String} (shallow : depth ≤ maxImportDepth) (nonempty : dotted ≠ "")
      (absent : w.longestModule? (Text.dottedParts dotted) (Text.dottedParts dotted).length = none)
      (foreign : w.hasPackage ((Text.dottedParts dotted).headD "") = false) :
      LooksUpDotted w depth dotted (some (.external dotted))

/-- The answer to a chain of attributes. Only modules are asked in turn; what other targets have is known. -/
inductive LooksUpAttributes (w : Index) : Nat → Target → List String → Option Target → Prop
  | done {depth : Nat} {target : Target} : LooksUpAttributes w depth target [] (some target)
  | asks {depth : Nat} {m : ModuleEntry} {name : String} {names : List String} {next : Target} {answer : Option Target}
      (member : LooksUp w depth m name (some next)) (goes : LooksUpAttributes w depth next names answer) :
      LooksUpAttributes w depth (.module m) (name :: names) answer
  | asksInVain {depth : Nat} {m : ModuleEntry} {name : String} {names : List String}
      (member : LooksUp w depth m name none) : LooksUpAttributes w depth (.module m) (name :: names) none
  | has {depth : Nat} {target next : Target} {name : String} {names : List String} {answer : Option Target}
      (other : ∀ m, target ≠ .module m) (has : w.attribute? (fun _ _ => none) target name = some next)
      (goes : LooksUpAttributes w depth next names answer) : LooksUpAttributes w depth target (name :: names) answer
  | lacks {depth : Nat} {target : Target} {name : String} {names : List String}
      (other : ∀ m, target ≠ .module m) (lacks : w.attribute? (fun _ _ => none) target name = none) :
      LooksUpAttributes w depth target (name :: names) none

/-- The answer of the first module of some that gives one; the module itself is left out. -/
inductive LooksUpStars (w : Index) : Nat → ModuleEntry → String → List String → Option Target → Prop
  | none {depth : Nat} {m : ModuleEntry} {name : String} : LooksUpStars w depth m name [] none
  | skips {depth : Nat} {m : ModuleEntry} {name star : String} {stars : List String} {answer : Option Target}
      (skipped : ∀ other, w.module? star = some other → other.id.path = m.id.path ∨ maxImportDepth ≤ depth)
      (goes : LooksUpStars w depth m name stars answer) : LooksUpStars w depth m name (star :: stars) answer
  | finds {depth : Nat} {m other : ModuleEntry} {name star : String} {stars : List String} {target : Target}
      (named : w.module? star = some other) (apart : other.id.path ≠ m.id.path) (shallow : depth < maxImportDepth)
      (member : LooksUp w (depth + 1) other name (some target)) :
      LooksUpStars w depth m name (star :: stars) (some target)
  | misses {depth : Nat} {m other : ModuleEntry} {name star : String} {stars : List String} {answer : Option Target}
      (named : w.module? star = some other) (apart : other.id.path ≠ m.id.path) (shallow : depth < maxImportDepth)
      (member : LooksUp w (depth + 1) other name none) (goes : LooksUpStars w depth m name stars answer) :
      LooksUpStars w depth m name (star :: stars) answer

end

/-- The look-ups of a depth have one answer each, which `member` gives. -/
def Settles (w : Index) (depth : Nat) (member : ModuleEntry → String → Option Target) : Prop :=
  ∀ m name answer, w.LooksUp depth m name answer ↔ answer = member m name

section Settled

variable {member : ModuleEntry → String → Option Target} {answer : Option Target}

theorem attribute?_of_not_module {target : Target} (other : ∀ m, target ≠ .module m)
    (member : ModuleEntry → String → Option Target) (name : String) :
    w.attribute? member target name = w.attribute? (fun _ _ => none) target name := by
  cases target with
  | module m => exact absurd rfl (other m)
  | _ => rfl

theorem Settles.attributes_iff (settles : w.Settles depth member) {target : Target} {names : List String} :
    w.LooksUpAttributes depth target names answer ↔ answer = w.attributes? member target names := by
  -- along the chain: only the first name is asked for, what it means takes the place of the target
  induction names generalizing target answer with
  | nil =>
    constructor
    · rintro ⟨⟩
      rfl
    · rintro rfl
      exact .done
  | cons name names ih =>
    rw [attributes?_cons]
    constructor
    · intro looks
      cases looks with
      | asks found goes =>
        have first : w.attribute? member (.module _) name = some _ := ((settles _ _ _).1 found).symm
        rw [first]
        exact ih.1 goes
      | asksInVain missing =>
        have first : w.attribute? member (.module _) name = none := ((settles _ _ _).1 missing).symm
        rw [first]
        rfl
      | has other found goes =>
        rw [attribute?_of_not_module other, found]
        exact ih.1 goes
      | lacks other missing =>
        rw [attribute?_of_not_module other, missing]
        rfl
    · rintro rfl
      by_cases isModule : ∃ m, target = .module m
      · obtain ⟨m, rfl⟩ := isModule
        have asked := (settles m name _).2 rfl
        have first : w.attribute? member (.module m) name = member m name := rfl
        rw [first]
        cases found : member m name with
        | none =>
          rw [found] at asked
          exact .asksInVain asked
        | some next =>
          rw [found] at asked
          exact .asks asked (ih.2 rfl)
      · have other : ∀ m, target ≠ .module m := fun m same => isModule ⟨m, same⟩
        rw [attribute?_of_not_module other]
        cases found : w.attribute? (fun _ _ => none) target name with
        | none => exact .lacks other found
        | some next => exact .has other found (ih.2 rfl)

theorem Settles.dotted_iff (settles : w.Settles depth member) (shallow : depth ≤ maxImportDepth) {dotted : String} :
    w.LooksUpDotted depth dotted answer ↔ answer = w.dotted? member dotted := by
  unfold dotted?
  constructor
  · intro looks
    cases looks with
    | tooDeep deep => exact absurd deep (Nat.not_lt.2 shallow)
    | empty => rfl
    | within _ nonempty longest goes =>
      rw [if_neg (by simpa using nonempty)]
      dsimp only
      rw [longest]
      exact settles.attributes_iff.1 goes
    | unknown nonempty absent package =>
      rw [if_neg (by simpa using nonempty)]
      dsimp only
      rw [absent]
      exact (if_pos package).symm
    | outside _ nonempty absent foreign =>
      rw [if_neg (by simpa using nonempty)]
      dsimp only
      rw [absent]
      exact (if_neg (ne_true_of_eq_false foreign)).symm
  · rintro rfl
    by_cases nonempty : dotted = ""
    · subst nonempty
      exact .empty
    · rw [if_neg (by simpa using nonempty)]
      dsimp only
      cases longest : w.longestModule? (Text.dottedParts dotted) (Text.dottedParts dotted).length with
      | some found => exact .within shallow nonempty longest (settles.attributes_iff.2 rfl)
      | none =>
        dsimp only
        cases package : w.hasPackage ((Text.dottedParts dotted).headD "") with
        | true => exact .unknown nonempty longest package
        | false => exact .outside shallow nonempty longest package

theorem dotted_iff_of_deep (deep : maxImportDepth < depth) {dotted : String} :
    w.LooksUpDotted depth dotted answer ↔ answer = none := by
  constructor
  · intro looks
    cases looks with
    | within shallow => exact absurd deep (Nat.not_lt.2 shallow)
    | outside shallow => exact absurd deep (Nat.not_lt.2 shallow)
    | _ => rfl
  · rintro rfl
    exact .tooDeep deep

theorem stars_iff_of_deep (deep : maxImportDepth ≤ depth) {stars : List String} :
    w.LooksUpStars depth m name stars answer ↔ answer = none := by
  induction stars generalizing answer with
  | nil =>
    constructor
    · rintro ⟨⟩
      rfl
    · rintro rfl
      exact .none
  | cons star stars ih =>
    constructor
    · intro looks
      cases looks with
      | skips _ goes => exact ih.1 goes
      | finds _ _ shallow => exact absurd deep (Nat.not_le.2 shallow)
      | misses _ _ shallow => exact absurd deep (Nat.not_le.2 shallow)
    · rintro rfl
      exact .skips (fun _ _ => Or.inr deep) (ih.2 rfl)

theorem Settles.stars_iff (settles : w.Settles (depth + 1) member) (shallow : depth < maxImportDepth)
    {stars : List String} :
    w.LooksUpStars depth m name stars answer ↔ answer = stars.findSome? (w.starred? member m name) := by
  induction stars generalizing answer with
  | nil =>
    constructor
    · rintro ⟨⟩
      rfl
    · rintro rfl
      exact .none
  | cons star stars ih =>
    have skipped (same : ∀ other, w.module? star = some other → other.id.path = m.id.path) :
        w.starred? member m name star = none :=
      starred?_eq_none (fun other named => beq_iff_eq.2 (same other named)) member
    rw [List.findSome?_cons]
    constructor
    · intro looks
      cases looks with
      | skips skips goes =>
        rw [skipped fun other named => (skips other named).resolve_right (Nat.not_le.2 shallow)]
        exact ih.1 goes
      | finds named apart _ found =>
        rw [starred?_of_apart named (beq_false_of_ne apart), ← (settles _ _ _).1 found]
      | misses named apart _ missing goes =>
        rw [starred?_of_apart named (beq_false_of_ne apart), ← (settles _ _ _).1 missing]
        exact ih.1 goes
    · rintro rfl
      by_cases same : ∀ other, w.module? star = some other → other.id.path = m.id.path
      · rw [skipped same]
        exact .skips (fun other named => Or.inl (same other named)) (ih.2 rfl)
      · obtain ⟨other, named, apart⟩ : ∃ other, w.module? star = some other ∧ other.id.path ≠ m.id.path := by
          simpa using same
        have asked := (settles other name _).2 rfl
        rw [starred?_of_apart named (beq_false_of_ne apart)]
        cases found : member other name with
        | none =>
          rw [found] at asked
          exact .misses named apart shallow asked (ih.2 rfl)
        | some target =>
          rw [found] at asked
          exact .finds named apart shallow asked

end Settled

/-- By its origin, a name is known, or is looked for one import further on. -/
theorem settles_of {member : ModuleEntry → String → Option Target} {followed : String → Option Target}
    {taken : ModuleEntry → String → Option Target}
    (follows : ∀ target answer, w.LooksUpDotted (depth + 1) target answer ↔ answer = followed target)
    (tries : ∀ m name answer, w.LooksUpStars depth m name m.imports.stars answer ↔ answer = taken m name)
    (own : ∀ m name target, w.origin m name = .own target → member m name = some target)
    (bound : ∀ m name target, w.origin m name = .bound target → member m name = followed target)
    (inside : ∀ m name sub, w.origin m name = .submodule sub → member m name = some (.module sub))
    (elsewhere : ∀ m name, w.origin m name = .elsewhere → member m name = taken m name) : w.Settles depth member := by
  intro m name answer
  constructor
  · intro looks
    cases looks with
    | own origin => exact (own m name _ origin).symm
    | bound origin goes => exact ((follows _ _).1 goes).trans (bound m name _ origin).symm
    | submodule origin => exact (inside m name _ origin).symm
    | elsewhere origin goes => exact ((tries m name _).1 goes).trans (elsewhere m name origin).symm
  · rintro rfl
    cases origin : w.origin m name with
    | own target =>
      rw [own m name target origin]
      exact .own origin
    | bound target => exact .bound origin ((follows _ _).2 (bound m name target origin))
    | submodule sub =>
      rw [inside m name sub origin]
      exact .submodule origin
    | elsewhere => exact .elsewhere origin ((tries m name _).2 (elsewhere m name origin))

/-- A look-up by the rules ends, with the answer that is computed with as many imports as may still be followed. -/
theorem settles_member? (w : Index) (depth : Nat) : w.Settles depth (w.member? (maxImportDepth - depth)) := by
  -- on the number of imports that may still be followed: the rules ask for names one import further on only
  induction rest : maxImportDepth - depth generalizing depth with
  | zero =>
    have deep : maxImportDepth ≤ depth := by omega
    exact settles_of (fun target answer => dotted_iff_of_deep (Nat.lt_succ_of_le deep))
      (fun m name answer => stars_iff_of_deep deep) (fun m name target origin => member?_of_own origin 0)
      (fun m name target origin => (member?_of_bound origin).1) (fun m name sub origin => member?_of_submodule origin 0)
      (fun m name origin => (member?_of_elsewhere origin).1)
  | succ left ih =>
    have shallow : depth < maxImportDepth := by omega
    have settles : w.Settles (depth + 1) (w.member? left) := ih (depth + 1) (by omega)
    exact settles_of (fun target answer => settles.dotted_iff shallow) (fun m name answer => settles.stars_iff shallow)
      (fun m name target origin => member?_of_own origin _)
      (fun m name target origin => (member?_of_bound origin).2 left)
      (fun m name sub origin => member?_of_submodule origin _)
      (fun m name origin => (member?_of_elsewhere origin).2 left)

/-- The rules give one answer to each name, dotted name and chain of attributes. -/
theorem lookups_end (w : Index) (depth : Nat) :
    (∀ m name, ∃! answer, w.LooksUp depth m name answer) ∧ (∀ dotted, ∃! answer, w.LooksUpDotted depth dotted answer) ∧
      ∀ target names, ∃! answer, w.LooksUpAttributes depth target names answer := by
  have settles := w.settles_member? depth
  refine ⟨fun m name => ?_, fun dotted => ?_, fun target names => ?_⟩
  · simp only [settles m name]
    exact existsUnique_eq
  · by_cases shallow : depth ≤ maxImportDepth
    · simp only [settles.dotted_iff shallow]
      exact existsUnique_eq
    · simp only [dotted_iff_of_deep (Nat.lt_of_not_le shallow)]
      exact existsUnique_eq
  · simp only [settles.attributes_iff]
    exact existsUnique_eq

/-! ## Names that are passed on -/

/-- The first module passes the name of the second one on: it takes all names over from the second and has no import
that binds the name, or it imports the name from the second. -/
inductive PassesOn (w : Index) (name : String) (m other : ModuleEntry) : Prop
  | star (takes : w.TakesFrom m other) (unbound : m.imports.bindings.lookup name = none)
  | binding (named : w.module? other.id.name = some other)
      (bound : m.imports.bindings.lookup name = some (other.id.name ++ "." ++ name))
      (apart : w.module? (other.id.name ++ "." ++ name) = none)

theorem TakesFrom.isSome_stars (takes : w.TakesFrom m other) {member : ModuleEntry → String → Option Target}
    (found : (member other name).isSome = true) :
    (m.imports.stars.findSome? (w.starred? member m name)).isSome = true := by
  obtain ⟨star, mem, named, apart⟩ := takes
  refine List.findSome?_isSome_iff.2 ⟨star, mem, ?_⟩
  rw [starred?_of_apart named apart]
  exact found

/-- Where a name is passed on it is found with one import more. -/
theorem PassesOn.isSome_member? (passes : w.PassesOn name m other) (plain : '.' ∉ name.toList)
    (found : (w.member? hops other name).isSome = true) : (w.member? (hops + 1) m name).isSome = true := by
  cases origin : w.origin m name with
  | own => rw [member?_of_own origin]; rfl
  | submodule => rw [member?_of_submodule origin]; rfl
  | bound target =>
    rw [(member?_of_bound origin).2]
    have bound := (origin_eq_iff.1 origin).2
    cases passes with
    | star _ unbound => cases bound.symm.trans unbound
    | binding named bound' apart =>
      cases bound.symm.trans bound'
      rw [dotted?_snoc named plain apart]
      exact found
  | elsewhere =>
    rw [(member?_of_elsewhere origin).2]
    cases passes with
    | star takes => exact takes.isSome_stars found
    | binding _ bound => cases (origin_eq_iff.1 origin).2.1.symm.trans bound

theorem isSome_member?_of_chain {rest : List ModuleEntry} (plain : '.' ∉ name.toList)
    (chain : (m :: rest).IsChain (w.PassesOn name)) (ends : (m :: rest).getLast? = some last)
    (defines : (defined? last name).isSome = true) (enough : rest.length ≤ hops) :
    (w.member? hops m name).isSome = true := by
  induction rest generalizing m hops with
  | nil =>
    obtain rfl : m = last := Option.some.inj ends
    obtain ⟨target, own⟩ := Option.isSome_iff_exists.1 defines
    rw [member?_of_own (origin_eq_iff.2 own)]
    rfl
  | cons next rest ih =>
    obtain ⟨passes, chain⟩ := List.isChain_cons_cons.1 chain
    rw [List.length_cons] at enough
    obtain ⟨fewer, rfl⟩ : ∃ fewer, hops = fewer + 1 := ⟨hops - 1, by omega⟩
    rw [List.getLast?_cons_cons] at ends
    exact passes.isSome_member? plain (ih chain ends (by omega))

/-- The module has the name: it defines it, imports it or has a submodule of that name. -/
def Has (w : Index) (m : ModuleEntry) (name : String) : Prop :=
  (defined? m name).isSome = true ∨ (m.imports.bindings.lookup name).isSome = true ∨
    (w.module? (m.id.name ++ "." ++ name)).isSome = true

theorem has_or_elsewhere (w : Index) (m : ModuleEntry) (name : String) :
    w.Has m name ∨ w.origin m name = .elsewhere := by
  cases origin : w.origin m name with
  | own target => exact Or.inl (Or.inl (by rw [origin_eq_iff.1 origin]; rfl))
  | bound target => exact Or.inl (Or.inr (Or.inl (by rw [(origin_eq_iff.1 origin).2]; rfl)))
  | submodule sub => exact Or.inl (Or.inr (Or.inr (by rw [(origin_eq_iff.1 origin).2.2]; rfl)))
  | elsewhere => exact Or.inr rfl

/-- No other of the modules that names are taken over from has the name. -/
def OnlyHas (w : Index) (m last : ModuleEntry) (name : String) : Prop :=
  ∀ other, Relation.ReflTransGen w.TakesFrom m other → w.Has other name → other = last

theorem OnlyHas.next (only : w.OnlyHas m last name) (takes : w.TakesFrom m other) : w.OnlyHas other last name :=
  fun further reached => only further (.head takes reached)

theorem TakesFrom.of_starred {member : ModuleEntry → String → Option Target} {star : String} {target : Target}
    (mem : star ∈ m.imports.stars) (found : w.starred? member m name star = some target) :
    ∃ other, w.TakesFrom m other ∧ member other name = some target := by
  unfold starred? at found
  split at found
  · rename_i other named
    split at found
    · cases found
    · rename_i apart
      exact ⟨other, ⟨star, mem, named, eq_false_of_ne_true apart⟩, found⟩
  · cases found

theorem OnlyHas.member?_of_has (only : w.OnlyHas m last name) (defines : (defined? last name).isSome = true)
    (has : w.Has m name) (hops : Nat) : w.member? hops m name = defined? last name := by
  cases only m .refl has
  obtain ⟨own, defined⟩ := Option.isSome_iff_exists.1 defines
  rw [member?_of_own (origin_eq_iff.2 defined), defined]

/-- What is found where only one module has the name is what that module defines. -/
theorem OnlyHas.eq_defined? (only : w.OnlyHas m last name) (defines : (defined? last name).isSome = true)
    {target : Target} (found : w.member? hops m name = some target) : defined? last name = some target := by
  induction hops generalizing m with
  | zero =>
    rcases w.has_or_elsewhere m name with has | elsewhere
    · exact (only.member?_of_has defines has 0).symm.trans found
    · cases (member?_of_elsewhere elsewhere).1.symm.trans found
  | succ hops ih =>
    rcases w.has_or_elsewhere m name with has | elsewhere
    · exact (only.member?_of_has defines has _).symm.trans found
    · rw [(member?_of_elsewhere elsewhere).2] at found
      obtain ⟨star, mem, found⟩ := List.exists_of_findSome?_eq_some found
      obtain ⟨other, takes, found⟩ := TakesFrom.of_starred mem found
      exact ih (only.next takes) found

/-- **Look-ups end, and find what is passed on**: by the rules of the look-up, which follow imports without keeping
track of the modules they have been to, every name, dotted name and chain of attributes has one answer, whatever circles
the imports form; and what is computed is this answer. If a name is passed on from module to module to one that defines
it, over no more imports than are followed, it is found; and if no other module that names are taken over from has the
name in any way, what is found is what that last module defines. -/
theorem lookups_end_and_find (w : Index) :
    (∀ depth, (∀ m name, ∃! answer, w.LooksUp depth m name answer) ∧
      (∀ dotted, ∃! answer, w.LooksUpDotted depth dotted answer) ∧
      ∀ target names, ∃! answer, w.LooksUpAttributes depth target names answer) ∧
    (∀ m name, w.LooksUp 0 m name (w.member? maxImportDepth m name)) ∧
    ∀ (m last : ModuleEntry) (rest : List ModuleEntry) (name : String), '.' ∉ name.toList →
      rest.length ≤ maxImportDepth → (m :: rest).getLast? = some last → (defined? last name).isSome = true →
      (m :: rest).IsChain (w.PassesOn name) →
      (w.member? maxImportDepth m name).isSome = true ∧
        (w.OnlyHas m last name → w.member? maxImportDepth m name = defined? last name) := by
  refine ⟨w.lookups_end, fun m name => (w.settles_member? 0 m name _).2 rfl, ?_⟩
  intro m last rest name plain enough ends defines chain
  have found := isSome_member?_of_chain plain chain ends defines enough
  refine ⟨found, fun only => ?_⟩
  obtain ⟨target, found⟩ := Option.isSome_iff_exists.1 found
  rw [found, only.eq_defined? defines found]

namespace Sample

/-- A function `n` without parameters that does nothing. -/
def idle : Function := ⟨"n", ⟨[], [], none, [], none⟩, [.pass], [], none, false, ⟨⟨1, 0⟩, ⟨1, 13⟩⟩⟩

/-- The modules `a` and `b` take all names over from one another; `b` also from `c`. -/
def ringStart : ModuleEntry := { id := ⟨"a", "/W/a.py"⟩, imports := { stars := ["b"] } }

@[inherit_doc ringStart]
def ringNext : ModuleEntry := { id := ⟨"b", "/W/b.py"⟩, imports := { stars := ["a", "c"] } }

/-- The module `c` defines `n`. -/
def ringEnd : ModuleEntry :=
  { id := ⟨"c", "/W/c.py"⟩
    items := [.declaration
      { unit := { identity := ⟨"W", "c.n", "/W/c.py", 1, 0⟩, name := "n" }, function := idle, owner := none }] }

/-- The workspace of these modules. -/
def ring : Index := { project := ⟨"W", "W", "/W", "python"⟩, modules := [ringStart, ringNext, ringEnd] }

theorem chain_ring : [ringStart, ringNext, ringEnd].IsChain (ring.PassesOn "n") := by
  refine List.isChain_cons_cons.2 ⟨?_, List.isChain_cons_cons.2 ⟨?_, .singleton _⟩⟩
  · exact .star ⟨"b", by decide, rfl, by decide⟩ rfl
  · exact .star ⟨"c", by decide, rfl, by decide⟩ rfl

theorem onlyHas_ring : ring.OnlyHas ringStart ringEnd "n" := by
  intro other reached has
  have known : other ∈ ring.modules := by
    cases reached with
    | refl => exact List.mem_cons_self
    | tail _ last =>
      obtain ⟨star, -, named, -⟩ := last
      exact mem_of_module? named
  have start : ¬ ring.Has ringStart "n" := by unfold Has; decide +kernel
  have next : ¬ ring.Has ringNext "n" := by unfold Has; decide +kernel
  rcases List.mem_cons.1 known with rfl | known
  · exact absurd has start
  · rcases List.mem_cons.1 known with rfl | known
    · exact absurd has next
    · exact List.mem_singleton.1 known

end Sample

theorem lookups_end_and_find_ring :
    Sample.ring.TakesFrom Sample.ringStart Sample.ringNext ∧ Sample.ring.TakesFrom Sample.ringNext Sample.ringStart ∧
      Sample.ring.member? maxImportDepth Sample.ringStart "n" = defined? Sample.ringEnd "n" ∧
      (defined? Sample.ringEnd "n").isSome = true := by
  have defines : (defined? Sample.ringEnd "n").isSome = true := by decide +kernel
  refine ⟨⟨"b", by decide, rfl, by decide⟩, ⟨"a", by decide, rfl, by decide⟩, ?_, defines⟩
  have found := (lookups_end_and_find Sample.ring).2.2 Sample.ringStart Sample.ringEnd
    [Sample.ringNext, Sample.ringEnd] "n" (by decide) (by decide) rfl defines Sample.chain_ring
  exact found.2 Sample.onlyHas_ring

end CallAtlas.Workspace.Index
