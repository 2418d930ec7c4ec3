import CallAtlas.Proofs.Paths
import CallAtlas.Proofs.Resolution
import CallAtlas.Proofs.Spacing

/-!
# Chains of imports

Looking up a name of a module may follow an import, and looking up what that leads to may follow the next. Where a name
comes from (`Origin`) does not depend on how many imports may be followed; only names that come from imports do. So the
bound on the imports changes what a name means only if that many imports can follow one another (`ImportChain`).
-/

namespace CallAtlas

namespace Text

theorem dottedHead_of_not_mem {name : String} (plain : '.' ∉ name.toList) : dottedHead name = name := by
  unfold dottedHead
  split
  · rename_i p found
    have whole : name.toList = p.1 ++ '.' :: p.2 := cut?_eq_some found
    rw [whole] at plain
    exact absurd (List.mem_append_right p.1 List.mem_cons_self) plain
  · rfl

/-- The parts of a dotted name make up the name. -/
theorem intercalate_dottedParts (name : String) : ".".intercalate (dottedParts name) = name := by
  have pieces := joinWith_splitOn '.' name.toList
  rw [← String.toList_inj]
  simpa [dottedParts, joinWith, List.map_map, Function.comp_def] using pieces

theorem exists_dottedParts (name : String) : ∃ part parts, dottedParts name = part :: parts := by
  obtain ⟨piece, pieces, split⟩ := exists_splitOn '.' name.toList
  exact ⟨String.ofList piece, pieces.map String.ofList, by rw [dottedParts, split, List.map_cons]⟩

theorem dottedParts_snoc {back : String} (front : String) (plain : '.' ∉ back.toList) :
    dottedParts (front ++ "." ++ back) = dottedParts front ++ [back] := by
  have chars : (front ++ "." ++ back).toList = front.toList ++ '.' :: back.toList := by simp
  rw [dottedParts, chars, splitOn_append, splitOn_of_not_mem plain]
  simp [dottedParts]

end Text

namespace Workspace.Index

/-- Where the meaning of a name of a module comes from. -/
inductive Origin where
  /-- The module defines it. -/
  | own (target : Target)
  /-- An import binds it. -/
  | bound (target : String)
  | submodule (entry : ModuleEntry)
  /-- One of the modules that all names are taken from may have it. -/
  | elsewhere

/-- Where the meaning of a name of a module comes from: the first of these that there is. -/
def origin (w : Index) (m : ModuleEntry) (name : String) : Origin :=
  match defined? m name with
  | some target => .own target
  | none =>
    match m.imports.bindings.lookup name with
    | some target => .bound target
    | none =>
      match w.module? (m.id.name ++ "." ++ name) with
      | some sub => .submodule sub
      | none => .elsewhere

/-- The meaning that the module of a star gives to a name. -/
def starred? (w : Index) (member : ModuleEntry → String → Option Target) (m : ModuleEntry) (name star : String) :
    Option Target :=
  match w.module? star with
  | some other => if other.id.path == m.id.path then none else member other name
  | none => none

/-- No module takes the place of the name of `m`: there is none of that dotted name, or it is what the name means. -/
def Unhidden (w : Index) (m : ModuleEntry) (name : String) : Prop :=
  w.module? (m.id.name ++ "." ++ name) = none ∨ ∃ sub, w.origin m name = .submodule sub

variable {w : Index} {m other : ModuleEntry} {name inner target : String} {hops : Nat}

theorem starred?_of_apart {star : String} (named : w.module? star = some other)
    (apart : (other.id.path == m.id.path) = false) (member : ModuleEntry → String → Option Target) :
    w.starred? member m name star = member other name := by
  unfold starred?
  rw [named]
  dsimp only
  rw [apart]
  rfl

theorem starred?_eq_none {star : String}
    (itself : ∀ other, w.module? star = some other → (other.id.path == m.id.path) = true)
    (member : ModuleEntry → String → Option Target) : w.starred? member m name star = none := by
  unfold starred?
  cases named : w.module? star with
  | none => rfl
  | some other => exact if_pos (itself other named)

theorem name_of_module? (named : w.module? name = some m) : m.id.name = name := by
  have same : (m.id.name == name) = true := List.find?_some (p := fun m : ModuleEntry => m.id.name == name) named
  exact eq_of_beq same

/-! ## What a name means, by its origin -/

/-- What makes a name of a module have its origin: what it comes from is there, and nothing that comes before that. -/
def Origin.IsOf (w : Index) (m : ModuleEntry) (name : String) : Origin → Prop
  | .own target => defined? m name = some target
  | .bound target => defined? m name = none ∧ m.imports.bindings.lookup name = some target
  | .submodule sub => defined? m name = none ∧ m.imports.bindings.lookup name = none ∧
    w.module? (m.id.name ++ "." ++ name) = some sub
  | .elsewhere => defined? m name = none ∧ m.imports.bindings.lookup name = none ∧
    w.module? (m.id.name ++ "." ++ name) = none

theorem origin_eq_iff {o : Origin} : w.origin m name = o ↔ o.IsOf w m name := by
  unfold origin
  cases defined : defined? m name with
  | some own => cases o <;> simp [Origin.IsOf, defined]
  | none =>
    cases found : m.imports.bindings.lookup name with
    | some bound => cases o <;> simp [Origin.IsOf, defined, found]
    | none =>
      cases sub : w.module? (m.id.name ++ "." ++ name) with
      | some entry => cases o <;> simp [Origin.IsOf, defined, found, sub]
      | none => cases o <;> simp [Origin.IsOf, defined, found, sub]

theorem member?_of_own {meaning : Target} (own : w.origin m name = .own meaning) (hops : Nat) :
    w.member? hops m name = some meaning := by
  unfold member?
  rw [origin_eq_iff.1 own]

theorem member?_of_bound (bound : w.origin m name = .bound target) :
    w.member? 0 m name = none ∧ ∀ hops, w.member? (hops + 1) m name = w.dotted? (w.member? hops) target := by
  obtain ⟨undefined, found⟩ := origin_eq_iff.1 bound
  constructor
  · unfold member?
    rw [undefined, found]
  · intro hops
    conv_lhs => unfold member?
    rw [undefined, found]

theorem member?_of_submodule {sub : ModuleEntry} (inside : w.origin m name = .submodule sub) (hops : Nat) :
    w.member? hops m name = some (.module sub) := by
  obtain ⟨undefined, unbound, found⟩ := origin_eq_iff.1 inside
  unfold member?
  rw [undefined, unbound]
  dsimp only
  rw [found]

theorem member?_of_elsewhere (elsewhere : w.origin m name = .elsewhere) :
    w.member? 0 m name = none ∧
      ∀ hops, w.member? (hops + 1) m name = m.imports.stars.findSome? (w.starred? (w.member? hops) m name) := by
  obtain ⟨undefined, unbound, alone⟩ := origin_eq_iff.1 elsewhere
  constructor
  · unfold member?
    rw [undefined, unbound]
    dsimp only
    rw [alone]
  · intro hops
    conv_lhs => unfold member?
    rw [undefined, unbound]
    dsimp only
    rw [alone]
    rfl

/-! ## Names with and without a point -/

/-- A name that an import can say as it is: it is not empty, has no point in it and is not the star. -/
structure IsPlainName (name : String) : Prop where
  nonempty : name ≠ ""
  noPoint : '.' ∉ name.toList
  noStar : name ≠ "*"

instance (name : String) : Decidable (IsPlainName name) :=
  decidable_of_iff (name ≠ "" ∧ '.' ∉ name.toList ∧ name ≠ "*")
    ⟨fun h => ⟨h.1, h.2.1, h.2.2⟩, fun h => ⟨h.nonempty, h.noPoint, h.noStar⟩⟩

section Dotted

variable {a n : String} {entry : ModuleEntry}

theorem longestModule?_of_module (named : w.module? a = some entry) :
    w.longestModule? (Text.dottedParts a) (Text.dottedParts a).length = some (entry, []) := by
  have whole := Text.intercalate_dottedParts a
  obtain ⟨part, parts, split⟩ := Text.exists_dottedParts a
  rw [split] at whole ⊢
  rw [List.length_cons, longestModule?, ← List.length_cons, List.take_length, whole, named, List.drop_length]

theorem longestModule?_snoc (named : w.module? a = some entry) (plain : '.' ∉ n.toList)
    (apart : w.module? (a ++ "." ++ n) = none) :
    w.longestModule? (Text.dottedParts (a ++ "." ++ n)) (Text.dottedParts (a ++ "." ++ n)).length =
      some (entry, [n]) := by
  have whole := Text.intercalate_dottedParts (a ++ "." ++ n)
  have front := Text.intercalate_dottedParts a
  obtain ⟨part, parts, split⟩ := Text.exists_dottedParts a
  rw [Text.dottedParts_snoc a plain] at whole ⊢
  rw [split] at whole front ⊢
  rw [List.length_append, List.length_cons, List.length_singleton, longestModule?, List.take_of_length_le (by simp),
    whole, apart]
  dsimp only
  rw [longestModule?, List.take_left' (List.length_cons ..), front, named, List.drop_left' (List.length_cons ..)]

/-- The name of a module means the module. -/
theorem dotted?_of_module (named : w.module? a = some entry) (nonempty : a ≠ "")
    (member : ModuleEntry → String → Option Target) : w.dotted? member a = some (.module entry) := by
  have longest := longestModule?_of_module named
  unfold dotted?
  rw [beq_false_of_ne nonempty]
  simp [longest, attributes?]

/-- What a module has under a plain name is found under the dotted name, unless that is the name of a module, too. -/
theorem dotted?_snoc (named : w.module? a = some entry) (plain : '.' ∉ n.toList)
    (apart : w.module? (a ++ "." ++ n) = none) (member : ModuleEntry → String → Option Target) :
    w.dotted? member (a ++ "." ++ n) = member entry n := by
  have nonempty : (a ++ "." ++ n == "") = false := by simp
  have longest := longestModule?_snoc named plain apart
  unfold dotted?
  rw [nonempty]
  simp [longest, attribute?, attributes?]

/-- A name of a module that no module hides means the same with the name of its module before it. -/
theorem dotted?_of_unhidden (named : w.module? a = some entry) (plain : '.' ∉ n.toList)
    (inView : w.Unhidden entry n) (hops : Nat) :
    w.dotted? (w.member? hops) (a ++ "." ++ n) = w.member? hops entry n := by
  rcases inView with apart | ⟨sub, inside⟩
  · rw [name_of_module? named] at apart
    exact dotted?_snoc named plain apart _
  · have found := (origin_eq_iff.1 inside).2.2
    rw [name_of_module? named] at found
    rw [dotted?_of_module found (by simp), member?_of_submodule inside]

end Dotted

/-! ## Chains -/

/-- All names are taken over from the second module, which is another one than the first. -/
def TakesFrom (w : Index) (m other : ModuleEntry) : Prop :=
  ∃ star ∈ m.imports.stars, w.module? star = some other ∧ (other.id.path == m.id.path) = false

/-- To find out what a dotted name means, the module is asked for the inner name: the module that the dotted name starts
with, or one that the names before the inner one lead to. -/
def Asks (w : Index) (dotted : String) (other : ModuleEntry) (inner : String) : Prop :=
  ∃ front before after hops,
    w.longestModule? (Text.dottedParts dotted) (Text.dottedParts dotted).length =
      some (front, before ++ inner :: after) ∧
    w.attributes? (w.member? hops) (.module front) before = some (.module other)

/-- So many imports can follow one another when the name is looked up in the module. -/
inductive ImportChain (w : Index) : Nat → ModuleEntry → String → Prop
  | start (m : ModuleEntry) (name : String) : ImportChain w 0 m name
  | bound {m : ModuleEntry} {name target : String} (bound : w.origin m name = .bound target) : ImportChain w 1 m name
  | binding {m other : ModuleEntry} {name target inner : String} {count : Nat} (bound : w.origin m name = .bound target)
      (asks : w.Asks target other inner) (rest : ImportChain w count other inner) : ImportChain w (count + 1) m name
  | star {m other : ModuleEntry} {name : String} {count : Nat} (elsewhere : w.origin m name = .elsewhere)
      (takes : w.TakesFrom m other) (rest : ImportChain w count other name) : ImportChain w (count + 1) m name

/-- No import is followed for a name that the module defines. -/
theorem not_importChain_of_own {meaning : Target} (own : w.origin m name = .own meaning) (count : Nat) :
    ¬ w.ImportChain (count + 1) m name := by
  intro chain
  cases chain with
  | bound bound => cases own.symm.trans bound
  | binding bound => cases own.symm.trans bound
  | star elsewhere => cases own.symm.trans elsewhere

/-- What is asked for a name with the name of its module before it. -/
theorem Asks.of_snoc {a n : String} {entry : ModuleEntry} (asks : w.Asks (a ++ "." ++ n) other inner)
    (named : w.module? a = some entry) (plain : '.' ∉ n.toList) (apart : w.module? (a ++ "." ++ n) = none) :
    other = entry ∧ inner = n := by
  obtain ⟨front, before, after, hops, longest, reached⟩ := asks
  obtain ⟨rfl, names⟩ := Prod.mk.inj (Option.some.inj ((longestModule?_snoc named plain apart).symm.trans longest))
  cases before with
  | nil =>
    cases names
    cases reached
    exact ⟨rfl, rfl⟩
  | cons first before =>
    have length := congrArg List.length names
    simp only [List.length_cons, List.length_append, List.cons_append, List.length_nil] at length
    omega

/-! ## The bound on the imports -/

theorem attributes?_cons (w : Index) (member : ModuleEntry → String → Option Target) (start : Target) (name : String)
    (names : List String) :
    w.attributes? member start (name :: names) =
      (w.attribute? member start name).bind fun next => w.attributes? member next names := rfl

/-- Two ways to find the names of modules that agree on what is asked along a chain of attributes find the same at its
end. -/
theorem attributes?_congr {member member' : ModuleEntry → String → Option Target} {start : Target}
    {names : List String}
    (same : ∀ before inner after other, names = before ++ inner :: after →
      w.attributes? member start before = some (.module other) → member' other inner = member other inner) :
    w.attributes? member' start names = w.attributes? member start names := by
  induction names generalizing start with
  | nil => rfl
  | cons name names ih =>
    have first : w.attribute? member' start name = w.attribute? member start name := by
      cases start with
      | module m => exact same [] name names m rfl rfl
      | _ => rfl
    rw [attributes?_cons, attributes?_cons, first]
    refine Option.bind_congr fun next found => ih ?_
    intro before inner after other split reached
    refine same (name :: before) inner after other (by rw [split]; rfl) ?_
    rw [attributes?_cons, found]
    exact reached

/-- What a dotted name means does not change with the bound if nothing that is asked on the way does. -/
theorem dotted?_congr {more : Nat}
    (same : ∀ other inner, w.Asks target other inner → w.member? more other inner = w.member? hops other inner) :
    w.dotted? (w.member? more) target = w.dotted? (w.member? hops) target := by
  unfold dotted?
  split
  · rfl
  · dsimp only
    split
    · rename_i front names found
      refine attributes?_congr fun before inner after other split reached => ?_
      rw [split] at found
      exact same other inner ⟨front, before, after, hops, found, reached⟩
    · rfl

theorem starred?_congr {more : Nat} {star : String} (mem : star ∈ m.imports.stars)
    (same : ∀ other, w.TakesFrom m other → w.member? more other name = w.member? hops other name) :
    w.starred? (w.member? more) m name star = w.starred? (w.member? hops) m name star := by
  unfold starred?
  cases found : w.module? star with
  | none => rfl
  | some other =>
    dsimp only
    cases itself : other.id.path == m.id.path with
    | true => rfl
    | false => exact same other ⟨star, mem, found, itself⟩

/-- One more import changes nothing where there is no chain of as many imports. -/
theorem member?_succ_of_not_importChain (ends : ¬ w.ImportChain (hops + 1) m name) :
    w.member? (hops + 1) m name = w.member? hops m name := by
  -- on the number of imports: what a first import leads to has a chain that is shorter by one
  induction hops generalizing m name with
  | zero =>
    cases origin : w.origin m name with
    | own => rw [member?_of_own origin, member?_of_own origin]
    | bound => exact absurd (.bound origin) ends
    | submodule => rw [member?_of_submodule origin, member?_of_submodule origin]
    | elsewhere =>
      rw [(member?_of_elsewhere origin).1, (member?_of_elsewhere origin).2, List.findSome?_eq_none_iff]
      intro star mem
      refine starred?_eq_none (fun other named => eq_true_of_ne_false fun apart => ?_) _
      exact ends (.star origin ⟨star, mem, named, apart⟩ (.start other name))
  | succ hops ih =>
    cases origin : w.origin m name with
    | own => rw [member?_of_own origin, member?_of_own origin]
    | bound target =>
      rw [(member?_of_bound origin).2, (member?_of_bound origin).2]
      refine dotted?_congr fun other inner asks => ih fun rest => ?_
      exact ends (.binding origin asks rest)
    | submodule => rw [member?_of_submodule origin, member?_of_submodule origin]
    | elsewhere =>
      rw [(member?_of_elsewhere origin).2, (member?_of_elsewhere origin).2]
      rw [← List.head?_filterMap, ← List.head?_filterMap]
      refine congrArg List.head? (List.filterMap_congr fun star mem => ?_)
      refine starred?_congr mem fun other takes => ih fun rest => ?_
      exact ends (.star origin takes rest)

end Workspace.Index

end CallAtlas
