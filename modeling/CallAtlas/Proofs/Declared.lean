import CallAtlas.Proofs.Answer
import CallAtlas.Proofs.CallGraph
import CallAtlas.Workspace.Index
import Mathlib.Data.List.Forall2
import Mathlib.Data.List.Perm.Subperm

/-!
# What a module declares

The items in the index of a module against the definitions in its text. Each item is made of one function or class
definition, at some place of the module, and no definition makes two. The index follows the blocks of a module and the
walk its levels, so the orders differ: the items are made of some of the nodes of the walk in another order.
-/

namespace CallAtlas

open Source

namespace Source.Levels

theorem flatten_beside (a b : Levels) : (beside a b).flatten.Perm (a.flatten ++ b.flatten) := by
  fun_induction beside a b with
  | case1 b => simp
  | case2 x xs => simp
  | case3 x xs y ys ih =>
    have swap : (y ++ (xs.flatten ++ ys.flatten)).Perm (xs.flatten ++ (y ++ ys.flatten)) := by
      rw [← List.append_assoc, ← List.append_assoc]
      exact List.perm_append_comm.append_right _
    simp only [List.flatten_cons, List.append_assoc]
    exact ((ih.append_left y).trans swap).append_left x

variable {a b : Levels} {xs ys : List Node}

theorem subperm_beside (ha : xs.Subperm a.flatten) (hb : ys.Subperm b.flatten) :
    (xs ++ ys).Subperm (beside a b).flatten :=
  (flatten_beside a b).subperm_left.2 (ha.append hb)

theorem subperm_beside_left (h : xs.Subperm a.flatten) : xs.Subperm (beside a b).flatten := by
  simpa using subperm_beside h (List.nil_subperm (l := b.flatten))

theorem subperm_beside_right (h : ys.Subperm b.flatten) : ys.Subperm (beside a b).flatten := by
  simpa using subperm_beside (List.nil_subperm (l := a.flatten)) h

theorem subperm_below (x : List Node) (h : xs.Subperm b.flatten) : xs.Subperm (List.flatten (x :: b)) :=
  h.trans (List.sublist_append_right x b.flatten).subperm

end Source.Levels

namespace Workspace

/-- The item is made of the definition, at some place of the module. -/
inductive Item.IsMadeOf (assembly : String) (module : ModuleId) : Item → Node → Prop where
  | function {q : Place} {f : Function} {d : Declaration} (sameAssembly : q.assembly = assembly)
      (sameModule : q.module = module) (made : q.declaration f = .ok d) :
      IsMadeOf assembly module (.declaration d) (.stmt (.functionDef f))
  | entry {q : Place} (c : Source.Class) (sameModule : q.module = module) :
      IsMadeOf assembly module (.class (q.classEntry c.name c.bases c.span)) (.stmt (.classDef c))

/-- The items are made of some of the nodes, each of one, inside the module of `p`. -/
def MadeOf (p : Place) (items : List Item) (nodes : List Node) : Prop :=
  ∃ picked, List.Forall₂ (Item.IsMadeOf p.assembly p.module) items picked ∧ picked.Subperm nodes

namespace MadeOf

variable {p : Place} {items others : List Item} {xs ys : List Node}

theorem nil : MadeOf p [] xs := ⟨[], .nil, List.nil_subperm⟩

theorem mono (h : MadeOf p items xs) (sub : xs.Subperm ys) : MadeOf p items ys := by
  obtain ⟨picked, made, some⟩ := h
  exact ⟨picked, made, some.trans sub⟩

theorem append (h : MadeOf p items xs) (h' : MadeOf p others ys) : MadeOf p (items ++ others) (xs ++ ys) := by
  obtain ⟨picked, made, some⟩ := h
  obtain ⟨picked', made', some'⟩ := h'
  exact ⟨picked ++ picked', List.rel_append made made', some.append some'⟩

theorem cons {item : Item} {x : Node} (made : item.IsMadeOf p.assembly p.module x) (h : MadeOf p items xs) :
    MadeOf p (item :: items) (x :: xs) := by
  obtain ⟨picked, others, some⟩ := h
  exact ⟨x :: picked, .cons made others, (List.subperm_cons x).2 some⟩

theorem exists_node (h : MadeOf p items xs) {item : Item} (mem : item ∈ items) :
    ∃ x, item.IsMadeOf p.assembly p.module x := by
  obtain ⟨picked, made, -⟩ := h
  induction made with
  | nil => cases mem
  | cons first _ ih =>
    rcases List.mem_cons.1 mem with rfl | mem
    · exact ⟨_, first⟩
    · exact ih mem

/-- What items have in common with the definitions that they are made of is found there, too. -/
theorem subperm (h : MadeOf p items xs) {α : Type} {shown : Item → Option α} {pick : Node → Option α}
    (agree : ∀ item x, item.IsMadeOf p.assembly p.module x → shown item = pick x) :
    (items.filterMap shown).Subperm (xs.filterMap pick) := by
  obtain ⟨picked, made, some⟩ := h
  have same : items.filterMap shown = picked.filterMap pick := by
    clear some
    induction made with
    | nil => rfl
    | cons first _ ih => rw [List.filterMap_cons, List.filterMap_cons, agree _ _ first, ih]
  obtain ⟨chosen, perm, sublist⟩ := some
  rw [same]
  exact ⟨chosen.filterMap pick, perm.filterMap _, sublist.filterMap _⟩

end MadeOf

/-- What a declaration keeps of its function and its place. -/
theorem Place.declaration_eq_ok {p : Place} {f : Function} {d : Declaration} (h : p.declaration f = .ok d) :
    d.function = f ∧ d.unit.identity.path = p.module.path ∧
      d.unit.identity.line = f.span.start.line ∧ d.unit.identity.column = f.span.start.column := by
  obtain ⟨signature, -, rfl⟩ := bind_pure_eq_ok.1 h
  exact ⟨rfl, rfl, rfl, rfl⟩

mutual

theorem madeOf_itemsOf {p : Place} {items : List Item} (s : Stmt) (h : itemsOf p s = .ok items) :
    MadeOf p items s.levels.flatten := by
  cases s with
  | functionDef f =>
    rw [itemsOf] at h
    obtain ⟨d, made, rfl⟩ := bind_pure_eq_ok.1 h
    rw [Stmt.levels.eq_def, List.flatten_cons]
    exact .cons (.function rfl rfl made) .nil
  | classDef c =>
    obtain ⟨name, bases, keywords, body, decorators, span⟩ := c
    rw [itemsOf] at h
    obtain ⟨inner, run, rfl⟩ := bind_pure_eq_ok.1 h
    -- where the items stand plays no part, so those of the body are also some of the place around the class
    obtain ⟨picked, made, some⟩ := madeOf_itemsOfBlock body run
    have inside : MadeOf p inner (levelsOfBlock body).flatten := ⟨picked, made, some⟩
    rw [Stmt.levels, List.flatten_cons]
    exact .cons (.entry (q := p) ⟨name, bases, keywords, body, decorators, span⟩ rfl) (inside.mono
      (Levels.subperm_beside_right (Levels.subperm_beside_right (Levels.subperm_beside_left (.refl _)))))
  | ifElse test body otherwise =>
    rw [itemsOf] at h
    obtain ⟨first, second, run, run', rfl⟩ := bind_bind_pure_eq_ok.1 h
    rw [Stmt.levels]
    exact ((madeOf_itemsOfBlock body run).append (madeOf_itemsOfBlock otherwise run')).mono
      (Levels.subperm_below _ (Levels.subperm_beside_right (Levels.subperm_beside (.refl _) (.refl _))))
  | withBlock isAsync context body =>
    rw [itemsOf] at h
    rw [Stmt.levels]
    exact (madeOf_itemsOfBlock body h).mono (Levels.subperm_below _ (Levels.subperm_beside_right (.refl _)))
  | tryBlock isStar body handlers otherwise final =>
    rw [itemsOf] at h
    obtain ⟨inBody, runBody, h⟩ := bind_eq_ok.1 h
    obtain ⟨inElse, runElse, h⟩ := bind_eq_ok.1 h
    obtain ⟨inFinal, inHandlers, runFinal, runHandlers, rfl⟩ := bind_bind_pure_eq_ok.1 h
    have others := (madeOf_itemsOfBlock otherwise runElse).append (madeOf_itemsOfBlock final runFinal)
    have handled := madeOf_itemsOfHandlers handlers runHandlers
    rw [Stmt.levels, List.append_assoc inBody, List.append_assoc]
    refine ((madeOf_itemsOfBlock body runBody).append (others.append handled)).mono (Levels.subperm_below _ ?_)
    -- the handlers come last in the index and second in the walk
    exact Levels.subperm_beside (.refl _) (List.perm_append_comm.subperm.trans
      (Levels.subperm_beside (.refl _) (Levels.subperm_beside (.refl _) (.refl _))))
  | _ =>
    cases h
    exact .nil

theorem madeOf_itemsOfBlock {p : Place} {items : List Item} (body : List Stmt) (h : itemsOfBlock p body = .ok items) :
    MadeOf p items (levelsOfBlock body).flatten := by
  cases body with
  | nil =>
    cases h
    exact .nil
  | cons s ss =>
    rw [itemsOfBlock] at h
    obtain ⟨first, rest, run, run', rfl⟩ := bind_bind_pure_eq_ok.1 h
    rw [levelsOfBlock]
    exact ((madeOf_itemsOf s run).append (madeOf_itemsOfBlock ss run')).mono
      (Levels.subperm_beside (.refl _) (.refl _))

theorem madeOf_itemsOfHandlers {p : Place} {items : List Item} (handlers : List Handler)
    (h : itemsOfHandlers p handlers = .ok items) : MadeOf p items (levelsOfHandlers handlers).flatten := by
  cases handlers with
  | nil =>
    cases h
    exact .nil
  | cons handler rest =>
    obtain ⟨type, name, body⟩ := handler
    rw [itemsOfHandlers] at h
    obtain ⟨first, others, run, run', rfl⟩ := bind_bind_pure_eq_ok.1 h
    rw [levelsOfHandlers]
    refine ((madeOf_itemsOfBlock body run).append (madeOf_itemsOfHandlers rest run')).mono ?_
    exact Levels.subperm_beside (Levels.subperm_below _ (Levels.subperm_beside_right (.refl _))) (.refl _)

end

/-- The statements of a source file, if it can be read and parsed. -/
def bodyAt? (codecs : Codecs) (tree : Files.Tree) (path : String) : Option (List Stmt) :=
  match sourceText codecs tree path with
  | .ok (.ok text) => (parseModule text).toOption
  | _ => none

/-- No two function definitions of a body start at one place. -/
def StartsDiffer (body : List Stmt) : Prop := ((functionsOf body).map (·.span.start)).Nodup

instance (body : List Stmt) : Decidable (StartsDiffer body) := inferInstanceAs (Decidable (List.Nodup _))

namespace ModuleEntry

/-- The index of a module is that of the file at its path. -/
structure Reads (codecs : Codecs) (tree : Files.Tree) (assembly : String) (m : ModuleEntry) : Prop where
  fault : m.fault.isSome = (bodyAt? codecs tree m.id.path).isNone
  items : ∀ body, bodyAt? codecs tree m.id.path = some body → MadeOf { assembly, module := m.id } m.items (walkModule body)
  empty : bodyAt? codecs tree m.id.path = none → m.items = []

variable {codecs : Codecs} {tree : Files.Tree} {assembly : String} {id : ModuleId} {m : ModuleEntry}

/-- The index that a file gives has the name and path asked for. It is that of the statements in the file, or has
nothing but a fault. -/
theorem ofFile_cases (h : ofFile codecs tree assembly id = .ok m) :
    m.id = id ∧ (bodyAt? codecs tree id.path = none ∧ m.fault.isSome = true ∧ m.items = [] ∨
      ∃ body, bodyAt? codecs tree id.path = some body ∧ m.fault = none ∧ m.imports = importTable id body ∧
        itemsOfBlock { assembly, module := id } body = .ok m.items) := by
  obtain ⟨source, read, h⟩ := bind_eq_ok.1 h
  cases source with
  | error fault =>
    cases pure_eq_ok.1 h
    exact ⟨rfl, Or.inl ⟨by simp [bodyAt?, read], rfl, rfl⟩⟩
  | ok text =>
    have body : bodyAt? codecs tree id.path = (parseModule text).toOption := by simp [bodyAt?, read]
    dsimp only at h
    split at h
    · rename_i entry indexed
      cases pure_eq_ok.1 h
      unfold ofText at indexed
      split at indexed
      · rename_i fault parsed
        cases indexed
        exact ⟨rfl, Or.inl ⟨by rw [body, parsed]; rfl, rfl, rfl⟩⟩
      · rename_i statements parsed
        obtain ⟨items, run, rfl⟩ := bind_pure_eq_ok.1 indexed
        exact ⟨rfl, Or.inr ⟨statements, by rw [body, parsed]; rfl, rfl, rfl, run⟩⟩
    · cases h

/-- The index that a file gives has the name and path asked for and is that of the file. -/
theorem reads_of_ofFile (h : ofFile codecs tree assembly id = .ok m) : m.id = id ∧ m.Reads codecs tree assembly := by
  obtain ⟨rfl, ⟨unread, fault, items⟩ | ⟨body, whole, fault, -, run⟩⟩ := ofFile_cases h
  · exact ⟨rfl, by simp [unread, fault], by simp [unread], fun _ => items⟩
  · refine ⟨rfl, by simp [whole, fault], ?_, by simp [whole]⟩
    intro other same
    cases whole.symm.trans same
    exact madeOf_itemsOfBlock body run

/-- Where the identity of a unit says it starts. -/
def startOf (i : CallableId) : Position := ⟨i.line, i.column⟩

/-- A unit is known by the path of its module and the start of its function. -/
theorem Reads.identity (h : m.Reads codecs tree assembly) {d : Declaration} (hd : d ∈ m.declarations) :
    d.unit.identity.path = m.id.path ∧ startOf d.unit.identity = d.function.span.start := by
  obtain ⟨item, mem, made⟩ := List.mem_filterMap.1 hd
  cases read : bodyAt? codecs tree m.id.path with
  | none =>
    rw [h.empty read] at mem
    cases mem
  | some body =>
    obtain ⟨x, madeOf⟩ := (h.items body read).exists_node mem
    cases madeOf with
    | entry => cases made
    | function _ module declared =>
      cases made
      obtain ⟨rfl, path, line, column⟩ := Place.declaration_eq_ok declared
      refine ⟨path.trans (congrArg _ module), ?_⟩
      rw [startOf, line, column]

/-- Functions that start at different places make different units. -/
theorem Reads.distinct (h : m.Reads codecs tree assembly)
    (starts : ∀ body, bodyAt? codecs tree m.id.path = some body → StartsDiffer body) :
    Callable.Distinct (m.declarations.map (·.unit)) := by
  cases read : bodyAt? codecs tree m.id.path with
  | none =>
    rw [declarations, h.empty read]
    exact List.nodup_nil
  | some body =>
    have functions : (m.declarations.map (·.function)).Subperm (functionsOf body) := by
      rw [declarations, List.map_filterMap]
      refine (h.items body read).subperm fun item x made => ?_
      cases made with
      | function _ _ declared => exact congrArg some (Place.declaration_eq_ok declared).1
      | entry => rfl
    have places : ((m.declarations.map (·.function)).map (·.span.start)).Nodup := by
      obtain ⟨functions, perm, sublist⟩ := functions
      exact (perm.map _).nodup_iff.1 ((starts body read).sublist (sublist.map _))
    have shown : ((m.declarations.map (·.unit)).map (·.identity)).map startOf =
        (m.declarations.map (·.function)).map (·.span.start) := by
      rw [List.map_map, List.map_map, List.map_map]
      exact List.map_congr_left fun d hd => (h.identity hd).2
    exact List.Nodup.of_map startOf (shown ▸ places)

end ModuleEntry

end Workspace

end CallAtlas
