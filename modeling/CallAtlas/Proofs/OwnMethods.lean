import CallAtlas.Proofs.Guesses
import CallAtlas.Proofs.OrderTable
import CallAtlas.Proofs.SourceOrder
import CallAtlas.Proofs.WorkspaceUnits

/-!
# A class's own definitions

A call on the receiver of a method, a call through `super()` and a call of a class are all answered by a search through
the order of a class. Orders and constructors are kept under dotted names, and a dotted name stands for the last class
that has it. For that class its own definitions come first (`OwnFirst`). An earlier class of the same dotted name is
searched as if it were the later one, whose definitions hide its own, and has no constructors (`Hidden`).
-/

namespace CallAtlas

namespace Workspace

open Source

/-- Type arguments are given to each referent, and can be taken away again. -/
theorem CallSite.referents_form {site : CallSite} {form : Resolution → Resolution} (h : site.form = .ok form)
    (r : Resolution) : ∃ f, (form r).referents = r.referents.map f ∧ ∀ s, (f s).underlying = s.underlying := by
  unfold CallSite.form at h
  split at h
  · obtain ⟨text, -, rfl⟩ := bind_pure_eq_ok.1 h
    exact ⟨specialized [text], referents_specialized [text] r, underlying_specialized [text]⟩
  · cases h
    exact ⟨id, (List.map_id _).symm, fun s => rfl⟩

theorem ModuleEntry.Reads.module_of_class {codecs : Codecs} {tree : Files.Tree} {assembly : String} {m : ModuleEntry}
    (h : m.Reads codecs tree assembly) {c : ClassEntry} (hc : c ∈ m.classes) : c.module = m.id := by
  obtain ⟨-, x, made⟩ := h.exists_node (mem_items_of_class hc)
  cases made with
  | entry _ module => exact module

/-! ## What a block declares -/

/-- It holds of what statements declare if it holds of what their parts declare. -/
structure ByParts (P : Place → List Stmt → List Item → Prop) : Prop where
  nil : ∀ p ss, P p ss []
  append : ∀ {p ss items others}, P p ss items → P p ss others → P p ss (items ++ others)
  mono : ∀ {p ss more items}, P p ss items → ss ⊆ more → P p more items
  function : ∀ {p f d}, p.declaration f = .ok d → P p [.functionDef f] [.declaration d]
  entry : ∀ {p items} {c : Source.Class}, P { p with owner := some (p.classEntry c.name c.bases c.span) } c.body items →
    P p [.classDef c] (.class (p.classEntry c.name c.bases c.span) :: items)
  block : ∀ {p s ss items}, ss ∈ s.blocks → (∀ f, s ≠ .functionDef f) → P p ss items → P p [s] items

namespace ByParts

variable {P : Place → List Stmt → List Item → Prop}

mutual

theorem ofStatement {p : Place} {items : List Item} (h : ByParts P) (s : Stmt) (run : itemsOf p s = .ok items) :
    P p [s] items := by
  cases s with
  | functionDef f =>
    rw [itemsOf] at run
    obtain ⟨d, made, rfl⟩ := bind_pure_eq_ok.1 run
    exact h.function made
  | classDef c =>
    obtain ⟨name, bases, keywords, body, decorators, span⟩ := c
    rw [itemsOf] at run
    obtain ⟨inner, below, rfl⟩ := bind_pure_eq_ok.1 run
    exact h.entry (ofBlock h body below)
  | ifElse test body otherwise =>
    rw [itemsOf] at run
    obtain ⟨first, second, runBody, runElse, rfl⟩ := bind_bind_pure_eq_ok.1 run
    refine h.append ?_ ?_
    · exact h.block (by simp [Stmt.blocks]) nofun (ofBlock h body runBody)
    · exact h.block (by simp [Stmt.blocks]) nofun (ofBlock h otherwise runElse)
  | withBlock isAsync context body =>
    rw [itemsOf] at run
    exact h.block (by simp [Stmt.blocks]) nofun (ofBlock h body run)
  | tryBlock isStar body handlers otherwise final =>
    rw [itemsOf] at run
    obtain ⟨inBody, runBody, run⟩ := bind_eq_ok.1 run
    obtain ⟨inElse, runElse, run⟩ := bind_eq_ok.1 run
    obtain ⟨inFinal, inHandlers, runFinal, runHandlers, rfl⟩ := bind_bind_pure_eq_ok.1 run
    refine h.append (h.append (h.append ?_ ?_) ?_) ?_
    · exact h.block (by simp [Stmt.blocks]) nofun (ofBlock h body runBody)
    · exact h.block (by simp [Stmt.blocks]) nofun (ofBlock h otherwise runElse)
    · exact h.block (by simp [Stmt.blocks]) nofun (ofBlock h final runFinal)
    · exact ofHandlers h handlers runHandlers nofun fun r hr => by simp [Stmt.blocks, List.mem_map_of_mem hr]
  | _ =>
    cases run
    exact h.nil p _

theorem ofBlock {p : Place} {items : List Item} (h : ByParts P) (ss : List Stmt) (run : itemsOfBlock p ss = .ok items) :
    P p ss items := by
  cases ss with
  | nil =>
    cases run
    exact h.nil p _
  | cons s ss =>
    rw [itemsOfBlock] at run
    obtain ⟨first, rest, here, later, rfl⟩ := bind_bind_pure_eq_ok.1 run
    exact h.append (h.mono (ofStatement h s here) (by simp)) (h.mono (ofBlock h ss later) (List.subset_cons_self s ss))

theorem ofHandlers {p : Place} {items : List Item} (h : ByParts P) (handlers : List Handler)
    (run : itemsOfHandlers p handlers = .ok items) {s : Stmt} (other : ∀ f, s ≠ .functionDef f)
    (own : ∀ r ∈ handlers, r.body ∈ s.blocks) : P p [s] items := by
  cases handlers with
  | nil =>
    cases run
    exact h.nil p _
  | cons handler rest =>
    obtain ⟨type, name, body⟩ := handler
    rw [itemsOfHandlers] at run
    obtain ⟨first, others, here, later, rfl⟩ := bind_bind_pure_eq_ok.1 run
    exact h.append (h.block (own _ List.mem_cons_self) other (ofBlock h body here))
      (ofHandlers h rest later other fun r hr => own r (List.mem_cons_of_mem _ hr))

end

end ByParts

/-! ## Owners -/

/-- The class that a declaration among the items stands in is the one around them all, or one of them. -/
def OwnedWithin (p : Place) (items : List Item) : Prop :=
  ∀ d, .declaration d ∈ items → d.owner = p.owner ∨ ∃ c, d.owner = some c ∧ .class c ∈ items

namespace OwnedWithin

variable {p : Place} {items others : List Item}

theorem nil : OwnedWithin p [] := by
  intro d mem
  cases mem

theorem append (h : OwnedWithin p items) (h' : OwnedWithin p others) : OwnedWithin p (items ++ others) := by
  intro d mem
  rcases List.mem_append.1 mem with mem | mem
  · rcases h d mem with outer | ⟨c, owner, inner⟩
    · exact Or.inl outer
    · exact Or.inr ⟨c, owner, List.mem_append_left _ inner⟩
  · rcases h' d mem with outer | ⟨c, owner, inner⟩
    · exact Or.inl outer
    · exact Or.inr ⟨c, owner, List.mem_append_right _ inner⟩

/-- What stands right in the body of a class has the class as its owner. -/
theorem cons_class {c : ClassEntry} (h : OwnedWithin { p with owner := some c } items) :
    OwnedWithin p (.class c :: items) := by
  intro d mem
  rcases h d (by simpa using mem) with outer | ⟨inner, owner, within⟩
  · exact Or.inr ⟨c, outer, List.mem_cons_self⟩
  · exact Or.inr ⟨inner, owner, List.mem_cons_of_mem _ within⟩

end OwnedWithin

theorem byParts_ownedWithin : ByParts fun p _ items => OwnedWithin p items where
  nil _ _ := .nil
  append := .append
  mono h _ := h
  function made d mem := by
    cases List.mem_singleton.1 mem
    obtain ⟨signature, -, rfl⟩ := bind_pure_eq_ok.1 made
    exact Or.inl rfl
  entry h := h.cons_class
  block _ _ h := h

/-- The class that a declaration of a file stands in is one of its classes. -/
theorem ModuleEntry.owner_mem_classes {codecs : Codecs} {tree : Files.Tree} {assembly : String} {id : ModuleId}
    {m : ModuleEntry}
    (h : ofFile codecs tree assembly id = .ok m) {d : Declaration} (hd : d ∈ m.declarations) {c : ClassEntry}
    (owner : d.owner = some c) : c ∈ m.classes := by
  have within : OwnedWithin { assembly, module := id } m.items := by
    obtain ⟨-, ⟨-, -, items⟩ | ⟨body, -, -, -, run⟩⟩ := ofFile_cases h
    · rw [items]
      exact .nil
    · exact byParts_ownedWithin.ofBlock body run
  rcases within d (mem_items_of_declaration hd) with outer | ⟨c', owner', inner⟩
  · cases owner.symm.trans outer
  · cases owner.symm.trans owner'
    exact List.mem_filterMap.2 ⟨.class c, inner, rfl⟩

namespace Index

variable {codecs : Codecs} {tree : Files.Tree} {exclude files : List String} {guesses : Bool} {path name : String}
  {w : Index} {c k : ClassEntry} {u : Callable}

/-! ## Definitions in a class -/

/-- The unit is a definition of the name in the body of the class itself. -/
def Owns (w : Index) (c : ClassEntry) (name : String) (u : Callable) : Prop :=
  ∃ m ∈ w.modules, c ∈ m.classes ∧ ∃ d ∈ m.declarations, d.isMethodOf c = true ∧ d.unit = u ∧ u.name = name

theorem Indexes.mem_methodsNamed_iff (h : w.Indexes codecs tree files) (hc : c ∈ w.allClasses) :
    u ∈ w.methodsNamed c name ↔ w.Owns c name u := by
  obtain ⟨m, hm, hc⟩ := List.mem_flatMap.1 hc
  have module : w.moduleAt? c.module.path = some m := by
    rw [(h.reads m hm).module_of_class hc]
    exact h.moduleAt?_eq hm
  have methods : w.methods c = (m.declarations.filter (·.isMethodOf c)).map (·.unit) := by
    rw [Index.methods, module]
  rw [methodsNamed, methods, List.mem_filter, List.mem_map]
  constructor
  · rintro ⟨⟨d, hd, rfl⟩, named⟩
    obtain ⟨hd, own⟩ := List.mem_filter.1 hd
    exact ⟨m, hm, hc, d, hd, own, rfl, eq_of_beq named⟩
  · rintro ⟨m', hm', hc', d, hd, own, rfl, named⟩
    have same : w.moduleAt? c.module.path = some m' := by
      rw [(h.reads m' hm').module_of_class hc']
      exact h.moduleAt?_eq hm'
    cases module.symm.trans same
    exact ⟨⟨d, List.mem_filter.2 ⟨hd, own⟩, rfl⟩, beq_iff_eq.2 named⟩

/-- A class is known by its place, and so are the definitions in it. -/
theorem methodsNamed_of_sameAs (same : k.sameAs c = true) (name : String) :
    w.methodsNamed k name = w.methodsNamed c name := by
  obtain ⟨path, start⟩ := Bool.and_eq_true_iff.1 same
  have place : ∀ other : ClassEntry, other.sameAs k = other.sameAs c := by
    intro other
    rw [ClassEntry.sameAs, ClassEntry.sameAs, eq_of_beq path, eq_of_beq start]
  unfold methodsNamed methods Declaration.isMethodOf
  simp only [place, eq_of_beq path]

theorem firstMethods_cons_of_ne_nil (own : w.methodsNamed k name ≠ []) (rest : List ClassEntry) :
    w.firstMethods name (k :: rest) = w.methodsNamed k name := by
  unfold firstMethods
  split
  · exact absurd ‹_› own
  · rfl

theorem exists_of_mem_firstMethods {classes : List ClassEntry} (h : u ∈ w.firstMethods name classes) :
    ∃ k ∈ classes, u ∈ w.methodsNamed k name := by
  induction classes with
  | nil => cases h
  | cons k rest ih =>
    unfold firstMethods at h
    split at h
    · obtain ⟨k', mem, found⟩ := ih h
      exact ⟨k', List.mem_cons_of_mem _ mem, found⟩
    · exact ⟨k, List.mem_cons_self, h⟩

theorem foremost_ne_nil {units : List Callable} (some : units ≠ []) : w.foremost units ≠ [] := by
  unfold foremost
  split
  · exact some
  · assumption

/-- A method of the class `c`, with the module that declares it. -/
structure MethodIn (w : Index) (c : ClassEntry) (m : ModuleEntry) (d : Declaration) : Prop where
  module : m ∈ w.modules
  declared : d ∈ m.declarations
  owner : d.owner = some c

theorem MethodIn.mem_allClasses {m : ModuleEntry} {d : Declaration}
    (loaded : load codecs tree exclude guesses path = .ok w) (h : w.MethodIn c m d) :
    c ∈ w.allClasses := by
  have indexed := ofFile_of_load loaded h.module
  exact List.mem_flatMap.2 ⟨m, h.module, ModuleEntry.owner_mem_classes indexed h.declared h.owner⟩

/-! ## Searching from a class -/

/-- The dotted name of the class `c` stands for the class `k`, where each search from `c` starts; the search goes on
through classes that their dotted names stand for. -/
structure StartsAt (w : Index) (c k : ClassEntry) : Prop where
  meant : w.class? c.qualname = some k
  order : ∃ rest, w.order c = k :: rest ∧ ∀ other ∈ rest, w.class? other.qualname = some other

theorem exists_startsAt (loaded : load codecs tree exclude guesses path = .ok w) (hc : c ∈ w.allClasses) :
    ∃ k, w.StartsAt c k := by
  obtain ⟨-, -, modules, -, rfl⟩ := (load_eq_ok_iff rfl rfl).1 loaded
  obtain ⟨k, rest, meant, order, others⟩ := order_withOrders hc
  exact ⟨k, meant, rest, order, others⟩

namespace StartsAt

theorem inherited_eq (h : w.StartsAt c k) (own : w.methodsNamed k name ≠ []) :
    w.inherited c name = w.methodsNamed k name := by
  obtain ⟨rest, order, -⟩ := h.order
  rw [inherited, order]
  exact firstMethods_cons_of_ne_nil own rest

/-- Above the class that its name stands for there are definitions of classes of other names only. -/
theorem exists_of_mem_inheritedAbove (h : w.StartsAt c k) (same : k.sameAs c = true)
    (mem : u ∈ w.inheritedAbove c name) :
    ∃ other ∈ w.allClasses, other.qualname ≠ c.qualname ∧ u ∈ w.methodsNamed other name := by
  obtain ⟨rest, order, others⟩ := h.order
  obtain ⟨other, mem, found⟩ := exists_of_mem_firstMethods mem
  obtain ⟨mem, different⟩ := List.mem_filter.1 mem
  have meant : w.class? other.qualname = some other := by
    rw [order] at mem
    rcases List.mem_cons.1 mem with rfl | mem
    · rw [qualname_of_class? h.meant]
      exact h.meant
    · exact others other mem
  refine ⟨other, mem_of_class? meant, ?_, found⟩
  -- of the classes searched only the one skipped has this name
  intro name
  rw [name, h.meant] at meant
  cases meant
  rw [same] at different
  cases different

/-- A class that its name does not stand for is not skipped, because it is not met. -/
theorem inheritedAbove_eq (h : w.StartsAt c k) (different : k.sameAs c = false) (own : w.methodsNamed k name ≠ []) :
    w.inheritedAbove c name = w.methodsNamed k name := by
  obtain ⟨rest, order, -⟩ := h.order
  rw [inheritedAbove, order, List.filter_cons_of_pos (by rw [different]; rfl)]
  exact firstMethods_cons_of_ne_nil own _

theorem constructorsOf_eq (h : w.StartsAt c k) (same : k.sameAs c = true) (own : w.methodsNamed k "__init__" ≠ []) :
    w.constructorsOf c = w.methodsNamed k "__init__" := by
  have meant : (w.class? c.qualname).any (·.sameAs c) = true := by
    rw [h.meant]
    exact same
  unfold constructorsOf
  rw [meant, h.inherited_eq own, if_neg (by simp)]
  split
  · exact absurd ‹_› own
  · rfl

theorem constructorsOf_eq_nil (h : w.StartsAt c k) (different : k.sameAs c = false) : w.constructorsOf c = [] := by
  have meant : (w.class? c.qualname).any (·.sameAs c) = false := by
    rw [h.meant]
    exact different
  unfold constructorsOf
  rw [meant]
  rfl

end StartsAt

/-! ## Calls -/

/-- The resolution is of definitions of the name in the body of the class, at least one, each in the form given. -/
def OfOwn (w : Index) (c : ClassEntry) (name : String) (form : Callable → Referent → Prop) (r : Resolution) : Prop :=
  r.referents ≠ [] ∧ ∀ s ∈ r.referents, ∃ u, w.Owns c name u ∧ form u s

/-- Reached through the receiver. -/
def BoundTo (receiver : String) (u : Callable) (s : Referent) : Prop := s = .bound (.declaration u) receiver

/-- The declaration, with or without type arguments. -/
def FormOf (u : Callable) (s : Referent) : Prop := s.underlying = .declaration u

/-- Calls in a method of the class and calls of the class find the definitions in its own body first. -/
structure OwnFirst (w : Index) (c : ClassEntry) : Prop where
  /-- A call on the first parameter of a method that is not static. -/
  onReceiver : ∀ m d, w.MethodIn c m d → d.function.decoratorNames.contains "staticmethod" = false →
    ∀ param, (d.function.params.positionalOnly ++ d.function.params.regular).head? = some param →
    ∀ site usage name, site.function = .attribute (.name param.name usage) name → (∃ u, w.Owns c name u) →
    ∃ r, w.call? (contextOf m d) site = .ok (some r) ∧ w.OfOwn c name (BoundTo param.name) r
  /-- A call through `super()` passes over all classes of the dotted name. -/
  above : ∀ m d, w.MethodIn c m d → ∀ site value name, isSuperCall value = true →
    site.function = .attribute value name → ∀ r, w.call? (contextOf m d) site = .ok (some r) → ∀ s ∈ r.referents,
    ∃ other ∈ w.allClasses, other.qualname ≠ c.qualname ∧ ∃ u, w.Owns other name u ∧ BoundTo "super()" u s
  /-- A call of the class, with type arguments that can be written out, if any. -/
  construction : ∀ context site, w.expression? context site.callee = some (.class c) → site.IsWritable →
    (∃ u, w.Owns c "__init__" u) → ∃ r, w.call? context site = .ok (some r) ∧ w.OfOwn c "__init__" FormOf r

/-- Calls in a method of the class `c` find the definitions in the body of the class `k` first, also if they go through
`super()`, and calls of the class find nothing. -/
structure Hidden (w : Index) (k c : ClassEntry) : Prop where
  onReceiver : ∀ m d, w.MethodIn c m d → d.function.decoratorNames.contains "staticmethod" = false →
    ∀ param, (d.function.params.positionalOnly ++ d.function.params.regular).head? = some param →
    ∀ site usage name, site.function = .attribute (.name param.name usage) name → (∃ u, w.Owns k name u) →
    ∃ r, w.call? (contextOf m d) site = .ok (some r) ∧ w.OfOwn k name (BoundTo param.name) r
  above : ∀ m d, w.MethodIn c m d → ∀ site value name, isSuperCall value = true →
    site.function = .attribute value name → (∃ u, w.Owns k name u) →
    ∃ r, w.call? (contextOf m d) site = .ok (some r) ∧ w.OfOwn k name (BoundTo "super()") r
  construction : ∀ context site, w.expression? context site.callee = some (.class c) → site.IsWritable →
    w.call? context site = .ok none

variable {m : ModuleEntry} {d : Declaration} {site : CallSite} {context : Context}

theorem Indexes.exists_own_iff (h : w.Indexes codecs tree files) (hc : c ∈ w.allClasses) :
    (∃ u, w.Owns c name u) ↔ w.methodsNamed c name ≠ [] := by
  simp only [← h.mem_methodsNamed_iff hc]
  constructor
  · rintro ⟨u, mem⟩
    exact List.ne_nil_of_mem mem
  · exact List.exists_mem_of_ne_nil _

/-- What is made of the definitions in a class, in whatever form, is of its own definitions. -/
theorem Indexes.exists_ofOwn (h : w.Indexes codecs tree files) (hk : k ∈ w.allClasses) (own : w.methodsNamed k name ≠ [])
    {form : Callable → Referent} (isForm : IsForm form) :
    ∃ r, Resolution.ofReferents? ((w.foremost (w.methodsNamed k name)).map form) = some r ∧
      w.OfOwn k name (fun u s => s = form u) r := by
  obtain ⟨r, made, referents⟩ := exists_ofReferents? isForm (w.foremost_ne_nil own)
  refine ⟨r, made, ?_, ?_⟩
  · rw [referents]
    simpa using w.foremost_ne_nil own
  · intro s mem
    rw [referents] at mem
    obtain ⟨u, given, rfl⟩ := List.mem_map.1 mem
    exact ⟨u, (h.mem_methodsNamed_iff hk).1 (mem_of_mem_foremost given), rfl⟩

theorem expression?_receiver (w : Index) (method : w.MethodIn c m d)
    (dynamic : d.function.decoratorNames.contains "staticmethod" = false) {param : Param}
    (first : (d.function.params.positionalOnly ++ d.function.params.regular).head? = some param) (usage : Usage) :
    (contextOf m d).receiver = some param.name ∧
      w.expression? (contextOf m d) (.name param.name usage) = some (.instance c) := by
  have receiver : (contextOf m d).receiver = some param.name := by
    change receiverOf d = _
    rw [receiverOf, method.owner, dynamic, first]
    rfl
  have owner : (contextOf m d).owner = some c := method.owner
  refine ⟨receiver, ?_⟩
  rw [expression?, nameIn?, receiver, owner, if_pos (beq_self_eq_true _)]
  rfl

theorem StartsAt.call?_on_receiver (h : w.StartsAt c k) (method : w.MethodIn c m d)
    (dynamic : d.function.decoratorNames.contains "staticmethod" = false) {param : Param}
    (first : (d.function.params.positionalOnly ++ d.function.params.regular).head? = some param) {usage : Usage}
    (called : site.function = .attribute (.name param.name usage) name) (own : w.methodsNamed k name ≠ []) :
    w.call? (contextOf m d) site = .ok (Resolution.ofReferents?
      ((w.foremost (w.methodsNamed k name)).map fun u => .bound (.declaration u) param.name)) := by
  obtain ⟨receiver, meant⟩ := w.expression?_receiver method dynamic first usage
  have plain : (if isSuperCall (.name param.name usage) then (contextOf m d).owner else none) = none := rfl
  have found : w.expression? (contextOf m d) (.attribute (.name param.name usage) name) =
      some (.bound (w.methodsNamed k name) param.name) := by
    rw [expression?, plain, meant]
    dsimp only
    rw [h.inherited_eq own, receiver]
    split
    · exact absurd ‹_› own
    · rfl
  rw [call?_of_attribute called, referred?, found]
  rfl

theorem call?_through_super (method : w.MethodIn c m d) {value : Expr} (super : isSuperCall value = true)
    (called : site.function = .attribute value name) :
    w.call? (contextOf m d) site = .ok (Resolution.ofReferents?
      ((w.foremost (w.inheritedAbove c name)).map fun u => .bound (.declaration u) "super()")) := by
  have owner : (if isSuperCall value then (contextOf m d).owner else none) = some c := by
    rw [if_pos super]
    exact method.owner
  rw [call?_of_attribute called, referred?, expression?, owner]
  dsimp only
  split
  · rename_i none
    rw [none]
    rfl
  · rfl

theorem call?_of_class (meant : w.expression? context site.callee = some (.class c)) (writable : site.IsWritable) :
    ∃ form, site.form = .ok form ∧ w.call? context site = .ok ((Resolution.ofReferents?
      ((w.foremost (w.constructorsOf c)).map .declaration)).map form) := by
  have readable : ∃ result, w.call? context site = .ok result := exists_call?_iff.2 writable
  obtain ⟨result, answered⟩ := readable
  cases written : site.form with
  | error fault =>
    rw [call?_eq_error_iff.2 written] at answered
    cases answered
  | ok form =>
    refine ⟨form, rfl, ?_⟩
    rw [call?_eq, written, referred?, meant]
    rfl

namespace StartsAt

/-- The class that its dotted name stands for has its own definitions first. -/
theorem ownFirst (h : w.StartsAt c k) (indexes : w.Indexes codecs tree files) (hc : c ∈ w.allClasses)
    (same : k.sameAs c = true) : w.OwnFirst c := by
  constructor
  case onReceiver =>
    intro m d method dynamic param first site usage name called owns
    have own := (indexes.exists_own_iff hc).1 owns
    have kept : w.methodsNamed k name ≠ [] := by rwa [methodsNamed_of_sameAs same]
    rw [h.call?_on_receiver method dynamic first called kept, methodsNamed_of_sameAs same]
    obtain ⟨r, made, ofOwn⟩ := indexes.exists_ofOwn hc own (isForm_bound param.name)
    exact ⟨r, congrArg _ made, ofOwn⟩
  case above =>
    intro m d method site value name super called r answered s mem
    rw [call?_through_super method super called] at answered
    rw [referents_of_ofReferents? (isForm_bound "super()") (Except.ok.inj answered)] at mem
    obtain ⟨u, found, rfl⟩ := List.mem_map.1 mem
    obtain ⟨other, hother, different, own⟩ := h.exists_of_mem_inheritedAbove same (mem_of_mem_foremost found)
    exact ⟨other, hother, different, u, (indexes.mem_methodsNamed_iff hother).1 own, rfl⟩
  case construction =>
    intro context site meant writable owns
    have own := (indexes.exists_own_iff hc).1 owns
    have kept : w.methodsNamed k "__init__" ≠ [] := by rwa [methodsNamed_of_sameAs same]
    obtain ⟨form, written, answered⟩ := call?_of_class meant writable
    rw [h.constructorsOf_eq same kept, methodsNamed_of_sameAs same] at answered
    obtain ⟨r, made, some, ofOwn⟩ := indexes.exists_ofOwn hc own isForm_declaration
    rw [made] at answered
    obtain ⟨formed, referents, underlying⟩ := CallSite.referents_form written r
    refine ⟨form r, answered, ?_, ?_⟩
    · rw [referents]
      simpa using some
    · intro s mem
      rw [referents] at mem
      obtain ⟨plain, given, rfl⟩ := List.mem_map.1 mem
      obtain ⟨u, owned, rfl⟩ := ofOwn plain given
      exact ⟨u, owned, underlying (.declaration u)⟩

/-- A class whose dotted name stands for another class is hidden by that. -/
theorem hidden (h : w.StartsAt c k) (indexes : w.Indexes codecs tree files) (different : k.sameAs c = false) :
    w.Hidden k c := by
  have hk := mem_of_class? h.meant
  constructor
  case onReceiver =>
    intro m d method dynamic param first site usage name called owns
    have own := (indexes.exists_own_iff hk).1 owns
    rw [h.call?_on_receiver method dynamic first called own]
    obtain ⟨r, made, ofOwn⟩ := indexes.exists_ofOwn hk own (isForm_bound param.name)
    exact ⟨r, congrArg _ made, ofOwn⟩
  case above =>
    intro m d method site value name super called owns
    have own := (indexes.exists_own_iff hk).1 owns
    rw [call?_through_super method super called, h.inheritedAbove_eq different own]
    obtain ⟨r, made, ofOwn⟩ := indexes.exists_ofOwn hk own (isForm_bound "super()")
    exact ⟨r, congrArg _ made, ofOwn⟩
  case construction =>
    intro context site meant writable
    obtain ⟨form, -, answered⟩ := call?_of_class meant writable
    rw [h.constructorsOf_eq_nil different] at answered
    exact answered

end StartsAt

/-- **A class's own definitions come first, if its dotted name stands for it**: for every class of a loaded workspace,
calls on the receiver, calls through `super()` and calls of the class find the definitions in its own body first if no
class indexed later has its dotted name. Otherwise the last class of that name is searched instead. -/
theorem own_definitions_first (loaded : load codecs tree exclude guesses path = .ok w) (hc : c ∈ w.allClasses) :
    ∃ k ∈ w.allClasses, w.class? c.qualname = some k ∧ k.qualname = c.qualname ∧
      (k.sameAs c = true → w.OwnFirst c) ∧ (k.sameAs c = false → w.Hidden k c) := by
  have indexes := indexes_of_load loaded
  obtain ⟨k, starts⟩ := exists_startsAt loaded hc
  refine ⟨k, mem_of_class? starts.meant, starts.meant, qualname_of_class? starts.meant, ?_, ?_⟩
  · exact fun same => starts.ownFirst indexes hc same
  · exact fun different => starts.hidden indexes different

namespace Sample

/-- In the workspace of one file there are two classes of one name; the method `m` of each calls itself. -/
def sameName : Files.Tree :=
  treeOf [("a.py", "if True:\n    class C:\n        def m(self): self.m()\n" ++
    "else:\n    class C:\n        def m(self): self.m()\n")]

/-- A call in the method `d` of the class `c` is on the receiver and of a name that the class defines, and refers to
something else than a definition in the class. -/
def missesOwn (w : Index) (m : ModuleEntry) (d : Declaration) (c : ClassEntry) (param : Param) (site : CallSite) :
    Bool :=
  match site.function with
  | .attribute (.name id _) name =>
    id == param.name && !(w.methodsNamed c name).isEmpty && (w.call? (contextOf m d) site).toOption.any fun answer =>
      answer.any fun r => r.referents.any fun s =>
        !(w.methodsNamed c name).any fun u => s == .bound (.declaration u) param.name
  | _ => false

/-- A method that is not static has a call that misses the definitions in its class. -/
def hasMiss (w : Index) (m : ModuleEntry) (d : Declaration) : Bool :=
  d.owner.any fun c => !d.function.decoratorNames.contains "staticmethod" &&
    (d.function.params.positionalOnly ++ d.function.params.regular).head?.any fun param =>
      (sitesIn d).any fun site => missesOwn w m d c param site

theorem not_ownFirst_of_hasMiss (loaded : load codecs tree exclude guesses path = .ok w) (hm : m ∈ w.modules)
    (hd : d ∈ m.declarations) (miss : hasMiss w m d = true) : ∃ c ∈ w.allClasses, ¬ w.OwnFirst c := by
  obtain ⟨c, owner, miss⟩ := (Option.any_eq_true _ _).1 miss
  obtain ⟨dynamic, miss⟩ := Bool.and_eq_true_iff.1 miss
  obtain ⟨param, first, miss⟩ := (Option.any_eq_true _ _).1 miss
  obtain ⟨site, -, miss⟩ := List.any_eq_true.1 miss
  have method : w.MethodIn c m d := ⟨hm, hd, owner⟩
  have hc := method.mem_allClasses loaded
  have indexes := indexes_of_load loaded
  refine ⟨c, hc, fun ownFirst => ?_⟩
  unfold missesOwn at miss
  split at miss
  · rename_i id usage name called
    simp only [Bool.and_eq_true, beq_iff_eq, Bool.not_eq_true', List.isEmpty_eq_false_iff] at miss
    obtain ⟨⟨rfl, own⟩, miss⟩ := miss
    obtain ⟨r, answered, -, all⟩ := ownFirst.onReceiver m d method (by simpa using dynamic) param first site usage name
      called ((indexes.exists_own_iff hc).2 own)
    rw [answered] at miss
    obtain ⟨s, mem, other⟩ := List.any_eq_true.1 miss
    obtain ⟨u, owns, rfl⟩ := all s mem
    have found : (w.methodsNamed c name).any (fun v =>
        Referent.bound (.declaration u) param.name == .bound (.declaration v) param.name) = true :=
      List.any_eq_true.2 ⟨u, (indexes.mem_methodsNamed_iff hc).2 owns, beq_self_eq_true _⟩
    rw [found] at other
    cases other
  · cases miss

end Sample

theorem own_definitions_first_sample :
    ∃ w c k, load usualCodecs Sample.sameName Files.defaultExcludes false Sample.root = .ok w ∧ c ∈ w.allClasses ∧
      k ∈ w.allClasses ∧ k.qualname = c.qualname ∧ k.sameAs c = false ∧ w.OwnFirst k ∧ w.Hidden k c := by
  have run : ((load usualCodecs Sample.sameName Files.defaultExcludes false Sample.root).toOption.any fun w =>
      w.allClasses.any fun c => (w.class? c.qualname).any fun k => !k.sameAs c) = true := by
    decide +kernel
  obtain ⟨w, loaded, run⟩ := exists_ok_of_any run
  obtain ⟨c, hc, two⟩ := List.any_eq_true.1 run
  obtain ⟨k, hk, meant, qualname, -, hidden⟩ := own_definitions_first loaded hc
  obtain ⟨k', -, meant', -, ownFirst, -⟩ := own_definitions_first loaded hk
  rw [qualname, meant] at meant'
  cases meant'
  rw [meant] at two
  have different : k.sameAs c = false := by simpa using two
  exact ⟨w, c, k, loaded, hc, hk, qualname, different, ownFirst (by simp [ClassEntry.sameAs]), hidden different⟩

/-- The first of two classes of one dotted name does not find its own definitions first. -/
theorem own_definitions_hidden :
    ∃ w, load usualCodecs Sample.sameName Files.defaultExcludes false Sample.root = .ok w ∧
      ∃ c ∈ w.allClasses, ¬ w.OwnFirst c := by
  have run : ((load usualCodecs Sample.sameName Files.defaultExcludes false Sample.root).toOption.any fun w =>
      w.modules.any fun m => m.declarations.any fun d => Sample.hasMiss w m d) = true := by
    decide +kernel
  obtain ⟨w, loaded, run⟩ := exists_ok_of_any run
  obtain ⟨m, hm, some⟩ := List.any_eq_true.1 run
  obtain ⟨d, hd, miss⟩ := List.any_eq_true.1 some
  exact ⟨w, loaded, Sample.not_ownFirst_of_hasMiss loaded hm hd miss⟩

end Index

end Workspace

end CallAtlas
