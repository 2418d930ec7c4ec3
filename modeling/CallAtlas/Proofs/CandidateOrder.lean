import CallAtlas.Proofs.OwnMethods
import CallAtlas.Proofs.SourceOrder

/-!
# The order of candidates

The functions of a name in a module, and the methods of a name in a class, are listed in the order in which the block of
the module or of the class makes them. A call that is not guessed has as candidates some of the definitions of one such
list. So candidates are in the order of the text unless a `try` statement makes some definitions of the name in its
handlers and others behind these.
-/

namespace CallAtlas.Workspace

open Source

/-- The function, if the statement defines one. -/
def functionOf? : Stmt → Option Function
  | .functionDef f => some f
  | _ => none

/-- The functions that some definitions define. -/
def functionsAmong (definitions : List Stmt) : List Function := definitions.filterMap functionOf?

theorem mem_of_functionsAmong {f : Function} {definitions : List Stmt} (mem : f ∈ functionsAmong definitions) :
    .functionDef f ∈ definitions := by
  obtain ⟨s, hs, same⟩ := List.mem_filterMap.1 mem
  cases s with
  | functionDef g =>
    cases same
    exact hs
  | _ => cases same

/-- The function of an item right in the class that starts at `k`, or right in the module. -/
def Item.functionUnder (k : Option Position) : Item → Option Function
  | .declaration d => if d.owner.map (·.span.start) = k then some d.function else none
  | .class _ => none

/-- The functions of the items right in the class that starts at `k`, or right in the module. -/
def functionsUnder (k : Option Position) (items : List Item) : List Function := items.filterMap (Item.functionUnder k)

/-- Where the class around a place starts. -/
def Place.ownerStart (p : Place) : Option Position := p.owner.map (·.span.start)

/-- The items at a place of a text, made of the definitions `own` and of what is inside them: which functions stand
right in which class. All classes among the items start at one of the places `starts`. -/
structure Layout (text : List Stmt) (p : Place) (starts : List Position) (own : List Stmt) (items : List Item) :
    Prop where
  direct : functionsUnder p.ownerStart items = functionsAmong own
  other : ∀ k, k ≠ p.ownerStart → (∀ q ∈ starts, k ≠ some q) → functionsUnder k items = []
  inner : ∀ c, .class c ∈ items → c.span.start ∈ starts ∧ ∃ outer definition, BlockIn text outer ∧
    .classDef definition ∈ outer ∧ definition.name = c.name ∧ definition.span = c.span ∧
      functionsUnder (some c.span.start) items = functionsAmong (definitionsOf definition.body)

namespace Layout

variable {text : List Stmt} {p : Place} {starts starts' : List Position} {own own' : List Stmt}
  {items items' : List Item}

theorem nil (h : functionsAmong own = []) : Layout text p starts own [] :=
  ⟨h.symm, fun _ _ _ => rfl, fun _ mem => nomatch mem⟩

theorem mono (h : Layout text p starts own items) (sub : starts ⊆ starts') : Layout text p starts' own items where
  direct := h.direct
  other k differs outside := h.other k differs fun q hq => outside q (sub hq)
  inner c mem := ⟨sub (h.inner c mem).1, (h.inner c mem).2⟩

/-- Items side by side, where no class of the one part starts where one of the other does, or where the class around
them does. -/
theorem append (h : Layout text p starts own items) (h' : Layout text p starts' own' items')
    (apart : (starts ++ starts').Nodup) (outside : ∀ q ∈ starts ++ starts', p.ownerStart ≠ some q) :
    Layout text p (starts ++ starts') (own ++ own') (items ++ items') where
  direct := by
    rw [functionsUnder, List.filterMap_append, ← functionsUnder, ← functionsUnder, h.direct, h'.direct, functionsAmong,
      functionsAmong, functionsAmong, List.filterMap_append]
  other k differs none := by
    have first := h.other k differs fun q hq => none q (List.mem_append_left _ hq)
    have second := h'.other k differs fun q hq => none q (List.mem_append_right _ hq)
    rw [functionsUnder, List.filterMap_append, ← functionsUnder, ← functionsUnder, first, second]
    rfl
  inner c mem := by
    have cross := (List.nodup_append.1 apart).2.2
    rcases List.mem_append.1 mem with mem | mem
    · obtain ⟨listed, outer, definition, block, inside, name, span, functions⟩ := h.inner c mem
      refine ⟨List.mem_append_left _ listed, outer, definition, block, inside, name, span, ?_⟩
      have none := h'.other (some c.span.start) (outside _ (List.mem_append_left _ listed)).symm fun q hq same =>
        cross _ listed q hq (Option.some.inj same)
      rw [functionsUnder, List.filterMap_append, ← functionsUnder, ← functionsUnder, functions, none, List.append_nil]
    · obtain ⟨listed, outer, definition, block, inside, name, span, functions⟩ := h'.inner c mem
      refine ⟨List.mem_append_right _ listed, outer, definition, block, inside, name, span, ?_⟩
      have none := h.other (some c.span.start) (outside _ (List.mem_append_right _ listed)).symm fun q hq same =>
        cross q hq _ listed (Option.some.inj same).symm
      rw [functionsUnder, List.filterMap_append, ← functionsUnder, ← functionsUnder, functions, none, List.nil_append]

theorem function {f : Function} {d : Declaration} (made : p.declaration f = .ok d) :
    Layout text p [] [.functionDef f] [.declaration d] := by
  obtain ⟨signature, -, rfl⟩ := bind_pure_eq_ok.1 made
  refine ⟨?_, fun k differs _ => ?_, fun c mem => by simp at mem⟩
  · simp [functionsUnder, Item.functionUnder, Place.ownerStart, functionsAmong, functionOf?]
  · have other : p.owner.map (·.span.start) ≠ k := fun same => differs same.symm
    simp [functionsUnder, Item.functionUnder, other]

/-- A class with what is in its body. -/
theorem cons_class {outer : List Stmt} {c : Source.Class} (block : BlockIn text outer) (mem : .classDef c ∈ outer)
    (h : Layout text { p with owner := some (p.classEntry c.name c.bases c.span) } (startsOf c.body)
      (definitionsOf c.body) items)
    (outside : ∀ q ∈ c.span.start :: startsOf c.body, p.ownerStart ≠ some q) :
    Layout text p (c.span.start :: startsOf c.body) [.classDef c] (.class (p.classEntry c.name c.bases c.span) :: items)
    where
  direct := h.other _ (outside _ List.mem_cons_self) fun q hq => outside q (List.mem_cons_of_mem _ hq)
  other k _ none := h.other k (none _ List.mem_cons_self) fun q hq => none q (List.mem_cons_of_mem _ hq)
  inner entry mem' := by
    rcases List.mem_cons.1 mem' with same | mem'
    · cases same
      exact ⟨List.mem_cons_self, outer, c, block, mem, rfl, rfl, h.direct⟩
    · obtain ⟨listed, rest⟩ := h.inner entry mem'
      exact ⟨List.mem_cons_of_mem _ listed, rest⟩

end Layout

mutual

theorem layout_itemsOf {text outer : List Stmt} {p : Place} {items : List Item} (s : Stmt)
    (h : itemsOf p s = .ok items) (block : BlockIn text outer) (mem : s ∈ outer) (distinct : s.starts.Nodup)
    (outside : ∀ q ∈ s.starts, p.ownerStart ≠ some q) : Layout text p s.starts s.definitions items := by
  cases s with
  | functionDef f =>
    rw [itemsOf] at h
    obtain ⟨d, made, rfl⟩ := bind_pure_eq_ok.1 h
    exact (Layout.function made).mono (List.nil_subset _)
  | classDef c =>
    obtain ⟨name, bases, keywords, body, decorators, span⟩ := c
    rw [itemsOf] at h
    obtain ⟨inner, run, rfl⟩ := bind_pure_eq_ok.1 h
    rw [Stmt.starts] at distinct outside ⊢
    obtain ⟨fresh, distinct⟩ := List.nodup_cons.1 distinct
    have inside : ∀ q ∈ startsOf body, some span.start ≠ some q := fun q hq same => by
      cases same
      exact fresh hq
    exact Layout.cons_class block mem (layout_itemsOfBlock body run (block.inner mem (List.mem_singleton.2 rfl))
      (List.Subset.refl _) distinct inside) outside
  | ifElse test body otherwise =>
    rw [itemsOf] at h
    obtain ⟨first, second, run, run', rfl⟩ := bind_bind_pure_eq_ok.1 h
    rw [Stmt.starts] at distinct outside ⊢
    obtain ⟨one, two, -⟩ := List.nodup_append.1 distinct
    exact (layout_itemsOfBlock body run (block.inner mem (by simp [Stmt.blocks])) (List.Subset.refl _) one
      fun q hq => outside q (by simp [hq])).append (layout_itemsOfBlock otherwise run'
        (block.inner mem (by simp [Stmt.blocks])) (List.Subset.refl _) two fun q hq => outside q (by simp [hq]))
      distinct outside
  | withBlock isAsync context body =>
    rw [itemsOf] at h
    exact layout_itemsOfBlock body h (block.inner mem (List.mem_singleton.2 rfl)) (List.Subset.refl _) distinct outside
  | tryBlock isStar body handlers otherwise final =>
    rw [itemsOf] at h
    obtain ⟨inBody, runBody, h⟩ := bind_eq_ok.1 h
    obtain ⟨inElse, runElse, h⟩ := bind_eq_ok.1 h
    obtain ⟨inFinal, inHandlers, runFinal, runHandlers, rfl⟩ := bind_bind_pure_eq_ok.1 h
    rw [Stmt.starts] at distinct outside ⊢
    -- the handlers stand in front of the `else` and `finally` blocks in the text, and behind them among the items
    have listed : (startsOf body ++ startsOfHandlers handlers ++ startsOf otherwise ++ startsOf final).Perm
        (startsOf body ++ startsOf otherwise ++ startsOf final ++ startsOfHandlers handlers) := by
      simp only [List.append_assoc]
      refine List.Perm.append_left _ ?_
      rw [← List.append_assoc (startsOf otherwise)]
      exact List.perm_append_comm
    replace distinct := listed.nodup_iff.1 distinct
    replace outside := fun q hq => outside q (listed.mem_iff.2 hq)
    obtain ⟨rest, four, -⟩ := List.nodup_append.1 distinct
    obtain ⟨both, three, -⟩ := List.nodup_append.1 rest
    obtain ⟨one, two, -⟩ := List.nodup_append.1 both
    have inner : ∀ b ∈ body :: otherwise :: final :: handlers.map (·.body), BlockIn text b := fun b => block.inner mem
    have first := layout_itemsOfBlock body runBody (inner body (by simp)) (List.Subset.refl _) one
      fun q hq => outside q (by simp [hq])
    have second := layout_itemsOfBlock otherwise runElse (inner otherwise (by simp)) (List.Subset.refl _) two
      fun q hq => outside q (by simp [hq])
    have third := layout_itemsOfBlock final runFinal (inner final (by simp)) (List.Subset.refl _) three
      fun q hq => outside q (by simp [hq])
    have fourth := layout_itemsOfHandlers handlers runHandlers
      (fun r hr => inner r.body (by simp [List.mem_map_of_mem hr])) four fun q hq => outside q (by simp [hq])
    have upper := first.append second both
      fun q hq => outside q (List.mem_append_left _ (List.mem_append_left _ hq))
    have lower := upper.append third rest fun q hq => outside q (List.mem_append_left _ hq)
    exact (lower.append fourth distinct outside).mono listed.symm.subset
  | _ =>
    cases h
    exact .nil rfl

theorem layout_itemsOfBlock {text outer : List Stmt} {p : Place} {items : List Item} (ss : List Stmt)
    (h : itemsOfBlock p ss = .ok items) (block : BlockIn text outer) (sub : ss ⊆ outer)
    (distinct : (startsOf ss).Nodup) (outside : ∀ q ∈ startsOf ss, p.ownerStart ≠ some q) :
    Layout text p (startsOf ss) (definitionsOf ss) items := by
  cases ss with
  | nil =>
    cases h
    exact .nil rfl
  | cons s ss =>
    rw [itemsOfBlock] at h
    obtain ⟨first, rest, run, run', rfl⟩ := bind_bind_pure_eq_ok.1 h
    rw [startsOf] at distinct outside ⊢
    obtain ⟨one, two, -⟩ := List.nodup_append.1 distinct
    exact (layout_itemsOf s run block (sub List.mem_cons_self) one fun q hq => outside q (by simp [hq])).append
      (layout_itemsOfBlock ss run' block (fun t ht => sub (List.mem_cons_of_mem _ ht)) two
        fun q hq => outside q (by simp [hq])) distinct outside

theorem layout_itemsOfHandlers {text : List Stmt} {p : Place} {items : List Item} (hs : List Handler)
    (h : itemsOfHandlers p hs = .ok items) (blocks : ∀ r ∈ hs, BlockIn text r.body)
    (distinct : (startsOfHandlers hs).Nodup) (outside : ∀ q ∈ startsOfHandlers hs, p.ownerStart ≠ some q) :
    Layout text p (startsOfHandlers hs) (definitionsOfHandlers hs) items := by
  match hs with
  | [] =>
    cases h
    exact .nil rfl
  | ⟨type, name, body⟩ :: rest =>
    rw [itemsOfHandlers] at h
    obtain ⟨first, others, run, run', rfl⟩ := bind_bind_pure_eq_ok.1 h
    rw [startsOfHandlers] at distinct outside ⊢
    obtain ⟨one, two, -⟩ := List.nodup_append.1 distinct
    exact (layout_itemsOfBlock body run (blocks _ List.mem_cons_self) (List.Subset.refl _) one
      fun q hq => outside q (by simp [hq])).append (layout_itemsOfHandlers rest run'
        (fun r hr => blocks r (List.mem_cons_of_mem _ hr)) two fun q hq => outside q (by simp [hq])) distinct outside

end

/-! ## Units in the order of a block -/

/-- The units start one after the other. -/
def InOrder (units : List Callable) : Prop := units.Pairwise fun a b => a.span.start.before b.span.start = true

/-- The statement defines a function of the name. -/
def definesFunction (name : String) : Stmt → Bool
  | .functionDef f => f.name == name
  | _ => false

/-- The statement starts where one of the units does. -/
def startsOneOf (units : List Callable) (s : Stmt) : Bool := units.any fun u => s.start? == some u.span.start

/-- The units are those of the definitions of the kind in a block, in the order in which it makes them. -/
def Lists (block : List Stmt) (kind : Stmt → Bool) (units : List Callable) : Prop :=
  (units.map (·.span.start)).map some = ((definitionsOf block).filter kind).map Stmt.start?

theorem eq_filter_of_sublist {α : Type} [DecidableEq α] {xs ys : List α} (sub : xs.Sublist ys) (distinct : ys.Nodup) :
    xs = ys.filter (· ∈ xs) := by
  have kept : xs.filter (· ∈ xs) = xs := List.filter_eq_self.2 fun x hx => decide_eq_true hx
  have among : (xs.filter (· ∈ xs)).Sublist (ys.filter (· ∈ xs)) := sub.filter _
  have few : (ys.filter (· ∈ xs)).Subperm xs :=
    (distinct.filter _).subperm fun y hy => of_decide_eq_true (List.mem_filter.1 hy).2
  rw [kept] at among
  exact among.eq_of_length_le few.length_le

namespace Lists

variable {block : List Stmt} {kind : Stmt → Bool} {units part : List Callable}

/-- Units are in the order of the text exactly if the block does not split their definitions. -/
theorem inOrder_iff (h : Lists block kind units) (ascending : Ascending (startsOf block)) :
    InOrder units ↔ UnsplitIn kind block := by
  rw [← pairwise_definitionsOf_iff kind block (pairwise_definitionsInText ascending)]
  rw [Stmt.pairwise_before, ← h, pairwise_map_some, Ascending, List.pairwise_map]
  rfl

/-- Some of the units are listed likewise. -/
theorem sublist (h : Lists block kind units) (ascending : Ascending (startsOf block)) (sub : part.Sublist units) :
    Lists block (startsOneOf part) part := by
  have distinct : ((definitionsOf block).map Stmt.start?).Nodup := by
    refine ((perm_definitionsOf block).map _).nodup_iff.2 (List.Nodup.sublist (starts_definitionsInBlock block) ?_)
    exact ascending.nodup.map (Option.some_injective _)
  have among : ((part.map (·.span.start)).map some).Sublist ((definitionsOf block).map Stmt.start?) := by
    refine ((sub.map _).map _).trans ?_
    rw [h]
    exact List.filter_sublist.map _
  unfold Lists
  rw [eq_filter_of_sublist among distinct, List.filter_map]
  refine congrArg _ (List.filter_congr fun s _ => ?_)
  rw [Bool.eq_iff_iff]
  simp [startsOneOf, eq_comm (a := s.start?)]

theorem starts_functionsAmong (name : String) (definitions : List Stmt) :
    (((functionsAmong definitions).filter (·.name == name)).map (·.span.start)).map some =
      (definitions.filter (definesFunction name)).map Stmt.start? := by
  induction definitions with
  | nil => rfl
  | cons s rest ih =>
    cases s with
    | functionDef f =>
      change (((f :: functionsAmong rest).filter _).map _).map _ = _
      rw [List.filter_cons, List.filter_cons, definesFunction]
      split
      · rw [List.map_cons, List.map_cons, List.map_cons, ih]
        rfl
      · exact ih
    | _ => exact ih

theorem of_functions {declarations : List Declaration} {name : String}
    (agree : ∀ d ∈ declarations, d.unit.name = d.function.name ∧ d.unit.span = d.function.span)
    (same : declarations.map (·.function) = functionsAmong (definitionsOf block)) :
    Lists block (definesFunction name) ((declarations.map (·.unit)).filter (·.name == name)) := by
  have kept : declarations.filter ((·.name == name) ∘ (·.unit)) =
      declarations.filter ((·.name == name) ∘ (·.function)) :=
    List.filter_congr fun d hd => by simp [(agree d hd).1]
  unfold Lists
  rw [← starts_functionsAmong, ← same, List.filter_map, List.filter_map, kept]
  simp only [List.map_map]
  refine List.map_congr_left fun d hd => ?_
  simp [(agree d (List.mem_filter.1 hd).1).2]

end Lists

/-! ## Modules and classes -/

theorem exists_parse_of_bodyAt? {codecs : Codecs} {tree : Files.Tree} {path : String} {body : List Stmt}
    (read : bodyAt? codecs tree path = some body) : ∃ text, parseModule text = .ok body := by
  unfold bodyAt? at read
  split at read
  · exact ⟨_, eq_ok_of_toOption read⟩
  · cases read

theorem functionsUnder_eq (k : Option Position) (items : List Item) :
    functionsUnder k items =
      ((items.filterMap (·.declaration?)).filter fun d => d.owner.map (·.span.start) = k).map (·.function) := by
  induction items with
  | nil => rfl
  | cons item items ih =>
    cases item with
    | declaration d =>
      change (Item.declaration d :: items).filterMap _ = ((d :: _).filter _).map _
      rw [List.filterMap_cons, List.filter_cons, Item.functionUnder, ← functionsUnder, ih]
      by_cases own : d.owner.map (·.span.start) = k
      · simp [own]
      · simp [own]
    | «class» c => exact ih

theorem ModuleEntry.Reads.unit_of_declaration {codecs : Codecs} {tree : Files.Tree} {assembly : String} {m : ModuleEntry}
    (h : m.Reads codecs tree assembly) {d : Declaration} (hd : d ∈ m.declarations) :
    d.unit.name = d.function.name ∧ d.unit.span = d.function.span := by
  obtain ⟨-, x, made⟩ := h.exists_node (mem_items_of_declaration hd)
  cases made with
  | function _ _ declared =>
    obtain ⟨signature, -, rfl⟩ := bind_pure_eq_ok.1 declared
    exact ⟨rfl, rfl⟩

namespace Index

variable {codecs : Codecs} {tree : Files.Tree} {exclude : List String} {guesses : Bool} {path : String} {w : Index}

/-- The block is one of the text of a module. -/
def HasBlock (w : Index) (codecs : Codecs) (tree : Files.Tree) (block : List Stmt) : Prop :=
  ∃ m ∈ w.modules, ∃ text, bodyAt? codecs tree m.id.path = some text ∧ BlockIn text block

theorem HasBlock.ascending {block : List Stmt} (h : w.HasBlock codecs tree block) : Ascending (startsOf block) := by
  obtain ⟨m, -, body, read, inside⟩ := h
  obtain ⟨text, parsed⟩ := exists_parse_of_bodyAt? read
  exact (parseModule_spec parsed).2.sublist inside.startsOf_sublist

/-- The text of a module defines the class there. -/
def DefinesClass (w : Index) (codecs : Codecs) (tree : Files.Tree) (c : ClassEntry) (definition : Source.Class) : Prop :=
  ∃ m ∈ w.modules, c ∈ m.classes ∧ ∃ text outer, bodyAt? codecs tree m.id.path = some text ∧ BlockIn text outer ∧
    .classDef definition ∈ outer ∧ definition.name = c.name ∧ definition.span = c.span

theorem DefinesClass.hasBlock {c : ClassEntry} {definition : Source.Class} (h : w.DefinesClass codecs tree c definition) :
    w.HasBlock codecs tree definition.body := by
  obtain ⟨m, hm, -, text, outer, read, around, mem, -, -⟩ := h
  exact ⟨m, hm, text, read, around.inner mem (List.mem_singleton.2 rfl)⟩

section Loaded

variable (loaded : load codecs tree exclude guesses path = .ok w) {m : ModuleEntry} (hm : m ∈ w.modules)

include loaded hm

theorem layout_of_load {body : List Stmt} (read : bodyAt? codecs tree m.id.path = some body) :
    Layout body { assembly := w.project.assembly, module := m.id } (startsOf body) (definitionsOf body) m.items := by
  obtain ⟨-, ⟨unread, -⟩ | ⟨body', read', -, -, run⟩⟩ := ModuleEntry.ofFile_cases (ofFile_of_load loaded hm)
  · cases unread.symm.trans read
  · cases read'.symm.trans read
    have ascending : Ascending (startsOf body) := HasBlock.ascending ⟨m, hm, body, read, .whole⟩
    exact layout_itemsOfBlock body run .whole (List.Subset.refl _) ascending.nodup fun q _ same => nomatch same

/-- The functions of a name in a module. -/
theorem lists_functionsNamed {body : List Stmt} (read : bodyAt? codecs tree m.id.path = some body) (name : String) :
    Lists body (definesFunction name) (m.functionsNamed name) := by
  have reads := (indexes_of_load loaded).reads m hm
  refine Lists.of_functions (fun d hd => reads.unit_of_declaration (List.mem_filter.1 hd).1) ?_
  · rw [← (layout_of_load loaded hm read).direct, functionsUnder_eq]
    refine congrArg _ (List.filter_congr fun d _ => ?_)
    cases d.owner <;> simp [Place.ownerStart]

/-- The methods of a name in a class. -/
theorem lists_methodsNamed {c : ClassEntry} (hc : c ∈ m.classes) :
    ∃ definition, w.DefinesClass codecs tree c definition ∧
      ∀ name, Lists definition.body (definesFunction name) (w.methodsNamed c name) := by
  have indexes := indexes_of_load loaded
  have reads := indexes.reads m hm
  have file := ofFile_of_load loaded hm
  cases read : bodyAt? codecs tree m.id.path with
  | none =>
    have mem := ModuleEntry.mem_items_of_class hc
    rw [reads.empty read] at mem
    cases mem
  | some body =>
    have layout := layout_of_load loaded hm read
    obtain ⟨-, outer, definition, around, mem, name, span, functions⟩ :=
      layout.inner c (ModuleEntry.mem_items_of_class hc)
    refine ⟨definition, ⟨m, hm, hc, body, outer, read, around, mem, name, span⟩, fun method => ?_⟩
    have module : w.moduleAt? c.module.path = some m := by
      rw [reads.module_of_class hc]
      exact indexes.moduleAt?_eq hm
    rw [methodsNamed, methods, module]
    refine Lists.of_functions (fun d hd => reads.unit_of_declaration (List.mem_filter.1 hd).1) ?_
    rw [← functions, functionsUnder_eq]
    refine congrArg _ (List.filter_congr fun d hd => ?_)
    -- classes of one module are told apart by where they start
    cases owner : d.owner with
    | none => simp [Declaration.isMethodOf, owner]
    | some k =>
      have hk := ModuleEntry.owner_mem_classes file hd owner
      simp only [Declaration.isMethodOf, owner, Option.any_some, ClassEntry.sameAs, reads.module_of_class hc,
        reads.module_of_class hk, beq_self_eq_true, Bool.true_and, Option.map_some, Option.some.injEq]
      rw [Bool.eq_iff_iff, beq_iff_eq, decide_eq_true_iff]

end Loaded

/-! ## Candidates -/

/-- One block of the workspace defines all the units, and they are in the order in which it does. -/
def DefinedTogether (w : Index) (codecs : Codecs) (tree : Files.Tree) (units : List Callable) : Prop :=
  ∃ block, w.HasBlock codecs tree block ∧ Lists block (startsOneOf units) units

theorem DefinedTogether.sublist {units part : List Callable} (h : w.DefinedTogether codecs tree units)
    (sub : part.Sublist units) : w.DefinedTogether codecs tree part := by
  obtain ⟨block, inside, lists⟩ := h
  exact ⟨block, inside, lists.sublist inside.ascending sub⟩

theorem foremost_sublist (w : Index) (units : List Callable) : (w.foremost units).Sublist units := by
  unfold foremost
  split
  · exact .refl _
  · exact List.filter_sublist

theorem exists_firstMethods_eq {name : String} {classes : List ClassEntry} (found : w.firstMethods name classes ≠ []) :
    ∃ k, w.firstMethods name classes = w.methodsNamed k name := by
  induction classes with
  | nil => exact absurd rfl found
  | cons k rest ih =>
    rw [firstMethods] at found ⊢
    cases own : w.methodsNamed k name with
    | nil =>
      rw [own] at found
      exact ih found
    | cons u us => exact ⟨k, own.symm⟩

/-- Whatever a class is known of, its methods are those of a class of the workspace. -/
theorem exists_class_of_methodsNamed (loaded : load codecs tree exclude guesses path = .ok w) {k : ClassEntry}
    {name : String} (found : w.methodsNamed k name ≠ []) :
    ∃ m ∈ w.modules, ∃ c ∈ m.classes, w.methodsNamed k name = w.methodsNamed c name := by
  obtain ⟨u, mem⟩ := List.exists_mem_of_ne_nil _ found
  have method := (List.mem_filter.1 mem).1
  unfold methods at method
  split at method
  · rename_i m known
    have hm := mem_of_moduleAt? known
    obtain ⟨d, hd, rfl⟩ := List.mem_map.1 method
    obtain ⟨hd, own⟩ := List.mem_filter.1 hd
    obtain ⟨c, owner, same⟩ := (Option.any_eq_true _ _).1 own
    exact ⟨m, hm, c, ModuleEntry.owner_mem_classes (ofFile_of_load loaded hm) hd owner,
      (methodsNamed_of_sameAs same name).symm⟩
  · cases method

/-- What a look-up finds together is defined together. -/
theorem finds_together (loaded : load codecs tree exclude guesses path = .ok w) :
    w.Finds fun found => found ≠ [] → w.DefinedTogether codecs tree found where
  functions m hm name found := by
    cases read : bodyAt? codecs tree m.id.path with
    | none =>
      have empty := ((indexes_of_load loaded).reads m hm).empty read
      simp [ModuleEntry.functionsNamed, ModuleEntry.functions, ModuleEntry.declarations, empty] at found
    | some body =>
      have inside : w.HasBlock codecs tree body := ⟨m, hm, body, read, .whole⟩
      exact ⟨body, inside, (lists_functionsNamed loaded hm read name).sublist inside.ascending (.refl _)⟩
  methods name classes found := by
    obtain ⟨k, first⟩ := exists_firstMethods_eq found
    rw [first] at found ⊢
    obtain ⟨m, hm, c, hc, same⟩ := exists_class_of_methodsNamed loaded found
    obtain ⟨definition, defines, lists⟩ := lists_methodsNamed loaded hm hc
    rw [same]
    exact ⟨definition.body, defines.hasBlock, (lists name).sublist defines.hasBlock.ascending (.refl _)⟩

/-- The candidates are these units in some form. -/
def Offers (r : Resolution) (units : List Callable) : Prop := r.candidates.map (·.underlying.unit?) = units.map some

/-- There are candidates only if there are several units. -/
theorem candidates_of_ofReferents? {form : Callable → Referent} {units : List Callable} {r : Resolution}
    (h : Resolution.ofReferents? (units.map form) = some r) (several : r.candidates ≠ []) :
    1 < units.length ∧ r.candidates = units.map form := by
  match units with
  | [] => cases h
  | [u] =>
    cases h
    exact absurd rfl several
  | u :: v :: rest =>
    cases h
    exact ⟨by simp, rfl⟩

theorem exists_offers {form : Callable → Referent} (isForm : IsForm form) {units : List Callable} {r : Resolution}
    (h : Resolution.ofReferents? ((w.foremost units).map form) = some r) (several : r.candidates ≠ [])
    (together : 1 < units.length → w.DefinedTogether codecs tree units) :
    ∃ offered, Offers r offered ∧ w.DefinedTogether codecs tree offered := by
  obtain ⟨long, candidates⟩ := candidates_of_ofReferents? h several
  have sub := w.foremost_sublist units
  refine ⟨w.foremost units, ?_, (together (long.trans_le sub.length_le)).sublist sub⟩
  rw [Offers, candidates, List.map_map]
  exact List.map_congr_left fun u _ => (isForm u).2

theorem together_constructorsOf (loaded : load codecs tree exclude guesses path = .ok w) (c : ClassEntry)
    (several : 1 < (w.constructorsOf c).length) : w.DefinedTogether codecs tree (w.constructorsOf c) := by
  rcases w.constructorsOf_cases c with none | generated | ⟨name, inherited⟩
  · simp [none] at several
  · simp [generated] at several
  · rw [inherited] at several ⊢
    exact (finds_together loaded).methods name _ (List.ne_nil_of_length_pos (Nat.zero_lt_of_lt several))

/-- **The candidates of a call that is not guessed are defined together.** -/
theorem together_of_resolution? (loaded : load codecs tree exclude guesses path = .ok w) {target : Target} {r : Resolution}
    (ht : target.Holds w fun found => found ≠ [] → w.DefinedTogether codecs tree found)
    (unguessed : ∀ name, target ≠ .guess name) (h : w.resolution? target = some r) (several : r.candidates ≠ []) :
    ∃ units, Offers r units ∧ w.DefinedTogether codecs tree units := by
  have long : ∀ {found : List Callable}, 1 < found.length → found ≠ [] := fun few =>
    List.ne_nil_of_length_pos (Nat.zero_lt_of_lt few)
  cases target with
  | units found => exact exists_offers isForm_declaration h several fun few => ht (long few)
  | bound found receiver => exact exists_offers (isForm_bound receiver) h several fun few => ht (long few)
  | «class» c => exact exists_offers isForm_declaration h several (together_constructorsOf loaded c)
  | external name =>
    cases h
    exact absurd rfl several
  | guess name => exact absurd rfl (unguessed name)
  | _ => cases h

/-- Type arguments leave the units as they are. -/
theorem offers_form {site : CallSite} {form : Resolution → Resolution} (h : site.form = .ok form) {r : Resolution}
    {units : List Callable} : Offers (form r) units ↔ Offers r units := by
  unfold CallSite.form at h
  split at h
  · obtain ⟨text, -, rfl⟩ := bind_pure_eq_ok.1 h
    unfold Offers
    rw [List.map_map]
    simp only [Function.comp_def, underlying_specialized]
  · cases h
    exact Iff.rfl

/-- **Definitions come in the order of the text, unless a `try` statement splits them.** Each block of a text makes its
definitions and imports in this order, except that those in the handlers of a `try` statement come behind those in its
`else` and `finally` blocks. In the same order come the functions of a name in a module and the methods of a name in a
class. The candidates of a call that is not guessed are among the definitions of one such block, so they are in the
order of the text exactly if no `try` statement of the block has some of them in its handlers and others behind these.
-/
theorem definitions_in_source_order (text : List Char) (codecs : Codecs) (tree : Files.Tree) (exclude : List String)
    (guesses : Bool) (path : String) :
    (∀ body, parseModule text = .ok body → ∀ block, BlockIn body block →
      (definitionsOf block).Perm (definitionsInText block) ∧ (definitionsInText block).Pairwise Stmt.Before ∧
        ∀ kind, ((definitionsOf block).filter kind).Pairwise Stmt.Before ↔ UnsplitIn kind block) ∧
    ∀ w, load codecs tree exclude guesses path = .ok w →
      (∀ m ∈ w.modules, ∀ body, bodyAt? codecs tree m.id.path = some body → ∀ name,
        InOrder (m.functionsNamed name) ↔ UnsplitIn (definesFunction name) body) ∧
      (∀ c ∈ w.allClasses, ∃ definition, w.DefinesClass codecs tree c definition ∧ ∀ name,
        InOrder (w.methodsNamed c name) ↔ UnsplitIn (definesFunction name) definition.body) ∧
      ∀ context site, context.module ∈ w.modules → (∀ name, w.expression? context site.callee ≠ some (.guess name)) →
        ∀ r, w.call? context site = .ok (some r) → r.candidates ≠ [] →
        ∃ units block, Offers r units ∧ w.HasBlock codecs tree block ∧ Lists block (startsOneOf units) units ∧
          (InOrder units ↔ UnsplitIn (startsOneOf units) block) := by
  refine ⟨?_, fun w loaded => ⟨?_, ?_, ?_⟩⟩
  · intro body parsed block inside
    have ascending : Ascending (startsOf block) := (parseModule_spec parsed).2.sublist inside.startsOf_sublist
    have inText := pairwise_definitionsInText ascending
    exact ⟨perm_definitionsOf block, inText, fun kind => pairwise_definitionsOf_iff kind block inText⟩
  · intro m hm body read name
    have inside : w.HasBlock codecs tree body := ⟨m, hm, body, read, .whole⟩
    exact (lists_functionsNamed loaded hm read name).inOrder_iff inside.ascending
  · intro c hc
    obtain ⟨m, hm, hc⟩ := List.mem_flatMap.1 hc
    obtain ⟨definition, defines, lists⟩ := lists_methodsNamed loaded hm hc
    exact ⟨definition, defines, fun name => (lists name).inOrder_iff defines.hasBlock.ascending⟩
  · intro context site hm unguessed r called several
    rw [call?_eq] at called
    obtain ⟨form, formed, called⟩ := bind_eq_ok.1 called
    obtain ⟨plain, referred, rfl⟩ := Option.map_eq_some_iff.1 (pure_eq_ok.1 called)
    obtain ⟨target, meant, resolved⟩ := Option.bind_eq_some_iff.1 referred
    have plural : plain.candidates ≠ [] := fun none => by
      have empty : Offers plain [] := by rw [Offers, none]; rfl
      exact several (List.map_eq_nil_iff.1 ((offers_form formed).2 empty))
    have found := holds_expression? (finds_together loaded) hm meant
    obtain ⟨units, offers, block, inside, lists⟩ := together_of_resolution? loaded found
      (fun name same => unguessed name (same ▸ meant)) resolved plural
    exact ⟨units, block, (offers_form formed).2 offers, inside, lists, lists.inOrder_iff inside.ascending⟩

namespace Sample

/-- A call of a function with one definition in the body of a `try` statement and one in a handler. -/
def handled : String := "try:\n    def n(): pass\nexcept E:\n    def n(): pass\ndef f(): n()\n"

/-- A call of a function with one definition in a handler and one in the `else` block. -/
def split : String := "try: pass\nexcept E:\n    def n(): pass\nelse:\n    def n(): pass\ndef f(): n()\n"

/-- A call that is not guessed has candidates that start at these places. -/
def offersAt (w : Index) (places : List Position) : Bool :=
  w.modules.any fun m => m.declarations.any fun d => (callSitesIn (nodesOf d.function.body)).any fun site =>
    !(w.expression? (contextOf m d) site.callee matches some (.guess _)) &&
      (w.call? (contextOf m d) site).toOption.any fun answer => answer.any fun r =>
        (r.candidates.map fun s => s.underlying.unit?.map (·.span.start)) == places.map some

theorem exists_map_some {α β : Type} {f : α → β} {found : List (Option α)} {ys : List β}
    (h : found.map (Option.map f) = ys.map some) : ∃ xs : List α, found = xs.map some ∧ xs.map f = ys := by
  induction found generalizing ys with
  | nil => exact ⟨[], rfl, (List.map_eq_nil_iff.1 h.symm).symm⟩
  | cons x found ih =>
    cases ys with
    | nil => cases h
    | cons y ys =>
      obtain ⟨first, rest⟩ := List.cons.inj h
      obtain ⟨a, rfl, rfl⟩ := Option.map_eq_some_iff.1 first
      obtain ⟨xs, rfl, rfl⟩ := ih rest
      exact ⟨a :: xs, rfl, rfl⟩

theorem exists_call_of_offersAt {w : Index} {places : List Position} (h : offersAt w places = true) :
    ∃ context site r units, context.module ∈ w.modules ∧
      (∀ name, w.expression? context site.callee ≠ some (.guess name)) ∧ w.call? context site = .ok (some r) ∧
        Offers r units ∧ units.map (·.span.start) = places := by
  obtain ⟨m, hm, h⟩ := List.any_eq_true.1 h
  obtain ⟨d, -, h⟩ := List.any_eq_true.1 h
  obtain ⟨site, -, h⟩ := List.any_eq_true.1 h
  obtain ⟨unguessed, h⟩ := Bool.and_eq_true_iff.1 h
  obtain ⟨answer, called, h⟩ := exists_ok_of_any h
  obtain ⟨r, rfl, h⟩ := (Option.any_eq_true _ _).1 h
  have starts : (r.candidates.map (·.underlying.unit?)).map (Option.map (·.span.start)) = places.map some := by
    rw [List.map_map]
    exact eq_of_beq h
  obtain ⟨units, offers, places⟩ := exists_map_some starts
  refine ⟨contextOf m d, site, r, units, hm, fun name guessed => ?_, called, offers, places⟩
  rw [guessed] at unguessed
  cases unguessed

theorem inOrder_iff_of_starts {units : List Callable} {places : List Position}
    (h : units.map (·.span.start) = places) : InOrder units ↔ Ascending places := by
  rw [← h, Ascending, List.pairwise_map]
  rfl

/-- A file is parsed, and the workspace of it is loaded. -/
theorem exists_load_file (text : String) (check : List Stmt → Index → Bool)
    (run : ((parseModule text.toList).toOption.any fun body =>
      (load usualCodecs (treeOf [("a.py", text)]) Files.defaultExcludes false root).toOption.any fun w =>
        check body w) = true) :
    ∃ body w, parseModule text.toList = .ok body ∧
      load usualCodecs (treeOf [("a.py", text)]) Files.defaultExcludes false root = .ok w ∧ check body w = true := by
  obtain ⟨body, parsed, run⟩ := exists_ok_of_any run
  obtain ⟨w, loaded, checked⟩ := exists_ok_of_any run
  exact ⟨body, w, parsed, loaded, checked⟩

end Sample

theorem definitions_in_source_order_handled :
    ∃ body w context site r units block, parseModule Sample.handled.toList = .ok body ∧
      (definitionsOf body).Perm (definitionsInText body) ∧ (definitionsInText body).Pairwise Stmt.Before ∧
      load usualCodecs (Sample.treeOf [("a.py", Sample.handled)]) Files.defaultExcludes false Sample.root = .ok w ∧
      context.module ∈ w.modules ∧ w.call? context site = .ok (some r) ∧ Offers r units ∧
      units.map (·.span.start) = [⟨2, 4⟩, ⟨4, 4⟩] ∧ InOrder units ∧
      w.HasBlock usualCodecs (Sample.treeOf [("a.py", Sample.handled)]) block ∧ UnsplitIn (startsOneOf units) block := by
  obtain ⟨body, w, parsed, loaded, checked⟩ := Sample.exists_load_file Sample.handled
    (fun _ w => Sample.offersAt w [⟨2, 4⟩, ⟨4, 4⟩]) (by decide +kernel)
  obtain ⟨context, site, r, units, hm, unguessed, called, offers, places⟩ := Sample.exists_call_of_offersAt checked
  obtain ⟨blocks, workspaces⟩ := definitions_in_source_order Sample.handled.toList usualCodecs
    (Sample.treeOf [("a.py", Sample.handled)]) Files.defaultExcludes false Sample.root
  obtain ⟨same, inText, -⟩ := blocks body parsed body .whole
  have several : r.candidates ≠ [] := by
    intro none
    rw [Offers, none, List.map_nil, eq_comm, List.map_eq_nil_iff] at offers
    rw [offers] at places
    cases places
  obtain ⟨units', block, offers', inside, -, order⟩ :=
    (workspaces w loaded).2.2 context site hm unguessed r called several
  have only : units' = units := List.map_injective_iff.2 (Option.some_injective _) (offers'.symm.trans offers)
  subst only
  have inOrder : InOrder units' := (Sample.inOrder_iff_of_starts places).2 (by decide)
  exact ⟨body, w, context, site, r, units', block, parsed, same, inText, loaded, hm, called, offers, places, inOrder,
    inside, order.1 inOrder⟩

/-- Neither the definitions of every block nor the candidates of every call are in the order of the text. -/
theorem not_definitions_in_source_order :
    (¬ ∀ text body, parseModule text = .ok body → ∀ block, BlockIn body block →
      (definitionsOf block).Pairwise Stmt.Before) ∧
    ¬ ∀ tree exclude guesses path w, load usualCodecs tree exclude guesses path = .ok w → ∀ context site,
      context.module ∈ w.modules → (∀ name, w.expression? context site.callee ≠ some (.guess name)) →
      ∀ r, w.call? context site = .ok (some r) → ∀ units, Offers r units → InOrder units := by
  obtain ⟨body, w, parsed, loaded, checked⟩ := Sample.exists_load_file Sample.split
    (fun body w => (definitionsOf body).map Stmt.start? == [some ⟨5, 4⟩, some ⟨3, 4⟩, some ⟨6, 0⟩] &&
      Sample.offersAt w [⟨5, 4⟩, ⟨3, 4⟩]) (by decide +kernel)
  obtain ⟨starts, offered⟩ := Bool.and_eq_true_iff.1 checked
  constructor
  · intro all
    have pairs := Stmt.pairwise_before.1 (all _ body parsed body .whole)
    rw [eq_of_beq starts] at pairs
    have ascending : Ascending [⟨5, 4⟩, ⟨3, 4⟩, ⟨6, 0⟩] := pairwise_map_some.1 pairs
    exact absurd ascending (by decide)
  · intro all
    obtain ⟨context, site, r, units, hm, unguessed, called, offers, places⟩ := Sample.exists_call_of_offersAt offered
    have inOrder := all _ _ _ _ w loaded context site hm unguessed r called units offers
    exact absurd ((Sample.inOrder_iff_of_starts places).1 inOrder) (by decide)

end Index

end CallAtlas.Workspace
