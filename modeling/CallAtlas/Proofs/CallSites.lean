import CallAtlas.Proofs.Addresses
import CallAtlas.Proofs.CandidateOrder
import CallAtlas.Proofs.WorkspaceUnits
import Mathlib.Data.List.Pairwise

/-!
# Each call in one unit

The calls of a unit are those at the addresses inside the body of its function, one for each address. No declared
function stands in another one, and no two definitions of a text start at one place; so a unit has one home in its text,
no address is inside of two, and no call belongs to two units (`Index.calls_attributed_once`).
-/

namespace CallAtlas

open Source

namespace Source

/-! ## Where the statements of a walk start -/

/-- Where a definition or import starts. -/
def Node.start? : Node → Option Position
  | .expr _ => none
  | .stmt s => s.start?

/-- Where the definitions and imports in a node start. -/
def Node.starts : Node → List Position
  | .expr _ => []
  | .stmt s => s.starts

theorem startsOf_append (ss ts : List Stmt) : startsOf (ss ++ ts) = startsOf ss ++ startsOf ts := by
  rw [startsOf_eq_flatMap, List.flatMap_append, ← startsOf_eq_flatMap, ← startsOf_eq_flatMap]

theorem startsOf_flatten (blocks : List (List Stmt)) : startsOf blocks.flatten = blocks.flatMap startsOf := by
  induction blocks with
  | nil => rfl
  | cons block blocks ih => rw [List.flatten_cons, startsOf_append, ih, List.flatMap_cons]

theorem Stmt.perm_starts (s : Stmt) : s.starts.Perm (s.start?.toList ++ startsOf s.blocks.flatten) := by
  rw [startsOf_flatten]
  cases s with
  | functionDef f =>
    cases f
    simp [Stmt.starts, Stmt.start?, Stmt.blocks]
  | classDef c =>
    cases c
    simp [Stmt.starts, Stmt.start?, Stmt.blocks]
  | matchBlock subject cases =>
    simp [Stmt.starts, Stmt.start?, Stmt.blocks, startsOfCases_eq_flatMap, List.flatMap_map]
  | tryBlock isStar body handlers otherwise final =>
    -- the handlers come second in the text and last among the blocks
    simp only [Stmt.starts, Stmt.start?, Stmt.blocks, startsOfHandlers_eq_flatMap, List.flatMap_cons, List.flatMap_map,
      Option.toList_none, List.nil_append, List.append_assoc]
    refine .append_left _ ?_
    rw [← List.append_assoc (startsOf otherwise)]
    exact List.perm_append_comm
  | _ => simp [Stmt.starts, Stmt.start?, Stmt.blocks]

theorem filterMap_bagBelow {steps : List (Step × Node)}
    (each : ∀ p ∈ steps, p.2.levels.bag.filterMap Node.start? = p.2.starts) :
    (bagBelow steps).filterMap Node.start? = (steps.flatMap (·.2.starts) : List Position) := by
  induction steps with
  | nil => rfl
  | cons p steps ih =>
    rw [bagBelow_cons, Multiset.filterMap_add, each p List.mem_cons_self,
      ih fun q hq => each q (List.mem_cons_of_mem p hq), List.flatMap_cons, Multiset.coe_add]

theorem flatMap_starts_stepsTo (es : List Expr) (ss : List Stmt) :
    (stepsTo es ss).flatMap (·.2.starts) = startsOf ss := by
  have statements : (ss.zipIdx.map Prod.fst).flatMap Stmt.starts = startsOf ss := by
    rw [List.zipIdx_map_fst, startsOf_eq_flatMap]
  rw [List.flatMap_map] at statements
  rw [stepsTo, List.flatMap_append, List.flatMap_map, List.flatMap_map, ← statements]
  simp [Node.starts]

theorem Node.starts_levels (x : Node) : x.levels.bag.filterMap Node.start? = x.starts := by
  induction x using Node.induction with
  | step x ih =>
    have here : ({x} : Multiset Node).filterMap Node.start? = (x.start?.toList : List Position) := by
      cases same : x.start? <;> simp [← Multiset.cons_zero, same]
    rw [x.bag_levels, Multiset.filterMap_add, filterMap_bagBelow ih, here, Node.steps, flatMap_starts_stepsTo,
      Multiset.coe_add]
    cases x with
    | expr e => rfl
    | stmt s => exact (Multiset.coe_eq_coe.2 s.perm_starts).symm

/-- The definitions and imports that a walk meets start where those of the text do. -/
theorem perm_starts_walk (text : List Stmt) : ((walkModule text).filterMap Node.start?).Perm (startsOf text) := by
  rw [← Multiset.coe_eq_coe, ← Multiset.filterMap_coe]
  change (levelsOfBlock text).bag.filterMap _ = _
  have below := bagBelow_stepsTo [] text
  rw [bagOf_nil, zero_add] at below
  rw [Levels.bag_levelsOfBlock, ← below, filterMap_bagBelow fun p _ => p.2.starts_levels, flatMap_starts_stepsTo]

/-! ## Below an address -/

theorem Node.at?_append (x : Node) (a b : Address) : x.at? (a ++ b) = (x.at? a).bind (·.at? b) := by
  induction a generalizing x with
  | nil => rfl
  | cons s a ih =>
    rw [List.cons_append, Node.at?, Node.at?, Option.bind_assoc]
    exact Option.bind_congr fun y _ => ih y

theorem nodeAt?_append {text : List Stmt} {a : Address} {x : Node} (found : nodeAt? text a = some x) (b : Address) :
    nodeAt? text (a ++ b) = x.at? b := by
  obtain ⟨s, y, c, mem, rfl, found⟩ := nodeAt?_eq_some_iff.1 found
  cases s with
  | part i => simp [stepsTo] at mem
  | statement i =>
    obtain ⟨t, at_i, rfl⟩ : ∃ t, text[i]? = some t ∧ y = .stmt t := by
      simpa [stepsTo, List.mem_zipIdx_iff_getElem?, eq_comm] using mem
    rw [List.cons_append, nodeAt?, at_i, Option.bind_some, Node.at?_append, found, Option.bind_some]

theorem exists_statement_of_nodeAt? {text : List Stmt} {a : Address} {x : Node} (found : nodeAt? text a = some x) :
    ∃ i b, a = .statement i :: b := by
  unfold nodeAt? at found
  split at found
  · exact ⟨_, _, rfl⟩
  · cases found

theorem Stmt.at?_statement (s : Stmt) (i : Nat) (a : Address) :
    (Node.stmt s).at? (.statement i :: a) = nodeAt? s.blocks.flatten (.statement i :: a) := by
  rw [Node.at?, Node.child?, nodeAt?, Option.bind_map]
  rfl

/-! ## Functions in no other function -/

/-- The text defines the function, and not in the body of another function. -/
inductive OutermostIn : List Stmt → Function → Prop where
  | here {text : List Stmt} {f : Function} (mem : .functionDef f ∈ text) : OutermostIn text f
  | inside {text : List Stmt} {s : Stmt} {f : Function} (mem : s ∈ text) (other : ∀ g, s ≠ .functionDef g)
      (below : OutermostIn s.blocks.flatten f) : OutermostIn text f

theorem OutermostIn.mono {text wider : List Stmt} {f : Function} (h : OutermostIn text f) (sub : text ⊆ wider) :
    OutermostIn wider f := by
  cases h with
  | here mem => exact .here (sub mem)
  | inside mem other below => exact .inside (sub mem) other below

/-- No function definition is around the address. -/
def NoneAround (text : List Stmt) (a : Address) : Prop :=
  ∀ b c, a = b ++ c → c ≠ [] → ∀ f, nodeAt? text b ≠ some (.stmt (.functionDef f))

theorem OutermostIn.exists_address {text : List Stmt} {f : Function} (h : OutermostIn text f) :
    ∃ a, nodeAt? text a = some (.stmt (.functionDef f)) ∧ NoneAround text a := by
  induction h with
  | here mem =>
    obtain ⟨i, found⟩ := List.mem_iff_getElem?.1 mem
    refine ⟨[.statement i], by simp [nodeAt?, found, Node.at?], fun b c same more g around => ?_⟩
    obtain ⟨rfl, -⟩ | ⟨-, rfl⟩ := List.append_eq_singleton_iff.1 same.symm
    · cases around
    · exact more rfl
  | @inside text s f mem other below ih =>
    obtain ⟨i, found⟩ := List.mem_iff_getElem?.1 mem
    obtain ⟨a, defined, none⟩ := ih
    obtain ⟨j, rest, rfl⟩ := exists_statement_of_nodeAt? defined
    have step : ∀ a, nodeAt? text (.statement i :: a) = (Node.stmt s).at? a := by simp [nodeAt?, found]
    refine ⟨.statement i :: .statement j :: rest, ?_, fun b c same more g around => ?_⟩
    · rw [step, Stmt.at?_statement, defined]
    · -- what is around is the statement itself or lies in its blocks
      obtain _ | ⟨first, _ | ⟨second, b⟩⟩ := b
      · cases around
      · cases same
        rw [step] at around
        cases around
        exact other g rfl
      · cases same
        rw [step, Stmt.at?_statement] at around
        exact none _ _ rfl more g around

end Source

namespace Workspace

theorem byParts_outermost :
    ByParts fun _ ss items => ∀ d, .declaration d ∈ items → OutermostIn ss d.function where
  nil _ _ d mem := by cases mem
  append h h' d mem := (List.mem_append.1 mem).elim (h d) (h' d)
  mono h sub d mem := (h d mem).mono sub
  function made d mem := by
    cases List.mem_singleton.1 mem
    rw [(Place.declaration_eq_ok made).1]
    exact .here (List.mem_singleton.2 rfl)
  entry h d mem := by
    have below := h d ((List.mem_cons.1 mem).resolve_left nofun)
    exact .inside (List.mem_singleton.2 rfl) nofun (below.mono (by simp [Stmt.blocks]))
  block own other h d mem := .inside (List.mem_singleton.2 rfl) other
    ((h d mem).mono fun t ht => List.mem_flatten.2 ⟨_, own, ht⟩)

/-! ## Definitions by where they start -/

/-- No two definitions of a file start at one place. -/
theorem definitionsApart_of_bodyAt? {codecs : Codecs} {tree : Files.Tree} {path : String} {text : List Stmt}
    (read : bodyAt? codecs tree path = some text) : DefinitionsApart text := by
  obtain ⟨source, parsed⟩ := exists_parse_of_bodyAt? read
  have starts : ((walkModule text).filterMap Node.start?).Nodup :=
    (perm_starts_walk text).nodup_iff.2 (Ascending.nodup (parseModule_spec parsed).2)
  have known : ∀ x p, definitionStart? x = some p → x.start? = some p := by
    intro x p h
    unfold definitionStart? at h
    split at h
    · exact h
    · exact h
    · cases h
  refine List.pairwise_filterMap.2 ((List.pairwise_filterMap.1 starts).imp fun apart p hp q hq => ?_)
  exact apart p (known _ p hp) q (known _ q hq)

theorem address_eq_of_start {text : List Stmt} (apart : DefinitionsApart text) {a b : Address} {x y : Node}
    (hx : nodeAt? text a = some x) (hy : nodeAt? text b = some y) {p : Position} (startX : definitionStart? x = some p)
    (startY : definitionStart? y = some p) : a = b := by
  obtain ⟨ps, nodes, -, leads⟩ := listedBy_nodeAt? text
  have walk : (ps.map (·.2)).Perm (walkModule text) := by
    rw [← Multiset.coe_eq_coe, nodes, ← Levels.bag_levelsOfBlock]
    rfl
  have starts : (ps.filterMap fun q => definitionStart? q.2).Nodup := by
    have all := (walk.filterMap definitionStart?).nodup_iff.2 apart
    rwa [List.filterMap_map] at all
  have pairs := List.pairwise_filterMap.1 starts
  by_contra differ
  have symm : Std.Symm fun q r : Address × Node => ∀ s, definitionStart? q.2 = some s →
      ∀ s', definitionStart? r.2 = some s' → s ≠ s' :=
    ⟨fun q r h s hs s' hs' => (h s' hs' s hs).symm⟩
  exact pairs.forall ((leads a x).2 hx) ((leads b y).2 hy) (fun same => differ (congrArg Prod.fst same)) p startX p
    startY rfl

/-! ## Calls by their address -/

/-- The call that a node is, if it is one. -/
def callSite? : Node → Option CallSite
  | .expr (.call start function _ _) => some { start, function }
  | _ => none

theorem callSitesIn_eq (nodes : List Node) : callSitesIn nodes = nodes.filterMap callSite? := rfl

/-- The call stands at the address. -/
def CallAt (text : List Stmt) (a : Address) (site : CallSite) : Prop :=
  ∃ args keywords, nodeAt? text a = some (.expr (.call site.start site.function args keywords))

theorem callAt_iff {text : List Stmt} {a : Address} {site : CallSite} :
    CallAt text a site ↔ ∃ x, nodeAt? text a = some x ∧ callSite? x = some site := by
  constructor
  · rintro ⟨args, keywords, found⟩
    exact ⟨_, found, rfl⟩
  · rintro ⟨x, found, called⟩
    unfold callSite? at called
    split at called
    · cases called
      exact ⟨_, _, found⟩
    · cases called

theorem CallAt.unique {text : List Stmt} {a : Address} {site site' : CallSite} (h : CallAt text a site)
    (h' : CallAt text a site') : site = site' := by
  obtain ⟨x, found, called⟩ := callAt_iff.1 h
  obtain ⟨y, found', called'⟩ := callAt_iff.1 h'
  cases found.symm.trans found'
  exact Option.some.inj (called.symm.trans called')

/-- The sites are the calls at those addresses that have the property, one for each address. -/
def ListsCalls (text : List Stmt) (P : Address → Prop) (sites : List CallSite) : Prop :=
  ∃ places : List Address, places.Nodup ∧ List.Forall₂ (CallAt text) places sites ∧
    ∀ a, a ∈ places ↔ P a ∧ ∃ site, CallAt text a site

namespace ListsCalls

variable {text : List Stmt} {P Q : Address → Prop} {sites sites' : List CallSite}

theorem perm (h : ListsCalls text P sites) (same : sites.Perm sites') : ListsCalls text P sites' := by
  obtain ⟨places, once, calls, all⟩ := h
  have both : Relation.Comp (List.Forall₂ (CallAt text)) List.Perm places sites' := ⟨sites, calls, same⟩
  rw [List.forall₂_comp_perm_eq_perm_comp_forall₂] at both
  obtain ⟨places', order, calls⟩ := both
  exact ⟨places', order.nodup_iff.1 once, calls, fun a => order.mem_iff.symm.trans (all a)⟩

theorem congr (h : ListsCalls text P sites) (same : ∀ a, P a ↔ Q a) : ListsCalls text Q sites := by
  obtain ⟨places, once, calls, all⟩ := h
  exact ⟨places, once, calls, fun a => (all a).trans (and_congr_left fun _ => same a)⟩

theorem mem (h : ListsCalls text P sites) {a : Address} (property : P a) {site : CallSite} (here : CallAt text a site) :
    site ∈ sites := by
  obtain ⟨places, -, calls, all⟩ := h
  have listed := (all a).2 ⟨property, site, here⟩
  clear all
  induction calls with
  | nil => cases listed
  | cons first _ ih =>
    obtain rfl | listed := List.mem_cons.1 listed
    · rw [first.unique here]
      exact List.mem_cons_self
    · exact List.mem_cons_of_mem _ (ih listed)

end ListsCalls

theorem coe_nodesOf (body : List Stmt) : (nodesOf body : Multiset Node) = bagOfBlock body := by
  induction body with
  | nil => rfl
  | cons s ss ih =>
    rw [nodesOf, List.flatMap_cons, ← Multiset.coe_add, bagOfBlock_cons, ← ih]
    rfl

/-- The calls in a walk through the statements of a body are all the calls in the body. -/
theorem listsCalls_nodesOf (body : List Stmt) : ListsCalls body (fun _ => True) (callSitesIn (nodesOf body)) := by
  obtain ⟨ps, nodes, once, leads⟩ := listedBy_nodeAt? body
  have walk : (callSitesIn (ps.map (·.2))).Perm (callSitesIn (nodesOf body)) := by
    refine List.Perm.filterMap _ ?_
    rw [← Multiset.coe_eq_coe, nodes, coe_nodesOf]
  refine ListsCalls.perm ?_ walk
  rw [callSitesIn_eq, List.filterMap_map]
  -- the nodes that are calls, with their addresses
  refine ⟨(ps.filter fun p => (callSite? p.2).isSome).map (·.1), once.sublist (List.filter_sublist.map _), ?_,
    fun a => ?_⟩
  · have found : ∀ p ∈ ps, nodeAt? body p.1 = some p.2 := fun p hp => (leads p.1 p.2).1 hp
    clear nodes once leads walk
    induction ps with
    | nil => exact .nil
    | cons p ps ih =>
      have rest := ih fun q hq => found q (List.mem_cons_of_mem p hq)
      cases called : callSite? p.2 with
      | none => simpa [List.filter_cons, List.filterMap_cons, called] using rest
      | some site =>
        have here : CallAt body p.1 site := callAt_iff.2 ⟨p.2, found p List.mem_cons_self, called⟩
        simpa [List.filter_cons, List.filterMap_cons, called] using And.intro here rest
  · simp only [List.mem_map, List.mem_filter, true_and, Option.isSome_iff_exists]
    constructor
    · rintro ⟨⟨a, x⟩, ⟨listed, site, called⟩, rfl⟩
      exact ⟨site, callAt_iff.2 ⟨x, (leads a x).1 listed, called⟩⟩
    · rintro ⟨site, here⟩
      obtain ⟨x, found, called⟩ := callAt_iff.1 here
      exact ⟨(a, x), ⟨(leads a x).2 found, site, called⟩, rfl⟩

/-- The address is inside one of the statements of the body at `home`. -/
def InsideOf (home a : Address) : Prop := ∃ i rest, a = home ++ .statement i :: rest

theorem callAt_body_iff {text : List Stmt} {home : Address} {f : Function}
    (defined : nodeAt? text home = some (.stmt (.functionDef f))) {a : Address} {site : CallSite} :
    CallAt f.body a site ↔ InsideOf home (home ++ a) ∧ CallAt text (home ++ a) site := by
  have step : ∀ i rest, nodeAt? text (home ++ .statement i :: rest) = nodeAt? f.body (.statement i :: rest) := by
    intro i rest
    rw [nodeAt?_append defined, Stmt.at?_statement, Stmt.blocks, List.flatten_singleton]
  constructor
  · rintro ⟨args, keywords, found⟩
    obtain ⟨i, rest, rfl⟩ := exists_statement_of_nodeAt? found
    exact ⟨⟨i, rest, rfl⟩, args, keywords, (step i rest).trans found⟩
  · rintro ⟨⟨i, rest, same⟩, args, keywords, found⟩
    cases List.append_cancel_left same
    exact ⟨args, keywords, (step i rest).symm.trans found⟩

/-- The calls in the body of a function are those inside its body in the whole text. -/
theorem ListsCalls.of_body {text : List Stmt} {home : Address} {f : Function} {sites : List CallSite}
    (defined : nodeAt? text home = some (.stmt (.functionDef f))) (h : ListsCalls f.body (fun _ => True) sites) :
    ListsCalls text (InsideOf home) sites := by
  obtain ⟨places, once, calls, all⟩ := h
  refine ⟨places.map (home ++ ·), once.map (List.append_right_injective home), ?_, fun a => ?_⟩
  · rw [List.forall₂_map_left_iff]
    exact calls.imp fun a site here => ((callAt_body_iff defined).1 here).2
  · constructor
    · intro mem
      obtain ⟨b, hb, rfl⟩ := List.mem_map.1 mem
      obtain ⟨-, site, here⟩ := (all b).1 hb
      obtain ⟨inside, here⟩ := (callAt_body_iff defined).1 here
      exact ⟨inside, site, here⟩
    · rintro ⟨⟨i, rest, rfl⟩, site, here⟩
      have inBody := (callAt_body_iff defined).2 ⟨⟨i, rest, rfl⟩, here⟩
      exact List.mem_map.2 ⟨_, (all _).2 ⟨trivial, site, inBody⟩, rfl⟩

/-- By line, then by column. -/
def InSourceOrder (sites : List CallSite) : Prop :=
  sites.Pairwise fun a b => a.start.line < b.start.line ∨ a.start.line = b.start.line ∧ a.start.column ≤ b.start.column

theorem not_before_iff {p q : Position} :
    (!q.before p) = true ↔ p.line < q.line ∨ p.line = q.line ∧ p.column ≤ q.column := by
  rw [Bool.not_eq_true', ← Bool.not_eq_true, Position.before_iff]
  omega

theorem inSourceOrder_sitesIn (d : Declaration) : InSourceOrder (sitesIn d) := by
  refine (List.pairwise_mergeSort ?_ ?_ _).imp not_before_iff.1
  · intro a b c ab bc
    rw [not_before_iff] at ab bc ⊢
    omega
  · intro a b
    rw [Bool.or_eq_true, not_before_iff, not_before_iff]
    omega

theorem listsCalls_sitesIn {text : List Stmt} {home : Address} {d : Declaration}
    (defined : nodeAt? text home = some (.stmt (.functionDef d.function))) :
    ListsCalls text (InsideOf home) (sitesIn d) :=
  .of_body defined ((listsCalls_nodesOf d.function.body).perm (List.mergeSort_perm _ _).symm)

/-! ## Units of a module -/

/-- The function of the unit is defined at the address. -/
def IsHome (text : List Stmt) (u : Callable) (home : Address) : Prop :=
  ∃ f, nodeAt? text home = some (.stmt (.functionDef f)) ∧ f.span = u.span

/-- The address is inside the body of the function of the unit: not in its decorators, defaults or type hints. -/
def InBody (text : List Stmt) (u : Callable) (a : Address) : Prop := ∃ home, IsHome text u home ∧ InsideOf home a

namespace Index

/-- The workspace gives the calls in a file to its units, each of them to the one unit whose body it is in. -/
structure AttributesCalls (w : Index) (path : String) (text : List Stmt) (units : List Callable) : Prop where
  distinct : Callable.Distinct units
  /-- Each unit has its function at one place of the text. -/
  home : ∀ u ∈ units, ∃! home, IsHome text u home
  /-- The calls of a unit are all those in its body and no others, each once, in the order of the source. -/
  sites : ∀ u ∈ units, ∃ sites, w.sitesOf path u = .ok sites ∧ InSourceOrder sites ∧
    ListsCalls text (InBody text u) sites
  /-- No place of the text is in the bodies of two units. -/
  apart : ∀ u ∈ units, ∀ v ∈ units, ∀ a, InBody text u a → InBody text v a → u = v

variable {codecs : Codecs} {tree : Files.Tree} {exclude : List String} {guesses : Bool} {path : String} {w : Index}
  {m : ModuleEntry}

section Loaded

variable (loaded : load codecs tree exclude guesses path = .ok w) (hm : m ∈ w.modules)

include loaded hm

theorem exists_home_of_load {text : List Stmt} (read : bodyAt? codecs tree m.id.path = some text) {d : Declaration}
    (hd : d ∈ m.declarations) :
    ∃ home, nodeAt? text home = some (.stmt (.functionDef d.function)) ∧ NoneAround text home ∧
      IsHome text d.unit home ∧ ∀ other, IsHome text d.unit other → other = home := by
  have reads := (indexes_of_load loaded).reads m hm
  obtain ⟨-, ⟨unread, -⟩ | ⟨text', read', -, -, run⟩⟩ := ModuleEntry.ofFile_cases (ofFile_of_load loaded hm)
  · cases unread.symm.trans read
  · cases read'.symm.trans read
    obtain ⟨home, defined, none⟩ :=
      (byParts_outermost.ofBlock text run d (ModuleEntry.mem_items_of_declaration hd)).exists_address
    have span := (reads.unit_of_declaration hd).2
    refine ⟨home, defined, none, ⟨_, defined, span.symm⟩, ?_⟩
    rintro other ⟨f, defined', span'⟩
    refine address_eq_of_start (definitionsApart_of_bodyAt? read) defined' defined rfl ?_
    rw [definitionStart?, span', span]

theorem declaration_eq_of_start {d e : Declaration} (hd : d ∈ m.declarations) (he : e ∈ m.declarations)
    (start : d.function.span.start = e.function.span.start) : d = e := by
  have starts : (m.items.map Item.start).Nodup :=
    ((indexes_of_load loaded).reads m hm).nodup_starts fun _ read => definitionsApart_of_bodyAt? read
  have same := List.inj_on_of_nodup_map starts (ModuleEntry.mem_items_of_declaration hd)
    (ModuleEntry.mem_items_of_declaration he) start
  exact Item.declaration.inj same

theorem sitesOf_of_load {d : Declaration} (hd : d ∈ m.declarations) :
    w.sitesOf m.id.path d.unit = .ok (sitesIn d) := by
  have indexes := indexes_of_load loaded
  have reads := indexes.reads m hm
  have found : m.declarations.find? (·.unit.sameAs d.unit) = some d := by
    cases search : m.declarations.find? (·.unit.sameAs d.unit) with
    | none =>
      have differs := List.find?_eq_none.1 search d hd
      exact absurd (Callable.sameAs_refl _) differs
    | some e =>
      have met := List.find?_some search
      have identity : e.unit.identity = d.unit.identity := Callable.sameAs_iff.1 met
      have he := List.mem_of_find?_eq_some search
      have start : e.function.span.start = d.function.span.start := by
        rw [← (reads.identity he).2, ← (reads.identity hd).2, identity]
      rw [declaration_eq_of_start loaded hm he hd start]
  have known : w.declaration? m.id.path d.unit = some (m, d) := by
    change (w.moduleAt? m.id.path).bind _ = _
    rw [indexes.moduleAt?_eq hm]
    change (m.declarations.find? (·.unit.sameAs d.unit)).bind _ = _
    rw [found]
    rfl
  rw [sitesOf, known]

/-- No address is inside the bodies of two declarations. -/
theorem declaration_eq_of_inBody {text : List Stmt} (read : bodyAt? codecs tree m.id.path = some text) {d e : Declaration}
    (hd : d ∈ m.declarations) (he : e ∈ m.declarations) {a : Address} (inD : InBody text d.unit a)
    (inE : InBody text e.unit a) : d = e := by
  obtain ⟨home, defined, none, -, only⟩ := exists_home_of_load loaded hm read hd
  obtain ⟨home', defined', none', -, only'⟩ := exists_home_of_load loaded hm read he
  obtain ⟨_, isHome, i, rest, rfl⟩ := inD
  cases only _ isHome
  obtain ⟨_, isHome', j, rest', same⟩ := inE
  cases only' _ isHome'
  -- one home is below the other, but no declared function is around another
  have equal : home = home' := by
    have above : home <+: home ++ .statement i :: rest := List.prefix_append _ _
    have above' : home' <+: home ++ .statement i :: rest := same ▸ List.prefix_append _ _
    rcases List.prefix_or_prefix_of_prefix above above' with ⟨more, extended⟩ | ⟨more, extended⟩
    · by_contra differ
      refine none' home more extended.symm (fun nothing => differ ?_) _ defined
      rw [← extended, nothing, List.append_nil]
    · by_contra differ
      refine none home' more extended.symm (fun nothing => differ ?_) _ defined'
      rw [← extended, nothing, List.append_nil]
  subst equal
  have function : d.function = e.function := by simpa using defined.symm.trans defined'
  exact declaration_eq_of_start loaded hm hd he (by rw [function])

end Loaded

/-- **Every call in the body of a declared function is a call of exactly one unit**: of the one whose function it is in,
at whatever depth, and there once. A unit has no other calls, and has them by line and column. -/
theorem calls_attributed_once (loaded : load codecs tree exclude guesses path = .ok w) (hm : m ∈ w.modules)
    {text : List Stmt} (read : bodyAt? codecs tree m.id.path = some text) :
    ∃ units, w.declaredAt m.id.path = .ok units ∧ w.AttributesCalls m.id.path text units := by
  have indexes := indexes_of_load loaded
  have reads := indexes.reads m hm
  refine ⟨m.declarations.map (·.unit), ?_, ?_, ?_, ?_, ?_⟩
  · have whole : m.fault = none := by
      rw [← Option.isNone_iff_eq_none, ← Option.not_isSome, reads.fault, read]
      rfl
    rw [indexes.declaredAt_eq hm, whole, Option.elim_none]
  · exact reads.distinct fun _ read => (definitionsApart_of_bodyAt? read).startsDiffer
  · intro u hu
    obtain ⟨d, hd, rfl⟩ := List.mem_map.1 hu
    obtain ⟨home, -, -, isHome, only⟩ := exists_home_of_load loaded hm read hd
    exact ⟨home, isHome, only⟩
  · intro u hu
    obtain ⟨d, hd, rfl⟩ := List.mem_map.1 hu
    obtain ⟨home, defined, -, isHome, only⟩ := exists_home_of_load loaded hm read hd
    refine ⟨sitesIn d, sitesOf_of_load loaded hm hd, inSourceOrder_sitesIn d, ?_⟩
    refine (listsCalls_sitesIn defined).congr fun a => ⟨fun inside => ⟨home, isHome, inside⟩, ?_⟩
    rintro ⟨other, isHome', inside⟩
    exact only other isHome' ▸ inside
  · intro u hu v hv a inU inV
    obtain ⟨d, hd, rfl⟩ := List.mem_map.1 hu
    obtain ⟨e, he, rfl⟩ := List.mem_map.1 hv
    rw [declaration_eq_of_inBody loaded hm read hd he inU inV]

namespace Sample

/-- Calls in a decorator and in a default, in a nested function and in a comprehension, and in a method. -/
def nested : String :=
  "@a()\ndef f(x=b()):\n  def g(): c()\n  return [d() for _ in x]\nclass C:\n  def m(self): e()\n"

/-- The address of the call in the nested function. -/
def deep : Address := [.statement 0, .statement 0, .statement 0, .part 0]

/-- Where the call at the address starts, if there is one. -/
def callStart? (text : List Stmt) (a : Address) : Option Position :=
  ((nodeAt? text a).bind callSite?).map (·.start)

theorem exists_callAt_of_callStart? {text : List Stmt} {a : Address} {p : Position} (h : callStart? text a = some p) :
    ∃ site, CallAt text a site ∧ site.start = p := by
  obtain ⟨site, found, start⟩ := Option.map_eq_some_iff.1 h
  obtain ⟨x, found, called⟩ := Option.bind_eq_some_iff.1 found
  exact ⟨site, callAt_iff.2 ⟨x, found, called⟩, start⟩

/-- The span of the function that is defined at the address, if there is one. -/
def functionSpan? (text : List Stmt) (a : Address) : Option Span :=
  match nodeAt? text a with
  | some (.stmt (.functionDef f)) => some f.span
  | _ => none

theorem isHome_of_functionSpan? {text : List Stmt} {a : Address} {u : Callable}
    (h : functionSpan? text a = some u.span) : IsHome text u a := by
  unfold functionSpan? at h
  split at h
  · rename_i f defined
    exact ⟨f, defined, Option.some.inj h⟩
  · cases h

end Sample

/-- The call in a nested function is one of the function around it. -/
theorem calls_attributed_once_nested :
    ∃ w m text units,
      load usualCodecs (Sample.treeOf [("a.py", Sample.nested)]) Files.defaultExcludes false Sample.root = .ok w ∧
      m ∈ w.modules ∧ bodyAt? usualCodecs (Sample.treeOf [("a.py", Sample.nested)]) m.id.path = some text ∧
      w.declaredAt m.id.path = .ok units ∧ units.map (·.name) = ["f", "m"] ∧
      w.AttributesCalls m.id.path text units ∧ ∃ u ∈ units, u.name = "f" ∧ InBody text u Sample.deep ∧
        ∃ sites, w.sitesOf m.id.path u = .ok sites ∧ ∃ site ∈ sites, site.start = ⟨3, 11⟩ := by
  have run : ((load usualCodecs (Sample.treeOf [("a.py", Sample.nested)]) Files.defaultExcludes false
      Sample.root).toOption.any fun w => w.modules.any fun m =>
        (bodyAt? usualCodecs (Sample.treeOf [("a.py", Sample.nested)]) m.id.path).any fun text =>
          (w.declaredAt m.id.path).toOption.any fun units => units.map (·.name) == ["f", "m"] &&
            Sample.callStart? text Sample.deep == some ⟨3, 11⟩ && units.any fun u => u.name == "f" &&
              Sample.functionSpan? text [.statement 0] == some u.span) = true := by
    decide +kernel
  obtain ⟨w, loaded, run⟩ := exists_ok_of_any run
  obtain ⟨m, hm, run⟩ := List.any_eq_true.1 run
  obtain ⟨text, read, run⟩ := (Option.any_eq_true _ _).1 run
  obtain ⟨units, declared, run⟩ := exists_ok_of_any run
  simp only [Bool.and_eq_true, beq_iff_eq, List.any_eq_true] at run
  obtain ⟨⟨names, call⟩, u, hu, name, span⟩ := run
  obtain ⟨units', declared', attributes⟩ := calls_attributed_once loaded hm read
  cases declared.symm.trans declared'
  have inBody : InBody text u Sample.deep :=
    ⟨[.statement 0], Sample.isHome_of_functionSpan? span, 0, [.statement 0, .part 0], rfl⟩
  obtain ⟨site, here, start⟩ := Sample.exists_callAt_of_callStart? call
  obtain ⟨sites, known, -, lists⟩ := attributes.sites u hu
  exact ⟨w, m, text, units, loaded, hm, read, declared, names, attributes, u, hu, name, inBody, sites, known, site,
    lists.mem inBody here, start⟩

end Index

end Workspace

end CallAtlas
