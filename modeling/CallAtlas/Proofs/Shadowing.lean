import CallAtlas.Proofs.CandidateOrder
import CallAtlas.Proofs.Scopes
import CallAtlas.Proofs.Spellings

/-!
# Local names hide those of the module

A call of a name that a declaration binds itself resolves to nothing, whatever the module has under the name. The
context of a declaration takes its local names from a walk through its body: parameters, names that are not only read,
and names of definitions. So the targets of all statements and of `:=` hide names of the module, and so do nested
definitions. The names that a handler or a pattern binds are no nodes of the tree, and a name that is bound in no other
way is looked up in the module as if it were not local. The walk does not stop at nested scopes: an import in one of them
decides for the whole declaration.
-/

namespace CallAtlas.Workspace

open Source

/-! ## The last import of a name -/

namespace Bindings

/-- A name has the target of the last binding that overwrites. -/
theorem lookup_bind_overwrite (bs : Bindings) (pair : String × String) (name : String) :
    (bs.bind true pair.1 pair.2).lookup name = if name = pair.1 then some pair.2 else bs.lookup name := by
  unfold bind
  split
  · rename_i there
    have rows : (bs.map fun b => if b.1 == pair.1 then (pair.1, pair.2) else b) =
        bs.map fun b => (b.1, if b.1 = pair.1 then pair.2 else b.2) := by
      refine List.map_congr_left fun b _ => ?_
      by_cases same : b.1 = pair.1 <;> simp [same]
    rw [if_pos rfl, rows, Hierarchy.lookup_mapRows fun own target => if own = pair.1 then pair.2 else target]
    by_cases same : name = pair.1
    · obtain ⟨b, mem, own⟩ := List.any_eq_true.1 there
      obtain ⟨target, found⟩ := Hierarchy.exists_lookup (List.mem_map_of_mem mem : b.1 ∈ bs.map (·.1))
      rw [same, ← eq_of_beq own, found]
      simp
    · simp [same]
  · rename_i absent
    have none : bs.lookup pair.1 = none := List.lookup_eq_none_iff.2 fun b mem => bne_iff_ne.2 fun same =>
      absent (List.any_eq_true.2 ⟨b, mem, beq_iff_eq.2 same.symm⟩)
    rw [List.lookup_append, List.lookup_cons]
    by_cases same : name = pair.1
    · simp [same, none]
    · simp [same, beq_false_of_ne same]

theorem lookup_bindAll_overwrite (pairs : List (String × String)) (name : String) :
    (bindAll true [] pairs).lookup name = pairs.reverse.lookup name := by
  induction pairs using List.reverseRecOn with
  | nil => rfl
  | append_singleton pairs pair ih =>
    have step : bindAll true [] (pairs ++ [pair]) = (bindAll true [] pairs).bind true pair.1 pair.2 := by
      rw [bindAll, List.foldl_append]
      rfl
    rw [step, lookup_bind_overwrite, ih, List.reverse_append, List.reverse_singleton, List.singleton_append,
      List.lookup_cons]
    by_cases same : name = pair.1
    · simp [same]
    · simp [same, beq_false_of_ne same]

end Bindings

/-! ## What a walk through a declaration meets -/

/-- A walk through the declaration meets the name as that of a parameter or a definition, or as one that is not only
read. -/
def seesLocal (d : Declaration) (name : String) : Bool :=
  (paramNames d.function.params ++ (nodesOf d.function.body).filterMap boundName?).contains name

theorem mem_nodesOf {x : Node} {body : List Stmt} : x ∈ nodesOf body ↔ x ∈ (levelsOfBlock body).flatten := by
  induction body with
  | nil => rfl
  | cons s ss ih =>
    rw [levelsOfBlock, (Levels.flatten_beside _ _).mem_iff, List.mem_append, ← ih]
    exact List.mem_append

theorem boundName?_of_usage {name : String} {usage : Usage} (binds : usage ≠ .load) :
    boundName? (.expr (.name name usage)) = some name := by
  cases usage with
  | load => exact absurd rfl binds
  | store => rfl
  | delete => rfl

theorem boundName?_of_definition {x : Node} {name : String} (h : x.definedName? = some name) :
    boundName? x = some name := by
  unfold Node.definedName? at h
  split at h
  · exact h
  · exact h
  · cases h

/-- In a marked tree the names that a function binds by targets and definitions are met by a walk. -/
theorem seesLocal_of_binds {d : Declaration} {name : String} (marked : (levelsOfBlock d.function.body).Marked)
    (h : d.function.Binds name) : seesLocal d name = true := by
  rw [seesLocal, List.contains_iff_mem, List.mem_append]
  rcases h with ⟨p, hp, rfl⟩ | ⟨x, inScope, bound⟩
  · exact Or.inl (List.mem_map_of_mem hp)
  · right
    by_contra unseen
    have all : (levelsOfBlock d.function.body).All fun y => boundName? y ≠ some name := fun y mem same =>
      unseen (List.mem_filterMap.2 ⟨y, mem_nodesOf.2 mem, same⟩)
    have below := inScope.all all
    rcases List.mem_append.1 bound with bound | bound
    · obtain ⟨⟨name, usage⟩, target, rfl⟩ := List.mem_map.1 bound
      obtain ⟨t, ht, mem⟩ := mem_targetNamesOf.1 target
      have binds := (Node.of_all (inScope.all marked) : x.Marked) t ht _ mem
      have unmet := t.all_targetNames (Node.all_inner below _ (Node.target_mem_inner ht)) _ mem
      exact unmet (boundName?_of_usage binds)
    · have unmet : boundName? x ≠ some name := Node.of_all below
      exact unmet (boundName?_of_definition (Option.mem_toList.1 bound))

namespace Index

variable {codecs : Codecs} {tree : Files.Tree} {exclude : List String} {guesses : Bool} {path : String} {w : Index}
  {m : ModuleEntry} {d : Declaration}

/-- Each declaration is made of a function that a block of the module defines. -/
theorem exists_block_of_declaration (loaded : load codecs tree exclude guesses path = .ok w) (hm : m ∈ w.modules)
    (hd : d ∈ m.declarations) : ∃ block, w.HasBlock codecs tree block ∧ .functionDef d.function ∈ definitionsOf block := by
  have listed : d.function ∈ functionsUnder (d.owner.map (·.span.start)) m.items := by
    rw [functionsUnder_eq]
    exact List.mem_map_of_mem (List.mem_filter.2 ⟨hd, by simp⟩)
  cases read : bodyAt? codecs tree m.id.path with
  | none =>
    have mem := ModuleEntry.mem_items_of_declaration hd
    rw [((indexes_of_load loaded).reads m hm).empty read] at mem
    cases mem
  | some body =>
    have layout := layout_of_load loaded hm read
    cases owner : d.owner with
    | none =>
      rw [owner] at listed
      exact ⟨body, ⟨m, hm, body, read, .whole⟩, mem_of_functionsAmong (layout.direct ▸ listed)⟩
    | some c =>
      have hc := ModuleEntry.owner_mem_classes (ofFile_of_load loaded hm) hd owner
      obtain ⟨-, outer, definition, around, mem, -, -, functions⟩ :=
        layout.inner c (ModuleEntry.mem_items_of_class hc)
      rw [owner] at listed
      exact ⟨definition.body, ⟨m, hm, body, read, around.inner mem (List.mem_singleton.2 rfl)⟩,
        mem_of_functionsAmong (functions ▸ listed)⟩

/-- What the body of a declaration binds says so. -/
theorem marked_of_declaration (loaded : load codecs tree exclude guesses path = .ok w) (hm : m ∈ w.modules)
    (hd : d ∈ m.declarations) : (levelsOfBlock d.function.body).Marked := by
  obtain ⟨block, ⟨m', -, body, read, inside⟩, mem⟩ := exists_block_of_declaration loaded hm hd
  obtain ⟨text, parsed⟩ := exists_parse_of_bodyAt? read
  have whole := inside.all (parseModule_spec parsed).1
  have definition := all_definitionsOf block (Levels.all_levelsOfBlock.1 whole) _ mem
  exact Levels.all_levelsOfBlock.2 (Stmt.all_blocks definition _ (List.mem_singleton.2 rfl))

/-! ## Calls of names -/

/-- A name that is neither the receiver nor imported in the declaration is looked up in the module, unless a walk
through the declaration meets it as a local one. -/
theorem nameIn?_of_unimported (w : Index) {name : String} (other : receiverOf d ≠ some name)
    (unimported : importsItself m d name = false) :
    w.nameIn? (contextOf m d) name = if seesLocal d name then none else w.name? m name := by
  have receiver : ((contextOf m d).receiver == some name) = false := beq_false_of_ne other
  have unbound : (contextOf m d).imports.any (·.1 == name) = false := by
    rw [imports_contextOf, Bindings.any_bindAll]
    exact unimported
  have lookup : (contextOf m d).imports.lookup name = none := by
    refine List.lookup_eq_none_iff.2 fun b mem => bne_iff_ne.2 fun same => ?_
    exact List.any_eq_false.1 unbound b mem (beq_iff_eq.2 same.symm)
  have locals : (contextOf m d).locals.contains name = seesLocal d name := by
    rw [Bool.eq_iff_iff, List.contains_iff_mem, seesLocal, List.contains_iff_mem]
    refine List.mem_filter.trans (and_iff_left ?_)
    exact Bool.and_eq_true_iff.2 ⟨bne_iff_ne.2 other, by rw [Bool.not_eq_true']; exact unbound⟩
  unfold nameIn?
  rw [receiver, lookup, locals]
  rfl

theorem mem_sitesIn_of_inScope {start : Position} {function : Expr} {args : List Expr} {keywords : List Keyword}
    (h : InScope d.function.body (.expr (.call start function args keywords))) : { start, function } ∈ sitesIn d :=
  List.mem_mergeSort.2 (List.mem_filterMap.2 ⟨_, mem_nodesOf.2 h.mem_walk, rfl⟩)

theorem call?_of_unimported (w : Index) {site : CallSite} {name : String} {usage : Usage}
    (called : site.function = .name name usage) (other : receiverOf d ≠ some name)
    (unimported : importsItself m d name = false) : w.call? (contextOf m d) site =
      .ok (if seesLocal d name then none else (w.name? m name).bind w.resolution?) := by
  rw [call?_of_name called, referred?, expression?, nameIn?_of_unimported w other unimported]
  split <;> rfl

/-- The target of the last import inside a declaration that binds the name, in whatever scope it stands. -/
def importedInside? (m : ModuleEntry) (d : Declaration) (name : String) : Option String :=
  ((importsIn (nodesOf d.function.body)).flatMap (importedNames m.id)).reverse.lookup name

/-- An import inside decides for the whole declaration, even if it stands in a nested scope and the declaration binds the
name itself: a call of the name refers to what the last such import names. -/
theorem call?_of_imported (w : Index) {site : CallSite} {name target : String} {usage : Usage}
    (called : site.function = .name name usage) (other : receiverOf d ≠ some name)
    (imported : importedInside? m d name = some target) :
    w.call? (contextOf m d) site = .ok ((w.absolute? target).bind w.resolution?) := by
  have lookup : (contextOf m d).imports.lookup name = some target := by
    rw [imports_contextOf, Bindings.lookup_bindAll_overwrite]
    exact imported
  have receiver : ((contextOf m d).receiver == some name) = false := beq_false_of_ne other
  rw [call?_of_name called, referred?, expression?, nameIn?, receiver, lookup]
  rfl

/-- **Local names hide those of the module, unless only a handler or a pattern binds them**: in a declaration of a
loaded workspace, a call of a name that the declaration binds as a parameter, by a target or by a definition in its own
scope resolves to nothing, if the name is not that of the receiver and no import inside binds it. A walk through the
declaration decides: if it does not meet the name as a local one, the call resolves to what the name means in the
module, although a handler or a pattern may bind it. -/
theorem local_names_shadow (loaded : load codecs tree exclude guesses path = .ok w) (hm : m ∈ w.modules)
    (hd : d ∈ m.declarations) {site : CallSite} {name : String} {usage : Usage}
    (called : site.function = .name name usage) (other : receiverOf d ≠ some name)
    (unimported : importsItself m d name = false) :
    (d.function.Binds name → w.call? (contextOf m d) site = .ok none) ∧
      w.call? (contextOf m d) site =
        .ok (if seesLocal d name then none else (w.name? m name).bind w.resolution?) := by
  have answered := call?_of_unimported w called other unimported
  refine ⟨fun binds => ?_, answered⟩
  rw [answered, seesLocal_of_binds (marked_of_declaration loaded hm hd) binds]
  rfl

namespace Sample

/-- The function `f` calls its loop variable, which has the name of a function of the module. -/
def loopVariable : String := "def n(): pass\ndef f(x):\n    if x:\n        for n in x: n()\n"

/-- The function `f` calls the exception that a handler binds to the name of a function of the module. -/
def handlerName : String := "def n(): pass\ndef f():\n    try: pass\n    except E as n: n()\n"

/-- The function calls the variable of a loop in a branch. -/
def callsLoopVariable (name : String) (f : Function) : Bool :=
  match f.body with
  | [.ifElse _ [.forLoop _ (.name id _) _ [.evaluate (.call _ (.name called _) _ _)] _] _] =>
    id == name && called == name
  | _ => false

theorem binds_of_callsLoopVariable {f : Function} {name : String} (h : callsLoopVariable name f = true) :
    f.Binds name ∧ ∃ start usage args keywords,
      InScope f.body (.expr (.call start (.name name usage) args keywords)) := by
  unfold callsLoopVariable at h
  split at h
  · rename_i test id usage iter start called usage' args keywords otherwise otherwise' body
    obtain ⟨same, same'⟩ := Bool.and_eq_true_iff.1 h
    cases eq_of_beq same
    cases eq_of_beq same'
    have branch := InScope.top (body ▸ List.mem_singleton.2 rfl : _ ∈ f.body)
    have loop := branch.block (.head _) (.head _)
    have call := (loop.block (.head _) (.head _)).part (.head _)
    exact ⟨Or.inr ⟨_, loop, .head _⟩, start, usage', args, keywords, call⟩
  · cases h

/-- The function calls the name that the handler of a `try` statement binds. -/
def callsHandlerName (name : String) (f : Function) : Bool :=
  match f.body with
  | [.tryBlock _ _ [⟨_, some id, [.evaluate (.call _ (.name called _) _ _)]⟩] _ _] => id == name && called == name
  | _ => false

theorem captures_of_callsHandlerName {f : Function} {name : String} (h : callsHandlerName name f = true) :
    f.Captures name ∧ ∃ start usage args keywords,
      InScope f.body (.expr (.call start (.name name usage) args keywords)) := by
  unfold callsHandlerName at h
  split at h
  · rename_i isStar block type id start called usage args keywords otherwise final body
    obtain ⟨same, same'⟩ := Bool.and_eq_true_iff.1 h
    cases eq_of_beq same
    cases eq_of_beq same'
    have handling := InScope.top (body ▸ List.mem_singleton.2 rfl : _ ∈ f.body)
    have call := (handling.block (.tail _ (.tail _ (.tail _ (.head _)))) (.head _)).part (.head _)
    exact ⟨⟨_, handling, .head _⟩, start, usage, args, keywords, call⟩
  · cases h

end Sample

theorem local_names_shadow_loop :
    ∃ w m d site usage, load usualCodecs (Sample.treeOf [("a.py", Sample.loopVariable)]) Files.defaultExcludes false
        Sample.root = .ok w ∧ m ∈ w.modules ∧ d ∈ m.declarations ∧ site ∈ sitesIn d ∧ site.function = .name "n" usage ∧
      d.function.Binds "n" ∧ m.functionsNamed "n" ≠ [] ∧ w.call? (contextOf m d) site = .ok none := by
  have run : ((load usualCodecs (Sample.treeOf [("a.py", Sample.loopVariable)]) Files.defaultExcludes false
      Sample.root).toOption.any fun w => w.modules.any fun m => !(m.functionsNamed "n").isEmpty &&
        m.declarations.any fun d => Sample.callsLoopVariable "n" d.function && receiverOf d != some "n" &&
          !importsItself m d "n") = true := by
    decide +kernel
  obtain ⟨w, loaded, run⟩ := exists_ok_of_any run
  obtain ⟨m, hm, run⟩ := List.any_eq_true.1 run
  obtain ⟨defined, run⟩ := Bool.and_eq_true_iff.1 run
  obtain ⟨d, hd, run⟩ := List.any_eq_true.1 run
  simp only [Bool.and_eq_true, bne_iff_ne, Bool.not_eq_true'] at run
  obtain ⟨⟨loops, other⟩, unimported⟩ := run
  obtain ⟨binds, start, usage, args, keywords, call⟩ := Sample.binds_of_callsLoopVariable loops
  have called : CallSite.function ⟨start, .name "n" usage⟩ = .name "n" usage := rfl
  have resolved := (local_names_shadow loaded hm hd called other unimported).1 binds
  exact ⟨w, m, d, ⟨start, .name "n" usage⟩, usage, loaded, hm, hd, mem_sitesIn_of_inScope call,
    called, binds, by simpa using defined, resolved⟩

/-- A call of a name that a handler binds can resolve to a function of the module. -/
theorem not_local_names_shadow :
    ¬ ∀ tree exclude guesses path w, load usualCodecs tree exclude guesses path = .ok w →
      ∀ m ∈ w.modules, ∀ d ∈ m.declarations, ∀ start name usage args keywords,
      InScope d.function.body (.expr (.call start (.name name usage) args keywords)) → d.function.IsLocal name →
      receiverOf d ≠ some name → importsItself m d name = false →
      w.call? (contextOf m d) ⟨start, .name name usage⟩ = .ok none := by
  intro all
  have run : ((load usualCodecs (Sample.treeOf [("a.py", Sample.handlerName)]) Files.defaultExcludes false
      Sample.root).toOption.any fun w => w.modules.any fun m => m.declarations.any fun d =>
        Sample.callsHandlerName "n" d.function && (nodesOf d.function.body).all (!·.outerNames.contains "n") &&
          receiverOf d != some "n" && !importsItself m d "n" && !seesLocal d "n" &&
            ((w.name? m "n").bind w.resolution?).isSome) = true := by
    decide +kernel
  obtain ⟨w, loaded, run⟩ := exists_ok_of_any run
  obtain ⟨m, hm, run⟩ := List.any_eq_true.1 run
  obtain ⟨d, hd, run⟩ := List.any_eq_true.1 run
  simp only [Bool.and_eq_true, bne_iff_ne, Bool.not_eq_true'] at run
  obtain ⟨⟨⟨⟨⟨handles, own⟩, other⟩, unimported⟩, unseen⟩, found⟩ := run
  obtain ⟨captures, start, usage, args, keywords, call⟩ := Sample.captures_of_callsHandlerName handles
  have isLocal : d.function.IsLocal "n" := by
    refine ⟨Or.inr captures, fun x inScope mem => ?_⟩
    have kept := List.all_eq_true.1 own x (mem_nodesOf.2 inScope.mem_walk)
    rw [List.contains_iff_mem.2 mem] at kept
    cases kept
  have nothing := all _ _ _ _ w loaded m hm d hd start "n" usage args keywords call isLocal other unimported
  rw [call?_of_unimported w rfl other unimported, unseen] at nothing
  have none : (w.name? m "n").bind w.resolution? = none := Except.ok.inj nothing
  rw [none] at found
  cases found

end Index

end CallAtlas.Workspace
