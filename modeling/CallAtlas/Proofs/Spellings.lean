import CallAtlas.Proofs.Guesses
import CallAtlas.Proofs.ImportChains

/-!
# Two spellings of an import

A name `n` of a module `a` can be called as `n` where `from a import n` is said, and as `a.n` where `import a` is said.
The first is found through the import of the name, which counts as one of the imports that may be followed, the second
through the module, from where the count starts anew; and only a plain name can be that of a builtin. Apart from this
both are the meaning that `a` gives to `n`, so they agree as long as the bound on the imports is not met.
-/

namespace CallAtlas.Workspace

open Source

/-! ## What imports bind -/

namespace Bindings

variable {overwrite : Bool} {bs : Bindings} {name target : String}

/-- With several bindings, one after the other. -/
def bindAll (overwrite : Bool) (bs : Bindings) (pairs : List (String × String)) : Bindings :=
  pairs.foldl (fun bs pair => bs.bind overwrite pair.1 pair.2) bs

theorem mem_of_mem_bind {b pair : String × String} (mem : b ∈ bs.bind overwrite pair.1 pair.2) :
    b ∈ bs ∨ b = pair := by
  unfold bind at mem
  split at mem
  · split at mem
    · obtain ⟨old, kept, rfl⟩ := List.mem_map.1 mem
      split
      · exact Or.inr rfl
      · exact Or.inl kept
    · exact Or.inl mem
  · rcases List.mem_append.1 mem with kept | new
    · exact Or.inl kept
    · exact Or.inr (List.mem_singleton.1 new)

/-- A binding adds its own name to those that are bound, and no other. -/
theorem any_bind (overwrite : Bool) (bs : Bindings) (pair : String × String) (name : String) :
    (bs.bind overwrite pair.1 pair.2).any (·.1 == name) = (bs.any (·.1 == name) || pair.1 == name) := by
  unfold bind
  split
  · rename_i there
    have names : bs.any (·.1 == name) = (bs.any (·.1 == name) || pair.1 == name) := by
      by_cases same : pair.1 = name
      · rw [← same, there]
        rfl
      · rw [beq_false_of_ne same, Bool.or_false]
    split
    · rw [List.any_map, ← names]
      refine congrArg (List.any bs) (funext fun b => ?_)
      dsimp only [Function.comp]
      split
      · rename_i replaced
        rw [eq_of_beq replaced]
      · rfl
    · exact names
  · rw [List.any_append]
    simp

theorem mem_of_mem_bindAll {pairs : List (String × String)} {b : String × String}
    (mem : b ∈ bs.bindAll overwrite pairs) : b ∈ bs ∨ b ∈ pairs := by
  induction pairs generalizing bs with
  | nil => exact Or.inl mem
  | cons pair pairs ih =>
    rcases ih mem with earlier | later
    · rcases mem_of_mem_bind earlier with kept | rfl
      · exact Or.inl kept
      · exact Or.inr List.mem_cons_self
    · exact Or.inr (List.mem_cons_of_mem pair later)

theorem any_bindAll (overwrite : Bool) (bs : Bindings) (pairs : List (String × String)) (name : String) :
    (bs.bindAll overwrite pairs).any (·.1 == name) = (bs.any (·.1 == name) || pairs.any (·.1 == name)) := by
  induction pairs generalizing bs with
  | nil => exact (Bool.or_false _).symm
  | cons pair pairs ih =>
    have step : bs.bindAll overwrite (pair :: pairs) = (bs.bind overwrite pair.1 pair.2).bindAll overwrite pairs := rfl
    rw [step, ih, any_bind, List.any_cons, Bool.or_assoc]

/-- Where all bindings of a name have one target, it is bound to that if it is bound at all. -/
theorem lookup_of_only (only : ∀ b ∈ bs, b.1 = name → b.2 = target) :
    bs.lookup name = if bs.any (·.1 == name) then some target else none := by
  induction bs with
  | nil => rfl
  | cons first bs ih =>
    rw [List.lookup_cons, List.any_cons, ih fun b mem => only b (List.mem_cons_of_mem first mem), BEq.comm]
    cases same : first.1 == name with
    | true => simp [only first List.mem_cons_self (eq_of_beq same)]
    | false => rfl

end Bindings

/-- What an import statement of the module binds: names with their targets. -/
def importedNames (m : ModuleId) : Import → List (String × String)
  | .modules names => names.map fun a =>
    match a.boundAs with
    | some name => (name, a.name)
    | none => (Text.dottedHead a.name, Text.dottedHead a.name)
  | .members module names level => (names.filter (·.name != "*")).map fun a =>
    let base := m.importBase module level
    (a.boundAs.getD a.name, if base == "" then a.name else base ++ "." ++ a.name)

theorem bindings_add (m : ModuleId) (overwrite : Bool) (t : ImportTable) (i : Import) :
    (t.add m overwrite i).bindings = t.bindings.bindAll overwrite (importedNames m i) := by
  cases i with
  | modules names =>
    unfold ImportTable.add importedNames Bindings.bindAll
    dsimp only
    induction names generalizing t with
    | nil => rfl
    | cons a names ih =>
      rw [List.foldl_cons, List.map_cons, List.foldl_cons, ih]
      unfold ImportTable.addModule
      cases a.boundAs <;> rfl
  | members module names level =>
    unfold ImportTable.add importedNames Bindings.bindAll
    dsimp only
    induction names generalizing t with
    | nil => rfl
    | cons a names ih =>
      rw [List.foldl_cons, ih]
      unfold ImportTable.addMember
      by_cases all : a.name = "*"
      · simp [all]
      · simp [all]

theorem bindings_foldl_add (m : ModuleId) (overwrite : Bool) (imports : List Import) (t : ImportTable) :
    (imports.foldl (ImportTable.add m overwrite) t).bindings =
      t.bindings.bindAll overwrite (imports.flatMap (importedNames m)) := by
  induction imports generalizing t with
  | nil => rfl
  | cons i imports ih =>
    rw [List.foldl_cons, ih, bindings_add, List.flatMap_cons]
    unfold Bindings.bindAll
    rw [List.foldl_append]

/-- The import statements that the import table of a module is made of: its own, and then all inside. -/
def importsOf (body : List Stmt) : List Import :=
  (definitionsOf body).filterMap importOf? ++ importsIn (walkModule body)

theorem lookup_importTable {id : ModuleId} {body : List Stmt} {name target : String}
    (only : ∀ pair ∈ (importsOf body).flatMap (importedNames id), pair.1 = name → pair.2 = target) :
    (importTable id body).bindings.lookup name =
      if ((importsOf body).flatMap (importedNames id)).any (·.1 == name) then some target else none := by
  have table : (importTable id body).bindings = Bindings.bindAll false
      (Bindings.bindAll true [] (((definitionsOf body).filterMap importOf?).flatMap (importedNames id)))
        ((importsIn (walkModule body)).flatMap (importedNames id)) := by
    unfold importTable
    rw [bindings_foldl_add, bindings_foldl_add]
  rw [table, Bindings.lookup_of_only, Bindings.any_bindAll, Bindings.any_bindAll, importsOf, List.flatMap_append,
    List.any_append, List.any_nil, Bool.false_or]
  intro b mem
  refine only b ?_
  rw [importsOf, List.flatMap_append, List.mem_append]
  rcases Bindings.mem_of_mem_bindAll mem with own | inside
  · rcases Bindings.mem_of_mem_bindAll own with none | own
    · cases none
    · exact Or.inl own
  · exact Or.inr inside

namespace ModuleEntry

variable {codecs : Codecs} {tree : Files.Tree} {assembly : String} {id : ModuleId} {m : ModuleEntry} {body : List Stmt}

theorem imports_of_ofFile (h : ofFile codecs tree assembly id = .ok m) (read : bodyAt? codecs tree id.path = some body) :
    m.imports = importTable id body := by
  obtain ⟨-, ⟨unread, -⟩ | ⟨other, whole, -, imports, -⟩⟩ := ofFile_cases h
  · cases unread.symm.trans read
  · cases whole.symm.trans read
    exact imports

end ModuleEntry

/-! ## Names that only imports bind -/

/-- The import statements that a declaration of the module sees: those of the module and those inside itself. -/
def importsSeen (body : List Stmt) (d : Declaration) : List Import :=
  importsOf body ++ importsIn (nodesOf d.function.body)

/-- In the declaration `d` of the module `m` the name is bound by imports only, and only to the target: the module does
not define it, and the declaration has no parameter or local name of that name. -/
structure OnlyImported (m : ModuleEntry) (body : List Stmt) (d : Declaration) (name target : String) : Prop where
  undefined : Index.defined? m name = none
  imports : ∀ pair ∈ (importsSeen body d).flatMap (importedNames m.id), pair.1 = name → pair.2 = target
  notLocal : name ∉ paramNames d.function.params ++ (nodesOf d.function.body).filterMap boundName?

/-- An import inside the declaration itself binds the name. -/
def importsItself (m : ModuleEntry) (d : Declaration) (name : String) : Bool :=
  ((importsIn (nodesOf d.function.body)).flatMap (importedNames m.id)).any (·.1 == name)

theorem imports_contextOf (m : ModuleEntry) (d : Declaration) : (contextOf m d).imports =
    Bindings.bindAll true [] ((importsIn (nodesOf d.function.body)).flatMap (importedNames m.id)) :=
  bindings_foldl_add m.id true _ {}

namespace OnlyImported

variable {w : Index} {m : ModuleEntry} {body : List Stmt} {d : Declaration} {name target : String}

theorem lookup_context (h : OnlyImported m body d name target) :
    (contextOf m d).imports.lookup name = if importsItself m d name then some target else none := by
  rw [imports_contextOf, Bindings.lookup_of_only, Bindings.any_bindAll, List.any_nil, Bool.false_or, importsItself]
  intro b mem
  refine h.imports b ?_
  rw [importsSeen, List.flatMap_append, List.mem_append]
  rcases Bindings.mem_of_mem_bindAll mem with none | inside
  · cases none
  · exact Or.inr inside

theorem receiver_ne (h : OnlyImported m body d name target) : ((contextOf m d).receiver == some name) = false := by
  refine beq_false_of_ne fun receiver => h.notLocal (List.mem_append_left _ ?_)
  have first : receiverOf d = some name := receiver
  unfold receiverOf at first
  split at first
  · obtain ⟨param, head, rfl⟩ := Option.map_eq_some_iff.1 first
    have mem := List.mem_of_head? head
    unfold paramNames
    refine List.mem_map.2 ⟨param, ?_, rfl⟩
    simp only [List.append_assoc]
    rcases List.mem_append.1 mem with mem | mem
    · exact List.mem_append_left _ mem
    · exact List.mem_append_right _ (List.mem_append_left _ mem)
  · cases first

/-- Such a name is looked up through its import in the declaration, if there is one, or else in the module. -/
theorem nameIn?_eq (h : OnlyImported m body d name target) :
    w.nameIn? (contextOf m d) name =
      if importsItself m d name then w.absolute? target else w.name? m name := by
  have free : (contextOf m d).locals.contains name = false := by
    rw [← Bool.not_eq_true, List.contains_iff_mem]
    intro mem
    exact h.notLocal (List.mem_filter.1 mem).1
  unfold Index.nameIn?
  rw [h.receiver_ne, h.lookup_context, free]
  cases importsItself m d name <;> rfl

/-- In the module it comes from an import if one is said there. -/
theorem origin_eq (h : OnlyImported m body d name target) (table : m.imports = importTable m.id body)
    (said : ((importsSeen body d).flatMap (importedNames m.id)).any (·.1 == name) = true)
    (outside : importsItself m d name = false) : w.origin m name = .bound target := by
  refine Index.origin_eq_iff.2 ⟨h.undefined, ?_⟩
  have only : ∀ pair ∈ (importsOf body).flatMap (importedNames m.id), pair.1 = name → pair.2 = target := by
    intro pair mem
    refine h.imports pair ?_
    rw [importsSeen, List.flatMap_append]
    exact List.mem_append_left _ mem
  unfold importsItself at outside
  rw [importsSeen, List.flatMap_append, List.any_append, outside, Bool.or_false] at said
  rw [table, lookup_importTable only, said]
  rfl

end OnlyImported

/-! ## Imports of a module and of a name -/

/-- `from base import name`. -/
def isMemberImport (base name : String) : Import → Bool
  | .members (some module) names 0 => module == base && names.contains { name, boundAs := none }
  | _ => false

/-- `import name`. -/
def isModuleImport (name : String) : Import → Bool
  | .modules names => names.contains { name, boundAs := none }
  | _ => false

/-- The declaration `d` of a module of the workspace sees an import of the kind, and the name is not bound in another
way than to its target. -/
structure SeesImport (codecs : Codecs) (tree : Files.Tree) (w : Index) (kind : Import → Bool) (name target : String)
    (m : ModuleEntry) (body : List Stmt) (d : Declaration) : Prop extends OnlyImported m body d name target where
  module : m ∈ w.modules
  read : bodyAt? codecs tree m.id.path = some body
  declared : d ∈ m.declarations
  said : (importsSeen body d).any kind = true

/-- `from a import n` is said, and `n` is not bound in another way. -/
def ImportsMember (codecs : Codecs) (tree : Files.Tree) (w : Index) (a n : String) :
    ModuleEntry → List Stmt → Declaration → Prop :=
  SeesImport codecs tree w (isMemberImport a n) n (a ++ "." ++ n)

/-- `import a` is said, and `a` is not bound in another way. -/
def ImportsModule (codecs : Codecs) (tree : Files.Tree) (w : Index) (a : String) :
    ModuleEntry → List Stmt → Declaration → Prop :=
  SeesImport codecs tree w (isModuleImport a) a a

theorem any_importedNames (id : ModuleId) {imports : List Import} {kind : Import → Bool} {name : String}
    (binds : ∀ i, kind i = true → ∃ pair ∈ importedNames id i, pair.1 = name) (said : imports.any kind = true) :
    (imports.flatMap (importedNames id)).any (·.1 == name) = true := by
  obtain ⟨i, mem, isKind⟩ := List.any_eq_true.1 said
  obtain ⟨pair, bound, same⟩ := binds i isKind
  exact List.any_eq_true.2 ⟨pair, List.mem_flatMap.2 ⟨i, mem, bound⟩, beq_iff_eq.2 same⟩

theorem exists_of_isMemberImport {id : ModuleId} {a n : String} (plain : Index.IsPlainName n) {i : Import}
    (isKind : isMemberImport a n i = true) : ∃ pair ∈ importedNames id i, pair.1 = n := by
  unfold isMemberImport at isKind
  split at isKind
  · rename_i module names
    obtain ⟨-, mem⟩ := Bool.and_eq_true_iff.1 isKind
    have kept : { name := n, boundAs := none } ∈ names.filter (·.name != "*") := by
      refine List.mem_filter.2 ⟨List.contains_iff_mem.1 mem, ?_⟩
      simpa using plain.noStar
    exact ⟨_, List.mem_map.2 ⟨_, kept, rfl⟩, rfl⟩
  · cases isKind

theorem exists_of_isModuleImport {id : ModuleId} {a : String} (plain : Index.IsPlainName a) {i : Import}
    (isKind : isModuleImport a i = true) : ∃ pair ∈ importedNames id i, pair.1 = a := by
  unfold isModuleImport at isKind
  split at isKind
  · rename_i names
    have head : Text.dottedHead a = a := Text.dottedHead_of_not_mem plain.noPoint
    exact ⟨_, List.mem_map.2 ⟨_, List.contains_iff_mem.1 isKind, rfl⟩, head⟩
  · cases isKind

/-! ## The two spellings -/

section Calls

open Index

variable {codecs : Codecs} {tree : Files.Tree} {exclude : List String} {guesses : Bool} {path : String} {w : Index}
variable {a n : String} {entry m : ModuleEntry} {body : List Stmt} {d : Declaration}

theorem Index.imports_of_load (loaded : load codecs tree exclude guesses path = .ok w) (hm : m ∈ w.modules)
    (read : bodyAt? codecs tree m.id.path = some body) : m.imports = importTable m.id body :=
  ModuleEntry.imports_of_ofFile (ofFile_of_load loaded hm) read

/-- The meaning, or that of the builtin name if there is none. -/
def orBuiltin (meaning : Option Target) (name : String) : Option Target :=
  match meaning with
  | some target => some target
  | none => if builtinNames.contains name then some (.external ("builtins." ++ name)) else none

theorem orBuiltin_of_ne {meaning : Option Target} {name : String} (h : name ∉ builtinNames ∨ meaning ≠ none) :
    orBuiltin meaning name = meaning := by
  cases meaning with
  | some target => rfl
  | none =>
    have other : name ∉ builtinNames := h.resolve_right fun some => some rfl
    exact if_neg fun mem => other (List.contains_iff_mem.1 mem)

/-- What a name that only imports bind means: the target of its import, with one import less to follow if the import
stands in the module, or else the builtin. -/
theorem SeesImport.expression?_eq {kind : Import → Bool} {name target : String}
    (h : SeesImport codecs tree w kind name target m body d) (loaded : load codecs tree exclude guesses path = .ok w)
    (binds : ∀ i, kind i = true → ∃ pair ∈ importedNames m.id i, pair.1 = name) (usage : Usage) :
    w.expression? (contextOf m d) (.name name usage) =
      if importsItself m d name then w.dotted? (w.member? maxImportDepth) target
      else orBuiltin (w.dotted? (w.member? (maxImportDepth - 1)) target) name := by
  rw [expression?, h.nameIn?_eq]
  cases outside : importsItself m d name with
  | true => rfl
  | false =>
    have table := imports_of_load loaded h.module h.read
    have said := any_importedNames m.id binds h.said
    have member : w.member? maxImportDepth m name = w.dotted? (w.member? (maxImportDepth - 1)) target :=
      (member?_of_bound (h.origin_eq table said outside)).2 (maxImportDepth - 1)
    rw [← member]
    rfl

/-- What the plain name means: what the module gives to it with one import of the bound used up, or the builtin; where
the import stands in the declaration itself, what the module gives to it. -/
theorem ImportsMember.expression?_eq (h : ImportsMember codecs tree w a n m body d)
    (loaded : load codecs tree exclude guesses path = .ok w) (plain' : IsPlainName n)
    (named : w.module? a = some entry) (inView : w.Unhidden entry n) (usage : Usage) :
    w.expression? (contextOf m d) (.name n usage) =
      if importsItself m d n then w.member? maxImportDepth entry n
      else orBuiltin (w.member? (maxImportDepth - 1) entry n) n := by
  have meant := SeesImport.expression?_eq h loaded (fun _ => exists_of_isMemberImport plain') usage
  rw [dotted?_of_unhidden named plain'.noPoint inView, dotted?_of_unhidden named plain'.noPoint inView] at meant
  exact meant

/-- What the name of the module means: the module. -/
theorem ImportsModule.expression?_eq (h : ImportsModule codecs tree w a m body d)
    (loaded : load codecs tree exclude guesses path = .ok w) (plain : IsPlainName a) (named : w.module? a = some entry)
    (usage : Usage) : w.expression? (contextOf m d) (.name a usage) = some (.module entry) := by
  have meant := SeesImport.expression?_eq h loaded (fun _ => exists_of_isModuleImport plain) usage
  rw [dotted?_of_module named plain.nonempty, dotted?_of_module named plain.nonempty] at meant
  rw [meant]
  exact ite_self _

/-- The name after that of the module means what the module gives to it. -/
theorem ImportsModule.attribute_eq (h : ImportsModule codecs tree w a m body d)
    (loaded : load codecs tree exclude guesses path = .ok w) (plain : IsPlainName a) (named : w.module? a = some entry)
    (usage : Usage) (n : String) :
    w.expression? (contextOf m d) (.attribute (.name a usage) n) = w.member? maxImportDepth entry n := by
  have receiver : (if isSuperCall (.name a usage) then (contextOf m d).owner else none) = none := rfl
  rw [expression?, receiver]
  dsimp only
  rw [h.expression?_eq loaded plain named usage]
  rfl

theorem Index.call?_of_name {context : Context} {site : CallSite} {name : String} {usage : Usage}
    (called : site.function = .name name usage) :
    w.call? context site = .ok (w.referred? context (.name name usage)) := by
  rw [call?, called]
  rfl

/-- Two calls of a name in the workspace: one of `n` where `from a import n` is said, and one of `a.n` where `import a`
is said. -/
structure SpelledBothWays (codecs : Codecs) (tree : Files.Tree) (w : Index) (a n : String) (m m' : ModuleEntry)
    (d d' : Declaration) (site site' : CallSite) : Prop where
  member : ∃ body, ImportsMember codecs tree w a n m body d
  inside : site ∈ sitesIn d
  called : ∃ usage, site.function = .name n usage
  module : ∃ body, ImportsModule codecs tree w a m' body d'
  inside' : site' ∈ sitesIn d'
  called' : ∃ usage, site'.function = .attribute (.name a usage) n

/-- **The two spellings of an import agree short of the bound on imports**: where `from a import n` is said, a call of
`n` refers to what `a` gives to `n` with one import less to follow, or to the builtin; where `import a` is said, a call
of `a.n` refers to what `a` gives to `n`. Both refer to the same, or both to nothing, if the imports that follow one
another from `n` in `a` are fewer than the bound and `n` is not a builtin name that `a` lacks; and in any case if the
first import stands in the calling declaration itself. -/
theorem import_spellings_agree {m' : ModuleEntry} {d' : Declaration} {site site' : CallSite}
    (loaded : load codecs tree exclude guesses path = .ok w) (plain : IsPlainName a) (plain' : IsPlainName n)
    (named : w.module? a = some entry) (inView : w.Unhidden entry n)
    (spelled : SpelledBothWays codecs tree w a n m m' d d' site site') :
    ∃ direct through, w.call? (contextOf m d) site = .ok direct ∧ w.call? (contextOf m' d') site' = .ok through ∧
      direct = (if importsItself m d n then w.member? maxImportDepth entry n
        else orBuiltin (w.member? (maxImportDepth - 1) entry n) n).bind w.resolution? ∧
      through = (w.member? maxImportDepth entry n).bind w.resolution? ∧
      (importsItself m d n = true → direct = through) ∧
      (¬ w.ImportChain maxImportDepth entry n → n ∉ builtinNames ∨ w.member? maxImportDepth entry n ≠ none →
        direct = through) := by
  obtain ⟨⟨_, member⟩, -, ⟨usage, called⟩, ⟨_, module⟩, -, ⟨usage', called'⟩⟩ := spelled
  have direct := member.expression?_eq loaded plain' named inView usage
  have through := module.attribute_eq loaded plain named usage' n
  refine ⟨_, _, call?_of_name called, call?_of_attribute called', ?_, ?_, ?_, ?_⟩
  · rw [referred?, direct]
  · rw [referred?, through]
  · intro itself
    rw [referred?, referred?, direct, through, if_pos itself]
  · intro ends known
    have bound : w.member? maxImportDepth entry n = w.member? (maxImportDepth - 1) entry n :=
      member?_succ_of_not_importChain ends
    rw [referred?, referred?, direct, through, ← bound, orBuiltin_of_ne known, ite_self]

/-- A module of the dotted name `a.n` hides what `a` gives to `n` from the first spelling: a call of `n` refers to
nothing then, while a call of `a.n` refers to what `a` gives to `n`, such as a function that `a` defines. -/
theorem SpelledBothWays.of_hidden {sub m' : ModuleEntry} {d' : Declaration} {site site' : CallSite}
    (spelled : SpelledBothWays codecs tree w a n m m' d d' site site')
    (loaded : load codecs tree exclude guesses path = .ok w) (plain : IsPlainName a) (plain' : IsPlainName n)
    (named : w.module? a = some entry) (hidden : w.module? (a ++ "." ++ n) = some sub) :
    w.call? (contextOf m d) site = .ok none ∧
      w.call? (contextOf m' d') site' = .ok ((w.member? maxImportDepth entry n).bind w.resolution?) := by
  obtain ⟨⟨_, member⟩, -, ⟨usage, called⟩, ⟨_, module⟩, -, ⟨usage', called'⟩⟩ := spelled
  have meant := SeesImport.expression?_eq member loaded (fun _ => exists_of_isMemberImport plain') usage
  rw [dotted?_of_module hidden (by simp), dotted?_of_module hidden (by simp), orBuiltin, ite_self] at meant
  constructor
  · rw [call?_of_name called, referred?, meant]
    rfl
  · rw [call?_of_attribute called', referred?, module.attribute_eq loaded plain named usage' n]

/-! ## A workspace that meets the bound -/

instance (name target : String) : Decidable (OnlyImported m body d name target) :=
  decidable_of_iff ((defined? m name).isNone = true ∧
      (∀ pair ∈ (importsSeen body d).flatMap (importedNames m.id), pair.1 = name → pair.2 = target) ∧
      name ∉ paramNames d.function.params ++ (nodesOf d.function.body).filterMap boundName?)
    ⟨fun h => ⟨Option.isNone_iff_eq_none.1 h.1, h.2.1, h.2.2⟩,
      fun h => ⟨Option.isNone_iff_eq_none.2 h.undefined, h.imports, h.notLocal⟩⟩

namespace Index.Sample

/-- A call, with where it stands. -/
structure PlacedCall where
  module : ModuleEntry
  body : List Stmt
  declaration : Declaration
  site : CallSite

/-- What the call refers to. -/
def PlacedCall.resolution? (w : Index) (call : PlacedCall) : Except RenderFault (Option Resolution) :=
  w.call? (contextOf call.module call.declaration) call.site

/-- The calls of a form in declarations that see an import. -/
def callsSeeing (codecs : Codecs) (tree : Files.Tree) (w : Index) (kind : Import → Bool) (name target : String)
    (form : Expr → Bool) : List PlacedCall :=
  w.modules.flatMap fun m => (bodyAt? codecs tree m.id.path).toList.flatMap fun body => m.declarations.flatMap fun d =>
    if decide (OnlyImported m body d name target) && (importsSeen body d).any kind then
      ((callSitesIn (nodesOf d.function.body)).filter fun site => form site.function).map fun site => ⟨m, body, d, site⟩
    else []

theorem seesImport_of_mem {kind : Import → Bool} {name target : String} {form : Expr → Bool} {call : PlacedCall}
    (mem : call ∈ callsSeeing codecs tree w kind name target form) :
    SeesImport codecs tree w kind name target call.module call.body call.declaration ∧
      call.site ∈ sitesIn call.declaration ∧ form call.site.function = true := by
  obtain ⟨m, module, mem⟩ := List.mem_flatMap.1 mem
  obtain ⟨body, read, mem⟩ := List.mem_flatMap.1 mem
  obtain ⟨d, declared, mem⟩ := List.mem_flatMap.1 mem
  split at mem
  · rename_i seen
    obtain ⟨only, said⟩ := Bool.and_eq_true_iff.1 seen
    obtain ⟨site, kept, rfl⟩ := List.mem_map.1 mem
    obtain ⟨inside, formed⟩ := List.mem_filter.1 kept
    refine ⟨⟨of_decide_eq_true only, module, Option.mem_toList.1 read, declared, said⟩, ?_, formed⟩
    exact List.mem_mergeSort.2 inside
  · cases mem

/-- The plain name. -/
def isName (n : String) : Expr → Bool
  | .name name _ => name == n
  | _ => false

/-- The name after that of the module. -/
def isNameOf (a n : String) : Expr → Bool
  | .attribute (.name module _) name => module == a && name == n
  | _ => false

theorem isName_iff {e : Expr} : isName n e = true ↔ ∃ usage, e = .name n usage := by
  constructor
  · intro h
    unfold isName at h
    split at h
    · rw [eq_of_beq h]
      exact ⟨_, rfl⟩
    · cases h
  · rintro ⟨usage, rfl⟩
    exact beq_self_eq_true n

theorem isNameOf_iff {e : Expr} : isNameOf a n e = true ↔ ∃ usage, e = .attribute (.name a usage) n := by
  constructor
  · intro h
    unfold isNameOf at h
    split at h
    · obtain ⟨module, name⟩ := Bool.and_eq_true_iff.1 h
      rw [eq_of_beq module, eq_of_beq name]
      exact ⟨_, rfl⟩
    · cases h
  · rintro ⟨usage, rfl⟩
    exact Bool.and_eq_true_iff.2 ⟨beq_self_eq_true a, beq_self_eq_true n⟩

/-- The pairs of calls of a name that are spelled both ways. -/
def spellings (codecs : Codecs) (tree : Files.Tree) (w : Index) (a n : String) : List (PlacedCall × PlacedCall) :=
  (callsSeeing codecs tree w (isMemberImport a n) n (a ++ "." ++ n) (isName n)).flatMap fun call =>
    (callsSeeing codecs tree w (isModuleImport a) a a (isNameOf a n)).map fun call' => (call, call')

theorem spelledBothWays_of_mem {pair : PlacedCall × PlacedCall} (mem : pair ∈ spellings codecs tree w a n) :
    SpelledBothWays codecs tree w a n pair.1.module pair.2.module pair.1.declaration pair.2.declaration pair.1.site
      pair.2.site := by
  obtain ⟨call, direct, mem⟩ := List.mem_flatMap.1 mem
  obtain ⟨call', through, rfl⟩ := List.mem_map.1 mem
  obtain ⟨member, inside, called⟩ := seesImport_of_mem direct
  obtain ⟨module, inside', called'⟩ := seesImport_of_mem through
  exact ⟨⟨_, member⟩, inside, isName_iff.1 called, ⟨_, module⟩, inside', isNameOf_iff.1 called'⟩

/-- A workspace is loaded if its modules are read, and it has what a computation on these finds. -/
theorem exists_load {files : List String} (check : Index → Bool) (whole : tree.absolute root = root)
    (found : tree.sources Files.defaultExcludes root = files) (there : tree.exists? root = true) (some : files ≠ [])
    (checked : ((files.mapM (moduleOf usualCodecs tree root)).toOption.any fun modules =>
      check (withOrders { project := projectAt tree root, modules })) = true) :
    ∃ w, load usualCodecs tree Files.defaultExcludes false root = .ok w ∧ check w = true := by
  obtain ⟨modules, indexed, checked⟩ := exists_ok_of_any checked
  exact ⟨_, (load_eq_ok_iff whole found).2 ⟨there, some, modules, indexed, rfl⟩, checked⟩

/-- The module with the two calls, in both workspaces below. -/
def caller : String × String := ("f.py", "from a import n\nimport a\ndef f(): n(); a.n()\n")

/-- The module `a` passes the function `n` of the module `b` on. -/
def passedOn : Files.Tree := treeOf [("a.py", "from b import n\n"), ("b.py", "def n(): pass\n"), caller]

theorem sources_passedOn :
    passedOn.sources Files.defaultExcludes root = ["/W/proj/a.py", "/W/proj/b.py", "/W/proj/f.py"] := by
  have found : passedOn.find true root = .ok (.taken ["W", "proj"] .directory) := by decide +kernel
  exact sources_of_pairwise found (by decide +kernel) (by decide)

/-- The module `a` imports `n` from `b`, which defines it. -/
def importsOnce (w : Index) (entry : ModuleEntry) : Bool :=
  (defined? entry "n").isNone && entry.imports.bindings.lookup "n" == some ("b" ++ "." ++ "n") &&
    (w.module? ("b" ++ "." ++ "n")).isNone && (w.module? "b").any fun other => (defined? other "n").isSome

theorem not_importChain_of_importsOnce (once : importsOnce w entry = true) :
    ¬ w.ImportChain maxImportDepth entry "n" := by
  unfold importsOnce at once
  simp only [Bool.and_eq_true, Option.isNone_iff_eq_none, beq_iff_eq] at once
  obtain ⟨⟨⟨undefined, found⟩, apart⟩, defined⟩ := once
  obtain ⟨other, named, defined⟩ := (Option.any_eq_true _ _).1 defined
  obtain ⟨meaning, defined⟩ := Option.isSome_iff_exists.1 defined
  have bound : w.origin entry "n" = .bound ("b" ++ "." ++ "n") := origin_eq_iff.2 ⟨undefined, found⟩
  have own : w.origin other "n" = .own meaning := origin_eq_iff.2 defined
  intro chain
  cases chain with
  | binding bound' asks rest =>
    cases bound.symm.trans bound'
    obtain ⟨rfl, rfl⟩ := asks.of_snoc named (by decide) apart
    exact not_importChain_of_own own _ rest
  | star elsewhere => cases bound.symm.trans elsewhere

/-- The first call of `n` in the workspace refers to something, and the bound does not concern it. -/
def spelledAlike (w : Index) : Bool :=
  (w.module? "a").any fun entry => importsOnce w entry && (w.module? (entry.id.name ++ "." ++ "n")).isNone &&
    (spellings usualCodecs passedOn w "a" "n").any fun calls => (calls.1.resolution? w).toOption.join.isSome

/-- The modules `a` and `b` take all names over from one another, and then from a module each that defines `n`. -/
def circular : Files.Tree :=
  treeOf [("a.py", "from b import *\nfrom c import *\n"), ("b.py", "from a import *\nfrom d import *\n"),
    ("c.py", "def n(): pass\n"), ("d.py", "def n(): pass\n"), caller]

theorem sources_circular : circular.sources Files.defaultExcludes root =
    ["/W/proj/a.py", "/W/proj/b.py", "/W/proj/c.py", "/W/proj/d.py", "/W/proj/f.py"] := by
  have found : circular.find true root = .ok (.taken ["W", "proj"] .directory) := by decide +kernel
  exact sources_of_pairwise found (by decide +kernel) (by decide)

/-- The two calls in another module refer to two declarations. -/
def spelledApart (w : Index) : Bool :=
  (w.module? "a").any fun entry => (w.module? (entry.id.name ++ "." ++ "n")).isNone &&
    (spellings usualCodecs circular w "a" "n").any fun calls => calls.1.module.id.path != entry.id.path &&
      (calls.1.resolution? w).toOption.join.any fun r => (calls.2.resolution? w).toOption.join.any fun r' =>
        r.unit?.any fun u => r'.unit?.any fun u' => u != u'

end Index.Sample

theorem import_spellings_agree_passed_on :
    ∃ w entry m m' d d' site site' r, load usualCodecs Sample.passedOn Files.defaultExcludes false Sample.root = .ok w ∧
      w.module? "a" = some entry ∧ SpelledBothWays usualCodecs Sample.passedOn w "a" "n" m m' d d' site site' ∧
      ¬ w.ImportChain maxImportDepth entry "n" ∧ w.call? (contextOf m d) site = .ok (some r) ∧
      w.call? (contextOf m' d') site' = .ok (some r) := by
  have whole : Sample.passedOn.absolute Sample.root = Sample.root := by decide +kernel
  have there : Sample.passedOn.exists? Sample.root = true := by decide +kernel
  obtain ⟨w, loaded, checked⟩ :=
    Sample.exists_load Sample.spelledAlike whole Sample.sources_passedOn there (by decide) (by decide +kernel)
  obtain ⟨entry, named, checked⟩ := (Option.any_eq_true _ _).1 checked
  obtain ⟨checked, present⟩ := Bool.and_eq_true_iff.1 checked
  obtain ⟨once, apart⟩ := Bool.and_eq_true_iff.1 checked
  obtain ⟨calls, mem, resolved⟩ := List.any_eq_true.1 present
  obtain ⟨r, resolved⟩ := Option.isSome_iff_exists.1 resolved
  have spelled := Sample.spelledBothWays_of_mem mem
  have ends := Sample.not_importChain_of_importsOnce once
  have inView : w.Unhidden entry "n" := Or.inl (Option.isNone_iff_eq_none.1 apart)
  obtain ⟨direct, through, answer, answer', -, -, -, agree⟩ :=
    import_spellings_agree loaded (by decide) (by decide) named inView spelled
  have same : direct = through := agree ends (Or.inl (by decide))
  have known : direct = some r := by
    rw [Sample.PlacedCall.resolution?, answer] at resolved
    exact resolved
  rw [← same, known] at answer'
  rw [known] at answer
  exact ⟨w, entry, _, _, _, _, _, _, r, loaded, named, spelled, ends, answer, answer'⟩

/-- Where the bound on imports is met, the two spellings can differ: in a circle of imports, an import more or less
decides at which of its modules the search ends. -/
theorem spellings_differ_at_bound :
    ∃ w entry m m' d d' site site' r r' u u',
      load usualCodecs Sample.circular Files.defaultExcludes false Sample.root = .ok w ∧
      w.module? "a" = some entry ∧ m.id.path ≠ entry.id.path ∧ IsPlainName "a" ∧ IsPlainName "n" ∧
      w.Unhidden entry "n" ∧ SpelledBothWays usualCodecs Sample.circular w "a" "n" m m' d d' site site' ∧
      w.call? (contextOf m d) site = .ok (some r) ∧ w.call? (contextOf m' d') site' = .ok (some r') ∧
      r.unit? = some u ∧ r'.unit? = some u' ∧ u ≠ u' := by
  have whole : Sample.circular.absolute Sample.root = Sample.root := by decide +kernel
  have there : Sample.circular.exists? Sample.root = true := by decide +kernel
  obtain ⟨w, loaded, checked⟩ :=
    Sample.exists_load Sample.spelledApart whole Sample.sources_circular there (by decide) (by decide +kernel)
  obtain ⟨entry, named, checked⟩ := (Option.any_eq_true _ _).1 checked
  obtain ⟨apart, differ⟩ := Bool.and_eq_true_iff.1 checked
  obtain ⟨calls, mem, differ⟩ := List.any_eq_true.1 differ
  obtain ⟨other, differ⟩ := Bool.and_eq_true_iff.1 differ
  obtain ⟨r, resolved, differ⟩ := (Option.any_eq_true _ _).1 differ
  obtain ⟨r', resolved', differ⟩ := (Option.any_eq_true _ _).1 differ
  obtain ⟨u, unit, differ⟩ := (Option.any_eq_true _ _).1 differ
  obtain ⟨u', unit', differ⟩ := (Option.any_eq_true _ _).1 differ
  have inView : w.Unhidden entry "n" := Or.inl (Option.isNone_iff_eq_none.1 apart)
  have other : calls.1.module.id.path ≠ entry.id.path := by simpa using other
  have differ : u ≠ u' := by simpa using differ
  refine ⟨w, entry, _, _, _, _, _, _, r, r', u, u', loaded, named, other, by decide, by decide, inView,
    Sample.spelledBothWays_of_mem mem, ?_, ?_, unit, unit', differ⟩
  · exact eq_ok_of_toOption (Option.join_eq_some_iff.1 resolved)
  · exact eq_ok_of_toOption (Option.join_eq_some_iff.1 resolved')

end Calls

end CallAtlas.Workspace
