import CallAtlas.Proofs.OwnMethods

/-!
# The forms of a call

A call is answered by a declaration as it stands, by one that is bound to a receiver, or by one with type arguments,
alone or as one of several candidates. One step back from every such form leads to a unit that is accounted for
(`Resolution.Refers`), whatever the callee means. Type arguments change the form and not the unit, so a callee means the
same with them and without; what they cannot always have is a text, and then the call is refused.
-/

namespace CallAtlas.Workspace

open Source

namespace Index

variable {w : Index} {context : Context} {site typed : CallSite} {index : Expr}

/-- Without type arguments a call is answered by what its callee refers to. -/
theorem call?_plain (plain : ∀ value index, site.function ≠ .subscript value index) :
    w.call? context site = .ok (w.referred? context site.function) := by
  unfold call?
  split
  · exact absurd ‹_› (plain _ _)
  · rfl

/-- With type arguments it is refused if they cannot be written out, and is answered by the same in another form if
they can. -/
theorem call?_typed (callee : typed.function = .subscript site.function index) :
    (∀ fault, index.text = .error fault → w.call? context typed = .error fault) ∧
    ∀ text, index.text = .ok text → ∃ form, typed.form = .ok form ∧
      w.call? context typed = .ok ((w.referred? context site.function).map form) := by
  have called : typed.callee = site.function := by rw [CallSite.callee, callee]
  have formed : typed.form = do
      let arguments := [← index.text]
      return fun r =>
        { referent := specialized arguments r.referent, candidates := r.candidates.map (specialized arguments) } := by
    rw [CallSite.form, callee]
  constructor
  · intro fault unwritable
    rw [call?_eq_error_iff, formed, unwritable]
    rfl
  · intro text written
    rw [written] at formed
    refine ⟨_, formed, ?_⟩
    rw [call?_eq, called, formed]
    rfl

/-- **Forms keep the declaration**: each call in a declaration of the workspace is answered, unless it has type arguments
that cannot be written out; it is answered by nothing or by forms of units that are accounted for, of which one counts. In
every context, a callee with type arguments that can be written out means the same units, of which the same one counts, as
the callee without them. -/
theorem forms_keep_declaration (w : Index) :
    (∀ file u m d, w.declaration? file u = some (m, d) → ∀ site ∈ sitesIn d,
      ((∃ answer, w.call? (contextOf m d) site = .ok answer) ↔ site.IsWritable) ∧
      ∀ r, w.call? (contextOf m d) site = .ok (some r) → (∃ t, r.unit? = some t) ∧ r.Refers w.Accounts) ∧
    ∀ (context : Context) (site typed : CallSite) (index : Expr),
      (∀ inner arguments, site.function ≠ .subscript inner arguments) →
      typed.function = .subscript site.function index →
      ∃ plain, w.call? context site = .ok plain ∧
        (∀ fault, index.text = .error fault → w.call? context typed = .error fault) ∧
        ∀ text, index.text = .ok text → ∃ answer, w.call? context typed = .ok answer ∧
          answer.bind (·.unit?) = plain.bind (·.unit?) ∧
          answer.map (·.referents.map (·.underlying)) = plain.map (·.referents.map (·.underlying)) := by
  constructor
  · intro file u m d found site _
    refine ⟨exists_call?_iff, fun r answered => ?_⟩
    obtain ⟨m', there, rest⟩ := Option.bind_eq_some_iff.1 found
    obtain ⟨d', -, same⟩ := Option.bind_eq_some_iff.1 rest
    cases same
    have refers := refers_of_call? (mem_of_moduleAt? there) answered
    obtain ⟨t, counts, -⟩ := refers.exists_unit?
    exact ⟨⟨t, counts⟩, refers⟩
  · intro context site typed index plain callee
    obtain ⟨refused, answered⟩ := call?_typed callee
    refine ⟨_, call?_plain plain, refused, fun text written => ?_⟩
    obtain ⟨form, formed, answer⟩ := answered text written
    have underlying : ∀ r : Resolution,
        (form r).referents.map (·.underlying) = r.referents.map (·.underlying) := by
      intro r
      obtain ⟨f, referents, back⟩ := CallSite.referents_form formed r
      rw [referents, List.map_map]
      exact List.map_congr_left fun s _ => back s
    refine ⟨_, answer, ?_, ?_⟩
    · cases w.referred? context site.function with
      | none => rfl
      | some r => exact Resolution.unit?_congr (underlying r)
    · cases w.referred? context site.function with
      | none => rfl
      | some r => exact congrArg some (underlying r)

namespace Sample

/-- A call with type arguments, and the declaration that it stands in. -/
structure TypedCall where
  unit : Callable
  module : ModuleEntry
  declaration : Declaration
  site : CallSite
  value : Expr
  index : Expr

/-- The calls with type arguments in a file. -/
def typedCalls (w : Index) (file : String) : List TypedCall :=
  w.declarations.flatMap fun e => (w.declaration? file e.unit).toList.flatMap fun found =>
    (sitesIn found.2).filterMap fun site =>
      match site.function with
      | .subscript value index =>
        some { unit := e.unit, module := found.1, declaration := found.2, site, value, index }
      | _ => none

theorem of_mem_typedCalls {w : Index} {file : String} {call : TypedCall} (h : call ∈ typedCalls w file) :
    w.declaration? file call.unit = some (call.module, call.declaration) ∧ call.site ∈ sitesIn call.declaration ∧
      call.site.function = .subscript call.value call.index := by
  obtain ⟨e, -, h⟩ := List.mem_flatMap.1 h
  obtain ⟨found, there, h⟩ := List.mem_flatMap.1 h
  obtain ⟨site, inside, h⟩ := List.mem_filterMap.1 h
  split at h
  · cases h
    exact ⟨Option.mem_toList.1 there, inside, ‹_›⟩
  · cases h

/-- A method that is called on its receiver with a type argument. -/
def boundCall : Files.Tree := treeOf [("a.py", "class A:\n def m(self): self.m[0]()\n")]

/-- The callee is an attribute, its type argument can be written out, and there is an answer. -/
def isAnswered (w : Index) (call : TypedCall) : Bool :=
  (match call.value with
    | .attribute .. => true
    | _ => false) &&
  call.index.text.toOption.isSome &&
  (w.call? (contextOf call.module call.declaration) call.site).toOption.any (·.isSome)

end Sample

theorem forms_keep_declaration_bound :
    ∃ (w : Index) (call : Sample.TypedCall) (plain r : Resolution) (u : Callable),
      load usualCodecs Sample.boundCall Files.defaultExcludes false Sample.root = .ok w ∧
      call.site ∈ sitesIn call.declaration ∧ call.site.function = .subscript call.value call.index ∧
      w.call? (contextOf call.module call.declaration) { call.site with function := call.value } = .ok (some plain) ∧
      w.call? (contextOf call.module call.declaration) call.site = .ok (some r) ∧ r.Refers w.Accounts ∧
      plain.unit? = some u ∧ r.unit? = some u := by
  have run : ((load usualCodecs Sample.boundCall Files.defaultExcludes false Sample.root).toOption.any fun w =>
      (Sample.typedCalls w "/W/proj/a.py").any (Sample.isAnswered w)) = true := by
    decide +kernel
  obtain ⟨w, loaded, run⟩ := exists_ok_of_any run
  obtain ⟨call, mem, answered⟩ := List.any_eq_true.1 run
  obtain ⟨found, inside, callee⟩ := Sample.of_mem_typedCalls mem
  obtain ⟨written, answered⟩ := Bool.and_eq_true_iff.1 answered
  obtain ⟨named, written⟩ := Bool.and_eq_true_iff.1 written
  obtain ⟨text, written⟩ := Option.isSome_iff_exists.1 written
  obtain ⟨answer, given, some⟩ := exists_ok_of_any answered
  obtain ⟨r, rfl⟩ := Option.isSome_iff_exists.1 some
  obtain ⟨⟨u, counts⟩, refers⟩ := ((forms_keep_declaration w).1 _ _ _ _ found call.site inside).2 r given
  have plain : ∀ inner arguments, call.value ≠ .subscript inner arguments := by
    intro inner arguments same
    rw [same] at named
    cases named
  obtain ⟨other, bare, -, same⟩ := (forms_keep_declaration w).2 (contextOf call.module call.declaration)
    { call.site with function := call.value } call.site call.index plain callee
  obtain ⟨again, typed, units, -⟩ := same text (eq_ok_of_toOption written)
  cases given.symm.trans typed
  obtain ⟨r', rfl, counts'⟩ := Option.bind_eq_some_iff.1 (units.symm.trans counts)
  exact ⟨w, call, r', r, u, loaded, inside, callee, bare, given, refers, counts', counts⟩

/-- Where a type argument cannot be written out, a call that would be answered by nothing without it is refused. -/
theorem unwritable_form_refused :
    ∃ (w : Index) (call : Sample.TypedCall),
      load usualCodecs Sample.unwritable Files.defaultExcludes false Sample.root = .ok w ∧
      w.declaration? "/W/proj/a.py" call.unit = some (call.module, call.declaration) ∧
      call.site ∈ sitesIn call.declaration ∧ call.site.function = .subscript call.value call.index ∧
      w.call? (contextOf call.module call.declaration) { call.site with function := call.value } = .ok none ∧
      w.call? (contextOf call.module call.declaration) call.site = .error .backslashInField := by
  have run : ((load usualCodecs Sample.unwritable Files.defaultExcludes false Sample.root).toOption.any fun w =>
      (Sample.typedCalls w "/W/proj/a.py").any fun call =>
        decide (w.call? (contextOf call.module call.declaration) { call.site with function := call.value } =
          .ok none) &&
        decide (w.call? (contextOf call.module call.declaration) call.site = .error .backslashInField)) = true := by
    decide +kernel
  obtain ⟨w, loaded, run⟩ := exists_ok_of_any run
  obtain ⟨call, mem, answers⟩ := List.any_eq_true.1 run
  obtain ⟨found, inside, callee⟩ := Sample.of_mem_typedCalls mem
  obtain ⟨plain, refused⟩ := Bool.and_eq_true_iff.1 answers
  exact ⟨w, call, loaded, found, inside, callee, of_decide_eq_true plain, of_decide_eq_true refused⟩

/-- A call with a whole number for its type argument is answered exactly if the number has no more digits than can be
written. -/
theorem exists_call?_whole_iff {start : Position} {value : Expr} {n : Nat} :
    (∃ answer, w.call? context ⟨start, .subscript value (.constant (.int n))⟩ = .ok answer) ↔
      n < 10 ^ Number.maxDigits := by
  have written : (∃ text, (Expr.constant (.int n)).text = .ok text) ↔ n < 10 ^ Number.maxDigits := by
    have digits : (Nat.toDigits 10 n).length ≤ Number.maxDigits ↔ n < 10 ^ Number.maxDigits :=
      Nat.length_toDigits_le_iff (by decide) (by decide)
    rw [← digits, ← Nat.not_lt]
    change (∃ text, String.ofList <$> wholeText n = .ok text) ↔ _
    simp only [map_eq_ok, wholeText]
    split <;> simp [*]
  rw [exists_call?_iff, ← written]
  constructor
  · intro writable
    exact writable _ _ rfl
  · rintro written _ _ ⟨⟩
    exact written

end Index

end CallAtlas.Workspace
