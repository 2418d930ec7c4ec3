import CallAtlas.Proofs.OrderTable

/-!
# What comes of loading

Loading looks at one file after the other. A file that cannot be read, decoded or parsed (`Faulty`) gives a module that
has nothing but the fault, and a document with a gap; any other file that gives statements has its declarations listed.
Only two things in a file stop the loading (`Stops`): the name of an encoding that is not one of text, and a declaration
whose signature has no written form. Nothing that comes after reading the files can fail, whatever they leave behind: the
orders of the classes never ask for a class that there is none of.
-/

namespace CallAtlas

open Source

namespace Source

mutual

/-- The functions that a statement declares, also those in classes; not those in other functions. -/
def Stmt.declared : Stmt → List Function
  | .functionDef f => [f]
  | .classDef ⟨_, _, _, body, _, _⟩ => declaredBy body
  | .ifElse _ body otherwise => declaredBy body ++ declaredBy otherwise
  | .withBlock _ _ body => declaredBy body
  | .tryBlock _ body handlers otherwise final =>
    declaredBy body ++ (declaredBy otherwise ++ (declaredBy final ++ declaredByHandlers handlers))
  | _ => []

/-- The functions that a block declares. -/
def declaredBy : List Stmt → List Function
  | [] => []
  | s :: ss => s.declared ++ declaredBy ss

/-- The functions that handlers declare. -/
def declaredByHandlers : List Handler → List Function
  | [] => []
  | ⟨_, _, body⟩ :: rest => declaredBy body ++ declaredByHandlers rest

end

/-- The signature has a written form. -/
def Function.IsWritable (f : Function) : Prop := ∃ text, f.signature = .ok text

/-- Why there is no signature of some functions: the fault of the first that has none. -/
def signatureFault? (functions : List Function) : Option RenderFault := functions.findSome? (faultOf? ·.signature)

theorem signatureFault?_append (before after : List Function) :
    signatureFault? (before ++ after) = (signatureFault? before).or (signatureFault? after) :=
  List.findSome?_append

theorem signatureFault?_eq_some_iff {functions : List Function} {fault : RenderFault} :
    signatureFault? functions = some fault ↔
      ∃ before f after, functions = before ++ f :: after ∧ (∀ g ∈ before, g.IsWritable) ∧
        f.signature = .error fault := by
  simp only [signatureFault?, List.findSome?_eq_some_iff, faultOf?_eq_some_iff, faultOf?_eq_none_iff,
    Function.IsWritable, and_comm]

end Source

namespace Workspace

/-! ## Signatures -/

theorem Place.faultOf?_declaration (p : Place) (f : Function) : faultOf? (p.declaration f) = faultOf? f.signature :=
  faultOf?_bind_pure

mutual

/-- What a statement declares is missing exactly if a signature is, and for the same reason. -/
theorem faultOf?_itemsOf (p : Place) (s : Stmt) : faultOf? (itemsOf p s) = signatureFault? s.declared := by
  cases s with
  | functionDef f =>
    rw [itemsOf, faultOf?_bind_pure, p.faultOf?_declaration, Stmt.declared, signatureFault?, List.findSome?_singleton]
  | classDef c =>
    obtain ⟨name, bases, keywords, body, decorators, span⟩ := c
    rw [itemsOf, faultOf?_bind_pure, faultOf?_itemsOfBlock _ body, Stmt.declared]
  | ifElse test body otherwise =>
    rw [itemsOf, faultOf?_bind fun _ => faultOf?_bind_pure, faultOf?_itemsOfBlock p body,
      faultOf?_itemsOfBlock p otherwise, Stmt.declared, signatureFault?_append]
  | withBlock isAsync context body => rw [itemsOf, faultOf?_itemsOfBlock p body, Stmt.declared]
  | tryBlock isStar body handlers otherwise final =>
    rw [itemsOf, faultOf?_bind fun _ => faultOf?_bind fun _ => faultOf?_bind fun _ => faultOf?_bind_pure,
      faultOf?_itemsOfBlock p body, faultOf?_itemsOfBlock p otherwise, faultOf?_itemsOfBlock p final,
      faultOf?_itemsOfHandlers p handlers, Stmt.declared, signatureFault?_append, signatureFault?_append,
      signatureFault?_append]
  | _ => rfl

theorem faultOf?_itemsOfBlock (p : Place) (body : List Stmt) :
    faultOf? (itemsOfBlock p body) = signatureFault? (declaredBy body) := by
  cases body with
  | nil => rfl
  | cons s ss =>
    rw [itemsOfBlock, faultOf?_bind fun _ => faultOf?_bind_pure, faultOf?_itemsOf p s, faultOf?_itemsOfBlock p ss,
      declaredBy, signatureFault?_append]

theorem faultOf?_itemsOfHandlers (p : Place) (handlers : List Handler) :
    faultOf? (itemsOfHandlers p handlers) = signatureFault? (declaredByHandlers handlers) := by
  cases handlers with
  | nil => rfl
  | cons handler rest =>
    obtain ⟨type, name, body⟩ := handler
    rw [itemsOfHandlers, faultOf?_bind fun _ => faultOf?_bind_pure, faultOf?_itemsOfBlock p body,
      faultOf?_itemsOfHandlers p rest, declaredByHandlers, signatureFault?_append]

end

/-! ## One file -/

/-- The file has no statements, for this reason. -/
inductive Faulty (codecs : Codecs) (tree : Files.Tree) (file : String) : ModuleFault → Prop where
  | unreadable {fault : Files.Fault} (refused : tree.readBytes file = .error fault) :
      Faulty codecs tree file (.unreadable fault)
  | undeclared {bytes : List UInt8} (read : tree.readBytes file = .ok bytes)
      (refused : decode codecs bytes = .error .declaration) : Faulty codecs tree file .undeclared
  | undecodable {bytes : List UInt8} {fault : DecodingFault} (read : tree.readBytes file = .ok bytes)
      (refused : decode codecs bytes = .error (.undecodable fault)) : Faulty codecs tree file (.undecodable fault)
  | unparsable {bytes : List UInt8} {text : List Char} {fault : Source.Fault} (read : tree.readBytes file = .ok bytes)
      (decoded : decode codecs bytes = .ok text) (refused : parseModule text = .error fault) :
      Faulty codecs tree file (.unparsable fault)

/-- The file stops the loading of every workspace that it is in: by the name of its encoding, or by the first of its
signatures that has no written form. -/
inductive Stops (codecs : Codecs) (tree : Files.Tree) (file : String) : LoadFault → Prop where
  | codec {bytes : List UInt8} (read : tree.readBytes file = .ok bytes)
      (odd : decode codecs bytes = .error .notOfText) : Stops codecs tree file .codecNotOfText
  | signature {body : List Stmt} {before after : List Function} {f : Function} {fault : RenderFault}
      (read : bodyAt? codecs tree file = some body) (declared : declaredBy body = before ++ f :: after)
      (earlier : ∀ g ∈ before, g.IsWritable) (unwritable : f.signature = .error fault) :
      Stops codecs tree file (.unwritable fault)

variable {codecs : Codecs} {tree : Files.Tree} {assembly path : String} {id : ModuleId} {exclude : List String}
  {guesses : Bool}

/-- What a file can be: faulty, with an encoding that is not one of text, or with statements. -/
theorem file_cases (codecs : Codecs) (tree : Files.Tree) (file : String) :
    (∃ fault, Faulty codecs tree file fault) ∨ Stops codecs tree file .codecNotOfText ∨
      ∃ body, bodyAt? codecs tree file = some body := by
  cases read : tree.readBytes file with
  | error fault => exact Or.inl ⟨_, .unreadable read⟩
  | ok bytes =>
    cases decoded : decode codecs bytes with
    | error fault =>
      cases fault with
      | declaration => exact Or.inl ⟨_, .undeclared read decoded⟩
      | undecodable fault => exact Or.inl ⟨_, .undecodable read decoded⟩
      | notOfText => exact Or.inr (Or.inl (.codec read decoded))
    | ok text =>
      cases parsed : parseModule text with
      | error fault => exact Or.inl ⟨_, .unparsable read decoded parsed⟩
      | ok body =>
        refine Or.inr (Or.inr ⟨body, ?_⟩)
        simp [bodyAt?, sourceText, read, decoded, parsed, Except.toOption]

theorem ofFile_of_faulty {fault : ModuleFault} (h : Faulty codecs tree id.path fault) :
    ModuleEntry.ofFile codecs tree assembly id = .ok { id, fault := some fault } := by
  cases h with
  | unreadable refused => simp [ModuleEntry.ofFile, sourceText, refused, bind, Except.bind, pure, Except.pure]
  | undeclared read refused | undecodable read refused =>
    simp [ModuleEntry.ofFile, sourceText, read, refused, bind, Except.bind, pure, Except.pure]
  | unparsable read decoded refused =>
    simp [ModuleEntry.ofFile, sourceText, read, decoded, ModuleEntry.ofText, refused, bind, Except.bind, pure,
      Except.pure]

theorem ofFile_of_notOfText {bytes : List UInt8} (read : tree.readBytes id.path = .ok bytes)
    (odd : decode codecs bytes = .error .notOfText) :
    ModuleEntry.ofFile codecs tree assembly id = .error .codecNotOfText := by
  simp [ModuleEntry.ofFile, sourceText, read, odd, bind, Except.bind]

/-- A file with statements fails exactly as its signatures do. -/
theorem faultOf?_ofFile {body : List Stmt} (read : bodyAt? codecs tree id.path = some body) :
    faultOf? (ModuleEntry.ofFile codecs tree assembly id) =
      (signatureFault? (declaredBy body)).map .unwritable := by
  unfold bodyAt? at read
  split at read
  · rename_i text source
    have parsed := eq_ok_of_toOption read
    have items := faultOf?_itemsOfBlock { assembly, module := id } body
    rw [← items]
    simp only [ModuleEntry.ofFile, source, ModuleEntry.ofText, parsed, bind, Except.bind]
    cases itemsOfBlock { assembly, module := id } body <;> rfl
  · cases read

/-- A file gives no module exactly if it stops the loading, and for the same reason. -/
theorem ofFile_eq_error_iff {fault : LoadFault} :
    ModuleEntry.ofFile codecs tree assembly id = .error fault ↔ Stops codecs tree id.path fault := by
  constructor
  · intro failed
    obtain ⟨fault, faulty⟩ | ⟨read, decoded⟩ | ⟨body, read⟩ := file_cases codecs tree id.path
    · cases (ofFile_of_faulty faulty).symm.trans failed
    · cases (ofFile_of_notOfText read decoded).symm.trans failed
      exact .codec read decoded
    · rw [← faultOf?_eq_some_iff, faultOf?_ofFile read, Option.map_eq_some_iff] at failed
      obtain ⟨missing, first, rfl⟩ := failed
      obtain ⟨before, f, after, declared, earlier, unwritable⟩ := signatureFault?_eq_some_iff.1 first
      exact .signature read declared earlier unwritable
  · intro stops
    cases stops with
    | codec read decoded => exact ofFile_of_notOfText read decoded
    | signature read declared earlier unwritable =>
      rw [← faultOf?_eq_some_iff, faultOf?_ofFile read,
        signatureFault?_eq_some_iff.2 ⟨_, _, _, declared, earlier, unwritable⟩, Option.map_some]

/-- A file gives a module exactly if it does not stop the loading. -/
theorem faultOf?_ofFile_eq_none_iff :
    faultOf? (ModuleEntry.ofFile codecs tree assembly id) = none ↔ ∀ fault, ¬Stops codecs tree id.path fault := by
  simp only [Option.eq_none_iff_forall_ne_some, ne_eq, faultOf?_eq_some_iff, ofFile_eq_error_iff]

/-! ## All files -/

namespace Index

/-- Each discovered file has a document of its own in the workspace: a gap that tells the fault of the file, or its
declarations. -/
structure Documents (codecs : Codecs) (tree : Files.Tree) (files : List String) (w : Index) : Prop where
  paths : w.documents.map (·.path) = files
  gap : ∀ file ∈ files, ∀ fault, Faulty codecs tree file fault → w.declaredAt file = .error (.gap fault.kind)
  declared : ∀ file ∈ files, ∀ body, bodyAt? codecs tree file = some body → ∃ units, w.declaredAt file = .ok units
  either : ∀ file ∈ files, (∃ fault, Faulty codecs tree file fault) ∨ ∃ body, bodyAt? codecs tree file = some body

theorem documents_of_load {w : Index} (loaded : load codecs tree exclude guesses path = .ok w) :
    w.Documents codecs tree (tree.sources exclude (tree.absolute path)) := by
  have indexes := indexes_of_load loaded
  -- the module of a file, and what reading the file gave
  have module : ∀ file ∈ tree.sources exclude (tree.absolute path), ∃ m ∈ w.modules, m.id.path = file ∧
      ModuleEntry.ofFile codecs tree w.project.assembly m.id = .ok m := by
    intro file mem
    rw [← indexes.paths] at mem
    obtain ⟨m, hm, same⟩ := List.mem_map.1 mem
    exact ⟨m, hm, same, ofFile_of_load loaded hm⟩
  constructor
  case paths =>
    rw [documents, List.map_map, ← indexes.paths]
    rfl
  case gap =>
    intro file mem fault faulty
    obtain ⟨m, hm, rfl, read⟩ := module file mem
    rw [indexes.declaredAt_eq hm]
    rw [ofFile_of_faulty faulty] at read
    rw [← Except.ok.inj read]
    rfl
  case declared =>
    intro file mem body found
    obtain ⟨m, hm, rfl, read⟩ := module file mem
    rw [indexes.declaredAt_eq hm]
    obtain ⟨-, ⟨none, -⟩ | ⟨-, -, noFault, -⟩⟩ := ModuleEntry.ofFile_cases read
    · cases none.symm.trans found
    · exact ⟨_, by rw [noFault]; rfl⟩
  case either =>
    intro file mem
    obtain ⟨m, hm, rfl, read⟩ := module file mem
    obtain faulty | stops | body := file_cases codecs tree m.id.path
    · exact Or.inl faulty
    · cases (ofFile_eq_error_iff.2 stops).symm.trans read
    · exact Or.inr body

/-- Where there are files, loading fails exactly if one of them stops it, and by what stops it in the first of them. -/
theorem load_of_files (there : tree.exists? (tree.absolute path) = true)
    (some : tree.sources exclude (tree.absolute path) ≠ []) :
    ((∃ w, load codecs tree exclude guesses path = .ok w) ↔
      ∀ file ∈ tree.sources exclude (tree.absolute path), ∀ fault, ¬Stops codecs tree file fault) ∧
    ∀ fault, load codecs tree exclude guesses path = .error fault ↔
      ∃ before file after, tree.sources exclude (tree.absolute path) = before ++ file :: after ∧
        (∀ other ∈ before, ∀ reason, ¬Stops codecs tree other reason) ∧ Stops codecs tree file fault := by
  have first : faultOf? (load codecs tree exclude guesses path) =
      (tree.sources exclude (tree.absolute path)).findSome? fun file =>
        faultOf? (moduleOf codecs tree (tree.absolute path) file) := by
    rw [load_eq rfl rfl, if_neg (by simp [there]), if_neg some, ← faultOf?_mapM]
    cases (tree.sources exclude (tree.absolute path)).mapM (moduleOf codecs tree (tree.absolute path)) <;> rfl
  constructor
  · rw [← faultOf?_eq_none_iff, first, List.findSome?_eq_none_iff]
    exact forall₂_congr fun file _ => faultOf?_ofFile_eq_none_iff
  · intro fault
    rw [← faultOf?_eq_some_iff, first, List.findSome?_eq_some_iff]
    simp only [moduleOf, faultOf?_eq_some_iff, ofFile_eq_error_iff, faultOf?_ofFile_eq_none_iff, and_comm]

/-- **Which files can stop a load**: loading reports that there is nothing to load exactly if nothing is at the path or no
source file is found there. Otherwise the workspace is loaded exactly if none of its files names an encoding that is not
one of text or declares a function whose signature has no written form; if one does, loading fails by what is first of
this kind. Any other fault of a file is a gap of its document and leaves all other documents alone, and after the files
are read nothing is asked for that is not there. All this is so whatever encodings are known. -/
theorem faulty_files_isolated (codecs : Codecs) (tree : Files.Tree) (exclude : List String) (guesses : Bool)
    (path : String) :
    (∀ place reason, load codecs tree exclude guesses path = .error (.unloadable place reason) ↔
      place = tree.absolute path ∧
        (tree.exists? (tree.absolute path) = false ∧ reason = "path does not exist" ∨
          tree.exists? (tree.absolute path) = true ∧ tree.sources exclude (tree.absolute path) = [] ∧
            reason = "no Python source files found")) ∧
    (tree.exists? (tree.absolute path) = true → tree.sources exclude (tree.absolute path) ≠ [] →
      ((∃ w, load codecs tree exclude guesses path = .ok w) ↔
        ∀ file ∈ tree.sources exclude (tree.absolute path), ∀ fault, ¬Stops codecs tree file fault) ∧
      ∀ fault, load codecs tree exclude guesses path = .error fault ↔
        ∃ before file after, tree.sources exclude (tree.absolute path) = before ++ file :: after ∧
          (∀ other ∈ before, ∀ reason, ¬Stops codecs tree other reason) ∧ Stops codecs tree file fault) ∧
    ∀ w, load codecs tree exclude guesses path = .ok w →
      w.Documents codecs tree (tree.sources exclude (tree.absolute path)) ∧
        ∃ bare : Index, bare.WellOrdered ∧ bare.withOrders = w := by
  refine ⟨fun place reason => ?_, load_of_files, fun w loaded => ⟨documents_of_load loaded, ?_⟩⟩
  · cases there : tree.exists? (tree.absolute path) with
    | false =>
      rw [load_eq rfl rfl, if_pos there]
      constructor
      · rintro ⟨⟩
        exact ⟨rfl, Or.inl ⟨rfl, rfl⟩⟩
      · rintro ⟨rfl, ⟨-, rfl⟩ | ⟨taken, -⟩⟩
        · rfl
        · cases taken
    | true =>
      by_cases none : tree.sources exclude (tree.absolute path) = []
      · rw [load_eq rfl none, if_neg (by simp [there]), if_pos rfl]
        constructor
        · rintro ⟨⟩
          exact ⟨rfl, Or.inr ⟨rfl, none, rfl⟩⟩
        · rintro ⟨rfl, ⟨free, -⟩ | ⟨-, -, rfl⟩⟩
          · cases free
          · rfl
      · simp only [none, false_and, and_false, or_false, Bool.true_eq_false, iff_false]
        intro failed
        obtain ⟨-, file, -, -, -, stops⟩ := ((load_of_files there none).2 _).1 failed
        cases stops
  · obtain ⟨-, -, modules, -, rfl⟩ := (load_eq_ok_iff rfl rfl).1 loaded
    exact ⟨_, wellOrdered _, rfl⟩

namespace Sample

/-- A file with a declaration, a link to nowhere, bytes that are no text, and a text that cannot be parsed. -/
def damaged : Files.Tree :=
  ([("a.py", .file (Text.encodeUtf8 "def f(): pass\n".toList)), ("b.py", .link "nowhere"),
    ("c.py", .file [48, 10, 10, 255]), ("d.py", .file [40])] : List (String × Files.Entry)).foldl
      (fun t file => t.place ["W", "proj", file.1] file.2) (.empty ["W"])

def damagedFiles : List String := ["/W/proj/a.py", "/W/proj/b.py", "/W/proj/c.py", "/W/proj/d.py"]

theorem sources_damaged : damaged.sources Files.defaultExcludes root = damagedFiles := by
  have found : damaged.find true root = .ok (.taken ["W", "proj"] .directory) := by decide +kernel
  exact sources_of_pairwise found (by decide +kernel) (by decide)

/-- A file that names an encoding which is not one of text. -/
def oddCodec : Files.Tree := treeOf [("a.py", "# coding: rot13\n")]

/-- A function with a default value that has no written form. -/
def oddSignature : Files.Tree := treeOf [("a.py", "def f(x=f\"\x7b'\x7f'\x7d\"): pass\n")]

end Sample

theorem faulty_files_isolated_damaged :
    ∃ w, load usualCodecs Sample.damaged Files.defaultExcludes false Sample.root = .ok w ∧
      (∀ file ∈ Sample.damagedFiles, ∀ fault, ¬Stops usualCodecs Sample.damaged file fault) ∧
      w.documents.map (·.path) = Sample.damagedFiles ∧ (∃ units, w.declaredAt "/W/proj/a.py" = .ok units) ∧
      w.declaredAt "/W/proj/b.py" = .error (.gap "FileNotFoundError") ∧
      w.declaredAt "/W/proj/c.py" = .error (.gap "UnicodeDecodeError") ∧
      w.declaredAt "/W/proj/d.py" = .error (.gap "SyntaxError") := by
  have whole : Sample.damaged.absolute Sample.root = Sample.root := by decide +kernel
  have there : Sample.damaged.exists? Sample.root = true := by decide +kernel
  obtain ⟨w, loaded, -⟩ := Sample.exists_load (fun _ => true) whole Sample.sources_damaged there (by decide)
    (by decide +kernel)
  obtain ⟨-, loads, isolated⟩ :=
    faulty_files_isolated usualCodecs Sample.damaged Files.defaultExcludes false Sample.root
  rw [whole, Sample.sources_damaged] at loads isolated
  obtain ⟨documents, -⟩ := isolated w loaded
  have sound : ∃ body, bodyAt? usualCodecs Sample.damaged "/W/proj/a.py" = some body := by
    rw [← Option.isSome_iff_exists]
    decide +kernel
  obtain ⟨body, sound⟩ := sound
  refine ⟨w, loaded, (loads there (by decide)).1.1 ⟨w, loaded⟩, documents.paths, ?_, ?_, ?_, ?_⟩
  · exact documents.declared _ (by decide) body sound
  · exact documents.gap _ (by decide) (.unreadable .notFound) (.unreadable (by decide +kernel))
  · have read : Sample.damaged.readBytes "/W/proj/c.py" = .ok [48, 10, 10, 255] := by decide +kernel
    exact documents.gap _ (by decide) (.undecodable .malformed) (.undecodable read (by decide +kernel))
  · have read : Sample.damaged.readBytes "/W/proj/d.py" = .ok [40] := by decide +kernel
    have decoded : decode usualCodecs [40] = .ok ['('] := by decide +kernel
    have refused : faultOf? (parseModule ['(']) = some .malformed := by decide +kernel
    exact documents.gap _ (by decide) (.unparsable .malformed)
      (.unparsable read decoded (faultOf?_eq_some_iff.1 refused))

/-- One file is enough to stop the loading of a workspace whose files are found. -/
theorem load_stopped_by_file :
    (Sample.oddCodec.exists? Sample.root = true ∧
      Sample.oddCodec.sources Files.defaultExcludes Sample.root = ["/W/proj/a.py"] ∧
      load usualCodecs Sample.oddCodec Files.defaultExcludes false Sample.root = .error .codecNotOfText) ∧
    Sample.oddSignature.exists? Sample.root = true ∧
      Sample.oddSignature.sources Files.defaultExcludes Sample.root = ["/W/proj/a.py"] ∧
      load usualCodecs Sample.oddSignature Files.defaultExcludes false Sample.root =
        .error (.unwritable .backslashInField) := by
  refine ⟨⟨?_, ?_, faultOf?_eq_some_iff.1 ?_⟩, ?_, ?_, faultOf?_eq_some_iff.1 ?_⟩ <;> decide +kernel

end Index

end Workspace

end CallAtlas
