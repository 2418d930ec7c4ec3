import CallAtlas.Command.Execute
import CallAtlas.Proofs.Answer
import CallAtlas.Proofs.Paths

/-!
# Accepted command lines

A command line that is accepted asks for exactly one mode, by an argument that spells a switch for it or begins just one
spelling. Only such arguments touch the modes: a value is never read as a switch, and short switches that are written
together are none for modes. The number of workers is at least one. Only in the early edition the divider can be attached
to a switch and stand for no value: the number is not known then, and there are no settings for a run.
-/

namespace CallAtlas

/-- The switch that asks for a mode. -/
def Mode.switch : Mode → Command.Switch
  | .perFile => .perFile
  | .perUnit => .perUnit

namespace Command

/-- The arguments before the divider. -/
def undivided (texts : List String) : List String := texts.takeWhile (· != dividerText)

/-- Begins `whole` and is at least as long as `least`. -/
def Begins (least whole text : String) : Prop := least.toList <+: text.toList ∧ text.toList <+: whole.toList

/-- The argument is a spelling of the switch for a mode, or begins no spelling but that one. -/
def AsksFor (text : String) : Mode → Prop
  | .perFile => Begins "--per-f" "--per-file" text
  | .perUnit => Begins "--per-m" "--per-method" text ∨ Begins "--per-u" "--per-unit" text

instance (text : String) (mode : Mode) : Decidable (AsksFor text mode) :=
  match mode with
  | .perFile => inferInstanceAs (Decidable (_ ∧ _))
  | .perUnit => inferInstanceAs (Decidable (_ ∧ _ ∨ _ ∧ _))

/-- The mode was asked for. -/
def Settings.asks (s : Settings) : Mode → Bool
  | .perFile => s.perFile
  | .perUnit => s.perUnit

variable {edition : Edition} {text : String} {g : Given} {s t : Settings}

/-! ## Reading an argument -/

/-- What the text of a switch says: it has the spelling or begins it, and ends in what is attached. -/
structure Spells (text : String) (g : Given) : Prop where
  listed : (g.spelling, g.switch) ∈ Switch.spellings
  beginning : g.attached = none → text.toList <+: g.spelling.toList
  ending : ∀ value, g.attached = some value → value.toList <:+ text.toList
  noSign : g.attached = none → g.bySign = false

theorem mem_of_lookup {text : String} {switch : Switch} (h : Switch.ofSpelling? text = some switch) :
    (text, switch) ∈ Switch.spellings := by
  obtain ⟨front, back, split, -⟩ := List.lookup_eq_some_iff.1 h
  rw [split]
  simp

theorem cutValue_spec {name : String} {value : Option String} (h : cutValue text = (name, value)) :
    (value = none → name = text) ∧ ∀ attached, value = some attached → attached.toList <:+ text.toList := by
  unfold cutValue at h
  split at h
  · rename_i front back cut
    cases h
    refine ⟨by simp, ?_⟩
    rintro _ ⟨⟩
    rw [Text.cut?_eq_some cut, String.toList_ofList]
    exact ⟨front ++ ['='], by simp⟩
  · cases h
    exact ⟨fun _ => rfl, by simp⟩

theorem spells_of_candidates (mem : g ∈ candidates text) : Spells text g := by
  unfold candidates at mem
  split at mem
  · cases cut : cutValue text with
    | mk name value =>
      obtain ⟨whole, attached⟩ := cutValue_spec cut
      rw [cut] at mem
      obtain ⟨p, listed, rfl⟩ := List.mem_map.1 mem
      obtain ⟨listed, begins⟩ := List.mem_filter.1 listed
      refine ⟨listed, fun none => ?_, attached, fun none => by rw [show value = .none from none]; rfl⟩
      rw [← whole none]
      exact List.isPrefixOf_iff_prefix.1 begins
  · obtain ⟨p, listed, rfl⟩ := List.mem_map.1 mem
    refine ⟨(List.mem_filter.1 listed).1, by simp, ?_, fun _ => rfl⟩
    rintro _ ⟨⟩
    rw [String.toList_ofList]
    exact List.drop_suffix 2 _

theorem spells_of_spelledOut (h : spelledOut? text = some g) : Spells text g := by
  unfold spelledOut? at h
  split at h
  · rename_i switch found
    cases h
    exact ⟨mem_of_lookup found, fun _ => List.prefix_rfl, by simp, fun _ => rfl⟩
  · split at h
    · rename_i name value cut
      obtain ⟨switch, found, rfl⟩ := Option.map_eq_some_iff.1 h
      exact ⟨mem_of_lookup found, by simp, (cutValue_spec cut).2, by simp⟩
    · cases h

theorem spells_of_read (h : Argument.read text = .ok (.switch g)) : Spells text g := by
  unfold Argument.read at h
  split at h
  · split at h
    · rename_i given found
      cases h
      exact spells_of_spelledOut found
    · split at h
      · split at h <;> cases h
      · rename_i given only
        cases h
        exact spells_of_candidates (by rw [only]; exact List.mem_singleton_self _)
      · cases h
  · cases h

/-- Beginnings of a spelling that are read as its switch ask for the mode, and the other way round. As each spelling has
only so many beginnings, this can be tried out. -/
theorem read_beginning_iff (mode : Mode) : ∀ p ∈ Switch.spellings, p.2 = mode.switch → ∀ cs ∈ p.1.toList.inits,
    (Argument.read (String.ofList cs) = .ok (.switch ⟨p.1, p.2, none, false⟩) ↔ AsksFor (String.ofList cs) mode) := by
  cases mode <;> decide +kernel

/-- An argument asks for a mode exactly if it is read as the switch for it with nothing attached. -/
theorem read_mode_iff (mode : Mode) : (∃ g, Argument.read text = .ok (.switch g) ∧ g.switch = mode.switch ∧
    g.attached = none) ↔ AsksFor text mode := by
  constructor
  · rintro ⟨g, read, same, bare⟩
    have spells := spells_of_read read
    have given : g = ⟨g.spelling, g.switch, none, false⟩ := by rw [← bare, ← spells.noSign bare]
    rw [given, ← text.ofList_toList] at read
    rw [← text.ofList_toList]
    exact (read_beginning_iff mode _ spells.listed same _ ((List.mem_inits _ _).2 (spells.beginning bare))).1 read
  · intro asks
    obtain ⟨p, listed, same, begins⟩ : ∃ p ∈ Switch.spellings, p.2 = mode.switch ∧ text.toList <+: p.1.toList := by
      cases mode with
      | perFile => exact ⟨("--per-file", .perFile), by decide, rfl, asks.2⟩
      | perUnit =>
        rcases asks with asks | asks
        · exact ⟨("--per-method", .perUnit), by decide, rfl, asks.2⟩
        · exact ⟨("--per-unit", .perUnit), by decide, rfl, asks.2⟩
    have read := (read_beginning_iff mode p listed same _ ((List.mem_inits _ _).2 begins)).2
    rw [text.ofList_toList] at read
    exact ⟨_, read asks, same, rfl⟩

/-! ## Requests of an argument -/

/-- No request for a mode; and if it is for workers, it has a value, which is the divider only if the text ends in it. -/
def Minor (text : List Char) (r : Request) : Prop := (∀ mode : Mode, r.1 ≠ mode.switch) ∧
  (r.1 = .workers → ∃ value, r.2 = some value ∧ (value = dividerText → dividerText.toList <:+ text))

theorem short_ne_mode {c : Char} {switch : Switch} (h : Switch.ofSpelling? (String.ofList ['-', c]) = some switch)
    (mode : Mode) : switch ≠ mode.switch := by
  have long : ∀ p ∈ Switch.spellings, ∀ mode : Mode, p.2 = mode.switch → 2 < p.1.length := by
    intro p mem mode
    cases mode <;> revert p <;> decide
  intro same
  have longer := long _ (mem_of_lookup h) mode same
  rw [String.length_ofList] at longer
  exact absurd longer (by simp)

theorem Minor.suffix {cs text : List Char} {r : Request} (h : Minor cs r) (suffix : cs <:+ text) : Minor text r := by
  refine ⟨h.1, fun isWorkers => ?_⟩
  obtain ⟨value, given, ends⟩ := h.2 isWorkers
  exact ⟨value, given, fun same => (ends same).trans suffix⟩

theorem minor_of_single {switch : Switch} (other : ∀ mode : Mode, switch ≠ mode.switch)
    (single : ¬switch.takesValue = true) (cs : List Char) : Minor cs (switch, none) := by
  refine ⟨other, fun isWorkers => absurd ?_ single⟩
  cases isWorkers
  rfl

theorem together_spec {switch : Switch} {cs : List Char} {k : Cluster} (other : ∀ mode : Mode, switch ≠ mode.switch)
    (h : together edition switch cs = .ok k) :
    (∀ r ∈ k.requests, Minor cs r) ∧ ∀ final, k.last = some final → ∀ mode : Mode, final ≠ mode.switch := by
  induction cs generalizing switch k with
  | nil =>
    cases h
    refine ⟨by simp, ?_⟩
    rintro _ ⟨⟩
    exact other
  | cons c cs ih =>
    rw [together] at h
    split at h
    · -- the switch takes all that is left as its value, up to an equals sign
      cases h
      refine ⟨fun r mem => ?_, by simp⟩
      cases List.mem_singleton.1 mem
      refine ⟨other, fun _ => ⟨_, rfl, fun same => ?_⟩⟩
      rw [← same, String.toList_ofList]
      split
      · exact List.suffix_cons _ _
      · exact List.suffix_rfl
    · rename_i single
      split at h
      · cases h
      · split at h
        · rename_i next found
          obtain ⟨more, after, rfl⟩ := map_eq_ok.1 h
          obtain ⟨minor, final⟩ := ih (short_ne_mode found) after
          refine ⟨fun r mem => ?_, final⟩
          rcases List.mem_cons.1 mem with rfl | mem
          · exact minor_of_single other single _
          · exact (minor r mem).suffix (List.suffix_cons _ _)
        · split at h
          · cases h
            refine ⟨fun r mem => ?_, by simp⟩
            cases List.mem_singleton.1 mem
            exact minor_of_single other single _
          · cases h

/-- What an argument requests: its mode, or something else. -/
theorem cluster_spec (spells : Spells text g) {k : Cluster} (h : cluster edition g = .ok k) :
    g.attached = none ∧ k.requests = [] ∧ k.last = some g.switch ∨
      (∀ mode : Mode, g.switch ≠ mode.switch) ∧ (∀ r ∈ k.requests, Minor text.toList r) ∧
        ∀ final, k.last = some final → ∀ mode : Mode, final ≠ mode.switch := by
  have long : ∀ p ∈ Switch.spellings, ∀ mode : Mode, p.2 = mode.switch → isShort p.1 = false ∧ p.2.takesValue = false := by
    intro p mem mode
    cases mode <;> revert p <;> decide
  -- no switch for a mode takes a value or is spelled short, so one with a value attached is refused
  have other : isShort g.spelling = true ∨ g.switch.takesValue = true → ∀ mode : Mode, g.switch ≠ mode.switch := by
    intro loose mode same
    obtain ⟨spelledLong, single⟩ := long _ spells.listed mode same
    rcases loose with short | takes
    · exact absurd (spelledLong.symm.trans short) (by decide)
    · exact absurd (single.symm.trans takes) (by decide)
  unfold cluster at h
  split at h
  · rename_i bare
    cases h
    exact Or.inl ⟨bare, rfl, rfl⟩
  · rename_i value attached
    have ends := spells.ending value attached
    right
    split at h
    · rename_i takes
      cases h
      refine ⟨other (Or.inr takes), fun r mem => ?_, by simp⟩
      cases List.mem_singleton.1 mem
      exact ⟨other (Or.inr takes), fun _ => ⟨_, rfl, fun same => same ▸ ends⟩⟩
    · split at h
      · rename_i short
        have other := other (Or.inl (Bool.and_eq_true_iff.1 (Bool.and_eq_true_iff.1 short).1).1)
        obtain ⟨minor, final⟩ := together_spec other h
        exact ⟨other, fun r mem => (minor r mem).suffix ends, final⟩
      · cases h

/-- What completing a switch comes to. The requests of its argument may be all; or there is a last switch, which stands
alone or takes the argument behind it. -/
theorem complete_eq_ok {rest left : List Argument} {rs : List Request} {further : Option String}
    (h : complete edition g rest = .ok (rs, further, left)) :
    ∃ k, cluster edition g = .ok k ∧ (k.last = none ∧ rs = k.requests ∧ left = rest ∨
      ∃ last value, k.last = some last ∧ rs = k.requests ++ [(last, value)] ∧
        (last.takesValue = false ∧ value = none ∧ left = rest ∨
          last.takesValue = true ∧ ∃ text, value = some text ∧ rest = .plain text :: left)) := by
  obtain ⟨k, clustered, h⟩ := bind_eq_ok.1 h
  refine ⟨k, clustered, ?_⟩
  split at h
  · rename_i none
    cases h
    exact Or.inl ⟨none, rfl, rfl⟩
  · rename_i last given
    split at h
    · rename_i takes
      split at h
      · cases h
        exact Or.inr ⟨last, _, given, rfl, Or.inr ⟨takes, _, rfl, rfl⟩⟩
      · cases h
    · rename_i single
      cases h
      exact Or.inr ⟨last, none, given, rfl, Or.inl ⟨by simpa using single, rfl, rfl⟩⟩

/-- What a switch takes from the arguments behind it, and what it requests. -/
theorem complete_spec (spells : Spells text g) {rest left : List Argument} {rs : List Request} {further : Option String}
    (h : complete edition g rest = .ok (rs, further, left)) (apart : rest.head? ≠ some (.plain dividerText)) :
    (left = rest ∨ ∃ value, rest = .plain value :: left) ∧
      ((∃ mode : Mode, g.switch = mode.switch ∧ g.attached = none ∧ rs = [(g.switch, none)]) ∨
        (∀ mode : Mode, g.switch ≠ mode.switch) ∧ ∀ r ∈ rs, Minor text.toList r) := by
  obtain ⟨k, clustered, ⟨none, rfl, rfl⟩ | ⟨last, value, given, rfl, taken⟩⟩ := complete_eq_ok h
  · refine ⟨Or.inl rfl, Or.inr ?_⟩
    obtain ⟨-, -, some⟩ | ⟨other, minor, -⟩ := cluster_spec spells clustered
    · cases none.symm.trans some
    · exact ⟨other, minor⟩
  · have minor : (∀ mode : Mode, last ≠ mode.switch) → Minor text.toList (last, value) := by
      intro other
      rcases taken with ⟨single, rfl, -⟩ | ⟨-, found, rfl, rfl⟩
      · exact minor_of_single other (by simp [single]) _
      · refine ⟨other, fun _ => ⟨found, rfl, fun same => ?_⟩⟩
        exact absurd (congrArg (fun value => some (Argument.plain value)) same) apart
    constructor
    · rcases taken with ⟨-, -, same⟩ | ⟨-, found, -, same⟩
      · exact Or.inl same
      · exact Or.inr ⟨found, same⟩
    · obtain ⟨bare, empty, same⟩ | ⟨other, minors, final⟩ := cluster_spec spells clustered
      · cases given.symm.trans same
        rw [empty, List.nil_append]
        by_cases asks : ∃ mode : Mode, g.switch = mode.switch
        · obtain ⟨mode, same⟩ := asks
          rcases taken with ⟨-, rfl, -⟩ | ⟨takes, -⟩
          · exact Or.inl ⟨mode, same, bare, rfl⟩
          · rw [same] at takes
            cases mode <;> cases takes
        · exact Or.inr ⟨not_exists.1 asks, List.forall_mem_singleton.2 (minor (not_exists.1 asks))⟩
      · exact Or.inr ⟨other, List.forall_mem_append.2 ⟨minors, List.forall_mem_singleton.2 (minor (final last given))⟩⟩

/-! ## Doing what is requested -/

/-- At most one mode is asked for, and a number of workers that is known is positive. -/
structure Settings.Sound (s : Settings) : Prop where
  oneMode : ¬(s.perFile = true ∧ s.perUnit = true)
  positive : ∀ n, s.workers = some n → 1 ≤ n

theorem le_of_workersOf {value : String} {n : Int} (h : workersOf value = .ok n) : 1 ≤ n := by
  unfold workersOf at h
  split at h
  · cases h
  · split at h
    · cases h
    · cases h
      omega

/-- One request: which modes are asked for after it, and why the number of workers may not be known. -/
theorem obey_spec {r : Request} (h : obey edition s r = .ok t) : (s.Sound → t.Sound) ∧
    (∀ mode, t.asks mode = (s.asks mode || r.1 == mode.switch)) ∧
    (t.workers = none → s.workers = none ∨ r.1 = .workers ∧ proper? edition r.2 = none) := by
  obtain ⟨switch, value⟩ := r
  cases switch
  case help => cases h
  case version => cases h
  case perFile =>
    simp only [obey] at h
    split at h
    · cases h
    · rename_i other
      cases h
      refine ⟨fun sound => ⟨fun both => other both.2, sound.positive⟩, fun mode => ?_, Or.inl⟩
      cases mode <;> simp [Settings.asks, Mode.switch]
  case perUnit =>
    simp only [obey] at h
    split at h
    · cases h
    · rename_i other
      cases h
      refine ⟨fun sound => ⟨fun both => other both.1, sound.positive⟩, fun mode => ?_, Or.inl⟩
      cases mode <;> simp [Settings.asks, Mode.switch]
  case workers =>
    simp only [obey] at h
    split at h
    · rename_i unknown
      cases h
      refine ⟨fun sound => ⟨sound.oneMode, by simp⟩, fun mode => ?_, fun _ => Or.inr ⟨rfl, unknown⟩⟩
      cases mode <;> simp [Settings.asks, Mode.switch]
    · obtain ⟨n, read, rfl⟩ := map_eq_ok.1 h
      refine ⟨fun sound => ⟨sound.oneMode, ?_⟩, fun mode => ?_, by simp⟩
      · rintro _ ⟨⟩
        exact le_of_workersOf (mapError_eq_ok.1 read)
      · cases mode <;> simp [Settings.asks, Mode.switch]
  all_goals
    cases h
    refine ⟨fun sound => ⟨sound.oneMode, sound.positive⟩, fun mode => ?_, Or.inl⟩
    cases mode <;> simp [Settings.asks, Mode.switch]

/-- What requests one after the other come to. -/
theorem foldlM_obey_spec {rs : List Request} (h : rs.foldlM (obey edition) s = .ok t) : (s.Sound → t.Sound) ∧
    (∀ mode, t.asks mode = (s.asks mode || rs.any (·.1 == mode.switch))) ∧
    (t.workers = none → s.workers = none ∨ ∃ r ∈ rs, r.1 = .workers ∧ proper? edition r.2 = none) := by
  induction rs generalizing s with
  | nil =>
    cases pure_eq_ok.1 h
    exact ⟨id, by simp, Or.inl⟩
  | cons r rs ih =>
    obtain ⟨next, first, others⟩ := foldlM_cons_eq_ok.1 h
    obtain ⟨sound, asks, unknown⟩ := obey_spec first
    obtain ⟨sound', asks', unknown'⟩ := ih others
    refine ⟨sound' ∘ sound, fun mode => by rw [asks', asks, List.any_cons, Bool.or_assoc], fun none => ?_⟩
    rcases unknown' none with none | ⟨q, mem, given⟩
    · exact (unknown none).imp_right fun given => ⟨r, List.mem_cons_self, given⟩
    · exact Or.inr ⟨q, List.mem_cons_of_mem _ mem, given⟩

/-! ## Taking all arguments -/

/-- The settings agree in what is asked of a run. -/
def Settings.Agree (s t : Settings) : Prop := t.perFile = s.perFile ∧ t.perUnit = s.perUnit ∧ t.workers = s.workers

theorem Settings.agree_refl (s : Settings) : s.Agree s := ⟨rfl, rfl, rfl⟩

theorem Settings.Agree.sound (h : s.Agree t) (sound : s.Sound) : t.Sound := by
  refine ⟨?_, ?_⟩
  · rw [h.1, h.2.1]
    exact sound.oneMode
  · rw [h.2.2]
    exact sound.positive

theorem Settings.Agree.asks (h : s.Agree t) (mode : Mode) : t.asks mode = s.asks mode := by
  cases mode
  · exact h.1
  · exact h.2.1

/-- One round takes a switch with its value, or arguments without a switch. What has no place does not change what is
asked. -/
theorem take_cons {rounds : Nat} {a : Argument} {rest : List Argument}
    (h : take edition s (rounds + 1) (a :: rest) = .ok t) :
    (∃ g rs further left noted next, a = .switch g ∧ complete edition g rest = .ok (rs, further, left) ∧ s.Agree noted ∧
      rs.foldlM (obey edition) noted = .ok next ∧ take edition next rounds left = .ok t) ∨
    ∃ front left next, a :: rest = front ++ left ∧ front ≠ [] ∧ (∀ g, .switch g ∉ front) ∧
      take edition next rounds left = .ok t ∧ s.Agree next := by
  cases a with
  | switch g =>
    obtain ⟨⟨rs, further, left⟩, completed, h⟩ := bind_eq_ok.1 h
    obtain ⟨next, obeyed, h⟩ := bind_eq_ok.1 h
    have agree : s.Agree (further.elim s s.extra) := by
      cases further with
      | none => exact s.agree_refl
      | some text => exact ⟨rfl, rfl, rfl⟩
    exact Or.inl ⟨g, rs, further, left, _, next, rfl, mapError_eq_ok.1 completed, agree, obeyed, h⟩
  | unknown text => exact Or.inr ⟨[.unknown text], rest, _, rfl, by simp, by simp, h, rfl, rfl, rfl⟩
  | plain text =>
    simp only [take] at h
    split at h
    · exact Or.inr ⟨[.plain text], rest, _, rfl, by simp, by simp, h, rfl, rfl, rfl⟩
    · split at h
      · rename_i back
        exact Or.inr ⟨[.plain text, .divider], back, _, rfl, by simp, by simp, h, rfl, rfl, rfl⟩
      · exact Or.inr ⟨[.plain text], rest, _, rfl, by simp, by simp, h, rfl, rfl, rfl⟩
  | divider =>
    simp only [take] at h
    split at h
    · rename_i text back _
      exact Or.inr ⟨[.divider, .plain text], back, _, rfl, by simp, by simp, h, rfl, rfl, rfl⟩
    · exact Or.inr ⟨[.divider], _, _, rfl, by simp, by simp, h, rfl, rfl, rfl⟩

/-- No switch is followed by the text of the divider as a value. -/
def KeepsDivider (args : List Argument) : Prop := ∀ g back, ¬.switch g :: .plain dividerText :: back <:+ args

theorem KeepsDivider.suffix {args left : List Argument} (h : KeepsDivider args) (suffix : left <:+ args) :
    KeepsDivider left := fun g back ends => h g back (ends.trans suffix)

/-- What taking arguments comes to, whose switches were read from the texts. -/
structure Took (edition : Edition) (texts : List String) (s : Settings) (args : List Argument) (t : Settings) : Prop where
  sound : s.Sound → t.Sound
  asks : ∀ mode, t.asks mode = true ↔
    s.asks mode = true ∨ ∃ g, .switch g ∈ args ∧ g.switch = mode.switch ∧ g.attached = none
  unknown : t.workers = none → s.workers = none ∨ edition = .early ∧ ∃ text ∈ texts, dividerText.toList <:+ text.toList

/-- Arguments that change nothing in what is asked. -/
theorem Took.of_agree {texts : List String} {args : List Argument} {noted : Settings} (agree : s.Agree noted)
    (h : Took edition texts noted args t) : Took edition texts s args t := by
  refine ⟨fun sound => h.sound (agree.sound sound), fun mode => ?_, fun none => ?_⟩
  · rw [h.asks, agree.asks]
  · rw [← agree.2.2]
    exact h.unknown none

/-- One switch, and then the arguments that it leaves. -/
theorem Took.of_complete {texts : List String} {rest left : List Argument} {rs : List Request} {next : Settings}
    (read : Argument.read text = .ok (.switch g)) (mem : text ∈ texts) (apart : rest.head? ≠ some (.plain dividerText))
    {further : Option String} (completed : complete edition g rest = .ok (rs, further, left))
    (obeyed : rs.foldlM (obey edition) s = .ok next) (h : Took edition texts next left t) :
    Took edition texts s (.switch g :: rest) t := by
  obtain ⟨taken, requested⟩ := complete_spec (spells_of_read read) completed apart
  obtain ⟨sound, asks, unknown⟩ := foldlM_obey_spec obeyed
  -- a value that is taken is no switch, so what follows asks for the same
  have others : ∀ other, Argument.switch other ∈ rest ↔ Argument.switch other ∈ left := by
    intro other
    rcases taken with rfl | ⟨value, rfl⟩ <;> simp
  have asked : ∀ mode : Mode, rs.any (·.1 == mode.switch) = true ↔ g.switch = mode.switch ∧ g.attached = none := by
    intro mode
    rcases requested with ⟨-, -, bare, rfl⟩ | ⟨other, minor⟩
    · simp [bare]
    · simpa [other mode] using fun value mem => (minor (mode.switch, value) mem).1 mode rfl
  refine ⟨h.sound ∘ sound, fun mode => ?_, fun none => ?_⟩
  · rw [h.asks, asks, Bool.or_eq_true, asked]
    simp only [List.mem_cons, Argument.switch.injEq, others, or_and_right, exists_or, exists_eq_left, or_assoc]
  · rcases h.unknown none with none | found
    · refine (unknown none).imp_right ?_
      rintro ⟨r, requesting, isWorkers, improper⟩
      rcases requested with ⟨mode, same, -, rfl⟩ | ⟨-, minor⟩
      · cases List.mem_singleton.1 requesting
        exact absurd (same.symm.trans isWorkers) (by cases mode <;> decide)
      · obtain ⟨value, given, ends⟩ := (minor r requesting).2 isWorkers
        obtain ⟨early, divides⟩ : edition = .early ∧ value = dividerText := by
          cases edition with
          | early => simpa [given, proper?] using improper
          | late => simp [given, proper?] at improper
        exact ⟨early, text, mem, ends divides⟩
    · exact Or.inr found

/-- What all arguments come to. Each round takes some of them, so there are enough rounds. -/
theorem took_of_take {texts : List String} {rounds : Nat} {args : List Argument} (enough : args.length ≤ rounds)
    (origin : ∀ g, .switch g ∈ args → ∃ text ∈ texts, Argument.read text = .ok (.switch g)) (keeps : KeepsDivider args)
    (h : take edition s rounds args = .ok t) : Took edition texts s args t := by
  induction rounds generalizing s args with
  | zero =>
    cases List.length_eq_zero_iff.1 (Nat.le_zero.1 enough)
    cases h
    exact ⟨id, by simp, Or.inl⟩
  | succ rounds ih =>
    cases args with
    | nil =>
      cases h
      exact ⟨id, by simp, Or.inl⟩
    | cons a rest =>
      rcases take_cons h with ⟨g, rs, further, left, noted, next, rfl, completed, agree, obeyed, h⟩ |
        ⟨front, left, next, split, some, noSwitch, h, agree⟩
      · obtain ⟨text, mem, read⟩ := origin g List.mem_cons_self
        have apart : rest.head? ≠ some (.plain dividerText) := by
          intro first
          obtain ⟨back, rfl⟩ := List.head?_eq_some_iff.1 first
          exact keeps g back List.suffix_rfl
        have suffix : left <:+ rest := by
          rcases (complete_spec (spells_of_read read) completed apart).1 with rfl | ⟨value, rfl⟩
          · exact List.suffix_rfl
          · exact List.suffix_cons _ _
        refine .of_agree agree (.of_complete read mem apart completed obeyed (ih ?_ ?_ ?_ h))
        · exact suffix.length_le.trans (Nat.le_of_succ_le_succ enough)
        · exact fun g mem => origin g (List.mem_cons_of_mem _ (suffix.subset mem))
        · exact keeps.suffix (suffix.trans (List.suffix_cons _ _))
      · -- nothing in front is a switch, so what is asked is left as it is
        rw [split] at enough origin keeps ⊢
        have shorter : left.length ≤ rounds := by
          have := List.length_pos_iff.2 some
          rw [List.length_append] at enough
          omega
        have took := ih shorter (fun g mem => origin g (List.mem_append_right _ mem)) (keeps.suffix ⟨front, rfl⟩) h
        refine .of_agree agree ⟨took.sound, fun mode => ?_, took.unknown⟩
        simp only [took.asks, List.mem_append, noSwitch, false_or]

theorem plain_of_read {found : String} (h : Argument.read text = .ok (.plain found)) : found = text := by
  unfold Argument.read at h
  split at h
  · split at h
    · cases h
    · split at h
      · split at h <;> cases h
        rfl
      · cases h
      · cases h
  · cases h
    rfl

/-- The switches are those read before the divider, which no switch takes as a value. -/
theorem readAll_spec {texts : List String} {args : List Argument} (h : readAll texts = .ok args) :
    (∀ g, .switch g ∈ args ↔ ∃ text ∈ undivided texts, Argument.read text = .ok (.switch g)) ∧ KeepsDivider args ∧
      args.head? ≠ some (.plain dividerText) := by
  induction texts generalizing args with
  | nil =>
    cases h
    exact ⟨by simp [undivided], fun g back ends => by simp at ends, by simp⟩
  | cons text texts ih =>
    unfold readAll at h
    split at h
    · -- behind the divider everything is plain
      rename_i divides
      cases h
      have none : ∀ g, Argument.switch g ∉ Argument.divider :: texts.map .plain := by simp
      refine ⟨fun g => ?_, fun g back ends => none g (ends.subset List.mem_cons_self), by simp⟩
      rw [undivided, List.takeWhile_cons_of_neg (by simpa using divides)]
      simp
    · rename_i other
      split at h
      · cases h
      · rename_i argument read
        obtain ⟨others, after, rfl⟩ := map_eq_ok.1 h
        obtain ⟨switches, keeps, first⟩ := ih after
        refine ⟨fun g => ?_, fun g back ends => ?_, fun head => other ?_⟩
        · have before : undivided (text :: texts) = text :: undivided texts :=
            List.takeWhile_cons_of_pos (by simpa using other)
          simp only [before, List.mem_cons, switches, exists_eq_or_imp, read, Except.ok.injEq]
          exact or_congr_left eq_comm
        · rcases List.suffix_cons_iff.1 ends with same | ends
          · cases same
            exact first rfl
          · exact keeps g back ends
        · cases head
          exact beq_iff_eq.2 (plain_of_read read).symm

/-! ## Accepted lines -/

theorem check_eq_ok (h : check s = .ok t) : t = s ∧ (s.perFile = true ∨ s.perUnit = true) := by
  unfold check at h
  split at h
  · cases h
  · split at h
    · cases h
    · rename_i asks
      split at h
      · cases h
      · cases h
        refine ⟨rfl, ?_⟩
        cases perFile : s.perFile with
        | true => exact Or.inl rfl
        | false => simpa [perFile] using asks

/-- Settings with a number of workers that is large enough are those of a run. -/
theorem plan?_eq_some {n : Int} (known : s.workers = some n) (enough : 1 ≤ n) (current : String) : ∃ plan,
    s.plan? current = some plan ∧ plan.workers = n ∧ plan.mode = if s.perFile then .perFile else .perUnit := by
  have passes : ¬n < 1 := by omega
  simp only [Settings.plan?, known, Plan.complete, Option.bind_eq_bind, Option.bind_some, passes, if_false]
  split <;> exact ⟨_, rfl, rfl, rfl⟩

/-- Exactly one mode is chosen, the one that was asked for. -/
structure Chooses (texts : List String) (s : Settings) : Prop where
  oneMode : s.perUnit = !s.perFile
  asked : ∀ mode, s.asks mode = true ↔ ∃ text ∈ undivided texts, AsksFor text mode

/-- What an accepted command line comes to: the mode asked for and at least one worker, with which there is a run. -/
structure Configured (texts : List String) (s : Settings) : Prop extends Chooses texts s where
  run : ∃ n, s.workers = some n ∧ 1 ≤ n ∧ ∀ current, ∃ plan, s.plan? current = some plan ∧ plan.workers = n ∧
    ∃ text ∈ undivided texts, AsksFor text plan.mode

/-- The number of workers is missing. An argument ends in the divider then, and there is no run. -/
structure Unconfigured (texts : List String) (s : Settings) : Prop extends Chooses texts s where
  workers : s.workers = none
  divided : ∃ text ∈ undivided texts, dividerText.toList <:+ text.toList
  noRun : ∀ current, s.plan? current = none

theorem configured_of_parse {texts : List String} (h : parse edition texts = .ok s) :
    Configured texts s ∨ edition = .early ∧ Unconfigured texts s := by
  obtain ⟨args, read, h⟩ := bind_eq_ok.1 h
  obtain ⟨taken, took, checked⟩ := bind_eq_ok.1 h
  obtain ⟨rfl, asks⟩ := check_eq_ok (mapError_eq_ok.1 checked)
  obtain ⟨switches, keeps, -⟩ := readAll_spec (mapError_eq_ok.1 read)
  have took := took_of_take le_rfl (fun g mem => (switches g).1 mem) keeps took
  have sound : s.Sound := took.sound ⟨by simp, by rintro _ ⟨⟩; decide⟩
  have asked : ∀ mode, s.asks mode = true ↔ ∃ text ∈ undivided texts, AsksFor text mode := by
    intro mode
    have none : ({} : Settings).asks mode = false := by cases mode <;> rfl
    simp only [took.asks, none, Bool.false_eq_true, false_or, switches, ← read_mode_iff]
    constructor
    · rintro ⟨g, ⟨text, mem, read⟩, given⟩
      exact ⟨text, mem, g, read, given⟩
    · rintro ⟨text, mem, g, read, given⟩
      exact ⟨g, ⟨text, mem, read⟩, given⟩
  have oneMode : s.perUnit = !s.perFile := by
    have := sound.oneMode
    cases perFile : s.perFile <;> simp_all
  cases known : s.workers with
  | none =>
    obtain ⟨early, divided⟩ := (took.unknown known).resolve_left (by simp)
    exact Or.inr ⟨early, ⟨oneMode, asked⟩, known, divided, fun current => by simp [Settings.plan?, known]⟩
  | some n =>
    refine Or.inl ⟨⟨oneMode, asked⟩, n, known, sound.positive n known, fun current => ?_⟩
    obtain ⟨plan, made, workers, mode⟩ := plan?_eq_some known (sound.positive n known) current
    refine ⟨plan, made, workers, (asked plan.mode).1 ?_⟩
    rw [mode]
    cases perFile : s.perFile with
    | true => exact perFile
    | false => simpa [Settings.asks, perFile] using oneMode

/-- **Accepted command lines are configurations**: a line that is accepted asks for one mode and for a number of workers
with which the run can be made; any other ends the command with the status 0, for help and the version, or 2. In the
early edition a line can also be accepted with the divider attached to a switch, and then the number is not known. -/
theorem accepted_lines_configured (texts : List String) :
    (∀ s, parse .late texts = .ok s → Configured texts s) ∧
    (∀ host stop, parse host.edition texts = .error stop → ∀ tree clock memoryUse,
      (execute host tree clock memoryUse texts).ending =
        .refused (if stop = .help ∨ stop = .version then 0 else 2)) ∧
    ∀ s, parse .early texts = .ok s → Configured texts s ∨ Unconfigured texts s := by
  refine ⟨fun s accepted => ?_, fun host stop refused tree clock memoryUse => ?_, fun s accepted => ?_⟩
  · exact (configured_of_parse accepted).resolve_right fun early => Edition.noConfusion early.1
  · have declined : settle host.edition tree texts = .error stop := by
      rw [settle, refused]
      rfl
    rw [execute, declined]
    cases stop <;> rfl
  · exact (configured_of_parse accepted).imp_right And.right

/-- Short switches that are written together, a beginning and a switch behind the divider, which is the project; two
lines that are not accepted; and a line in which the divider is attached to a switch. -/
theorem accepted_lines_configured_sample :
    (parse .late ["-vj3", "--per-m", "--", "--per-file"] =
        .ok { project := some "--per-file", perUnit := true, workers := some 3, verbose := true } ∧
      Configured ["-vj3", "--per-m", "--", "--per-file"]
        { project := some "--per-file", perUnit := true, workers := some 3, verbose := true }) ∧
    (parse .late ["p", "--per-f", "-vh"] = .error .help ∧ ∀ codecs tree clock memoryUse,
      (execute ⟨.late, codecs⟩ tree clock memoryUse ["p", "--per-f", "-vh"]).ending = .refused 0) ∧
    (parse .late ["p", "--per-file", "--workers=--"] = .error (.fault (.notAnInteger "--")) ∧
      ∀ codecs tree clock memoryUse,
        (execute ⟨.late, codecs⟩ tree clock memoryUse ["p", "--per-file", "--workers=--"]).ending = .refused 2) ∧
    (parse .early ["p", "--per-file", "--workers=--"] = .ok { project := some "p", perFile := true, workers := none } ∧
      Unconfigured ["p", "--per-file", "--workers=--"] { project := some "p", perFile := true, workers := none }) := by
  have accepted : parse .late ["-vj3", "--per-m", "--", "--per-file"] =
      .ok { project := some "--per-file", perUnit := true, workers := some 3, verbose := true } := by decide +kernel
  have helped : parse .late ["p", "--per-f", "-vh"] = .error .help := by decide +kernel
  have refused : parse .late ["p", "--per-file", "--workers=--"] = .error (.fault (.notAnInteger "--")) := by
    decide +kernel
  have divided : parse .early ["p", "--per-file", "--workers=--"] =
      .ok { project := some "p", perFile := true, workers := none } := by decide +kernel
  have unknown : ∀ texts, ¬Configured texts { project := some "p", perFile := true, workers := none } := by
    rintro texts ⟨-, n, known, -⟩
    cases known
  exact ⟨⟨accepted, (accepted_lines_configured _).1 _ accepted⟩,
    ⟨helped, fun codecs => (accepted_lines_configured _).2.1 ⟨.late, codecs⟩ _ helped⟩,
    ⟨refused, fun codecs => (accepted_lines_configured _).2.1 ⟨.late, codecs⟩ _ refused⟩,
    ⟨divided, ((accepted_lines_configured _).2.2 _ divided).resolve_left (unknown _)⟩⟩

end Command

end CallAtlas
