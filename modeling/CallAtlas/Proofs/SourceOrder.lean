import CallAtlas.Proofs.Grammar.Statements
import CallAtlas.Source.Definition

/-!
# Definitions in the order of the text

A block makes definitions and imports, also those in the `if`, `with` and `try` blocks that belong to it. They are
listed in the order of the text, except that the handlers of a `try` statement come behind its `else` and `finally`
blocks. So the definitions of some kind are listed in the order of the text exactly if no `try` statement of the block
makes some of them in its handlers and some behind these (`pairwise_definitionsOf_iff`).
-/

namespace CallAtlas.Source

/-- Where a definition or import starts. -/
def Stmt.start? : Stmt → Option Position
  | .functionDef f => some f.span.start
  | .classDef c => some c.span.start
  | .imports _ start => some start
  | _ => none

/-- Both are places, the first before the second. -/
def PlacedBefore (a b : Option Position) : Prop := ∃ p q, a = some p ∧ b = some q ∧ p.before q = true

/-- Both start somewhere, the first before the second. -/
def Stmt.Before (s t : Stmt) : Prop := PlacedBefore s.start? t.start?

theorem Stmt.pairwise_before {ss : List Stmt} :
    ss.Pairwise Stmt.Before ↔ (ss.map Stmt.start?).Pairwise PlacedBefore := by
  rw [List.pairwise_map]
  rfl

/-- Places one after the other. -/
abbrev Ascending (places : List Position) : Prop := places.Pairwise fun p q => p.before q = true

theorem pairwise_map_some {places : List Position} : (places.map some).Pairwise PlacedBefore ↔ Ascending places := by
  rw [List.pairwise_map]
  simp [PlacedBefore]

theorem Ascending.nodup {places : List Position} (h : Ascending places) : places.Nodup := by
  refine h.imp fun {p q} before same => ?_
  rw [same, Position.before_iff] at before
  omega

theorem Stmt.Before.asymm {s t : Stmt} (h : s.Before t) (h' : t.Before s) : False := by
  obtain ⟨p, q, sp, tq, before⟩ := h
  obtain ⟨q', p', tq', sp', after⟩ := h'
  cases sp.symm.trans sp'
  cases tq.symm.trans tq'
  rw [Position.before_iff] at before after
  omega

mutual

/-- The definitions and imports that a statement makes in its block, in the order of the text. -/
def Stmt.definitionsInText : Stmt → List Stmt
  | .functionDef f => [.functionDef f]
  | .classDef c => [.classDef c]
  | .imports i start => [.imports i start]
  | .ifElse _ body otherwise => definitionsInText body ++ definitionsInText otherwise
  | .withBlock _ _ body => definitionsInText body
  | .tryBlock _ body handlers otherwise final =>
    definitionsInText body ++
      (definitionsInHandlers handlers ++ (definitionsInText otherwise ++ definitionsInText final))
  | _ => []

/-- The definitions and imports that a block makes, in the order of the text. -/
def definitionsInText : List Stmt → List Stmt
  | [] => []
  | s :: ss => s.definitionsInText ++ definitionsInText ss

/-- The definitions and imports that handlers make, in the order of the text. -/
def definitionsInHandlers : List Handler → List Stmt
  | [] => []
  | ⟨_, _, body⟩ :: rest => definitionsInText body ++ definitionsInHandlers rest

end

mutual

/-- No `try` statement that belongs to the block makes definitions of the kind both in its handlers and behind them. -/
def Stmt.Unsplit (kind : Stmt → Bool) : Stmt → Prop
  | .ifElse _ body otherwise => UnsplitIn kind body ∧ UnsplitIn kind otherwise
  | .withBlock _ _ body => UnsplitIn kind body
  | .tryBlock _ body handlers otherwise final =>
    UnsplitIn kind body ∧ UnsplitInHandlers kind handlers ∧ UnsplitIn kind otherwise ∧ UnsplitIn kind final ∧
      ((∀ s ∈ definitionsOf otherwise ++ definitionsOf final, kind s = false) ∨
        ∀ s ∈ definitionsOfHandlers handlers, kind s = false)
  | _ => True

/-- `Unsplit` for all statements of a block. -/
def UnsplitIn (kind : Stmt → Bool) : List Stmt → Prop
  | [] => True
  | s :: ss => s.Unsplit kind ∧ UnsplitIn kind ss

/-- `Unsplit` for the bodies of handlers. -/
def UnsplitInHandlers (kind : Stmt → Bool) : List Handler → Prop
  | [] => True
  | ⟨_, _, body⟩ :: rest => UnsplitIn kind body ∧ UnsplitInHandlers kind rest

end

/-! ## The same definitions -/

mutual

theorem perm_definitions (s : Stmt) : s.definitions.Perm s.definitionsInText := by
  cases s with
  | ifElse test body otherwise =>
    rw [Stmt.definitions, Stmt.definitionsInText]
    exact (perm_definitionsOf body).append (perm_definitionsOf otherwise)
  | withBlock isAsync items body =>
    rw [Stmt.definitions, Stmt.definitionsInText]
    exact perm_definitionsOf body
  | tryBlock isStar body handlers otherwise final =>
    rw [Stmt.definitions, Stmt.definitionsInText, List.append_assoc, List.append_assoc]
    refine (perm_definitionsOf body).append ?_
    rw [← List.append_assoc]
    exact List.perm_append_comm.trans ((perm_definitionsOfHandlers handlers).append
      ((perm_definitionsOf otherwise).append (perm_definitionsOf final)))
  | _ => exact .refl _

theorem perm_definitionsOf (ss : List Stmt) : (definitionsOf ss).Perm (definitionsInText ss) := by
  cases ss with
  | nil => exact .refl _
  | cons s ss =>
    rw [definitionsOf, definitionsInText]
    exact (perm_definitions s).append (perm_definitionsOf ss)

theorem perm_definitionsOfHandlers (hs : List Handler) :
    (definitionsOfHandlers hs).Perm (definitionsInHandlers hs) := by
  match hs with
  | [] => exact .refl _
  | ⟨_, _, body⟩ :: rest =>
    rw [definitionsOfHandlers, definitionsInHandlers]
    exact (perm_definitionsOf body).append (perm_definitionsOfHandlers rest)

end

/-! ## In the order of the text -/

mutual

theorem starts_definitionsInText (s : Stmt) : (s.definitionsInText.map Stmt.start?).Sublist (s.starts.map some) := by
  cases s with
  | functionDef f =>
    cases f
    rw [Stmt.starts, Stmt.definitionsInText]
    exact (List.nil_sublist _).cons_cons _
  | classDef c =>
    cases c
    rw [Stmt.starts, Stmt.definitionsInText]
    exact (List.nil_sublist _).cons_cons _
  | imports i start => exact .refl _
  | ifElse test body otherwise =>
    rw [Stmt.starts, Stmt.definitionsInText, List.map_append, List.map_append]
    exact (starts_definitionsInBlock body).append (starts_definitionsInBlock otherwise)
  | withBlock isAsync items body =>
    rw [Stmt.starts, Stmt.definitionsInText]
    exact starts_definitionsInBlock body
  | tryBlock isStar body handlers otherwise final =>
    rw [Stmt.starts, Stmt.definitionsInText, List.append_assoc, List.append_assoc]
    simp only [List.map_append]
    exact (starts_definitionsInBlock body).append ((starts_definitionsInHandlers handlers).append
      ((starts_definitionsInBlock otherwise).append (starts_definitionsInBlock final)))
  | _ => exact List.nil_sublist _

theorem starts_definitionsInBlock (ss : List Stmt) :
    ((definitionsInText ss).map Stmt.start?).Sublist ((startsOf ss).map some) := by
  cases ss with
  | nil => exact .refl _
  | cons s ss =>
    rw [startsOf, definitionsInText, List.map_append, List.map_append]
    exact (starts_definitionsInText s).append (starts_definitionsInBlock ss)

theorem starts_definitionsInHandlers (hs : List Handler) :
    ((definitionsInHandlers hs).map Stmt.start?).Sublist ((startsOfHandlers hs).map some) := by
  match hs with
  | [] => exact .refl _
  | ⟨_, _, body⟩ :: rest =>
    rw [startsOfHandlers, definitionsInHandlers, List.map_append, List.map_append]
    exact (starts_definitionsInBlock body).append (starts_definitionsInHandlers rest)

end

/-- If all definitions in a block start one after the other, those that it makes itself do. -/
theorem pairwise_definitionsInText {ss : List Stmt} (h : Ascending (startsOf ss)) :
    (definitionsInText ss).Pairwise Stmt.Before :=
  Stmt.pairwise_before.2 ((pairwise_map_some.2 h).sublist (starts_definitionsInBlock ss))

section Order

variable {kind : Stmt → Bool} {a b : List Stmt}

theorem pairwise_filter_append (h : ∀ s ∈ a, ∀ t ∈ b, s.Before t) :
    ((a ++ b).filter kind).Pairwise Stmt.Before ↔
      (a.filter kind).Pairwise Stmt.Before ∧ (b.filter kind).Pairwise Stmt.Before := by
  rw [List.filter_append, List.pairwise_append]
  refine ⟨fun ⟨ha, hb, _⟩ => ⟨ha, hb⟩, fun ⟨ha, hb⟩ => ⟨ha, hb, fun s hs t ht => ?_⟩⟩
  exact h s (List.mem_filter.1 hs).1 t (List.mem_filter.1 ht).1

/-- Where the later part is listed first, one of the parts must have nothing of the kind. -/
theorem pairwise_filter_append_swap (h : ∀ s ∈ a, ∀ t ∈ b, t.Before s) :
    ((a ++ b).filter kind).Pairwise Stmt.Before ↔
      (a.filter kind).Pairwise Stmt.Before ∧ (b.filter kind).Pairwise Stmt.Before ∧
        ((∀ s ∈ a, kind s = false) ∨ ∀ s ∈ b, kind s = false) := by
  rw [List.filter_append, List.pairwise_append]
  refine and_congr_right fun _ => and_congr_right fun _ => ⟨fun cross => ?_, fun empty s hs t ht => ?_⟩
  · by_contra both
    simp only [not_or, not_forall, Bool.not_eq_false] at both
    obtain ⟨⟨s, hs, ks⟩, ⟨t, ht, kt⟩⟩ := both
    exact (cross s (List.mem_filter.2 ⟨hs, ks⟩) t (List.mem_filter.2 ⟨ht, kt⟩)).asymm (h s hs t ht)
  · obtain ⟨hs, ks⟩ := List.mem_filter.1 hs
    obtain ⟨ht, kt⟩ := List.mem_filter.1 ht
    rcases empty with empty | empty
    · rw [empty s hs] at ks
      cases ks
    · rw [empty t ht] at kt
      cases kt

end Order

mutual

theorem pairwise_definitions_iff (kind : Stmt → Bool) (s : Stmt) (h : s.definitionsInText.Pairwise Stmt.Before) :
    (s.definitions.filter kind).Pairwise Stmt.Before ↔ s.Unsplit kind := by
  cases s with
  | functionDef f => exact iff_of_true ((List.pairwise_singleton _ _).sublist List.filter_sublist) trivial
  | classDef c => exact iff_of_true ((List.pairwise_singleton _ _).sublist List.filter_sublist) trivial
  | imports i start => exact iff_of_true ((List.pairwise_singleton _ _).sublist List.filter_sublist) trivial
  | ifElse test body otherwise =>
    rw [Stmt.definitionsInText, List.pairwise_append] at h
    rw [Stmt.definitions, Stmt.Unsplit, pairwise_filter_append, pairwise_definitionsOf_iff kind body h.1,
      pairwise_definitionsOf_iff kind otherwise h.2.1]
    intro s hs t ht
    exact h.2.2 s ((perm_definitionsOf body).mem_iff.1 hs) t ((perm_definitionsOf otherwise).mem_iff.1 ht)
  | withBlock isAsync items body =>
    rw [Stmt.definitionsInText] at h
    rw [Stmt.definitions, Stmt.Unsplit]
    exact pairwise_definitionsOf_iff kind body h
  | tryBlock isStar body handlers otherwise final =>
    rw [Stmt.definitionsInText, List.pairwise_append, List.pairwise_append, List.pairwise_append] at h
    obtain ⟨inBody, ⟨inHandlers, ⟨inElse, inFinal, elseFinal⟩, handlersRest⟩, bodyRest⟩ := h
    have first : ∀ s ∈ definitionsOf body,
        ∀ t ∈ (definitionsOf otherwise ++ definitionsOf final) ++ definitionsOfHandlers handlers, s.Before t := by
      intro s hs t ht
      refine bodyRest s ((perm_definitionsOf body).mem_iff.1 hs) t ?_
      have same := ((perm_definitionsOf otherwise).append (perm_definitionsOf final)).append
        (perm_definitionsOfHandlers handlers)
      exact (same.trans List.perm_append_comm).mem_iff.1 ht
    -- behind the body the handlers come first in the text and last in the list
    have second : ∀ s ∈ definitionsOf otherwise ++ definitionsOf final,
        ∀ t ∈ definitionsOfHandlers handlers, t.Before s := by
      intro s hs t ht
      exact handlersRest t ((perm_definitionsOfHandlers handlers).mem_iff.1 ht) s
        (((perm_definitionsOf otherwise).append (perm_definitionsOf final)).mem_iff.1 hs)
    have third : ∀ s ∈ definitionsOf otherwise, ∀ t ∈ definitionsOf final, s.Before t := fun s hs t ht =>
      elseFinal s ((perm_definitionsOf otherwise).mem_iff.1 hs) t ((perm_definitionsOf final).mem_iff.1 ht)
    rw [Stmt.definitions, List.append_assoc, List.append_assoc, ← List.append_assoc (definitionsOf otherwise),
      pairwise_filter_append first, pairwise_filter_append_swap second, pairwise_filter_append third,
      pairwise_definitionsOf_iff kind body inBody, pairwise_definitionsOf_iff kind otherwise inElse,
      pairwise_definitionsOf_iff kind final inFinal, pairwise_definitionsOfHandlers_iff kind handlers inHandlers,
      Stmt.Unsplit]
    tauto
  | _ => exact iff_of_true .nil trivial

theorem pairwise_definitionsOf_iff (kind : Stmt → Bool) (ss : List Stmt)
    (h : (definitionsInText ss).Pairwise Stmt.Before) :
    ((definitionsOf ss).filter kind).Pairwise Stmt.Before ↔ UnsplitIn kind ss := by
  cases ss with
  | nil => simp [definitionsOf, UnsplitIn]
  | cons s ss =>
    rw [definitionsInText, List.pairwise_append] at h
    rw [definitionsOf, UnsplitIn, pairwise_filter_append, pairwise_definitions_iff kind s h.1,
      pairwise_definitionsOf_iff kind ss h.2.1]
    intro s' hs t ht
    exact h.2.2 s' ((perm_definitions s).mem_iff.1 hs) t ((perm_definitionsOf ss).mem_iff.1 ht)

theorem pairwise_definitionsOfHandlers_iff (kind : Stmt → Bool) (hs : List Handler)
    (h : (definitionsInHandlers hs).Pairwise Stmt.Before) :
    ((definitionsOfHandlers hs).filter kind).Pairwise Stmt.Before ↔ UnsplitInHandlers kind hs := by
  match hs with
  | [] => simp [definitionsOfHandlers, UnsplitInHandlers]
  | ⟨_, _, body⟩ :: rest =>
    rw [definitionsInHandlers, List.pairwise_append] at h
    rw [definitionsOfHandlers, UnsplitInHandlers, pairwise_filter_append, pairwise_definitionsOf_iff kind body h.1,
      pairwise_definitionsOfHandlers_iff kind rest h.2.1]
    intro s hs t ht
    exact h.2.2 s ((perm_definitionsOf body).mem_iff.1 hs) t ((perm_definitionsOfHandlers rest).mem_iff.1 ht)

end

/-! ## Blocks of a text -/

/-- The blocks right inside a statement. -/
def Stmt.blocks : Stmt → List (List Stmt)
  | .functionDef f => [f.body]
  | .classDef c => [c.body]
  | .forLoop _ _ _ body otherwise => [body, otherwise]
  | .whileLoop _ body otherwise => [body, otherwise]
  | .ifElse _ body otherwise => [body, otherwise]
  | .withBlock _ _ body => [body]
  | .matchBlock _ cases => cases.map (·.body)
  | .tryBlock _ body handlers otherwise final => body :: otherwise :: final :: handlers.map (·.body)
  | _ => []

/-- The blocks of a text at any depth, the whole text among them. -/
inductive BlockIn (text : List Stmt) : List Stmt → Prop where
  | whole : BlockIn text text
  | inner {outer block : List Stmt} {s : Stmt} (around : BlockIn text outer) (mem : s ∈ outer)
      (inside : block ∈ s.blocks) : BlockIn text block

theorem starts_sublist_startsOf {s : Stmt} {ss : List Stmt} (mem : s ∈ ss) : s.starts.Sublist (startsOf ss) := by
  rw [startsOf_eq_flatMap, List.flatMap_def]
  exact List.sublist_flatten_of_mem (List.mem_map_of_mem mem)

theorem startsOf_sublist_of_mem_pair {block body otherwise : List Stmt} (inside : block ∈ [body, otherwise]) :
    (startsOf block).Sublist (startsOf body ++ startsOf otherwise) := by
  rcases List.mem_pair.1 inside with rfl | rfl
  · exact List.sublist_append_left _ _
  · exact List.sublist_append_right _ _

theorem startsOf_sublist_starts {s : Stmt} {block : List Stmt} (inside : block ∈ s.blocks) :
    (startsOf block).Sublist s.starts := by
  cases s with
  | functionDef f =>
    cases f
    cases List.mem_singleton.1 inside
    rw [Stmt.starts]
    exact List.sublist_cons_self _ _
  | classDef c =>
    cases c
    cases List.mem_singleton.1 inside
    rw [Stmt.starts]
    exact List.sublist_cons_self _ _
  | forLoop isAsync target iter body otherwise =>
    rw [Stmt.starts]
    exact startsOf_sublist_of_mem_pair inside
  | whileLoop test body otherwise =>
    rw [Stmt.starts]
    exact startsOf_sublist_of_mem_pair inside
  | ifElse test body otherwise =>
    rw [Stmt.starts]
    exact startsOf_sublist_of_mem_pair inside
  | withBlock isAsync items body =>
    cases List.mem_singleton.1 inside
    exact .refl _
  | matchBlock subject cases =>
    rw [Stmt.starts, startsOfCases_eq_flatMap, List.flatMap_def]
    obtain ⟨c, hc, rfl⟩ := List.mem_map.1 inside
    exact List.sublist_flatten_of_mem (List.mem_map_of_mem hc)
  | tryBlock isStar body handlers otherwise final =>
    rw [Stmt.starts, startsOfHandlers_eq_flatMap, List.flatMap_def]
    simp only [Stmt.blocks, List.mem_cons, List.mem_map] at inside
    rcases inside with rfl | rfl | rfl | ⟨r, hr, rfl⟩
    · simp only [List.append_assoc]
      exact List.sublist_append_left _ _
    · exact (List.sublist_append_right _ _).trans (List.sublist_append_left _ _)
    · exact List.sublist_append_right _ _
    · have one := List.sublist_flatten_of_mem (List.mem_map_of_mem (f := fun h => startsOf h.body) hr)
      exact ((one.trans (List.sublist_append_right _ _)).trans (List.sublist_append_left _ _)).trans
        (List.sublist_append_left _ _)
  | _ => cases inside

theorem BlockIn.startsOf_sublist {text block : List Stmt} (h : BlockIn text block) :
    (startsOf block).Sublist (startsOf text) := by
  induction h with
  | whole => exact .refl _
  | inner _ mem inside ih => exact (startsOf_sublist_starts inside).trans ((starts_sublist_startsOf mem).trans ih)

end CallAtlas.Source
