import Mathlib
import PageCrawl.Html.Builder.Formatting
import PageCrawl.Proofs.Html.Links

/-!
# What building keeps

`Keeps R act` says that an action leads from each state only to states that `R` relates to it.
For a relation that is reflexive and transitive it passes through sequences and choices, and since
it is a class, Lean finds it for a rule that is put together from known actions.
-/

namespace PageCrawl.Html.Build

variable {R : Builder → Builder → Prop} {α β : Type} {x y : Build α} {f : α → Build β}

/-- An action leads from a state only to states related to it. -/
class Keeps (R : Builder → Builder → Prop) (act : Build α) : Prop where
  keeps : ∀ b a b', act b = some (a, b') → R b b'

/-! ## Sequences and choices -/

lemma bind_eq_some {b b' : Builder} {c : β} (h : (x >>= f) b = some (c, b')) :
    ∃ a m, x b = some (a, m) ∧ f a m = some (c, b') := by
  obtain ⟨⟨a, m⟩, ha, hf⟩ := Option.bind_eq_some_iff.mp h
  exact ⟨a, m, ha, hf⟩

lemma get_bind {f : Builder → Build α} {b : Builder} : (get >>= f) b = f b b := rfl

lemma map_eq_some {b b' : Builder} {g : α → β} {c : β} (h : (g <$> x) b = some (c, b')) :
    ∃ a, x b = some (a, b') := by
  obtain ⟨a, m, ha, hdone⟩ := bind_eq_some (f := fun a => Pure.pure (g a)) h
  cases hdone
  exact ⟨a, ha⟩

lemma discard_eq_some {b b' : Builder} {u : Unit} (h : discard x b = some (u, b')) :
    ∃ a, x b = some (a, b') :=
  map_eq_some (g := fun _ => ()) h

instance Keeps.pure [Std.Refl R] (a : α) : Keeps R (Pure.pure a : Build α) where
  keeps b c b' h := by
    cases h
    exact Std.Refl.refl b

instance Keeps.bind [IsTrans Builder R] [hx : Keeps R x] [hf : ∀ a, Keeps R (f a)] :
    Keeps R (x >>= f) where
  keeps b c b' h := by
    obtain ⟨a, m, ha, hc⟩ := bind_eq_some h
    exact IsTrans.trans b m b' (hx.keeps b a m ha) ((hf a).keeps m c b' hc)

instance Keeps.map [IsTrans Builder R] [Std.Refl R] [Keeps R x] (g : α → β) : Keeps R (g <$> x) :=
  inferInstanceAs (Keeps R (x >>= fun a => Pure.pure (g a)))

instance Keeps.discard [IsTrans Builder R] [Std.Refl R] [Keeps R x] : Keeps R (discard x) :=
  inferInstanceAs (Keeps R ((fun _ => ()) <$> x))

instance Keeps.ite {p : Prop} [Decidable p] [hx : Keeps R x] [hy : Keeps R y] :
    Keeps R (if p then x else y) := by
  split
  · exact hx
  · exact hy

instance Keeps.get [Std.Refl R] : Keeps R (get : Build Builder) where
  keeps b c b' h := by
    cases h
    exact Std.Refl.refl b

instance Keeps.refused : Keeps R (refused : Build α) where
  keeps _ _ _ h := nomatch h

lemma Keeps.andThen [IsTrans Builder R] [Keeps R x] (h : ∀ a, Keeps R (f a)) : Keeps R (x >>= f) :=
  inferInstance

/-- A choice may use what it is made by. -/
lemma Keeps.choose {p : Prop} [Decidable p] (hx : p → Keeps R x) (hy : ¬ p → Keeps R y) :
    Keeps R (if p then x else y) := by
  split
  · exact hx ‹p›
  · exact hy ‹¬ p›

/-- What a relation allows, a wider one allows as well. -/
lemma Keeps.mono {R' : Builder → Builder → Prop} (h : ∀ b b', R b b' → R' b b') [hx : Keeps R x] :
    Keeps R' x where
  keeps b a b' hb := h b b' (hx.keeps b a b' hb)

/-! ## Actions that ask -/

section Asking

variable [Std.Refl R] [IsTrans Builder R]

instance (n : NodeId) : Keeps R (element? n) := by unfold element?; infer_instance

instance : Keeps R current := by
  unfold current
  refine Keeps.andThen fun b => ?_
  split <;> infer_instance

instance (p : Element → Bool) : Keeps R (currentIs p) := by unfold currentIs; infer_instance

instance (bound target : Element → Bool) : Keeps R (inScope bound target) := by
  unfold inScope; infer_instance

instance (bound : Element → Bool) (name : String) : Keeps R (inScopeNamed bound name) := by
  unfold inScopeNamed; infer_instance

instance (name : String) : Keeps R (isOpen name) := by unfold isOpen; infer_instance

instance : Keeps R htmlNode := by
  unfold htmlNode
  refine Keeps.andThen fun b => ?_
  split <;> infer_instance

instance : Keeps R bodyNode? := by
  unfold bodyNode?
  refine Keeps.andThen fun b => ?_
  split <;> infer_instance

instance (target : Option NodeId) : Keeps R (placeFor target) := by
  unfold placeFor
  cases target <;> dsimp only <;>
    refine Keeps.andThen fun n => Keeps.andThen fun b => ?_ <;> split <;> infer_instance

instance : Keeps R appropriateMode := by
  unfold appropriateMode
  refine Keeps.andThen fun b => ?_
  split <;> infer_instance

end Asking

/-! ## Links and framesets -/

/-- An action takes no parent away from nodes that are led to, and allows no frameset again. -/
structure Firm (b b' : Builder) : Prop where
  links : b.tree.Linked → b'.tree.Linked
  frameset : b.framesetOk = false → b'.framesetOk = false

instance : Std.Refl Firm := ⟨fun _ => ⟨id, id⟩⟩

lemma Firm.trans {b m b' : Builder} (h : Firm b m) (h' : Firm m b') : Firm b b' :=
  ⟨h'.links ∘ h.links, h'.frameset ∘ h.frameset⟩

instance : IsTrans Builder Firm := ⟨fun _ _ _ => Firm.trans⟩

/-- Changes of whatever else a builder holds, field by field, so that Lean finds this for each. -/
instance firm_modify (mode back : Builder → Mode) (templates : Builder → List Mode)
    (pending : Builder → List (Bool × String)) (legacy drops fostering : Builder → Bool)
    (opened : Builder → List NodeId) (formatting : Builder → List FormatEntry)
    (head form : Builder → Option NodeId) :
    Keeps Firm (modify fun b => Builder.mk b.tree (mode b) (back b) (templates b) (pending b)
      (legacy b) (opened b) (formatting b) (head b) (form b) b.framesetOk (drops b) (fostering b) :
        Build Unit) where
  keeps b a b' h := by
    cases h
    exact ⟨id, id⟩

instance : Keeps Firm noFrameset where
  keeps b a b' h := by
    cases h
    exact ⟨id, fun _ => rfl⟩

instance (m : Mode) : Keeps Firm (setMode m) := by unfold setMode; infer_instance

instance : Keeps Firm pop := by
  unfold pop
  refine Keeps.andThen fun b => ?_
  split <;> infer_instance

instance (n : NodeId) : Keeps Firm (push n) := by unfold push; infer_instance
instance (n : NodeId) : Keeps Firm (removeOpened n) := by unfold removeOpened; infer_instance
instance (p : Element → Bool) : Keeps Firm (popWhile p) := by unfold popWhile; infer_instance
instance (p : Element → Bool) : Keeps Firm (popThrough p) := by unfold popThrough; infer_instance
instance (name : String) : Keeps Firm (popThroughNamed name) := by
  unfold popThroughNamed; infer_instance
instance (name : String) : Keeps Firm (endImpliedExcept name) := by
  unfold endImpliedExcept; infer_instance
instance : Keeps Firm endImplied := by unfold endImplied; infer_instance
instance : Keeps Firm closeParagraph := by unfold closeParagraph; infer_instance
instance : Keeps Firm resetMode := by unfold resetMode; infer_instance

/-! ## Putting nodes in their place -/

lemma changeTree_eq_some {f : Tree → Option Tree} {b b' : Builder} {u : Unit}
    (h : changeTree f b = some (u, b')) : ∃ t, f b.tree = some t ∧ b' = { b with tree := t } := by
  obtain ⟨t, ht, heq⟩ := Option.map_eq_some_iff.mp h
  cases heq
  exact ⟨t, ht, rfl⟩

lemma firm_changeTree {f : Tree → Option Tree}
    (h : ∀ t t' : Tree, f t = some t' → t.Linked → t'.Linked) : Keeps Firm (changeTree f) where
  keeps b u b' hb := by
    obtain ⟨t, ht, rfl⟩ := changeTree_eq_some hb
    exact ⟨h b.tree t ht, id⟩

instance (p n : NodeId) : Keeps Firm (changeTree (·.append p n)) :=
  firm_changeTree fun _ _ ha hlinked => Tree.LinkedBut.append (hlinked.but _) ha

instance (source target : NodeId) :
    Keeps Firm (changeTree fun t => some (t.moveChildren source target)) :=
  firm_changeTree fun _ _ ha hlinked => Option.some.inj ha ▸ hlinked.moveChildren source target

instance (kind : NodeKind) : Keeps Firm (newNode kind) where
  keeps b n b' h := by
    cases h
    exact ⟨fun hlinked => Tree.LinkedBut.add hlinked kind, id⟩

instance (n : NodeId) (tag : Tag) : Keeps Firm (mergeAttrs n tag) :=
  firm_changeTree fun t t' h hlinked => by
    cases h
    refine Tree.LinkedBut.modify hlinked (fun y => ?_) fun y hy => ?_
    · split <;> exact id
    · split <;> exact ⟨hy.children, hy.next, hy.previous⟩

instance (place : Place) (text : String) : Keeps Firm (putText place text) :=
  firm_changeTree fun t t' h hlinked => by
    split at h
    · exact hlinked.appendText h
    · split at h
      · exact hlinked.insertTextBefore h
      · exact hlinked.appendText h

instance (text : String) : Keeps Firm (insertText text) := by unfold insertText; infer_instance

instance (e : Element) : Keeps Firm (newElement e) := by unfold newElement; infer_instance

/-- A node that stands nowhere is put into its place: nothing is detached for it. -/
lemma linked_putNode {place : Place} {n : NodeId} {b b' : Builder} {u : Unit}
    (h : b.tree.LinkedBut (some n)) (hnone : b.tree.parent? n = none)
    (hput : putNode place n b = some (u, b')) :
    b'.tree.Linked ∧ b' = { b with tree := b'.tree } := by
  obtain ⟨t, ht, rfl⟩ := changeTree_eq_some hput
  refine ⟨?_, rfl⟩
  split at ht
  · exact h.append ht
  · split at ht
    · obtain ⟨s, hs, hinsert⟩ := Option.bind_eq_some_iff.mp ht
      obtain rfl := Tree.eq_of_detach hnone hs
      rw [if_pos ‹_›] at hinsert
      exact h.insertBefore hinsert
    · exact h.append ht

lemma placeFor_eq {target : Option NodeId} {b b' : Builder} {place : Place}
    (h : placeFor target b = some (place, b')) : b' = b :=
  ((inferInstance : Keeps (· = ·) (placeFor target)).keeps b place b' h).symm

/-- A new node stands nowhere. -/
lemma parent?_newNode {kind : NodeKind} {n : NodeId} {b b' : Builder}
    (h : newNode kind b = some (n, b')) : b'.tree.parent? n = none := by
  cases h
  exact b.tree.parent?_add_self kind

/-- A new element stands nowhere; if it has content, that stands in it. -/
lemma parent?_newElement {e : Element} {n : NodeId} {b b' : Builder}
    (h : newElement e b = some (n, b')) : b'.tree.parent? n = none := by
  obtain ⟨m, b₁, hnew, hmade⟩ := bind_eq_some h
  have hnone := parent?_newNode hnew
  dsimp only at hmade
  split at hmade
  · obtain ⟨content, b₂, hcontent, hfilled⟩ := bind_eq_some hmade
    obtain ⟨u, b₃, happend, hfilled⟩ := bind_eq_some hfilled
    cases hfilled
    obtain ⟨t, ht, rfl⟩ := changeTree_eq_some happend
    have hne : content ≠ n := by
      cases hnew
      cases hcontent
      simp
    cases hcontent
    rw [Tree.parent?_append ht, if_neg hne]
    exact (Tree.parent?_add b₁.tree .fragment n).trans hnone
  · cases hmade
    exact hnone

/-- An action that puts a node that it has just made. -/
lemma firm_put {make : Build NodeId} {f : NodeId → Build α} [hmake : Keeps Firm make]
    [hrest : ∀ n, Keeps Firm (f n)]
    (hnone : ∀ b n b', make b = some (n, b') → b'.tree.parent? n = none) :
    Keeps Firm (do
      let n ← make
      putNode (← placeFor none) n
      f n) where
  keeps b a b' h := by
    obtain ⟨n, b₁, hnew, hplaced⟩ := bind_eq_some h
    obtain ⟨place, b₂, hplace, hplaced⟩ := bind_eq_some hplaced
    obtain ⟨u, b₃, hput, hlast⟩ := bind_eq_some hplaced
    obtain rfl := placeFor_eq hplace
    have hfirm := hmake.keeps b n b₂ hnew
    refine Firm.trans ⟨fun hlinked => ?_, fun hok => ?_⟩ ((hrest n).keeps b₃ a b' hlast)
    · exact (linked_putNode ((hfirm.links hlinked).but _) (hnone b n b₂ hnew) hput).1
    · obtain ⟨t, -, rfl⟩ := changeTree_eq_some hput
      exact hfirm.frameset hok

instance (e : Element) : Keeps Firm (insert e) :=
  firm_put (f := fun n => pure n) fun _ _ _ => parent?_newElement

instance (text : String) : Keeps Firm (insertComment text) := by
  have hput : Keeps Firm (do
      let n ← newNode (.comment text)
      putNode (← placeFor none) n
      pure ()) := firm_put fun _ _ _ => parent?_newNode
  simpa [insertComment] using hput

instance (tag : Tag) : Keeps Firm (openElement tag) := by unfold openElement; infer_instance
instance (tag : Tag) : Keeps Firm (start tag) := by unfold start; infer_instance
instance (tag : Tag) : Keeps Firm (startVoid tag) := by unfold startVoid; infer_instance
instance (name : String) : Keeps Firm (startNamed name) := by unfold startNamed; infer_instance

/-! ## Formatting -/

instance (n : NodeId) : Keeps Firm (forget n) := by unfold forget; infer_instance
instance : Keeps Firm forgetToMarker := by unfold forgetToMarker; infer_instance
instance : Keeps Firm setMarker := by unfold setMarker; infer_instance

instance firm_reopen (lost : List (NodeId × Tag)) (done : List FormatEntry) :
    Keeps Firm (reopen lost done) := by
  induction lost generalizing done with
  | nil => unfold reopen; infer_instance
  | cons first later ih => unfold reopen; infer_instance

instance : Keeps Firm reconstruct := by unfold reconstruct; infer_instance

instance (tag : Tag) : Keeps Firm (startFormatting tag) := by
  unfold startFormatting
  refine Keeps.andThen fun b => ?_
  dsimp only
  split
  · split <;> infer_instance
  · infer_instance

instance (name : String) : Keeps Firm (closeOther name) := by
  unfold closeOther
  refine Keeps.andThen fun b => ?_
  split <;> infer_instance

/-- A node that is taken from where it stands and put into another. -/
lemma firm_move {c p : NodeId} {rest : Build α} [hrest : Keeps Firm rest] : Keeps Firm (do
    changeTree (·.detach c)
    changeTree (·.append p c)
    rest) where
  keeps b a b' h := by
    obtain ⟨u, b₁, hout, hmoved⟩ := bind_eq_some h
    obtain ⟨v, b₂, hin, hlast⟩ := bind_eq_some hmoved
    obtain ⟨t, ht, rfl⟩ := changeTree_eq_some hout
    obtain ⟨t', ht', rfl⟩ := changeTree_eq_some hin
    have hmoved : Firm b { b with tree := t' } :=
      ⟨fun hlinked => ((hlinked.but _).detach ht).append ht', id⟩
    exact hmoved.trans (hrest.keeps _ a b' hlast)

/-- A node that is taken from where it stands and put where a target asks for it. -/
lemma firm_moveTo {c : NodeId} {target : Option NodeId} {rest : Build α} [hrest : Keeps Firm rest] :
    Keeps Firm (do
      changeTree (·.detach c)
      putNode (← placeFor target) c
      rest) where
  keeps b a b' h := by
    obtain ⟨u, b₁, hout, hmoved⟩ := bind_eq_some h
    obtain ⟨place, b₂, hplace, hmoved⟩ := bind_eq_some hmoved
    obtain ⟨v, b₃, hin, hlast⟩ := bind_eq_some hmoved
    obtain ⟨t, ht, rfl⟩ := changeTree_eq_some hout
    obtain rfl := placeFor_eq hplace
    obtain ⟨t', ht', rfl⟩ := changeTree_eq_some hin
    have hnone : t.parent? c = none := by rw [Tree.parent?_detach ht, if_pos rfl]
    have hmoved : Firm b { b with tree := t' } :=
      ⟨fun hlinked => (linked_putNode ((hlinked.but _).detach ht) hnone hin).1, id⟩
    exact hmoved.trans (hrest.keeps _ a b' hlast)

instance firm_splitBetween (block : NodeId) (between : List NodeId) (count : Nat) (last : NodeId)
    (kept : List NodeId) (mark : Bookmark) :
    Keeps Firm (splitBetween block between count last kept mark) := by
  induction between generalizing count last kept mark with
  | nil => unfold splitBetween; infer_instance
  | cons n outer ih =>
      unfold splitBetween
      refine Keeps.andThen fun b => ?_
      dsimp only
      split
      · split
        · infer_instance
        · refine Keeps.andThen fun m => Keeps.andThen fun _ => ?_
          exact firm_move
      · infer_instance

instance (name : String) : Keeps Firm (closeFormattingOnce name) := by
  unfold closeFormattingOnce
  refine Keeps.andThen fun b => ?_
  split
  · infer_instance
  · split
    · infer_instance
    · split
      · infer_instance
      · dsimp only
        split
        · infer_instance
        · infer_instance
        · refine Keeps.andThen fun split => ?_
          exact firm_moveTo

instance firm_closeFormattingTimes (name : String) (n : Nat) :
    Keeps Firm (closeFormattingTimes name n) := by
  induction n with
  | zero => unfold closeFormattingTimes; infer_instance
  | succ n ih => unfold closeFormattingTimes; infer_instance

instance (name : String) : Keeps Firm (closeFormatting name) := by
  unfold closeFormatting; infer_instance

instance : Keeps Firm closeOpenLink := by
  unfold closeOpenLink
  refine Keeps.andThen fun b => ?_
  dsimp only
  split <;> infer_instance

end PageCrawl.Html.Build
