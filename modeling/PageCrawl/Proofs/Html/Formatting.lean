import Mathlib
import PageCrawl.Proofs.Html.Steady

/-!
# Formatting within the body

An element of formatting that is closed out of turn is split: the blocks within it move out to what
is open around it, and new elements are made in its place, around what the blocks hold.  Nothing is
moved but blocks that are open within the formatting element and elements made on the way, and all
of them are younger than an open body (`Steady.inner_of_within`).  So what is `Reworked` stays
steady, whatever the number of rounds.
-/

namespace PageCrawl.Html.Build

variable {b b' : Builder} {n : NodeId} {α : Type}

section Usual

variable (tag : Tag) [Usual tag]

/-- Opening an element and remembering it for formatting. -/
instance mild_openFormatting : Keeps Mild (do
    let n ← openElement tag
    modify fun b => { b with formatting := .element n tag :: b.formatting } : Build Unit) where
  keeps b u b' h hs := by
    obtain ⟨n, b₁, hopen, hremember⟩ := bind_eq_some h
    cases hremember
    have hopened := opened_openElement hs hopen
    exact ⟨hopened.steady.remember (.cons hopened.steady.formatting hopened.younger), hopened.mode,
      hopened.returnMode⟩

instance : Keeps Mild (startFormatting tag) := by
  unfold startFormatting
  refine Keeps.andThen fun b => ?_
  dsimp only
  split
  · split
    · refine Keeps.andThen fun _ => ?_
      infer_instance
    · infer_instance
  · infer_instance

end Usual

lemma mem_of_mem_sinceMarker {entries : List FormatEntry} {p : NodeId × Tag}
    (h : p ∈ sinceMarker entries) : .element p.1 p.2 ∈ entries := by
  induction entries with
  | nil => cases h
  | cons entry rest ih =>
      cases entry with
      | marker => cases h
      | element n tag =>
          rcases List.mem_cons.mp h with rfl | hrest
          · exact List.mem_cons_self
          · exact List.mem_cons_of_mem _ (ih hrest)

/-- Elements that are opened again can be remembered. -/
lemma steady_reopen {lost : List (NodeId × Tag)} {done entries : List FormatEntry} (hs : Steady b)
    (hlost : ∀ p ∈ lost, Usual p.2) (hdone : Remembers b done)
    (h : reopen lost done b = some (entries, b')) :
    Steady b' ∧ Remembers b' entries ∧ b'.mode = b.mode ∧ b'.returnMode = b.returnMode := by
  induction lost generalizing b done with
  | nil =>
      cases h
      exact ⟨hs, hdone, rfl, rfl⟩
  | cons first later ih =>
      obtain ⟨n, b₁, hopen, hlater⟩ := bind_eq_some h
      have := hlost first List.mem_cons_self
      have hopened := opened_openElement hs hopen
      have hdone' : Remembers b₁ done := fun m tag hm =>
        ⟨hopened.still m (hdone m tag hm).1, (hdone m tag hm).2⟩
      obtain ⟨hsteady, hentries, hmode, hreturn⟩ := ih hopened.steady
        (fun p hp => hlost p (List.mem_cons_of_mem _ hp)) (hdone'.cons hopened.younger) hlater
      exact ⟨hsteady, hentries, hmode.trans hopened.mode, hreturn.trans hopened.returnMode⟩

instance : Keeps Mild reconstruct where
  keeps b u b' h hs := by
    obtain ⟨c, b₁, hget, h⟩ := bind_eq_some h
    cases hget
    dsimp only at h
    split at h
    · cases h
      exact ⟨hs, rfl, rfl⟩
    · obtain ⟨entries, b₂, hreopen, hset⟩ := bind_eq_some h
      cases hset
      have husual : ∀ closed, ∀ p ∈ (sinceMarker (b.formatting.takeWhile closed)).reverse,
          Usual p.2 := fun closed p hp => (hs.formatting p.1 p.2 ((List.takeWhile_sublist _).subset
            (mem_of_mem_sinceMarker (List.mem_reverse.mp hp)))).2
      obtain ⟨hsteady, hentries, hmodes⟩ := steady_reopen hs (husual _)
        (fun n tag hn => hs.formatting n tag (List.mem_of_mem_drop hn)) hreopen
      exact ⟨hsteady.remember hentries, hmodes⟩

/-! ## Closing -/

/-- A page that was worked on below the open elements. -/
structure Reworked (b b' : Builder) : Prop where
  steady : Steady b'
  grown : b.tree.Grown b'.tree
  opened : b'.opened = b.opened
  mode : b'.mode = b.mode
  returnMode : b'.returnMode = b.returnMode

lemma Reworked.trans {m : Builder} (h : Reworked b m) (h' : Reworked m b') : Reworked b b' :=
  ⟨h'.steady, h.grown.trans h'.grown, h'.opened.trans h.opened, h'.mode.trans h.mode,
    h'.returnMode.trans h.returnMode⟩

lemma Reworked.younger (h : Reworked b b') (hs : Steady b) (hn : Younger b n) : Younger b' n where
  inTree := hn.inTree.trans_le h.grown.size
  body g hg := by
    have hmem : g ∈ b.opened := h.opened ▸ hg.1
    exact hn.body g ⟨hmem, h.grown.label g (hs.inTree g hmem) ▸ hg.2⟩

lemma Reworked.inner (h : Reworked b b') (hs : Steady b) (hn : Inner b n) : Inner b' n where
  toYounger := h.younger hs hn.toYounger
  noBody := by rw [h.grown.label n hn.inTree]; exact hn.noBody
  noTemplate := by rw [h.grown.label n hn.inTree]; exact hn.noTemplate

lemma Reworked.ofTree {t : Tree} (hs : Steady b) (hgrown : b.tree.Grown t)
    (hanchored : ∀ g, OpenBody b g → t.Anchored g) : Reworked b { b with tree := t } :=
  ⟨hs.grow hgrown hanchored, hgrown, rfl, rfl, rfl⟩

lemma reworked_moveChildren {source target : NodeId} {u : Unit} (hs : Steady b)
    (h : changeTree (fun t => some (t.moveChildren source target)) b = some (u, b')) :
    Reworked b b' := by
  obtain ⟨t, ht, rfl⟩ := changeTree_eq_some h
  cases ht
  exact .ofTree hs (.moveChildren b.tree source target)
    fun g hg => (hs.anchored g hg).moveChildren source target

lemma reworked_formatting {entries : List FormatEntry} (hs : Steady b)
    (hentries : Remembers b entries) : Reworked b { b with formatting := entries } :=
  ⟨hs.remember hentries, .refl b.tree, rfl, rfl, rfl⟩

lemma reworked_forget {u : Unit} (hs : Steady b) (h : forget n b = some (u, b')) :
    Reworked b b' := by
  cases h
  exact reworked_formatting hs fun m tag hm => hs.formatting m tag (List.mem_of_mem_eraseP hm)

lemma reworked_detach {u : Unit} (hs : Steady b) (hn : Younger b n)
    (h : changeTree (·.detach n) b = some (u, b')) : Reworked b b' := by
  obtain ⟨t, ht, rfl⟩ := changeTree_eq_some h
  exact .ofTree hs (.detach ht) fun g hg => (hs.anchored g hg).detach (hn.body g hg) ht

lemma reworked_append {p : NodeId} {u : Unit} (hs : Steady b) (hn : Younger b n)
    (h : changeTree (·.append p n) b = some (u, b')) : Reworked b b' := by
  obtain ⟨t, ht, rfl⟩ := changeTree_eq_some h
  exact .ofTree hs (.append ht) fun g hg => (hs.anchored g hg).append (hn.body g hg) ht

/-- An element made anew for formatting. -/
lemma reworked_newElement {tag : Tag} [husual : Usual tag] (hs : Steady b)
    (h : newElement (elementOf tag) b = some (n, b')) : Reworked b b' ∧ Inner b' n := by
  obtain ⟨hn, hlt, helement, hadded⟩ := newElement_eq h
  have hlabel : b'.tree.label? n = some (.html, tag.name) := by
    rw [Tree.label?, helement]
    rfl
  refine ⟨⟨hadded.steady hs, hadded.grown, hadded.opened, hadded.mode, hadded.returnMode⟩,
    hadded.younger hs hn.ge hlt, ?_, ?_⟩
  · rw [hlabel]
    exact fun heq => husual.body (congrArg Prod.snd (Option.some.inj heq))
  · rw [hlabel]
    exact fun heq => husual.template (congrArg Prod.snd (Option.some.inj heq))

/-- The entry of a node is replaced by that of a new one. -/
lemma Remembers.replace {entries : List FormatEntry} {m : NodeId} (n : NodeId) (tag : Tag)
    [husual : Usual tag] (h : Remembers b entries) (hm : Younger b m) :
    Remembers b (entries.map fun x => if isEntryOf n x then .element m tag else x) := by
  intro k tag' hk
  obtain ⟨x, hx, heq⟩ := List.mem_map.mp hk
  split at heq
  · cases heq
    exact ⟨hm, husual⟩
  · exact h k tag' (heq ▸ hx)

lemma reworked_splitBetween {block last last' : NodeId} {between kept kept' : List NodeId}
    {count : Nat} {mark mark' : Bookmark} (hs : Steady b) (hlast : Younger b last)
    (hkept : ∀ m ∈ kept, Inner b m)
    (h : splitBetween block between count last kept mark b = some ((last', kept', mark'), b')) :
    Reworked b b' ∧ Younger b' last' ∧ ∀ m ∈ kept', Inner b' m := by
  induction between generalizing b count last kept mark with
  | nil =>
      cases h
      exact ⟨⟨hs, .refl _, rfl, rfl, rfl⟩, hlast, fun m hm => hkept m (List.mem_reverse.mp hm)⟩
  | cons n outer ih =>
      obtain ⟨c, b₁, hget, h⟩ := bind_eq_some h
      cases hget
      dsimp only at h
      cases hfind : b.formatting.find? (isEntryOf n) with
      | none =>
          rw [hfind] at h
          exact ih hs hlast hkept h
      | some entry =>
          rw [hfind] at h
          cases entry with
          | marker => exact ih hs hlast hkept h
          | element k tag =>
              have husual : Usual tag := (hs.formatting k tag (List.mem_of_find?_eq_some hfind)).2
              dsimp only at h
              by_cases hcount : count ≥ 3
              · rw [if_pos hcount] at h
                obtain ⟨u, b₁, hforget, h⟩ := bind_eq_some h
                have hwork := reworked_forget hs hforget
                obtain ⟨hrest, hend⟩ := ih hwork.steady (hwork.younger hs hlast)
                  (fun m hm => hwork.inner hs (hkept m hm)) h
                exact ⟨hwork.trans hrest, hend⟩
              · rw [if_neg hcount] at h
                obtain ⟨m, b₁, hmake, h⟩ := bind_eq_some h
                obtain ⟨u, b₂, hreplace, h⟩ := bind_eq_some h
                obtain ⟨v, b₃, hdetach, h⟩ := bind_eq_some h
                obtain ⟨w, b₄, happend, hlater⟩ := bind_eq_some h
                cases hreplace
                obtain ⟨hmade, hm⟩ := reworked_newElement hs hmake
                have hlast' := hmade.younger hs hlast
                have hreplaced := reworked_formatting hmade.steady
                  (.replace n tag hmade.steady.formatting hm.toYounger)
                have hdetached := hreplaced.trans
                  (reworked_detach hreplaced.steady (hreplaced.younger hmade.steady hlast') hdetach)
                have happended := hdetached.trans
                  (reworked_append hdetached.steady (hdetached.younger hmade.steady hlast') happend)
                have hm' := happended.inner hmade.steady hm
                have hwork := hmade.trans happended
                obtain ⟨hrest, hend⟩ := ih hwork.steady hm'.toYounger (List.forall_mem_cons.mpr
                  ⟨hm', fun k hk => hwork.inner hs (hkept k hk)⟩) hlater
                exact ⟨hwork.trans hrest, hend⟩

/-- The entry of a new node is put where a bookmark says. -/
lemma Remembers.bookmark {entries : List FormatEntry} {m : NodeId} (n : NodeId) (tag : Tag)
    [husual : Usual tag] (mark : Bookmark) (h : Remembers b entries) (hm : Younger b m) :
    Remembers b (match mark with
      | .replace => entries.map fun x => if isEntryOf n x then .element m tag else x
      | .after k => (entries.flatMap fun x =>
          if isEntryOf k x then [.element m tag, x] else [x]).eraseP (isEntryOf n)) := by
  cases mark with
  | replace => exact h.replace n tag hm
  | after k =>
      intro i tag' hi
      obtain ⟨x, hx, hi⟩ := List.mem_flatMap.mp (List.mem_of_mem_eraseP hi)
      split at hi
      · rcases List.mem_cons.mp hi with heq | hi
        · cases heq
          exact ⟨hm, husual⟩
        · exact h i tag' (List.mem_singleton.mp hi ▸ hx)
      · exact h i tag' (List.mem_singleton.mp hi ▸ hx)

/-! ## One round of closing -/

/-- What is open within an element, the element, and what is open around it. -/
lemma opened_split {opened : List NodeId} (h : n ∈ opened) :
    opened.takeWhile (· != n) ++ n :: opened.drop ((opened.takeWhile (· != n)).length + 1) =
      opened := by
  induction opened with
  | nil => cases h
  | cons m rest ih =>
      by_cases heq : m = n
      · simp [heq]
      · have hrest := ih ((List.mem_cons.mp h).resolve_left fun h => heq h.symm)
        simpa [heq] using hrest

/-- Whatever is open within a formatting element may be open within a body. -/
lemma Steady.inner_of_within {tag : Tag} (hs : Steady b) (hentry : .element n tag ∈ b.formatting)
    (hopened : n ∈ b.opened) {m : NodeId} (hm : m ∈ b.opened.takeWhile (· != n)) : Inner b m := by
  have hyoung := (hs.formatting n tag hentry).1
  have hsplit := opened_split hopened
  have hmem : m ∈ b.opened := (List.takeWhile_sublist _).subset hm
  have horder := hs.order
  rw [← hsplit, List.pairwise_append, List.pairwise_cons] at horder
  obtain ⟨-, ⟨-, -⟩, hacross⟩ := horder
  have hnobody : ∀ k ∈ b.opened.takeWhile (· != n), b.tree.label? k ≠ some (.html, "body") := by
    intro k hk hbody
    have hlt := hacross k hk n List.mem_cons_self (.inl hbody)
    have hgt := hyoung.body k ⟨(List.takeWhile_sublist _).subset hk, hbody⟩
    exact Nat.lt_asymm hlt hgt
  refine ⟨⟨hs.inTree m hmem, fun g hg => ?_⟩, hnobody m hm, hs.template m hmem⟩
  have hg' := hg.1
  rw [← hsplit] at hg'
  have houter := (List.mem_append.mp hg').resolve_left fun hin => hnobody g hin hg.2
  exact hacross m hm g houter (.inr hg.2)

/-- A block is taken out of a formatting element and put into what is open around that. -/
lemma reworked_put {target : Option NodeId} {place : Place} {u : Unit} (hs : Steady b)
    (hn : Younger b n) (hplaced : placeFor target b = some (place, b))
    (hput : putNode place n b = some (u, b')) : Reworked b b' := by
  obtain ⟨p, rfl⟩ := placeFor_inPlace hs.inPlace hplaced
  exact reworked_append hs hn hput

/-- The content of a block moves into a new element, which the block then holds. -/
lemma reworked_rewrap {tag : Tag} [Usual tag] {block m : NodeId} {b₁ b₂ : Builder} {u v : Unit}
    (hs : Steady b) (hblock : Inner b block)
    (hmake : newElement (elementOf tag) b = some (m, b₁))
    (hmove : changeTree (fun t => some (t.moveChildren block m)) b₁ = some (u, b₂))
    (happend : changeTree (·.append block m) b₂ = some (v, b')) :
    Reworked b b' ∧ Inner b' m ∧ Inner b' block := by
  obtain ⟨hmade, hm⟩ := reworked_newElement hs hmake
  have hfilled := reworked_moveChildren hmade.steady hmove
  have hyoung := hfilled.younger hmade.steady hm.toYounger
  have happended := hfilled.trans (reworked_append hfilled.steady hyoung happend)
  have hall := hmade.trans happended
  exact ⟨hall, happended.inner hmade.steady hm, hall.inner hs hblock⟩

lemma steady_closeFormattingOnce {name : String} {more : Bool} (hs : Steady b)
    (h : closeFormattingOnce name b = some (more, b')) :
    Steady b' ∧ b'.mode = b.mode ∧ b'.returnMode = b.returnMode := by
  rw [closeFormattingOnce, get_bind] at h
  rcases hfind : (sinceMarker b.formatting).find? fun p => p.2.name == name with _ | ⟨n, tag⟩ <;>
    rw [hfind] at h
  · have hclose : Keeps Mild (do closeOther name; return false : Build Bool) := inferInstance
    exact hclose.keeps b more b' h hs
  dsimp only at h
  have hentry : .element n tag ∈ b.formatting :=
    mem_of_mem_sinceMarker (List.mem_of_find?_eq_some hfind)
  have husual := (hs.formatting n tag hentry).2
  have hforget : Keeps Mild (do forget n; return false : Build Bool) := inferInstance
  split at h
  · exact hforget.keeps b more b' h hs
  next hopened =>
  split at h
  · cases h
    exact ⟨hs, rfl, rfl⟩
  have hmem : n ∈ b.opened := by simpa using hopened
  have hinner := fun m => hs.inner_of_within hentry hmem (m := m)
  generalize b.opened.takeWhile (· != n) = within at h hinner
  rcases hfound : within.reverse.find? fun m => (b.tree.element? m).any Element.isSpecial
    with _ | block <;> rw [hfound] at h
  -- without a block the element is closed as any other
  · obtain ⟨u, b₁, hclose, hrest⟩ := bind_eq_some h
    cases hclose
    have hclosed : Steady { b with opened := b.opened.drop (within.length + 1) } :=
      hs.shrink rfl rfl (List.drop_sublist _ _) fun _ _ => id
    obtain ⟨hsteady, hmode, hreturn⟩ := hforget.keeps _ more b' hrest hclosed
    exact ⟨hsteady, hmode, hreturn⟩
  rcases houter : b.opened.drop (within.length + 1) with _ | ⟨ancestor, around⟩ <;>
    rw [houter] at h
  · cases h
  dsimp only at h
  obtain ⟨⟨last, kept, mark⟩, b₁, hsplit, h⟩ := bind_eq_some h
  obtain ⟨u, b₂, hdetach, h⟩ := bind_eq_some h
  obtain ⟨place, b₃, hplaced, h⟩ := bind_eq_some h
  obtain ⟨v, b₄, hput, h⟩ := bind_eq_some h
  obtain ⟨m, b₅, hmake, h⟩ := bind_eq_some h
  obtain ⟨w, b₆, hmove, h⟩ := bind_eq_some h
  obtain ⟨x, b₇, happend, h⟩ := bind_eq_some h
  obtain ⟨y, b₈, hset, h⟩ := bind_eq_some h
  cases h
  obtain rfl := placeFor_eq hplaced
  have hblock := hinner block (List.mem_reverse.mp (List.mem_of_find?_eq_some hfound))
  obtain ⟨hwork, hlast, hkept⟩ :=
    reworked_splitBetween hs hblock.toYounger (List.forall_mem_nil _) hsplit
  have hdetached := reworked_detach hwork.steady hlast hdetach
  have hlast := hdetached.younger hwork.steady hlast
  have hput := hdetached.trans (reworked_put hdetached.steady hlast hplaced hput)
  have hmoved := hwork.trans hput
  obtain ⟨hwrapped, hm, hblock'⟩ :=
    reworked_rewrap hmoved.steady (hmoved.inner hs hblock) hmake hmove happend
  have hall := hmoved.trans hwrapped
  have hinside : ∀ j ∈ within.takeWhile (· != block) ++ m :: block :: kept, Inner b₇ j := by
    refine List.forall_mem_append.mpr ⟨fun j hj => ?_, List.forall_mem_cons.mpr
      ⟨hm, List.forall_mem_cons.mpr ⟨hblock', fun j hj => ?_⟩⟩⟩
    · exact hall.inner hs (hinner j ((List.takeWhile_sublist _).subset hj))
    · exact (hput.trans hwrapped).inner hwork.steady (hkept j hj)
  have houtside : (ancestor :: around).Sublist b₇.opened := by
    rw [hall.opened, ← houter]
    exact List.drop_sublist _ _
  have hremembered := reworked_formatting hall.steady
    (.bookmark n tag mark hall.steady.formatting hm.toYounger)
  have hopened := hremembered.steady.openWithin
    (fun j hj => hremembered.inner hall.steady (hinside j hj)) houtside
  cases hset
  exact ⟨hopened, hall.mode, hall.returnMode⟩

instance (name : String) : Keeps Mild (closeFormattingOnce name) :=
  ⟨fun _ _ _ h hs => steady_closeFormattingOnce hs h⟩

instance mild_closeFormattingTimes (name : String) (n : Nat) :
    Keeps Mild (closeFormattingTimes name n) := by
  induction n with
  | zero => unfold closeFormattingTimes; infer_instance
  | succ n ih => unfold closeFormattingTimes; infer_instance

instance (name : String) : Keeps Mild (closeFormatting name) := by
  unfold closeFormatting; infer_instance

instance : Keeps Mild closeOpenLink := by
  unfold closeOpenLink
  refine Keeps.andThen fun b => ?_
  dsimp only
  split <;> infer_instance

end PageCrawl.Html.Build
