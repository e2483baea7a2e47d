import Mathlib
import PageCrawl.Html.Document
import PageCrawl.Proofs.Html.Early

/-!
# The links of a parsed page

While a page is built, a frameset may replace its body only as long as the body is anchored: up to
the body the page is early (`Early`), and after it steady in a late mode (`Settled`).  A step keeps
this (`orderly_step`), hence the reading of a token and of all tokens do, and the tree of every
parsed page is linked (`Document.linked_of_parse?`).
-/

namespace PageCrawl.Html

namespace Build

variable {b b' : Builder} {t : Token}

/-- A linked page that is early, or steady in a late mode, as long as a frameset may replace its
body. -/
structure Orderly (b : Builder) : Prop where
  linked : b.tree.Linked
  onward : Onward b

lemma Orderly.of_settled (h : Settled b) : Orderly b := ⟨h.linked, fun hok => .inr (h.late hok)⟩

/-- Once a frameset may no longer replace the body, it suffices that no links are lost. -/
lemma Orderly.of_calm {α : Type} {x : Build α} [hx : Keeps Calm x] {a : α} (hb : Orderly b)
    (hok : b.framesetOk = false) (h : x b = some (a, b')) : Orderly b' := by
  have hfirm := hx.keeps b a b' h hok
  exact ⟨hfirm.links hb.linked, fun hok' => absurd (hfirm.frameset hok) (by simp [hok'])⟩

/-- A step keeps a page orderly. -/
lemma orderly_step {o : Outcome} (hb : Orderly b) (h : step t b = some (o, b')) : Orderly b' := by
  cases hok : b.framesetOk with
  | false => exact hb.of_calm hok h
  | true =>
      rcases hb.onward hok with hearly | hlate
      · obtain ⟨hlinked, honward⟩ := hearly.step hb.linked h
        exact ⟨hlinked, honward⟩
      · exact .of_settled (settled_step ⟨hb.linked, fun _ => hlate⟩ h)

lemma orderly_follow {n : Nat} {c : Content} (hb : Orderly b)
    (h : follow n t b = some (c, b')) : Orderly b' := by
  induction n generalizing t b with
  | zero => cases h
  | succ n ih =>
      obtain ⟨o, b₁, hstep, hrest⟩ := bind_eq_some h
      have hb₁ := orderly_step hb hstep
      cases o with
      | again t => exact ih hb₁ hrest
      | done | reads c =>
          cases hrest
          exact hb₁

/-- A doctype is read at the very front, where nothing is open. -/
lemma orderly_readDoctype {d : Doctype} {legacy : Bool} {u : Unit} (hb : Orderly b)
    (h : readDoctype d legacy b = some (u, b')) : Orderly b' := by
  have hfirm : Firm b b' := (inferInstance : Keeps Firm (readDoctype d legacy)).keeps b u b' h
  refine ⟨hfirm.links hb.linked, fun hok' => ?_⟩
  have honward := hb.onward (hfirm.framesetOk hok')
  obtain ⟨c, b₁, hget, hrest⟩ := bind_eq_some h
  cases hget
  split at hrest
  · next hinitial =>
      have hmode : b.mode = .initial := by simpa using hinitial
      obtain ⟨n, b₁, hnew, hput⟩ := bind_eq_some hrest
      obtain ⟨v, b₂, happend, hset⟩ := bind_eq_some hput
      cases hset
      obtain ⟨t, ht, rfl⟩ := changeTree_eq_some happend
      have hadded := (Added.newNode hnew).append (newNode_eq hnew).1.ge (parent?_newNode hnew) ht
      rcases honward with hearly | hlate
      · cases hearly with
        | initial hm hlead =>
            refine .inl (.beforeHtml ?_ ?_)
            · rfl
            · exact (hlead.add hadded).anew .beforeHtml b₁.returnMode legacy
        | beforeHtml hm | beforeHead hm | inHead hm | afterHead hm | headText hm
        | afterHeadText hm =>
            rw [hmode] at hm
            cases hm
      · have hm := hlate.2.mode
        rw [hmode] at hm
        simp [lateModes] at hm
  · cases hrest
    exact honward

/-- That a line feed is dropped plays no part in this. -/
lemma Orderly.keepLineFeed (h : Orderly b) : Orderly { b with dropLineFeed := false } where
  linked := h.linked
  onward hok := (h.onward hok).imp
    (fun hearly => hearly.carry rfl rfl
      (fun _ hl => ⟨hl.inPlace, hl.formatting, hl.opened, hl.plain, hl.head⟩) id)
    fun hlate => ⟨hlate.1.shrink rfl rfl (List.Sublist.refl _) fun _ _ => id,
      hlate.2.mode, hlate.2.returnMode⟩

end Build

namespace Document

open Build

variable {b b' : Builder}

lemma orderly_feed {t : Token} {c : Content} (hb : Orderly b) (h : feed t b = some (c, b')) :
    Orderly b' := by
  have hb₁ := hb.keepLineFeed
  cases t with
  | fault =>
      cases h
      exact hb₁
  | doctype d =>
      obtain ⟨u, hread⟩ := map_eq_some (x := readDoctype d (isLegacy d)) h
      exact orderly_readDoctype hb₁ hread
  | blanks s | words s | startTag tag | endTag name | comment s | nul | eof =>
      simp only [feed] at h
      split at h
      · cases h
        exact hb₁
      · exact orderly_follow hb₁ h

lemma orderly_feedAll {ts : List Token} {c c' : Content} (hb : Orderly b)
    (h : feedAll ts c b = some (c', b')) : Orderly b' := by
  induction ts generalizing b c with
  | nil =>
      cases h
      exact hb
  | cons t ts ih =>
      obtain ⟨c₁, b₁, hfeed, hrest⟩ := bind_eq_some h
      exact ih (orderly_feed hb hfeed) hrest

lemma orderly_build {n : Nat} {c : Content} {element : String} {cs : List Char} {u : Unit}
    (hb : Orderly b) (h : build n c element cs b = some (u, b')) : Orderly b' := by
  induction n generalizing c element cs b with
  | zero =>
      cases h
      exact hb
  | succ n ih =>
      cases cs with
      | nil =>
          cases h
          exact hb
      | cons first rest =>
          obtain ⟨b₀, b₁, hget, hall⟩ := bind_eq_some h
          cases hget
          obtain ⟨c₁, b₁, hfeed, hrest⟩ := bind_eq_some hall
          exact ih (orderly_feedAll hb hfeed) hrest

lemma orderly_start : Orderly {} where
  linked := Tree.linked_empty
  onward _ := .inl <| .initial rfl
    { inPlace := rfl, formatting := rfl, opened := rfl, plain := nofun, head := nofun }

/-- **The tree of every parsed page is linked.** -/
lemma linked_of_parse? {page : String} {d : Document} (h : parse? page = some d) :
    d.tree.Linked := by
  obtain ⟨⟨u, b⟩, hall, rfl⟩ := Option.map_eq_some_iff.mp h
  obtain ⟨v, b₁, hbuild, hend⟩ := bind_eq_some hall
  obtain ⟨c, hfeed⟩ := discard_eq_some hend
  exact (orderly_feed (orderly_build orderly_start hbuild) hfeed).linked

end Document

end PageCrawl.Html
