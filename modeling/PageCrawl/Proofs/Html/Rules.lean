import Mathlib
import PageCrawl.Html.Builder.Rules
import PageCrawl.Proofs.Html.Actions

/-!
# What the rules keep

Every rule of tree building, followed through all its branches, keeps two things: whatever a walk
comes to goes on naming a parent, and once a frameset may no longer replace the body that stays so
(`Firm`).

There is one exception.  A frameset that does replace the body detaches it for good, and the rules
that may lead to it are firm only while no frameset may do so (`Calm`).
-/

namespace PageCrawl.Html.Build

-- rules are long sequences, and every step of one counts
set_option synthInstance.maxSize 4096

variable {α : Type}

/-- Once a frameset may no longer replace the body, it stays so, and no node that is led to loses
its parent. -/
def Calm (b b' : Builder) : Prop := b.framesetOk = false → Firm b b'

instance : Std.Refl Calm := ⟨fun b _ => Std.Refl.refl b⟩
instance : IsTrans Builder Calm :=
  ⟨fun _ _ _ h h' hok => (h hok).trans (h' ((h hok).frameset hok))⟩

instance (priority := low) calm_of_firm {x : Build α} [Keeps Firm x] : Keeps Calm x :=
  Keeps.mono (R := Firm) fun _ _ h _ => h

/-! ## Shared rules -/

instance (m : Mode) (t : Token) : Keeps Firm (againIn m t) := by unfold againIn; infer_instance
instance Keeps.finish {R : Builder → Builder → Prop} [Std.Refl R] [IsTrans Builder R]
    {act : Build Unit} [h : Keeps R act] : Keeps R (finish act) := by
  unfold Build.finish; infer_instance
instance {R : Builder → Builder → Prop} [Std.Refl R] : Keeps R ignore := by
  unfold ignore; infer_instance
instance (tag : Tag) (c : Content) : Keeps Firm (startText tag c) := by
  unfold startText; infer_instance

instance (tag : Tag) : Keeps Firm (startInHead tag) := by
  unfold startInHead
  split <;> infer_instance

instance : Keeps Firm endTemplate := by unfold endTemplate; infer_instance
instance (tag : Tag) : Keeps Firm (startHtmlAgain tag) := by unfold startHtmlAgain; infer_instance
instance : Keeps Firm endInTemplate := by unfold endInTemplate; infer_instance

/-! ## Before the body -/

instance (t : Token) : Keeps Firm (initial t) := by
  unfold initial
  split <;> infer_instance

instance (tag : Tag) : Keeps Firm (startHtml tag) := by unfold startHtml; infer_instance

instance (t : Token) : Keeps Firm (beforeHtml t) := by
  unfold beforeHtml
  dsimp only
  split <;> infer_instance

instance (t : Token) : Keeps Firm (beforeHead t) := by
  unfold beforeHead
  dsimp only
  split <;> infer_instance

instance (t : Token) : Keeps Firm (inHead t) := by
  unfold inHead
  dsimp only
  split <;> infer_instance

instance (t : Token) : Keeps Firm (afterHead t) := by
  unfold afterHead
  dsimp only
  split
  · infer_instance
  · infer_instance
  · repeat' first
      | infer_instance
      | refine Keeps.andThen fun _ => ?_
      | split
  · infer_instance
  · infer_instance

/-! ## The body -/

instance (tag : Tag) : Keeps Firm (startItem tag) := by
  unfold startItem
  refine Keeps.andThen fun _ => Keeps.andThen fun b => ?_
  dsimp only
  split <;> infer_instance

instance (space : Space) (name : String) (tag : Tag) :
    Keeps Firm (startForeign space name tag) := by
  unfold startForeign; infer_instance

instance (tag : Tag) : Keeps Firm (startOther tag) := by unfold startOther; infer_instance
instance (tag : Tag) : Keeps Firm (startEmbedded tag) := by unfold startEmbedded; infer_instance

/-- A frameset does nothing where it may not replace the body. -/
lemma calm_frameset {x : Build Outcome} :
    Keeps Calm (do if (← get).framesetOk then x else return .done : Build Outcome) where
  keeps b a b' h hok := by
    obtain ⟨c, b₁, hget, hrest⟩ := bind_eq_some h
    cases hget
    rw [hok] at hrest
    cases hrest
    exact Std.Refl.refl b

instance (tag : Tag) : Keeps Calm (startInBody tag) := by
  unfold startInBody
  extract_lets tag name
  refine Keeps.choose (fun _ => inferInstance) fun _ => ?_
  refine Keeps.choose (fun _ => inferInstance) fun _ => ?_
  refine Keeps.choose (fun _ => ?_) fun _ => ?_
  · refine Keeps.finish (h := Keeps.andThen fun body => ?_)
    split <;> infer_instance
  refine Keeps.choose (fun _ => calm_frameset) fun _ => ?_
  repeat refine Keeps.choose (fun _ => inferInstance) fun _ => ?_
  infer_instance

instance : Keeps Firm endForm := by
  unfold endForm
  refine Keeps.andThen fun template => ?_
  split
  · infer_instance
  · refine Keeps.andThen fun b => Keeps.andThen fun _ => ?_
    split <;> infer_instance

instance (name : String) : Keeps Firm (endInBody name) := by
  unfold endInBody
  infer_instance

instance (t : Token) : Keeps Calm (inBody t) := by
  unfold inBody
  split <;> infer_instance

instance (t : Token) : Keeps Firm (text t) := by
  unfold text
  split <;> infer_instance

/-! ## Tables -/

instance (t : Token) : Keeps Calm (foster t) := by unfold foster; infer_instance
instance (t : Token) : Keeps Calm (startTableText t) := by unfold startTableText; infer_instance

instance (context : Element → Bool) (tag : Tag) (m : Mode) :
    Keeps Firm (startInTable context tag m) := by
  unfold startInTable; infer_instance

instance (t : Token) : Keeps Calm (inTable t) := by
  unfold inTable
  split <;> infer_instance

instance calm_releaseText (fostered : Bool) (texts : List (Bool × String)) :
    Keeps Calm (releaseText fostered texts) := by
  induction texts with
  | nil => unfold releaseText; infer_instance
  | cons first rest ih => unfold releaseText; infer_instance

instance (t : Token) : Keeps Calm (inTableText t) := by
  unfold inTableText
  split <;> infer_instance

instance (t : Token) : Keeps Calm (inCaption t) := by
  unfold inCaption
  dsimp only
  split <;> infer_instance

instance (t : Token) : Keeps Calm (inColumnGroup t) := by
  unfold inColumnGroup
  dsimp only
  split <;> infer_instance

instance (t : Token) : Keeps Calm (inTableBody t) := by
  unfold inTableBody
  dsimp only
  split <;> infer_instance

instance (t : Token) : Keeps Calm (inRow t) := by
  unfold inRow
  dsimp only
  split <;> infer_instance

instance (t : Token) : Keeps Calm (inCell t) := by
  unfold inCell
  dsimp only
  split <;> infer_instance

/-! ## Choices, templates, framesets and the end -/

instance (t : Token) : Keeps Calm (inSelect t) := by
  unfold inSelect
  split <;> infer_instance

instance (t : Token) : Keeps Calm (inSelectInTable t) := by
  unfold inSelectInTable
  dsimp only
  split <;> infer_instance

instance (t : Token) : Keeps Calm (inTemplate t) := by
  unfold inTemplate
  dsimp only
  split <;> infer_instance

instance (t : Token) : Keeps Calm (afterBody t) := by
  unfold afterBody
  split <;> infer_instance

instance (t : Token) : Keeps Firm (inFrameset t) := by
  unfold inFrameset
  split <;> infer_instance

instance (t : Token) : Keeps Firm (afterFrameset t) := by
  unfold afterFrameset
  split <;> infer_instance

instance (t : Token) : Keeps Calm (afterAfterBody t) := by
  unfold afterAfterBody
  split <;> infer_instance

instance (t : Token) : Keeps Calm (afterAfterFrameset t) := by
  unfold afterAfterFrameset
  split <;> infer_instance

instance (t : Token) : Keeps Calm (inMode t) := by
  unfold inMode
  refine Keeps.andThen fun b => ?_
  split <;> infer_instance

instance (t : Token) : Keeps Calm (foreign t) := by
  unfold foreign
  split
  · infer_instance
  · infer_instance
  · infer_instance
  · infer_instance
  · refine Keeps.choose (fun _ => inferInstance) fun _ => ?_
    refine Keeps.andThen fun n => Keeps.andThen fun e => ?_
    split <;> infer_instance
  · refine Keeps.andThen fun b => ?_
    split <;> infer_instance
  · infer_instance
  · infer_instance
  · infer_instance

instance (t : Token) : Keeps Calm (step t) := by
  unfold step
  refine Keeps.andThen fun b => ?_
  split
  · infer_instance
  · split <;> infer_instance

instance (d : Doctype) (legacy : Bool) : Keeps Firm (readDoctype d legacy) := by
  unfold readDoctype; infer_instance

end PageCrawl.Html.Build
