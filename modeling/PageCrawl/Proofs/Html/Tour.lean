import Mathlib
import PageCrawl.Proofs.Html.Walk

/-!
# Walks that come back

A walk goes down by first children and on by neighbours, but back up by the parent that the last
child of a list names.  `Tour` says of the children of a node that the last of them names this node,
and the same of what is below each of them; it lists the edges that are met there.

**What a tour is.**  There is but one (`Tour.unique`), and below each node that it enters lies the
part of it between entering and leaving this node (`Tour.exists_part`).  It enters just what lies
`Below` the node (`Tour.enter_mem_iff`), and no node twice (`Tour.nodup`).

**The walk takes it.**  Where a tour is to be had, the walk is this tour (`Tour.walk_eq`): it is not
too long for the table, since it meets no edge twice.

Nothing of this is true of every page.  Of two walks over any table at all, one from a node that the
other one meets, it can be said that they go the same way until one of them ends
(`walkFrom_comparable`).
-/

namespace PageCrawl.Html.Tree

variable {t : Tree} {p q c m n s start : NodeId} {o : Option NodeId} {es es' : List Edge}

/-- **What lies below a node**: its first child, and of what lies below it the first child and the
neighbour after. -/
inductive Below (t : Tree) (n : NodeId) : NodeId → Prop
  | child {c : NodeId} (h : t.firstChild? n = some c) : Below t n c
  | next {m s : NodeId} (hm : Below t n m) (h : t.next? m = some s) : Below t n s
  | down {m c : NodeId} (hm : Below t n m) (h : t.firstChild? m = some c) : Below t n c

/-- **The tour of the children of a node**, from one of them on.  The last of them names the node as
its parent, and they all have a tour of their own children. -/
inductive Tour (t : Tree) : NodeId → Option NodeId → List Edge → Prop
  | nil {p : NodeId} : Tour t p none []
  | cons {p c : NodeId} {es es' : List Edge} (hparent : t.next? c = none → t.parent? c = some p)
      (hbelow : Tour t c (t.firstChild? c) es) (hafter : Tour t p (t.next? c) es') :
      Tour t p (some c) (.enter c :: (es ++ .leave c :: es'))

/-- What is below a node is linked as a tree. -/
def Whole (t : Tree) (n : NodeId) : Prop := ∃ es, t.Tour n (t.firstChild? n) es

/-- The nodes that are entered. -/
def entered (es : List Edge) : List NodeId :=
  es.filterMap fun
    | .enter n => some n
    | .leave _ => none

@[simp] lemma entered_nil : entered [] = [] := rfl

@[simp] lemma entered_enter (n : NodeId) (es : List Edge) :
    entered (.enter n :: es) = n :: entered es := rfl

@[simp] lemma entered_leave (n : NodeId) (es : List Edge) :
    entered (.leave n :: es) = entered es := rfl

@[simp] lemma entered_append (es es' : List Edge) :
    entered (es ++ es') = entered es ++ entered es' :=
  List.filterMap_append

lemma mem_entered : n ∈ entered es ↔ .enter n ∈ es := by
  refine List.mem_filterMap.trans ⟨?_, fun h => ⟨_, h, rfl⟩⟩
  rintro ⟨e | e, he, hen⟩
  · cases hen
    exact he
  · cases hen

lemma descendants_eq (t : Tree) (n : NodeId) : t.descendants n = entered (t.walk n).tail := rfl

/-! ## Parts of a tour -/

/-- A tour does not depend on whose children they are. -/
lemma Tour.unique (h : t.Tour p o es) (h' : t.Tour q o es') : es = es' := by
  induction h generalizing q es' with
  | nil =>
      cases h'
      rfl
  | cons _ _ _ ihbelow ihafter =>
      cases h' with
      | cons _ hbelow hafter => rw [ihbelow hbelow, ihafter hafter]

/-- What is met on a tour is its first node, or it is met below this node or after it. -/
lemma met_cases (hm : .enter m ∈ .enter c :: (es ++ .leave c :: es') ∨
    .leave m ∈ .enter c :: (es ++ .leave c :: es')) :
    m = c ∨ (.enter m ∈ es ∨ .leave m ∈ es) ∨ .enter m ∈ es' ∨ .leave m ∈ es' := by
  simp only [List.mem_cons, List.mem_append, Edge.enter.injEq, Edge.leave.injEq, reduceCtorEq,
    false_or] at hm
  rcases hm with (rfl | hm | hm) | hm | rfl | hm
  · exact .inl rfl
  · exact .inr (.inl (.inl hm))
  · exact .inr (.inr (.inl hm))
  · exact .inr (.inl (.inr hm))
  · exact .inl rfl
  · exact .inr (.inr (.inr hm))

/-- **What is met below a node of a tour is a part of the tour**, between entering and leaving the
node. -/
lemma Tour.exists_part (h : t.Tour p o es) (hm : .enter m ∈ es ∨ .leave m ∈ es) :
    ∃ before part after, t.Tour m (t.firstChild? m) part ∧
      es = before ++ .enter m :: (part ++ .leave m :: after) := by
  induction h with
  | nil => simp at hm
  | @cons p c es es' _ hbelow _ ihbelow ihafter =>
      rcases met_cases hm with rfl | hin | hin
      · exact ⟨[], es, es', hbelow, rfl⟩
      · obtain ⟨before, part, after, hpart, rfl⟩ := ihbelow hin
        exact ⟨.enter c :: before, part, after ++ .leave c :: es', hpart, by simp⟩
      · obtain ⟨before, part, after, hpart, rfl⟩ := ihafter hin
        exact ⟨.enter c :: (es ++ .leave c :: before), part, after, hpart, by simp⟩

/-- The tour below a node does not come to the node. -/
lemma Tour.not_mem_self (h : t.Tour n (t.firstChild? n) es) :
    .enter n ∉ es ∧ .leave n ∉ es := by
  refine not_or.mp fun hn => ?_
  obtain ⟨before, part, after, hpart, heq⟩ := h.exists_part hn
  obtain rfl := h.unique hpart
  have hlength := congrArg List.length heq
  simp only [List.length_append, List.length_cons] at hlength
  omega

/-- The nodes of a tour are in the table: one that has no neighbour after it names a parent. -/
lemma Tour.lt_size (h : t.Tour p o es) (hm : .enter m ∈ es ∨ .leave m ∈ es) :
    m < t.nodes.size := by
  induction h with
  | nil => simp at hm
  | @cons p c es es' hparent _ _ ihbelow ihafter =>
      have hc : c < t.nodes.size := by
        cases hnext : t.next? c with
        | none => exact lt_size_of_parent? (hparent hnext)
        | some s =>
            obtain ⟨y, hy, -⟩ := Option.bind_eq_some_iff.mp hnext
            exact lt_size_of_node? hy
      rcases met_cases hm with rfl | hin | hin
      · exact hc
      · exact ihbelow hin
      · exact ihafter hin

/-! ## What a tour enters -/

lemma Tour.below_of_enter_mem (h : t.Tour p o es) (ho : ∀ c, o = some c → t.Below n c) :
    ∀ m, .enter m ∈ es → t.Below n m := by
  induction h with
  | nil => simp
  | @cons p c es es' _ _ _ ihbelow ihafter =>
      have hc := ho c rfl
      intro m hm
      simp only [List.mem_cons, List.mem_append, Edge.enter.injEq, reduceCtorEq, false_or] at hm
      rcases hm with rfl | hm | hm
      · exact hc
      · exact ihbelow (fun _ h => hc.down h) m hm
      · exact ihafter (fun _ h => hc.next h) m hm

/-- A tour begins with the node from which it is taken. -/
lemma Tour.enter_mem (h : t.Tour p (some c) es) : .enter c ∈ es := by
  cases h with
  | cons => exact List.mem_cons_self

lemma Tour.enter_next (h : t.Tour p o es) (hm : .enter m ∈ es) (hs : t.next? m = some s) :
    .enter s ∈ es := by
  induction h with
  | nil => simp at hm
  | @cons p c es es' _ _ hafter ihbelow ihafter =>
      simp only [List.mem_cons, List.mem_append, Edge.enter.injEq, reduceCtorEq,
        false_or] at hm ⊢
      rcases hm with rfl | hm | hm
      · exact .inr (.inr (hs ▸ hafter).enter_mem)
      · exact .inr (.inl (ihbelow hm))
      · exact .inr (.inr (ihafter hm))

lemma Tour.enter_down (h : t.Tour p o es) (hm : .enter m ∈ es) (hc : t.firstChild? m = some c) :
    .enter c ∈ es := by
  obtain ⟨before, part, after, hpart, rfl⟩ := h.exists_part (.inl hm)
  have hin : .enter c ∈ part := (hc ▸ hpart).enter_mem
  simp [hin]

/-- **The tour below a node enters just what lies below it.** -/
lemma Tour.enter_mem_iff (h : t.Tour n (t.firstChild? n) es) : .enter m ∈ es ↔ t.Below n m := by
  refine ⟨h.below_of_enter_mem (fun _ hc => .child hc) m, fun hm => ?_⟩
  induction hm with
  | child hc => exact (hc ▸ h).enter_mem
  | next _ hs ih => exact h.enter_next ih hs
  | down _ hc ih => exact h.enter_down ih hc

/-! ## The walk -/

/-- Where a walk goes on among the children of a node: to one of them, or back to the node. -/
def onto (p : NodeId) : Option NodeId → Edge
  | some c => .enter c
  | none => .leave p

/-- **A walk takes a tour**, if it does not end on it, and then comes back to the node. -/
lemma Tour.walkFrom_eq (h : t.Tour p o es) (hstart : .leave start ∉ es) (k : Nat) :
    t.walkFrom start (es.length + k) (onto p o) [] = es ++ t.walkFrom start k (.leave p) [] := by
  induction h generalizing k with
  | nil => simp [onto]
  | @cons p c es es' hparent _ _ ihbelow ihafter =>
      simp only [List.mem_cons, List.mem_append, reduceCtorEq, Edge.leave.injEq, false_or,
        not_or] at hstart
      obtain ⟨hbelow, hne, hafter⟩ := hstart
      have hdown : t.nextEdge start (.enter c) = some (onto c (t.firstChild? c)) := by
        rw [nextEdge]
        cases t.firstChild? c <;> rfl
      have hon : t.nextEdge start (.leave c) = some (onto p (t.next? c)) := by
        rw [nextEdge, if_neg (by simpa using Ne.symm hne)]
        cases hnext : t.next? c with
        | none => simp [hparent hnext, onto]
        | some s => rfl
      have hlength : (Edge.enter c :: (es ++ .leave c :: es')).length + k =
          es.length + (es'.length + k + 1) + 1 := by
        simp only [List.length_cons, List.length_append]
        omega
      rw [hlength, onto, walkFrom_succ, hdown, Option.map_some, Option.getD_some,
        ihbelow hbelow, walkFrom_succ, hon, Option.map_some, Option.getD_some, ihafter hafter]
      simp

/-- The walk through a node with a tour, whatever room it has beyond that. -/
lemma Tour.walkFrom_self (h : t.Tour n (t.firstChild? n) es) (k : Nat) :
    t.walkFrom n (es.length + 2 + k) (.enter n) [] = .enter n :: (es ++ [.leave n]) := by
  have hdown : t.nextEdge n (.enter n) = some (onto n (t.firstChild? n)) := by
    rw [nextEdge]
    cases t.firstChild? n <;> rfl
  have hend : t.nextEdge n (.leave n) = none := by simp [nextEdge]
  have hroom : es.length + 2 + k = es.length + (k + 1) + 1 := by omega
  rw [hroom, walkFrom_succ, hdown, Option.map_some, Option.getD_some,
    h.walkFrom_eq h.not_mem_self.2, walkFrom_succ, hend]
  rfl

/-- A walk from one of its edges on is the walk that starts there, with less room. -/
lemma walkFrom_append {k : Nat} {e e' : Edge} {before after : List Edge}
    (h : t.walkFrom start k e [] = before ++ e' :: after) :
    e' :: after = t.walkFrom start (k - before.length) e' [] := by
  induction before generalizing k e with
  | nil =>
      cases k with
      | zero => cases h
      | succ k =>
          rw [List.nil_append] at h
          obtain rfl : e = e' := by
            rw [walkFrom_succ] at h
            exact (List.cons.inj h).1
          exact h.symm
  | cons f before ih =>
      cases k with
      | zero => cases h
      | succ k =>
          rw [walkFrom_succ, List.cons_append] at h
          have htail := (List.cons.inj h).2
          cases hnext : t.nextEdge start e with
          | none => simp [hnext] at htail
          | some e₁ =>
              rw [hnext, Option.map_some, Option.getD_some] at htail
              rw [ih htail, List.length_cons, Nat.add_sub_add_right]

/-- **A walk that comes back meets no edge twice**, for else it would go round. -/
lemma Tour.nodup (h : t.Tour n (t.firstChild? n) es) :
    (Edge.enter n :: (es ++ [.leave n])).Nodup := by
  rw [List.nodup_iff_sublist]
  intro e htwice
  obtain ⟨front, back, heq, hfront, hback⟩ := List.cons_sublist_iff.mp htwice
  obtain ⟨before, between, rfl⟩ := List.append_of_mem hfront
  obtain ⟨between', after, rfl⟩ := List.append_of_mem (List.singleton_sublist.mp hback)
  -- with as much more room as lies between the two, the walk from the second is that from the first
  have hfirst := walkFrom_append ((h.walkFrom_self 0).trans
    (heq.trans (List.append_assoc before (e :: between) (between' ++ e :: after))))
  have hsecond := walkFrom_append ((h.walkFrom_self (between.length + between'.length + 1)).trans
    (heq.trans (List.append_assoc (before ++ e :: between) between' (e :: after)).symm))
  have hroom : es.length + 2 + (between.length + between'.length + 1) -
      (before ++ e :: between ++ between').length = es.length + 2 + 0 - before.length := by
    simp only [List.length_append, List.length_cons]
    omega
  rw [hroom, ← hfirst] at hsecond
  have hlength := congrArg List.length hsecond
  simp only [List.append_eq, List.length_cons, List.length_append] at hlength
  omega

/-- **Where there is a tour, the walk is this tour.** -/
lemma Tour.walk_eq (h : t.Tour n (t.firstChild? n) es) (hn : n < t.nodes.size) :
    t.walk n = .enter n :: (es ++ [.leave n]) := by
  have hsub : (Edge.enter n :: (es ++ [.leave n])) ⊆
      (List.range t.nodes.size).flatMap fun m => [.enter m, .leave m] := by
    intro e he
    have hedge : ∀ m, (e = .enter m ∨ e = .leave m) → m < t.nodes.size := by
      intro m hm
      by_cases heq : m = n
      · exact heq ▸ hn
      · refine h.lt_size (hm.imp ?_ ?_) <;> rintro rfl <;> simpa [heq] using he
    simp only [List.mem_flatMap, List.mem_range, List.mem_cons, List.not_mem_nil, or_false]
    cases e with
    | enter m => exact ⟨m, hedge m (.inl rfl), .inl rfl⟩
    | leave m => exact ⟨m, hedge m (.inr rfl), .inr rfl⟩
  have hroom : es.length + 2 ≤ 2 * t.nodes.size := by
    have hlength := (h.nodup.subperm hsub).length_le
    simp only [List.length_cons, List.length_append, List.length_nil, List.length_flatMap,
      List.map_const', List.length_range, List.sum_replicate, smul_eq_mul] at hlength
    omega
  obtain ⟨k, hk⟩ := Nat.exists_eq_add_of_le hroom
  rw [walk, hk, h.walkFrom_self]

lemma Tour.descendants_eq (h : t.Tour n (t.firstChild? n) es) (hn : n < t.nodes.size) :
    t.descendants n = entered es := by
  rw [Tree.descendants_eq, h.walk_eq hn, List.tail_cons, entered_append, entered_leave,
    entered_nil, List.append_nil]

lemma Tour.nodup_entered (h : t.Tour n (t.firstChild? n) es) : (entered es).Nodup := by
  have hes : es.Nodup := (List.nodup_append.mp (List.nodup_cons.mp h.nodup).2).1
  refine hes.filterMap ?_
  rintro (m | m) (m' | m') x hx hx' <;> simp_all

/-- **What lies below a node stands together on the walk through the root**, right behind the node
and in the order of the walk through it; what stands elsewhere does not lie below it. -/
lemma Whole.descendants_split (h : t.Whole start) (hstart : start < t.nodes.size)
    (hn : n ∈ t.descendants start) : ∃ before after,
      t.descendants start = before ++ n :: (t.descendants n ++ after) ∧
      (∀ m ∈ t.descendants n, t.Below n m) ∧ ∀ m ∈ before ++ n :: after, ¬ t.Below n m := by
  obtain ⟨es, htour⟩ := h
  have hnodup := htour.nodup_entered
  rw [htour.descendants_eq hstart, mem_entered] at hn
  obtain ⟨before, part, after, hpart, rfl⟩ := htour.exists_part (.inl hn)
  rw [htour.descendants_eq hstart, hpart.descendants_eq (htour.lt_size (.inl hn))]
  have hbelow : ∀ m, t.Below n m ↔ m ∈ entered part := fun m =>
    hpart.enter_mem_iff.symm.trans mem_entered.symm
  simp only [entered_append, entered_enter, entered_leave] at hnodup ⊢
  refine ⟨entered before, entered after, rfl, fun m hm => (hbelow m).mpr hm, fun m hm hlow => ?_⟩
  have hin := (hbelow m).mp hlow
  simp only [List.mem_append, List.mem_cons] at hm
  rw [List.nodup_append, List.nodup_cons, List.nodup_append] at hnodup
  obtain ⟨-, ⟨hself, -, -, hafter⟩, hbefore⟩ := hnodup
  rcases hm with hm | rfl | hm
  · exact hbefore m hm m (by simp [hin]) rfl
  · exact hself (by simp [hin])
  · exact hafter m hin m hm rfl

open scoped Classical in
/-- **On a whole tree the walk through a node meets what lies below it**, and nothing else. -/
lemma Whole.filter_descendants (h : t.Whole start) (hstart : start < t.nodes.size)
    (hn : n = start ∨ n ∈ t.descendants start) :
    (t.descendants start).filter (fun m => t.Below n m) = t.descendants n := by
  rcases hn with rfl | hn
  · obtain ⟨es, htour⟩ := h
    rw [htour.descendants_eq hstart, List.filter_eq_self]
    exact fun m hm => decide_eq_true (htour.enter_mem_iff.mp (mem_entered.mp hm))
  · obtain ⟨before, after, heq, hbelow, hnot⟩ := h.descendants_split hstart hn
    have hnone : ∀ l : List NodeId, (∀ m ∈ l, ¬ t.Below n m) →
        l.filter (fun m => t.Below n m) = [] := fun l hl =>
      List.filter_eq_nil_iff.mpr fun m hm => by simpa using hl m hm
    have hall : (t.descendants n).filter (fun m => t.Below n m) = t.descendants n :=
      List.filter_eq_self.mpr fun m hm => decide_eq_true (hbelow m hm)
    have hself : ¬ t.Below n n := hnot n (by simp)
    rw [heq, List.filter_append, List.filter_cons_of_neg (by simpa using hself),
      List.filter_append, hall, hnone before fun m hm => hnot m (by simp [hm]),
      hnone after fun m hm => hnot m (by simp [hm]), List.nil_append, List.append_nil]

/-! ## Walks of any kind -/

lemma nextEdge_agree {e e₁ e₂ : Edge} (h : t.nextEdge start e = some e₁)
    (h' : t.nextEdge n e = some e₂) : e₁ = e₂ := by
  cases e with
  | enter m => exact Option.some.inj (h.symm.trans h')
  | leave m =>
      simp only [nextEdge] at h h'
      split at h
      · cases h
      · split at h'
        · cases h'
        · exact Option.some.inj (h.symm.trans h')

/-- Two walks go the same way until one of them ends. -/
lemma walkFrom_comparable (t : Tree) (start start' : NodeId) (j k : Nat) (e : Edge) :
    t.walkFrom start j e [] <+: t.walkFrom start' k e [] ∨
      t.walkFrom start' k e [] <+: t.walkFrom start j e [] := by
  induction j generalizing k e with
  | zero => exact .inl List.nil_prefix
  | succ j ih =>
      cases k with
      | zero => exact .inr List.nil_prefix
      | succ k =>
          rw [walkFrom_succ, walkFrom_succ, List.cons_prefix_cons, List.cons_prefix_cons]
          cases h : t.nextEdge start e with
          | none => exact .inl ⟨rfl, List.nil_prefix⟩
          | some e₁ =>
              cases h' : t.nextEdge start' e with
              | none => exact .inr ⟨rfl, List.nil_prefix⟩
              | some e₂ =>
                  obtain rfl := nextEdge_agree h h'
                  exact (ih k e₁).imp (And.intro rfl) (And.intro rfl)

/-- **From a node on, the walk through it and a walk that meets it go the same way** until one of
them ends, whatever the table says. -/
lemma descendants_comparable (hn : n ∈ t.descendants start) : ∃ before after,
    t.descendants start = before ++ n :: after ∧
      (t.descendants n <+: after ∨ after <+: t.descendants n) := by
  have hwalk : .enter n ∈ (t.walk start).tail := mem_entered.mp hn
  obtain ⟨front, back, heq⟩ := List.append_of_mem hwalk
  obtain ⟨e, hhead⟩ : ∃ e, t.walk start = e :: (front ++ .enter n :: back) := by
    cases hall : t.walk start with
    | nil => simp [hall] at hwalk
    | cons e rest =>
        rw [hall, List.tail_cons] at heq
        exact ⟨e, by rw [heq]⟩
  have hback : .enter n :: back = t.walkFrom start (2 * t.nodes.size - (e :: front).length)
      (.enter n) [] := walkFrom_append hhead
  refine ⟨entered front, entered back, ?_, ?_⟩
  · rw [descendants_eq, heq, entered_append, entered_enter]
  · have hself : t.walk n = .enter n :: (t.walk n).tail := by
      -- there is room for an edge, since the other walk has one
      cases hroom : 2 * t.nodes.size with
      | zero =>
          rw [walk, hroom] at hhead
          cases hhead
      | succ k => rw [walk, hroom, walkFrom_succ, List.tail_cons]
    have hsame := walkFrom_comparable t n start (2 * t.nodes.size)
      (2 * t.nodes.size - (e :: front).length) (.enter n)
    rw [← hback, ← walk, hself, List.cons_prefix_cons, List.cons_prefix_cons] at hsame
    exact hsame.imp (fun h => h.2.filterMap _) fun h => h.2.filterMap _

/-! ## Looking for a tour -/

/-- Takes the tour of the children of a node from one of them on, if there is one; the number bounds
how deep and how far it goes. -/
def tour? (t : Tree) : Nat → NodeId → Option NodeId → Option (List Edge)
  | _, _, none => some []
  | 0, _, some _ => none
  | k + 1, p, some c =>
    if t.next? c = none → t.parent? c = some p then do
      let es ← tour? t k c (t.firstChild? c)
      let es' ← tour? t k p (t.next? c)
      some (.enter c :: (es ++ .leave c :: es'))
    else none

lemma tour_of_tour? {k : Nat} (h : t.tour? k p o = some es) : t.Tour p o es := by
  induction k generalizing p o es with
  | zero =>
      cases o with
      | none =>
          cases h
          exact .nil
      | some c => cases h
  | succ k ih =>
      cases o with
      | none =>
          cases h
          exact .nil
      | some c =>
          rw [tour?] at h
          split at h
          · next hparent =>
              obtain ⟨es₁, hbelow, hrest⟩ := Option.bind_eq_some_iff.mp h
              obtain ⟨es₂, hafter, hall⟩ := Option.bind_eq_some_iff.mp hrest
              cases hall
              exact .cons hparent (ih hbelow) (ih hafter)
          · cases h

lemma whole_of_tour? {k : Nat} (h : (t.tour? k n (t.firstChild? n)).isSome) : t.Whole n := by
  obtain ⟨es, hes⟩ := Option.isSome_iff_exists.mp h
  exact ⟨es, tour_of_tour? hes⟩

end PageCrawl.Html.Tree
