/-!
# Work queues

Items that are served in the order in which they came in. An item that is served acts on a state
and may add further items, which then come last; what it adds may depend on the state. Where no
item begins an endless chain of additions the queue runs empty.

* `Worker` — what items do and add; `Worker.serve` — serves a queue until it is empty;
* `Queue.wellFounded_next` — why that comes to an end.

On multisets the relation behind this is `Relation.CutExpand`. Here it is one of lists, in the order
in which they are served, and built on the core library alone, since queues are served by it.
-/

namespace WebDispatch

namespace Queue

variable {ι : Type} {adds : ι → ι → Prop}

/-- A queue after its first item has been served. -/
def Next (adds : ι → ι → Prop) (after before : List ι) : Prop :=
  ∃ item rest added, before = item :: rest ∧ after = rest ++ added ∧ ∀ a ∈ added, adds a item

/-- The same for any item of the queue, and up to the order of the items. -/
def Cut (adds : ι → ι → Prop) (after before : List ι) : Prop :=
  ∃ item rest added, before.Perm (item :: rest) ∧ after.Perm (rest ++ added) ∧
    ∀ a ∈ added, adds a item

theorem acc_cut_of_perm {p q : List ι} (h : p.Perm q) (hq : Acc (Cut adds) q) :
    Acc (Cut adds) p := by
  refine Acc.intro p fun r ⟨item, rest, added, hp, hr, hadded⟩ => ?_
  exact hq.inv ⟨item, rest, added, h.symm.trans hp, hr, hadded⟩

theorem acc_cut_append {added q : List ι}
    (h : ∀ a ∈ added, ∀ p, Acc (Cut adds) p → Acc (Cut adds) (a :: p))
    (hq : Acc (Cut adds) q) : Acc (Cut adds) (added ++ q) := by
  induction added with
  | nil => exact hq
  | cons a added ih =>
    exact h a List.mem_cons_self _ (ih fun b hb => h b (List.mem_cons_of_mem a hb))

/-- An item may be put before a queue if those that it adds may. -/
theorem acc_cut_cons {item : ι}
    (h : ∀ a, adds a item → ∀ p, Acc (Cut adds) p → Acc (Cut adds) (a :: p)) {q : List ι}
    (hq : Acc (Cut adds) q) : Acc (Cut adds) (item :: q) := by
  induction hq with
  | intro q hq ih =>
    refine Acc.intro _ fun r ⟨other, rest, added, hbefore, hr, hadded⟩ => acc_cut_of_perm hr ?_
    -- either the item itself is served, or one of the queue behind it
    rcases List.mem_cons.1 (hbefore.mem_iff.2 List.mem_cons_self) with rfl | hmem
    · have hrest := (List.perm_cons other).1 hbefore
      refine acc_cut_of_perm (List.perm_append_comm.trans (hrest.symm.append_left added)) ?_
      exact acc_cut_append (fun a ha => h a (hadded a ha)) (Acc.intro q hq)
    · obtain ⟨left, right, rfl⟩ := List.append_of_mem hmem
      have hswap : (item :: (left ++ other :: right)).Perm (other :: item :: (left ++ right)) :=
        (List.perm_middle.cons item).trans (.swap other item _)
      have hrest := (List.perm_cons other).1 (hswap.symm.trans hbefore)
      refine acc_cut_of_perm (hrest.symm.append_right added) ?_
      exact ih _ ⟨other, left ++ right, added, List.perm_middle, .refl _, hadded⟩

theorem acc_cut (h : WellFounded adds) (q : List ι) : Acc (Cut adds) q := by
  -- the induction is on the item: those that it adds may be put before a queue already
  have hcons : ∀ item p, Acc (Cut adds) p → Acc (Cut adds) (item :: p) := fun item =>
    h.induction item fun _ ih _ hp => acc_cut_cons ih hp
  exact List.append_nil q ▸ acc_cut_append (fun a _ => hcons a)
    (Acc.intro [] fun _ ⟨_, _, _, hnil, _⟩ => nomatch hnil.length_eq)

/-- Queues run empty where no item begins an endless chain of additions. -/
theorem wellFounded_next (h : WellFounded adds) : WellFounded (Next adds) := by
  refine Subrelation.wf (fun ⟨item, rest, added, hbefore, hafter, hadded⟩ => ?_)
    (WellFounded.intro (acc_cut h))
  exact ⟨item, rest, added, hbefore ▸ .refl _, hafter ▸ .refl _, hadded⟩

end Queue

/-- What the items of a queue do. -/
structure Worker (ι σ : Type) where
  /-- What an item makes of the state. -/
  act : ι → σ → σ
  /-- The items that it adds meanwhile. -/
  adds : ι → σ → List ι
  /-- No item begins an endless chain of additions. -/
  wellFounded : WellFounded fun a item => ∃ s, a ∈ adds item s

namespace Worker

variable {ι σ : Type}

/-- A queue, compared with others by what is left to do. -/
structure Waiting (w : Worker ι σ) where
  items : List ι

instance (w : Worker ι σ) : WellFoundedRelation w.Waiting where
  rel after before := Queue.Next (fun a item => ∃ s, a ∈ w.adds item s) after.items before.items
  wf := InvImage.wf Waiting.items (Queue.wellFounded_next w.wellFounded)

def serve (w : Worker ι σ) (queue : List ι) (s : σ) : σ :=
  match queue with
  | [] => s
  | item :: rest => w.serve (rest ++ w.adds item s) (w.act item s)
termination_by (⟨queue⟩ : w.Waiting)
decreasing_by exact ⟨item, rest, w.adds item s, rfl, rfl, fun _ ha => ⟨s, ha⟩⟩

end Worker

end WebDispatch
