import WebDispatch.Configuration.Recording

/-!
# The ground of declarations

Declarations are made on a ground that they leave alone: the scope, the includes that have been
begun, and what can be included by name. What they record carries the scope. A commit takes
everything out of the ledger and changes the registry.

* `Configurator.SameGround` — the ground is left alone; `Configurator.Adds` — and actions of the
  present scope are added to the ledger;
* `declare_adds` — so it is for declarations; `commit_eq` — what a commit does instead.
-/

namespace WebDispatch

open Effect

/-! ## What can be included by name -/

namespace Catalog

def inclusion? (e : String × Definition) : Option (String × IncludeBody) :=
  (DefinitionKind.inclusion.select e.2).map fun body => (e.1, body)

/-- The configurations that can be included by name. -/
def inclusions (c : Catalog) : List (String × IncludeBody) :=
  (c.entries.toList ++ c.submitted).filterMap inclusion?

/-- Anything else that is given a name may only hide a configuration. -/
theorem inclusions_define_sublist (c : Catalog) (name : String) {d : Definition}
    (h : DefinitionKind.inclusion.select d = none) :
    (c.define name d).inclusions.Sublist c.inclusions := by
  have hinsert : ∀ entries : List (String × Definition),
      ((OrderedMap.insertEntry (DottedName.canonical name) d entries).filterMap inclusion?).Sublist
        (entries.filterMap inclusion?) := by
    have hd (rest : List (String × Definition)) :
        ((DottedName.canonical name, d) :: rest).filterMap inclusion? = rest.filterMap inclusion? :=
      List.filterMap_cons_none (by rw [inclusion?, h]; rfl)
    intro entries
    induction entries with
    | nil => exact hd [] ▸ .refl _
    | cons e rest ih =>
        rw [OrderedMap.insertEntry]
        split
        · exact hd rest ▸ (List.sublist_cons_self e rest).filterMap inclusion?
        · cases he : inclusion? e with
          | none => rwa [List.filterMap_cons_none he, List.filterMap_cons_none he]
          | some p =>
              rw [List.filterMap_cons_some he, List.filterMap_cons_some he]
              exact ih.cons_cons p
  rw [inclusions, inclusions, List.filterMap_append, List.filterMap_append]
  exact (hinsert c.entries.toList).append (.refl _)

end Catalog

namespace Configurator

variable {α : Type}

/-! ## What is left alone -/

/-- The ground is left alone: the scope, the includes that have been begun, and what can be
included, of which something may be hidden by another thing of its name. -/
structure SameGround (c c' : Configurator) : Prop where
  scope : c'.toScope = c.toScope
  included : c'.included = c.included
  inclusions : c'.catalog.inclusions.Sublist c.catalog.inclusions

/-- The ground is left alone, and actions of the present scope are added to the ledger. -/
structure Adds (c c' : Configurator) : Prop extends SameGround c c' where
  actions : ∃ added, c'.actions = c.actions ++ added ∧ ∀ a ∈ added, a.includePath = c.includePath

/-- At most the registry is changed, and something reported. -/
def SameApart (c c' : Configurator) : Prop := c' = { c with toSetup := c'.toSetup }

instance : Std.Refl SameApart where
  refl _ := rfl

instance : Trans SameApart SameApart SameApart where
  trans h k := by
    rw [SameApart] at *
    rw [k, h]

theorem SameGround.adds {c c' : Configurator} (h : SameGround c c')
    (hactions : c'.actions = c.actions) : Adds c c' :=
  ⟨h, [], by rw [hactions, List.append_nil], fun _ ha => absurd ha List.not_mem_nil⟩

instance : Std.Refl Adds where
  refl _ := SameGround.adds ⟨rfl, rfl, .refl _⟩ rfl

instance : Trans Adds Adds Adds where
  trans {c c₁ _} h k := by
    obtain ⟨added₁, hactions₁, hpath₁⟩ := h.actions
    obtain ⟨added₂, hactions₂, hpath₂⟩ := k.actions
    have hscope : c₁.includePath = c.includePath := congrArg Scope.includePath h.scope
    constructor
    · exact ⟨k.scope.trans h.scope, k.included.trans h.included,
        k.inclusions.trans h.inclusions⟩
    · refine ⟨added₁ ++ added₂, by rw [hactions₂, hactions₁, List.append_assoc], fun a ha => ?_⟩
      rcases List.mem_append.1 ha with h₁ | h₂
      · exact hpath₁ a h₁
      · exact (hpath₂ a h₂).trans hscope

theorem SameApart.adds {c c' : Configurator} (h : SameApart c c') : Adds c c' := by
  rw [h]
  exact SameGround.adds ⟨rfl, rfl, .refl _⟩ rfl

/-! ## Steps of declarations -/

theorem setup_sameApart (s : Effect Setup α) : (setup s).Keeps SameApart := .within s fun _ _ => rfl

theorem setup_adds (s : Effect Setup α) : (setup s).Keeps Adds :=
  .within s fun _ _ => SameApart.adds rfl

theorem define_adds (name : String) {d : Definition}
    (h : DefinitionKind.inclusion.select d = none) : (define name d).Keeps Adds := by
  intro c
  rw [define]
  change Adds c ((ofExcept (DottedName.absolute name c.package) >>= fun absolute =>
    (set { c with catalog := c.catalog.define absolute d } : Configuring Unit)) c).2
  cases DottedName.absolute name c.package with
  | error e => exact Std.Refl.refl c
  | ok absolute =>
      exact SameGround.adds ⟨rfl, rfl, c.catalog.inclusions_define_sublist absolute h⟩ rfl

theorem act_adds (site : Site) (d : Option Discriminator) (f : Option (Effect Setup Unit))
    (order : Int) (is : List Introspectable) : (act site d f order is).Keeps Adds := by
  intro c
  rw [act_apply]
  split
  · exact (setup_adds _).bind (fun _ => setup_adds _) c
  · exact ⟨⟨rfl, rfl, .refl _⟩, [_], rfl, fun b hb => List.mem_singleton.1 hb ▸ rfl⟩

/-- A commit takes everything out of the ledger; what it carries out changes the registry. -/
theorem commit_eq (c : Configurator) :
    ∃ t, (commit c).2 = { c with actions := [], toSetup := t } := by
  let carryOut : Configuring Unit := do
    let order ← setup (Setup.reporting (Ledger.resolveReporting c.actions))
    report .debug "committing configuration"
    order.forM fun a => setup a.execute
  have hcarryOut : carryOut.Keeps SameApart :=
    (setup_sameApart _).bind fun order =>
      (setup_sameApart _).bind fun _ => .forM fun a _ => setup_sameApart a.execute
  exact ⟨_, hcarryOut { c with actions := [] }⟩

/-! ## Declarations -/

/-- Any declaration but a commit adds actions of the present scope, and leaves the ground alone.
A tween that comes with its factory also gives a name to that, which is no configuration. -/
theorem declare_adds (site : Site) (d : Declaration) (hd : d ≠ .commit) :
    (declare site d).Keeps Adds :=
  declare_keeps site hd (fun _ _ _ _ _ _ => act_adds _ _ _ _ _)
    (fun name _ => define_adds name rfl) fun _ => setup_adds _

end Configurator

end WebDispatch
