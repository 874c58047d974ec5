import Mathlib.Tactic.SplitIfs
import WebDispatch.Text.Quoted

/-!
# Values that end by themselves

A way to write values is framed when the value and the place where it ends can be told from the
text, whatever stands behind it. Quoted texts are framed, and so are options, pairs and lists of
framed values.

* `Framed` — the value and what follows it can be told;
* `framed_quoted`, `framed_quotedOptional`, `framed_pair`, `framed_listed` — the shapes in use.
-/

namespace WebDispatch.Text

/-- Two values written with something behind them are the same, and so is what is behind them,
where the texts are the same. -/
def Framed {α : Type} (write : α → String) : Prop :=
  ∀ {a b : α} {rest rest' : List Char},
    (write a).toList ++ rest = (write b).toList ++ rest' → a = b ∧ rest = rest'

/-! ## Numbers -/

theorem digitChar_inj : ∀ m < 16, ∀ n < 16, Nat.digitChar m = Nat.digitChar n → m = n := by decide

theorem digitChar_ne_brace : ∀ n < 16, Nat.digitChar n ≠ '\x7d' := by decide

/-- Digits in a base up to sixteen tell the number. -/
theorem toDigits_inj {base m n : Nat} (hbase : 1 < base) (hsixteen : base ≤ 16)
    (h : Nat.toDigits base m = Nat.toDigits base n) : m = n := by
  -- the digits of a number from the base on are at least two
  have hlong : ∀ {k : Nat}, base ≤ k → 1 < (Nat.toDigits base k).length := by
    intro k hk
    have hpos := Nat.length_toDigits_pos (b := base) (n := k / base)
    rw [Nat.toDigits_of_base_le hbase hk, List.length_append, List.length_singleton]
    omega
  have hshort : ∀ {k : Nat}, k < base → (Nat.toDigits base k).length = 1 := by
    intro k hk
    rw [Nat.toDigits_of_lt_base hk, List.length_singleton]
  have hdigit : ∀ k, k % base < 16 := fun k =>
    Nat.lt_of_lt_of_le (Nat.mod_lt k (by omega)) hsixteen
  induction m using Nat.strongRecOn generalizing n with
  | ind m ih =>
      have hlength := congrArg List.length h
      rcases Nat.lt_or_ge m base with hm | hm <;> rcases Nat.lt_or_ge n base with hn | hn
      · rw [Nat.toDigits_of_lt_base hm, Nat.toDigits_of_lt_base hn] at h
        exact digitChar_inj m (by omega) n (by omega) (List.singleton_inj.mp h)
      · have hone := hshort hm
        have hmore := hlong hn
        omega
      · have hone := hshort hn
        have hmore := hlong hm
        omega
      · rw [Nat.toDigits_of_base_le hbase hm, Nat.toDigits_of_base_le hbase hn] at h
        obtain ⟨hfront, hlast⟩ := List.append_inj' h rfl
        have hquotient := ih (m / base) (Nat.div_lt_self (by omega) hbase) hfront
        have hrest := digitChar_inj (m % base) (hdigit m) (n % base) (hdigit n)
          (List.singleton_inj.mp hlast)
        rw [← Nat.div_add_mod m base, ← Nat.div_add_mod n base, hquotient, hrest]

theorem brace_notMem_toDigits (n : Nat) : '\x7d' ∉ Nat.toDigits 16 n := by
  induction n using Nat.strongRecOn with
  | ind n ih =>
      rw [Nat.toDigits_eq_if (by decide)]
      split
      · next hn =>
        rw [List.mem_singleton]
        exact (digitChar_ne_brace n hn).symm
      · rw [List.mem_append, List.mem_singleton, not_or]
        exact ⟨ih (n / 16) (by omega), (digitChar_ne_brace (n % 16) (by omega)).symm⟩

/-- Where neither of two texts holds a mark, they are told from what they are with the mark and
more behind them. -/
theorem append_cons_inj {mark : Char} {xs ys rest rest' : List Char} (hx : mark ∉ xs)
    (hy : mark ∉ ys) (h : xs ++ mark :: rest = ys ++ mark :: rest') : xs = ys ∧ rest = rest' := by
  induction xs generalizing ys with
  | nil =>
      cases ys with
      | nil => exact ⟨rfl, (List.cons.inj h).2⟩
      | cons y ys => exact absurd ((List.cons.inj h).1 ▸ List.mem_cons_self) hy
  | cons x xs ih =>
      cases ys with
      | nil => exact absurd ((List.cons.inj h).1 ▸ List.mem_cons_self) hx
      | cons y ys =>
          obtain ⟨hhead, htail⟩ := List.cons.inj h
          obtain ⟨hrest, hrest'⟩ := ih (fun hmem => hx (List.mem_cons_of_mem x hmem))
            (fun hmem => hy (List.mem_cons_of_mem y hmem)) htail
          exact ⟨by rw [hhead, hrest], hrest'⟩

/-! ## Quoted texts -/

def shortEscapes : List (Char × Char) :=
  [('"', '"'), ('\\', '\\'), ('\n', 'n'), ('\r', 'r'), ('\t', 't'), ('\x00', '0')]

/-- How a character is written between quotes: as it is, by a short escape or by its number. -/
theorem quotedChar_cases (c : Char) :
    ((quotedChar c).toList = [c] ∧ c ≠ '"' ∧ c ≠ '\\') ∨
      (∃ e, (c, e) ∈ shortEscapes ∧ (quotedChar c).toList = ['\\', e]) ∨
      (quotedChar c).toList = '\\' :: 'u' :: '\x7b' :: (Nat.toDigits 16 c.toNat ++ ['\x7d']) := by
  unfold quotedChar
  split_ifs with hquote hslash hline hreturn htab hzero
  · exact Or.inr (Or.inl ⟨'"', by simp [hquote, shortEscapes], rfl⟩)
  · exact Or.inr (Or.inl ⟨'\\', by simp [hslash, shortEscapes], rfl⟩)
  · exact Or.inr (Or.inl ⟨'n', by simp [hline, shortEscapes], rfl⟩)
  · exact Or.inr (Or.inl ⟨'r', by simp [hreturn, shortEscapes], rfl⟩)
  · exact Or.inr (Or.inl ⟨'t', by simp [htab, shortEscapes], rfl⟩)
  · exact Or.inr (Or.inl ⟨'0', by simp [hzero, shortEscapes], rfl⟩)
  · refine Or.inr (Or.inr ?_)
    rw [String.toList_append, String.toList_append, hexText, String.toList_ofList]
    simp
  · exact Or.inl ⟨by simp, hquote, hslash⟩

theorem shortEscapes_inj : ∀ p ∈ shortEscapes, ∀ q ∈ shortEscapes, p.2 = q.2 → p = q := by decide

theorem shortEscapes_ne_u : ∀ p ∈ shortEscapes, p.2 ≠ 'u' := by decide

theorem framed_quotedChar : Framed quotedChar := by
  intro c d rest rest' h
  rcases quotedChar_cases c with ⟨hc, -, hcslash⟩ | ⟨e, he, hc⟩ | hc <;>
    rcases quotedChar_cases d with ⟨hd, -, hdslash⟩ | ⟨f, hf, hd⟩ | hd <;>
    rw [hc, hd] at h
  · exact List.cons.inj h
  · exact absurd (List.cons.inj h).1 hcslash
  · exact absurd (List.cons.inj h).1 hcslash
  · exact absurd (List.cons.inj h).1.symm hdslash
  · obtain ⟨hef, hrest⟩ := List.cons.inj (List.cons.inj h).2
    exact ⟨congrArg Prod.fst (shortEscapes_inj _ he _ hf hef), hrest⟩
  · exact absurd (List.cons.inj (List.cons.inj h).2).1 (shortEscapes_ne_u _ he)
  · exact absurd (List.cons.inj h).1.symm hdslash
  · exact absurd (List.cons.inj (List.cons.inj h).2).1.symm (shortEscapes_ne_u _ hf)
  · simp only [List.cons_append, List.append_assoc, List.cons.injEq, true_and] at h
    obtain ⟨hdigits, hrest⟩ :=
      append_cons_inj (brace_notMem_toDigits _) (brace_notMem_toDigits _) h
    exact ⟨Char.toNat_inj.mp (toDigits_inj (by decide) (by decide) hdigits), hrest⟩

/-- No character between quotes is written with a quote first. -/
theorem quotedChar_ne_quote (c : Char) (rest rest' : List Char) :
    (quotedChar c).toList ++ rest ≠ '"' :: rest' := by
  intro h
  rcases quotedChar_cases c with ⟨hc, hquote, -⟩ | ⟨e, -, hc⟩ | hc <;> rw [hc] at h
  · exact hquote (List.cons.inj h).1
  · exact absurd (List.cons.inj h).1 (by decide)
  · exact absurd (List.cons.inj h).1 (by decide)

theorem toList_quoted (s : String) :
    (quoted s).toList = '"' :: (s.toList.flatMap fun c => (quotedChar c).toList) ++ ['"'] := by
  rw [quoted, String.toList_append, String.toList_append, String.toList_join, List.flatMap_map]
  rfl

theorem framed_quoted : Framed quoted := by
  have hchars : ∀ {cs ds rest rest' : List Char},
      (cs.flatMap fun c => (quotedChar c).toList) ++ '"' :: rest =
        (ds.flatMap fun c => (quotedChar c).toList) ++ '"' :: rest' → cs = ds ∧ rest = rest' := by
    intro cs
    induction cs with
    | nil =>
        intro ds rest rest' h
        cases ds with
        | nil => exact ⟨rfl, (List.cons.inj h).2⟩
        | cons d ds =>
            rw [List.flatMap_cons, List.append_assoc] at h
            exact absurd h.symm (quotedChar_ne_quote d _ _)
    | cons c cs ih =>
        intro ds rest rest' h
        cases ds with
        | nil =>
            rw [List.flatMap_cons, List.append_assoc] at h
            exact absurd h (quotedChar_ne_quote c _ _)
        | cons d ds =>
            rw [List.flatMap_cons, List.flatMap_cons, List.append_assoc, List.append_assoc] at h
            obtain ⟨rfl, htail⟩ := framed_quotedChar h
            obtain ⟨rfl, hrest⟩ := ih htail
            exact ⟨rfl, hrest⟩
  intro s t rest rest' h
  rw [toList_quoted, toList_quoted, List.cons_append, List.cons_append, List.cons_append,
    List.cons_append, List.append_assoc, List.append_assoc] at h
  obtain ⟨hst, hrest⟩ := hchars (List.cons.inj h).2
  exact ⟨String.toList_inj.mp hst, hrest⟩

/-! ## Composed values -/

variable {α β : Type}

theorem framed_quotedOptional : Framed quotedOptional := by
  have hnone : ∀ (s : String) {rest rest' : List Char},
      (quotedOptional none).toList ++ rest ≠ (quotedOptional (some s)).toList ++ rest' := by
    intro s rest rest' h
    simp [quotedOptional, optional] at h
  intro s t rest rest' h
  cases s with
  | none =>
      cases t with
      | none => exact ⟨rfl, List.append_cancel_left h⟩
      | some t => exact absurd h (hnone t)
  | some s =>
      cases t with
      | none => exact absurd h.symm (hnone s)
      | some t =>
          simp only [quotedOptional, optional, Option.map_some, String.toList_append,
            List.append_assoc] at h
          obtain ⟨rfl, hrest⟩ := framed_quoted (List.append_cancel_left h)
          exact ⟨rfl, List.append_cancel_left hrest⟩

/-- Two values with fixed texts before, between and behind them. -/
theorem framed_pair {write : α → String} {write' : β → String} (h : Framed write)
    (h' : Framed write') (opening middle closing : String) :
    Framed fun p : α × β => opening ++ write p.1 ++ middle ++ write' p.2 ++ closing := by
  intro p q rest rest' hpq
  simp only [String.toList_append, List.append_assoc] at hpq
  obtain ⟨hfirst, hpq⟩ := h (List.append_cancel_left hpq)
  obtain ⟨hsecond, hpq⟩ := h' (List.append_cancel_left hpq)
  exact ⟨Prod.ext hfirst hsecond, List.append_cancel_left hpq⟩

/-- The items of a list from the second one on, up to the bracket that closes it. -/
theorem toList_joinWith_cons (item : String) (items : List String) :
    (joinWith ", " (item :: items)).toList ++ [']'] =
      item.toList ++ ((items.flatMap fun i => ',' :: ' ' :: i.toList) ++ [']']) := by
  induction items generalizing item with
  | nil => rfl
  | cons next items ih =>
      rw [joinWith, String.toList_append, String.toList_append, List.append_assoc,
        List.append_assoc, ih, List.flatMap_cons, List.append_assoc]
      rfl

theorem framed_listed {write : α → String} (h : Framed write)
    (hopen : ∀ a rest rest', (write a).toList ++ rest ≠ ']' :: rest') :
    Framed fun items : List α => listed (items.map write) := by
  have htails : ∀ {xs ys : List α} {rest rest' : List Char},
      ((xs.map write).flatMap fun i => ',' :: ' ' :: i.toList) ++ ']' :: rest =
        ((ys.map write).flatMap fun i => ',' :: ' ' :: i.toList) ++ ']' :: rest' →
      xs = ys ∧ rest = rest' := by
    intro xs
    induction xs with
    | nil =>
        intro ys rest rest' hxy
        cases ys with
        | nil => exact ⟨rfl, (List.cons.inj hxy).2⟩
        | cons y ys => exact absurd (List.cons.inj hxy).1 (by decide)
    | cons x xs ih =>
        intro ys rest rest' hxy
        cases ys with
        | nil => exact absurd (List.cons.inj hxy).1 (by decide)
        | cons y ys =>
            simp only [List.map_cons, List.flatMap_cons, List.cons_append, List.append_assoc,
              List.cons.injEq, true_and] at hxy
            obtain ⟨rfl, htail⟩ := h hxy
            obtain ⟨rfl, hrest⟩ := ih htail
            exact ⟨rfl, hrest⟩
  have hempty : ∀ rest, (listed (([] : List α).map write)).toList ++ rest = '[' :: ']' :: rest := by
    intro rest
    simp [listed, joinWith]
  have hlisted : ∀ (x : α) (xs : List α) (rest : List Char),
      (listed ((x :: xs).map write)).toList ++ rest =
        '[' :: ((write x).toList ++
          (((xs.map write).flatMap fun i => ',' :: ' ' :: i.toList) ++ ']' :: rest)) := by
    intro x xs rest
    have hjoin := toList_joinWith_cons (write x) (xs.map write)
    rw [listed, String.toList_append, String.toList_append, List.map_cons, List.append_assoc]
    show '[' :: ((joinWith ", " (write x :: xs.map write)).toList ++ ([']'] ++ rest)) = _
    rw [← List.append_assoc, hjoin]
    simp
  intro xs ys rest rest' hxy
  cases xs with
  | nil =>
      cases ys with
      | nil => exact ⟨rfl, List.append_cancel_left hxy⟩
      | cons y ys =>
          rw [hlisted, hempty] at hxy
          exact absurd (List.cons.inj hxy).2.symm (hopen y _ _)
  | cons x xs =>
      cases ys with
      | nil =>
          rw [hlisted, hempty] at hxy
          exact absurd (List.cons.inj hxy).2 (hopen x _ _)
      | cons y ys =>
          rw [hlisted, hlisted] at hxy
          obtain ⟨rfl, htail⟩ := h (List.cons.inj hxy).2
          obtain ⟨rfl, hrest⟩ := htails htail
          exact ⟨rfl, hrest⟩

end WebDispatch.Text
