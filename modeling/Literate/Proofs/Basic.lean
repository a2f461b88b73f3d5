import Mathlib.Data.List.Forall2
import Mathlib.Data.List.Induction
import Mathlib.Data.List.TakeWhile

/-! Steps that may fail, one after another, lists taken apart, and characters by their numbers. -/

namespace Literate

section

variable {ε α β : Type} {x : Except ε α} {f : α → Except ε β}

theorem ok_bind (a : α) : Except.ok a >>= f = f a := rfl

theorem bind_eq_ok {b : β} : x >>= f = .ok b ↔ ∃ a, x = .ok a ∧ f a = .ok b := by
  cases x with
  | error e => simp [bind, Except.bind]
  | ok a => simp [bind, Except.bind]

theorem bind_eq_error {e : ε} :
    x >>= f = .error e ↔ x = .error e ∨ ∃ a, x = .ok a ∧ f a = .error e := by
  cases x with
  | error e' => simp [bind, Except.bind]
  | ok a => simp [bind, Except.bind]

/-- Steps that all succeed, one after another. -/
theorem mapM_eq_filterMap {g : α → Option β} {as : List α}
    (h : ∀ a ∈ as, ∃ b, f a = .ok b ∧ g a = some b) : as.mapM f = .ok (as.filterMap g) := by
  induction as with
  | nil => rfl
  | cons a as ih =>
    obtain ⟨⟨b, hb, hg⟩, has⟩ := List.forall_mem_cons.mp h
    rw [List.mapM_cons, hb, ih has, List.filterMap_cons_some hg]
    rfl

theorem mapM_eq_ok_iff {as : List α} {bs : List β} :
    as.mapM f = .ok bs ↔ List.Forall₂ (fun a b => f a = .ok b) as bs := by
  induction as generalizing bs with
  | nil => simp [pure, Except.pure, eq_comm]
  | cons a as ih =>
    simp only [List.mapM_cons, bind_eq_ok, ih, List.forall₂_cons_left_iff]
    constructor
    · rintro ⟨b, hb, bs, hbs, h⟩
      exact ⟨b, bs, hb, hbs, (Except.ok.inj h).symm⟩
    · rintro ⟨b, bs, hb, hbs, rfl⟩
      exact ⟨b, hb, bs, hbs, rfl⟩

/-- The first step that fails ends them all. -/
theorem exists_of_mapM_eq_error {as : List α} {e : ε} (h : as.mapM f = .error e) : ∃ front a back,
    as = front ++ a :: back ∧ (∀ x ∈ front, ∃ b, f x = .ok b) ∧ f a = .error e := by
  induction as with
  | nil => cases h
  | cons a as ih =>
    rw [List.mapM_cons, bind_eq_error] at h
    rcases h with h | ⟨b, hb, h⟩
    · exact ⟨[], a, as, rfl, List.forall_mem_nil _, h⟩
    · rw [bind_eq_error] at h
      rcases h with h | ⟨bs, -, h⟩
      · obtain ⟨front, c, back, rfl, hfront, hc⟩ := ih h
        exact ⟨a :: front, c, back, rfl, List.forall_mem_cons.mpr ⟨⟨b, hb⟩, hfront⟩, hc⟩
      · cases h

theorem exists_of_toOption_map {g : α → β} {b : β} (h : x.toOption.map g = some b) :
    ∃ a, x = .ok a ∧ g a = b := by
  cases x with
  | error e => cases h
  | ok a => exact ⟨a, rfl, Option.some.inj h⟩

end

theorem exists_of_mem_right {α β : Type} {R : α → β → Prop} {as : List α} {bs : List β}
    (h : List.Forall₂ R as bs) {b : β} (hb : b ∈ bs) : ∃ a ∈ as, R a b := by
  induction h with
  | nil => exact absurd hb List.not_mem_nil
  | @cons a _ as _ hab _ ih =>
    rcases List.mem_cons.mp hb with rfl | hb
    · exact ⟨a, List.mem_cons_self, hab⟩
    · obtain ⟨c, hc, hcb⟩ := ih hb
      exact ⟨c, List.mem_cons_of_mem a hc, hcb⟩

theorem exists_forall₂ {α β : Type} {R : α → β → Prop} {as : List α} :
    (∃ bs, List.Forall₂ R as bs) ↔ ∀ a ∈ as, ∃ b, R a b := by
  induction as with
  | nil => exact iff_of_true ⟨[], .nil⟩ (List.forall_mem_nil _)
  | cons a as ih =>
    rw [List.forall_mem_cons, ← ih]
    simp only [List.forall₂_cons_left_iff]
    constructor
    · rintro ⟨_, b, bs, hb, hbs, -⟩
      exact ⟨⟨b, hb⟩, bs, hbs⟩
    · rintro ⟨⟨b, hb⟩, bs, hbs⟩
      exact ⟨_, b, bs, hb, hbs, rfl⟩

/-- Items that are read back from what was made of them, one by one. -/
theorem map_filterMap_of_forall₂ {α β γ : Type} {R : α → β → Prop} {as : List α} {bs : List β}
    {g : β → Option γ} {f : γ → α} (h : List.Forall₂ R as bs)
    (hread : ∀ a b, R a b → ∃ c, g b = some c ∧ f c = a) : (bs.filterMap g).map f = as := by
  induction h with
  | nil => rfl
  | cons hR _ ih =>
    obtain ⟨c, hc, rfl⟩ := hread _ _ hR
    rw [List.filterMap_cons_some hc, List.map_cons, ih]

theorem eq_of_mem_zip_map {α β : Type} {f : α → β} {xs : List α} {p : α × β}
    (h : p ∈ xs.zip (xs.map f)) : p.2 = f p.1 := by
  induction xs with
  | nil => exact absurd h List.not_mem_nil
  | cons x xs ih =>
    rcases List.mem_cons.mp h with rfl | h
    · rfl
    · exact ih h

/-- Where a list is taken apart at an item, this is its last one or stands in front of that. -/
theorem snoc_eq_append_cons {α : Type} {xs above here : List α} {x s : α}
    (h : xs ++ [x] = above ++ s :: here) :
    (xs = above ∧ x = s ∧ here = []) ∨ ∃ back, here = back ++ [x] ∧ xs = above ++ s :: back := by
  rcases List.eq_nil_or_concat here with rfl | ⟨back, y, rfl⟩
  · obtain ⟨rfl, hxs⟩ := List.append_inj' h rfl
    exact .inl ⟨rfl, List.singleton_inj.mp hxs, rfl⟩
  · rw [List.concat_eq_append, ← List.cons_append, ← List.append_assoc] at h
    obtain ⟨rfl, hxy⟩ := List.append_inj' h rfl
    rw [List.concat_eq_append, hxy]
    exact .inr ⟨back, rfl, rfl⟩

/-- Where a list is cut at its first item outside a class. -/
theorem takeWhile_append_of_head {α : Type} {p : α → Bool} {front back : List α}
    (inside : ∀ a ∈ front, p a = true) (outside : ∀ a, back.head? = some a → p a = false) :
    (front ++ back).takeWhile p = front := by
  have stop : back.takeWhile p = [] := by
    cases back with
    | nil => rfl
    | cons a back => rw [List.takeWhile_cons_of_neg (by simp [outside a rfl])]
  rw [List.takeWhile_append_of_pos inside, stop, List.append_nil]

theorem exists_takeWhile {α : Type} (p : α → Bool) (xs : List α) :
    ∃ front back, xs = front ++ back ∧ xs.takeWhile p = front ∧ (∀ a ∈ front, p a = true) ∧
      ∀ a, back.head? = some a → p a = false := by
  refine ⟨xs.takeWhile p, xs.dropWhile p, List.takeWhile_append_dropWhile.symm, rfl,
    fun _ => List.mem_takeWhile_imp, fun a ha => ?_⟩
  have := List.head?_dropWhile_not p xs
  rw [ha] at this
  simpa using this

theorem toNat_ofNat {n : Nat} (h : n.isValidChar) : (Char.ofNat n).toNat = n := by
  rw [Char.ofNat, dif_pos h]
  rfl

end Literate
